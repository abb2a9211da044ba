import Tenancy.Proofs.Misses

/-!
# Time limits of requests

The time limit of a request begins when it has found no entry, and it covers the wait for the lookup
of another request as well as a lookup of its own. Time passes only while every request waits, and
never beyond an instant for which one of them does, so a request cannot outlive its limit. It may be
offered an answer before: the flight that it has joined gets a value, or its own lookup ends. An
offer stands until the request takes its next turn, and with that turn it ends.
-/

namespace Tenancy.Proofs

open Function Resolver Coalescer Table

/-- A computation does not fail because a time limit is over. -/
def Unlimited {α : Type} (x : Except Error α) : Prop :=
  ∀ limit, x ≠ .error (.deadlineExceeded limit)

lemma Unlimited.bind {α β : Type} {x : Except Error α} {f : α → Except Error β} (hx : Unlimited x)
    (hf : ∀ a, Unlimited (f a)) : Unlimited (x >>= f) := by
  cases x with
  | ok a => exact hf a
  | error e =>
    intro limit he
    apply hx limit
    rw [← Except.error.inj he]

lemma unlimited_ok {α : Type} (a : α) : Unlimited (.ok a) := by
  intro limit h
  cases h

lemma unlimited_error {α : Type} {e : Error} (h : ∀ limit, e ≠ .deadlineExceeded limit) :
    Unlimited (.error e : Except Error α) :=
  fun limit he => h limit (Except.error.inj he)

lemma unlimited_validate (k : InstallationKey) : Unlimited k.validate := by
  unfold InstallationKey.validate
  split
  · exact unlimited_ok ()
  · exact unlimited_error (by simp)

/-- The answers of a store never say that a time limit is over. -/
def Timeless (S : Type) [AccountStore S] : Prop :=
  ∀ (w : S) (k : InstallationKey), Unlimited (AccountStore.lookup w k).1

lemma timeless_memory : Timeless AccountMemory := by
  intro m k
  change Unlimited (AccountMemory.lookup m k).1
  unfold AccountMemory.lookup
  split
  · exact unlimited_error (by simp)
  · apply (unlimited_validate k).bind
    intro _
    split
    · exact unlimited_ok _
    · exact unlimited_error (by simp)

lemma unlimited_outcome (e : CacheEntry) : Unlimited e.outcome := by
  unfold CacheEntry.outcome
  split
  · exact unlimited_ok _
  · exact unlimited_error (by simp)

/-- A limit of whole milliseconds is over after as many. -/
lemma limitMillis_ofMillis (t : UInt64) : Request.limitMillis (.ofMillis t.toNat) = t.toNat := by
  have ht := t.toNat_lt
  have hreached : (Duration.ofMillis t.toNat).secs < 0x8000000000000000 := by
    change t.toNat * 1000000 / 1000000000 < 0x8000000000000000
    omega
  rw [Request.limitMillis, if_pos hreached]
  change (t.toNat * 1000000 + 999999) / 1000000 = t.toNat
  omega

section Limits

variable {S : Type} [AccountStore S] {config : ResolverConfig} {s : Nat → RequestRun S}
  {n m b i limit start : Nat} {c : Resolver.Call}

/-- A request that began at an instant is in time: it has yet to look for an entry, or it has found
none and the limit that was set then is not over. -/
def InLimit (start limit now : Nat) (c : Resolver.Call) : Prop :=
  c.phase = .arriving ∧ now = start ∨
    c.phase ≠ .arriving ∧ c.deadline = some (start + limit) ∧ now ≤ start + limit

lemma RequestTurn.request {now : Nat} {w : World S} {r : Resolver} {c c' : Resolver.Call}
    {u : CallTurn S} (h : RequestTurn now w r c u) (hn : u.next = .running c') :
    c'.request = c.request := by
  cases h <;> cases hn <;> rfl

lemma RequestTurn.inLimit {now : Nat} {w : World S} {r : Resolver} {c' : Resolver.Call}
    {u : CallTurn S} {t : Duration} (h : RequestTurn now w r c u) (ht : c.request.timeout = some t)
    (hc : InLimit start (Request.limitMillis t) now c) (hn : u.next = .running c') :
    InLimit start (Request.limitMillis t) now c' := by
  have hmissed : c.phase = .arriving →
      (missed now c).deadline = some (start + Request.limitMillis t) ∧
        now ≤ start + Request.limitMillis t := by
    intro hp
    obtain ⟨-, rfl⟩ | ⟨hne, -⟩ := hc
    · exact ⟨by rw [missed, ht, Option.map_some], Nat.le_add_right _ _⟩
    · exact absurd hp hne
  cases h with
  | load hp =>
    cases hn
    exact .inr ⟨by simp, hmissed hp⟩
  | join hp =>
    cases hn
    exact .inr ⟨by simp, hmissed hp⟩
  | lead hp =>
    cases hn
    exact .inr ⟨by simp, hmissed hp⟩
  | fallBack hp =>
    obtain ⟨harriving, -⟩ | ⟨-, hlimit⟩ := hc
    · cases hp.symm.trans harriving
    · cases hn
      exact .inr ⟨by simp, hlimit⟩
  | _ => cases hn

lemma expire_of_late {now deadline : Nat} (w : World S) (r : Resolver) {t : Duration}
    (ht : c.request.timeout = some t) (hd : c.deadline = some deadline) (hle : deadline ≤ now) :
    (Resolver.expire now w r c).isSome := by
  unfold Resolver.expire
  rw [ht, hd]
  simp only [if_pos hle]
  split
  · split <;> rfl
  · rfl

lemma step_of_arriving (now : Nat) (w : World S) (r : Resolver) (hp : c.phase = .arriving) :
    Resolver.step now w r c = some (arrive now w r c) := by
  unfold Resolver.step
  rw [hp]

lemma inLimit_of_tick {r r' : RequestRun S} {time : Nat} {t : Duration}
    (h : r.apply Resolver.machine (.tick time) = some r')
    (hi : standing r i = some (.running c)) (ht : c.request.timeout = some t)
    (hc : InLimit start (Request.limitMillis t) r.now c) :
    InLimit start (Request.limitMillis t) r'.now c := by
  obtain ⟨hstep, hexpire, hdue⟩ := waits_of_tick h hi
  obtain rfl := eq_of_tick h
  obtain ⟨hp, -⟩ | ⟨hp, hd, -⟩ := hc
  · change Resolver.step r.now r.shared.1 r.shared.2 c = none at hstep
    rw [step_of_arriving _ _ _ hp] at hstep
    cases hstep
  · have hmem : start + Request.limitMillis t ∈
        (Resolver.machine : Machine (World S × Resolver) _ _).timers c := by
      change _ ∈ Resolver.timers c
      rw [Resolver.timers, hd]
      exact List.mem_append_left _ (List.mem_singleton_self _)
    rcases hdue _ hmem with hle | hle
    · have hsome := expire_of_late r.shared.1 r.shared.2 ht hd hle
      change Resolver.expire r.now r.shared.1 r.shared.2 c = none at hexpire
      rw [hexpire] at hsome
      cases hsome
    · exact .inr ⟨hp, hd, hle⟩

/-- A request starts at a moment. -/
structure Starts (s : Nat → RequestRun S) (i b : Nat) (c : Resolver.Call) : Prop where
  before : standing (s b) i = some (.planned c)
  after : standing (s (b + 1)) i = some (.running c)

lemma Prompt.now_of_start (h : Prompt Resolver.machine s) (hm : (s b).now ≤ (s (b + 1)).now)
    (hb : Starts s i b c) : (s (b + 1)).now = (s b).now := by
  apply Nat.le_antisymm _ hm
  by_contra hlt
  obtain ⟨time, ht⟩ := h b (Nat.lt_of_not_le hlt)
  have hafter := hb.after
  rw [eq_of_tick ht] at hafter
  have hsame := hb.before.symm.trans hafter
  cases hsame

lemma Requests.inLimit (h : Requests config s) (hp : Prompt Resolver.machine s)
    (hb : Starts s i b c) {t : Duration} (ht : c.request.timeout = some t) (hn : b < n)
    {c' : Resolver.Call} (hi : standing (s n) i = some (.running c')) :
    c'.request.timeout = some t ∧ InLimit (s b).now (Request.limitMillis t) (s n).now c' := by
  induction n, hn using Nat.le_induction generalizing c' with
  | base =>
    have hafter := hb.after
    rw [hi] at hafter
    cases hafter
    have hnow := hp.now_of_start (h.chronicle.monotone_now (Nat.le_succ b)) hb
    exact ⟨ht, .inl ⟨h.chronicle.planned h.fresh b i c hb.before, hnow⟩⟩
  | succ n hbn ih =>
    rcases Nat.lt_or_ge (s n).now (s (n + 1)).now with hlt | hge
    · obtain ⟨time, htick⟩ := hp n hlt
      have hbefore : standing (s n) i = some (.running c') := by
        rw [eq_of_tick htick] at hi
        exact hi
      obtain ⟨ht', hc'⟩ := ih hbefore
      exact ⟨ht', inLimit_of_tick htick hbefore ht' hc'⟩
    · have hnow : (s (n + 1)).now = (s n).now :=
        Nat.le_antisymm hge (h.chronicle.monotone_now (Nat.le_succ n))
      rw [hnow]
      rcases h.chronicle.still_running hb.after hbn hi with hsame | ⟨k, u, takes, hnext⟩
      · exact ih hsame
      · obtain ⟨ht', hc'⟩ := ih takes.before
        have hturn := requestTurn_of_takes takes
        exact ⟨by rw [hturn.request hnext, ht'], hturn.inLimit ht' hc' hnext⟩

/-- A request arrives with a key that names something and finds no entry that is trusted. -/
def Misses (s : Nat → RequestRun S) (i m : Nat) : Prop :=
  ∃ c u, Takes Resolver.machine (s m) (s (m + 1)) i c u ∧ c.phase = .arriving ∧
    c.key.isUsable = true ∧ (s m).shared.2.fresh? (s m).shared.1.clock.now c.key = none

lemma RequestTurn.missed {now : Nat} {w : World S} {r : Resolver} {c' : Resolver.Call}
    {u : CallTurn S} (h : RequestTurn now w r c u) (hn : u.next = .running c') :
    c'.phase ≠ .arriving ∧ (c.phase = .arriving →
      c.key.isUsable = true ∧ r.fresh? w.clock.now c.key = none) := by
  cases h with
  | load _ hk hf =>
    cases hn
    exact ⟨by simp, fun _ => ⟨hk, hf⟩⟩
  | join _ hk hf =>
    cases hn
    exact ⟨by simp, fun _ => ⟨hk, hf⟩⟩
  | lead _ hk hf =>
    cases hn
    exact ⟨by simp, fun _ => ⟨hk, hf⟩⟩
  | fallBack hp =>
    cases hn
    exact ⟨by simp, fun harriving => by cases hp.symm.trans harriving⟩
  | _ => cases hn

lemma Requests.misses_of_running (h : Requests config s)
    (hn : standing (s n) i = some (.running c)) (hc : c.phase ≠ .arriving) :
    ∃ m < n, Misses s i m := by
  induction n generalizing c with
  | zero =>
    obtain ⟨k, hk, -⟩ := h.fresh i _ hn
    cases hk
  | succ n ih =>
    have hearlier : ∀ {k}, standing (s n) i = some (.running k) → k.phase ≠ .arriving →
        ∃ m < n + 1, Misses s i m := by
      intro k hk hp
      obtain ⟨m, hm, hmisses⟩ := ih hk hp
      exact ⟨m, Nat.lt_succ_of_lt hm, hmisses⟩
    rcases h.chronicle.running hn with hsame | hplanned | ⟨k, u, takes, hnext⟩
    · exact hearlier hsame hc
    · exact absurd (h.chronicle.planned h.fresh n i c hplanned) hc
    · by_cases hk : k.phase = .arriving
      · obtain ⟨hkey, hfresh⟩ := ((requestTurn_of_takes takes).missed hnext).2 hk
        exact ⟨n, Nat.lt_succ_self n, k, u, takes, hk, hkey, hfresh⟩
      · exact hearlier takes.before hk

lemma Requests.running_of_misses (h : Requests config s) (hm : Misses s i m) (hmn : m < n)
    (hn : standing (s n) i = some (.running c)) : c.phase ≠ .arriving := by
  obtain ⟨c₀, u₀, takes₀, hc₀, hkey, hfresh⟩ := hm
  induction n, hmn using Nat.le_induction generalizing c with
  | base =>
    rw [takes₀.jobs, update_self, Option.some.injEq] at hn
    cases hnext : u₀.next with
    | ended a =>
      rw [hnext] at hn
      cases hn
    | running k =>
      rw [hnext] at hn
      cases hn
      exact ((requestTurn_of_takes takes₀).missed hnext).1
  | succ n hmn ih =>
    rcases h.chronicle.still_running takes₀.before (by omega) hn with hsame | ⟨k, u, takes, hnext⟩
    · exact ih hsame
    · exact ((requestTurn_of_takes takes).missed hnext).1

/-- A request that is on its way is offered an answer: the flight that it has joined has a value, or
its own lookup is at its end. -/
def Offered (r : RequestRun S) (i : Nat) : Prop :=
  ∃ c, standing r i = some (.running c) ∧
    ((∃ flight due e, c.phase = .joining flight due ∧
        Resolver.sight r.shared.2 c flight = .value e) ∨
      ∃ flight due, c.phase = .loading flight due ∧ due ≤ r.now)

omit [AccountStore S] in
lemma sight_value_iff (w : World S) (r : Resolver) (c : Resolver.Call) (flight : Nat) :
    (∃ e, Resolver.sight r c flight = .value e) ↔
      ((flightsOf (w, r)).published.get? flight).isSome := by
  constructor
  · rintro ⟨e, he⟩
    rw [published_of_sight w he]
    rfl
  · intro hsome
    obtain ⟨e, he⟩ := Option.isSome_iff_exists.mp hsome
    refine ⟨e, ?_⟩
    unfold flightsOf at he
    unfold Resolver.sight
    cases hco : r.coalescer with
    | none =>
      rw [hco] at he
      cases he
    | some co =>
      rw [hco, Option.getD_some] at he
      change co.sight c.key flight = _
      unfold Coalescer.sight
      rw [he]

omit [AccountStore S] in
lemma Offered.offer {r : RequestRun S} (h : Offered r i)
    (hi : standing r i = some (.running c)) :
    (∃ flight due e, c.phase = .joining flight due ∧
        Resolver.sight r.shared.2 c flight = .value e) ∨
      ∃ flight due, c.phase = .loading flight due ∧ due ≤ r.now := by
  obtain ⟨c', hi', hoffer⟩ := h
  rw [hi] at hi'
  cases hi'
  exact hoffer

lemma Offered.step {r : RequestRun S} (h : Offered r i)
    (hi : standing r i = some (.running c)) :
    (Resolver.step r.now r.shared.1 r.shared.2 c).isSome := by
  unfold Resolver.step
  rcases h.offer hi with ⟨flight, due, e, hp, hv⟩ | ⟨flight, due, hp, hdue⟩
  · rw [hp]
    simp only [hv]
    rfl
  · rw [hp]
    simp only [if_neg (Nat.not_lt_of_le hdue)]
    rfl

lemma Offered.ends {r r' : RequestRun S} {u : CallTurn S} (h : Offered r i)
    (hu : Takes Resolver.machine r r' i c u) : ∃ a, u.next = .ended a := by
  have hoffer := h.offer hu.before
  cases requestTurn_of_takes hu with
  | load hp =>
    obtain ⟨flight, due, e, hp', -⟩ | ⟨flight, due, hp', -⟩ := hoffer <;>
      cases hp.symm.trans hp'
  | join hp =>
    obtain ⟨flight, due, e, hp', -⟩ | ⟨flight, due, hp', -⟩ := hoffer <;>
      cases hp.symm.trans hp'
  | lead hp =>
    obtain ⟨flight, due, e, hp', -⟩ | ⟨flight, due, hp', -⟩ := hoffer <;>
      cases hp.symm.trans hp'
  | fallBack hp hs =>
    obtain ⟨flight, due, e, hp', hv⟩ | ⟨flight, due, hp', -⟩ := hoffer
    · cases hp.symm.trans hp'
      rcases hs with hs | ⟨hs, -⟩ <;> cases hs.symm.trans hv
    · cases hp.symm.trans hp'
  | _ => exact ⟨_, rfl⟩

/-- An offer stands as long as the request is on its way. -/
lemma Requests.offer_stands (h : Requests config s) (hm : Offered (s m) i) (hmn : m ≤ n)
    (hn : standing (s n) i = some (.running c)) : Offered (s n) i := by
  induction n, hmn using Nat.le_induction generalizing c with
  | base => exact hm
  | succ n hmn ih =>
    obtain ⟨k', hk', -⟩ := hm
    rcases h.chronicle.still_running hk' hmn hn with hsame | ⟨k, u, takes, hnext⟩
    · refine ⟨c, hn, ?_⟩
      rcases (ih hsame).offer hsame with ⟨flight, due, e, hp, hv⟩ | ⟨flight, due, hp, hdue⟩
      · left
        have hpublished := (sight_value_iff (s n).shared.1 (s n).shared.2 c flight).mp ⟨e, hv⟩
        obtain ⟨e', hv'⟩ := (sight_value_iff (s (n + 1)).shared.1 _ c flight).mpr
          (h.airspace.stays hpublished (Nat.le_succ n))
        exact ⟨flight, due, e', hp, hv'⟩
      · exact .inr ⟨flight, due, hp, hdue.trans (h.chronicle.monotone_now (Nat.le_succ n))⟩
    · obtain ⟨a, ha⟩ := (ih takes.before).ends takes
      cases hnext.symm.trans ha

lemma RequestTurn.goes_on {now : Nat} {w : World S} {r : Resolver} {u : CallTurn S}
    (h : RequestTurn now w r c u) (hp : c.phase = .arriving) (hk : c.key.isUsable = true)
    (hf : r.fresh? w.clock.now c.key = none) : ∃ c', u.next = .running c' := by
  cases h with
  | refuse _ hk' => cases hk.symm.trans hk'
  | hit _ _ hf' => cases hf.symm.trans hf'
  | load => exact ⟨_, rfl⟩
  | join => exact ⟨_, rfl⟩
  | lead => exact ⟨_, rfl⟩
  | fallBack => exact ⟨_, rfl⟩
  | receive hp' => cases hp.symm.trans hp'
  | settle hp' => cases hp.symm.trans hp'
  | fail hp' => cases hp.symm.trans hp'
  | late hn =>
    rw [step_of_arriving _ w r hp] at hn
    cases hn

/-- How a request ends: on its arrival, with an answer that it is offered, or because its time limit
is over while it waits. -/
inductive EndTurn (r : RequestRun S) (i : Nat) (c : Resolver.Call) :
    Except Error AccountRecord → Prop where
  | arriving {a} : c.phase = .arriving → Unlimited a → EndTurn r i c a
  | offered {a} : c.phase ≠ .arriving → Offered r i → Unlimited a → EndTurn r i c a
  | late {t deadline} : c.phase ≠ .arriving →
      Resolver.step r.now r.shared.1 r.shared.2 c = none → c.request.timeout = some t →
      c.deadline = some deadline → deadline ≤ r.now →
      EndTurn r i c (.error (.deadlineExceeded t))

lemma endTurn_of_takes {r r' : RequestRun S} {u : CallTurn S} {a : Except Error AccountRecord}
    (hS : Timeless S) (h : Takes Resolver.machine r r' i c u) (ha : u.next = .ended a) :
    EndTurn r i c a := by
  cases requestTurn_of_takes h with
  | refuse hp =>
    cases ha
    exact .arriving hp (unlimited_error (by simp))
  | @hit e _ hp =>
    cases ha
    exact .arriving hp (unlimited_outcome e)
  | @receive flight due e hp hv =>
    cases ha
    exact .offered (by simp [hp]) ⟨c, h.before, .inl ⟨flight, due, e, hp, hv⟩⟩ (unlimited_outcome e)
  | @settle flight due _ _ hp hdue =>
    cases ha
    exact .offered (by simp [hp]) ⟨c, h.before, .inr ⟨flight, due, hp, hdue⟩⟩ (unlimited_outcome _)
  | @fail flight due e hp hdue hl =>
    cases ha
    refine .offered (by simp [hp]) ⟨c, h.before, .inr ⟨flight, due, hp, hdue⟩⟩ ?_
    apply unlimited_error
    rintro t rfl
    exact hS r.shared.1.store c.key t hl
  | @late deadline t hn hd ht hle =>
    cases ha
    refine .late ?_ hn ht hd hle
    intro hp
    rw [step_of_arriving _ _ _ hp] at hn
    cases hn
  | load => cases ha
  | join => cases ha
  | lead => cases ha
  | fallBack => cases ha

lemma Requests.last_turn (h : Requests config s) {a : Except Error AccountRecord} {time : Nat}
    (hn : standing (s n) i = some (.ended c a time)) :
    ∃ l < n, ∃ u, Takes Resolver.machine (s l) (s (l + 1)) i c u ∧ u.next = .ended a ∧
      time = (s l).now ∧ ∀ m < n, ∀ c', standing (s m) i = some (.running c') → m ≤ l := by
  obtain ⟨l, hl, u, hu, ha, htime⟩ := h.chronicle.ended h.fresh hn
  refine ⟨l, hl, u, hu, ha, htime, ?_⟩
  intro m hm c' hc'
  by_contra hlm
  have hended : standing (s (l + 1)) i = some (.ended c a (s l).now) := by
    rw [hu.jobs, update_self, ha]
    rfl
  rw [h.chronicle.finished hended (by simp) (Nat.lt_of_not_le hlm)] at hc'
  cases hc'

/-- A request has found no entry if its last turn comes after its arrival. -/
lemma Requests.misses_iff (h : Requests config s) {a : Except Error AccountRecord} {time : Nat}
    (hn : standing (s n) i = some (.ended c a time)) :
    (∃ m < n, Misses s i m) ↔ c.phase ≠ .arriving := by
  obtain ⟨l, hl, u, hu, ha, -, hlast⟩ := h.last_turn hn
  constructor
  · rintro ⟨m, hm, hmisses⟩
    obtain ⟨c₀, u₀, takes₀, hp, hk, hf⟩ := hmisses
    rcases Nat.lt_or_eq_of_le (hlast m hm c₀ takes₀.before) with hml | rfl
    · exact h.running_of_misses ⟨c₀, u₀, takes₀, hp, hk, hf⟩ hml hu.before
    · have hsame := hu.before.symm.trans takes₀.before
      cases hsame
      obtain ⟨c', hc'⟩ := (requestTurn_of_takes hu).goes_on hp hk hf
      cases ha.symm.trans hc'
  · intro hc
    obtain ⟨m, hm, hmisses⟩ := h.misses_of_running hu.before hc
    exact ⟨m, hm.trans hl, hmisses⟩

/-- What a time limit of some milliseconds means for a request that starts at a moment. -/
structure Limited (s : Nat → RequestRun S) (i b millis : Nat) : Prop where
  /-- The request is not on its way later than its limit allows. -/
  in_time : ∀ n, b < n → ∀ c, standing (s n) i = some (.running c) → (s n).now ≤ (s b).now + millis
  /-- When its limit is over the request can take a turn. -/
  due : ∀ n, b < n → ∀ c, standing (s n) i = some (.running c) → (s n).now = (s b).now + millis →
    (Resolver.machine.advance (s n).now (s n).shared c).isSome
  /-- It ends because its limit is over just if it has found no entry and is offered no answer in
  time. -/
  late_iff : ∀ n c a time, standing (s n) i = some (.ended c a time) →
    (a = .error (.deadlineExceeded (.ofMillis millis)) ↔ (∃ m < n, Misses s i m) ∧
      ∀ m < n, (s m).now ≤ (s b).now + millis → ¬ Offered (s m) i)
  late_time : ∀ n c time,
    standing (s n) i = some (.ended c (.error (.deadlineExceeded (.ofMillis millis))) time) →
    time = (s b).now + millis
  /-- If it ends so, none of its turns has changed the index. -/
  late_index : ∀ n c time,
    standing (s n) i = some (.ended c (.error (.deadlineExceeded (.ofMillis millis))) time) →
    ∀ m < n, ∀ c' u, Takes Resolver.machine (s m) (s (m + 1)) i c' u →
      (s (m + 1)).shared.2.index = (s m).shared.2.index
  /-- If it ends so, no flight is under way that it has led. -/
  late_flight : ∀ n c time,
    standing (s n) i = some (.ended c (.error (.deadlineExceeded (.ofMillis millis))) time) →
    ∀ m < n, ∀ c' flight due, standing (s m) i = some (.running c') →
      c'.phase = .loading (some flight) due →
      ∀ k, (k, flight) ∉ (flightsOf (s n).shared).inflight

lemma Requests.timed_end (h : Requests config s) (hS : Timeless S)
    (hp : Prompt Resolver.machine s) (hb : Starts s i b c) {t : Duration}
    (ht : c.request.timeout = some t) {c' : Resolver.Call} {a : Except Error AccountRecord}
    {time : Nat} (hn : standing (s n) i = some (.ended c' a time)) :
    ∃ l < n, standing (s l) i = some (.running c') ∧ EndTurn (s l) i c' a ∧ time = (s l).now ∧
      c'.request.timeout = some t ∧
      InLimit (s b).now (Request.limitMillis t) (s l).now c' ∧
      ∀ m < n, ∀ d, standing (s m) i = some (.running d) → m ≤ l := by
  obtain ⟨l, hl, u, hu, ha, htime, hlast⟩ := h.last_turn hn
  have hbl : b < l := by
    by_contra hle
    have hplanned := h.chronicle.planned_before hb.before (Nat.le_of_not_lt hle)
    cases hplanned.symm.trans hu.before
  obtain ⟨ht', hlimit⟩ := h.inLimit hp hb ht hbl hu.before
  exact ⟨l, hl, hu.before, endTurn_of_takes hS hu ha, htime, ht', hlimit, hlast⟩

lemma InLimit.le {now : Nat} (h : InLimit start limit now c) : now ≤ start + limit := by
  rcases h with ⟨-, rfl⟩ | ⟨-, -, hle⟩
  · exact Nat.le_add_right _ _
  · exact hle

section Millis

variable {t : UInt64} {c' : Resolver.Call}

lemma Requests.inMillis (h : Requests config s) (hp : Prompt Resolver.machine s)
    (hb : Starts s i b c) (ht : c.request.timeout = some (.ofMillis t.toNat)) (hbn : b < n)
    (hi : standing (s n) i = some (.running c')) :
    c'.request.timeout = some (.ofMillis t.toNat) ∧
      InLimit (s b).now t.toNat (s n).now c' := by
  have hlimit := h.inLimit hp hb ht hbn hi
  rwa [limitMillis_ofMillis] at hlimit

/-- A request is not kept waiting when its limit is over. -/
lemma advance_of_inLimit {r : RequestRun S} {limit : Duration}
    (ht : c.request.timeout = some limit) (hc : InLimit start m r.now c)
    (hnow : r.now = start + m) : (Resolver.machine.advance r.now r.shared c).isSome := by
  unfold Machine.advance
  rcases hc with ⟨harriving, -⟩ | ⟨-, hd, -⟩
  · have hstep := step_of_arriving r.now r.shared.1 r.shared.2 harriving
    change ((Resolver.step _ _ _ c).or _).isSome
    rw [hstep]
    rfl
  · have hexpire := expire_of_late r.shared.1 r.shared.2 ht hd hnow.ge
    rw [Option.isSome_or]
    exact (Bool.or_eq_true _ _).mpr (.inr hexpire)

lemma Requests.late_iff (h : Requests config s) (hS : Timeless S) (hp : Prompt Resolver.machine s)
    (hb : Starts s i b c) (ht : c.request.timeout = some (.ofMillis t.toNat))
    {a : Except Error AccountRecord} {time : Nat}
    (hn : standing (s n) i = some (.ended c' a time)) :
    a = .error (.deadlineExceeded (.ofMillis t.toNat)) ↔ (∃ m < n, Misses s i m) ∧
      ∀ m < n, (s m).now ≤ (s b).now + t.toNat → ¬ Offered (s m) i := by
  obtain ⟨l, hl, hi, hend, -, ht', hlimit, hlast⟩ := h.timed_end hS hp hb ht hn
  have hnow := hlimit.le
  rw [limitMillis_ofMillis] at hnow
  rw [h.misses_iff hn]
  cases hend with
  | arriving hc hunlimited =>
    exact ⟨fun ha => absurd ha (hunlimited _), fun hmissed => absurd hc hmissed.1⟩
  | offered _ hoffer hunlimited =>
    exact ⟨fun ha => absurd ha (hunlimited _), fun hnone => absurd hoffer (hnone.2 l hl hnow)⟩
  | late hc hstep ht'' =>
    rw [ht', Option.some.injEq] at ht''
    refine ⟨fun _ => ⟨hc, ?_⟩, fun _ => by rw [ht'']⟩
    intro m hm _ hoffer
    obtain ⟨d, hd, hoffer⟩ := hoffer
    have hstands := h.offer_stands ⟨d, hd, hoffer⟩ (hlast m hm d hd) hi
    have hsome := hstands.step hi
    rw [hstep] at hsome
    cases hsome

lemma Requests.late_time (h : Requests config s) (hS : Timeless S) (hp : Prompt Resolver.machine s)
    (hb : Starts s i b c) (ht : c.request.timeout = some (.ofMillis t.toNat)) {time : Nat}
    (hn : standing (s n) i =
      some (.ended c' (.error (.deadlineExceeded (.ofMillis t.toNat))) time)) :
    time = (s b).now + t.toNat := by
  obtain ⟨l, -, -, hend, htime, -, hlimit, -⟩ := h.timed_end hS hp hb ht hn
  rw [limitMillis_ofMillis] at hlimit
  cases hend with
  | arriving _ hunlimited => exact absurd rfl (hunlimited _)
  | offered _ _ hunlimited => exact absurd rfl (hunlimited _)
  | late hc _ _ hd hle =>
    obtain ⟨harriving, -⟩ | ⟨-, hd', hnow⟩ := hlimit
    · exact absurd harriving hc
    · rw [hd, Option.some.injEq] at hd'
      rw [htime]
      exact Nat.le_antisymm hnow (hd' ▸ hle)

end Millis

section Late

variable {c' : Resolver.Call} {limit : Duration} {time : Nat}

lemma Requests.late_index (h : Requests config s)
    (hn : standing (s n) i = some (.ended c' (.error (.deadlineExceeded limit)) time)) (hm : m < n)
    {d : Resolver.Call} {u : CallTurn S}
    (hu : Takes Resolver.machine (s m) (s (m + 1)) i d u) :
    (s (m + 1)).shared.2.index = (s m).shared.2.index := by
  rw [hu.shared]
  rcases (requestTurn_of_takes hu).index with ⟨hsame, -⟩ | ⟨e, hstores⟩
  · exact hsame
  · have hended : standing (s (m + 1)) i = some (.ended d e.outcome (s m).now) := by
      rw [hu.jobs, update_self, hstores.answer]
      rfl
    have hlate := (h.chronicle.finished hended (by simp) hm).symm.trans hn
    rw [Option.some.injEq, Stand.ended.injEq] at hlate
    exact absurd hlate.2.1 (unlimited_outcome e _)

/-- A flight keeps its leader, so none is under way whose leader has ended. -/
lemma Requests.landed_of_ended (h : Requests config s) {a : Except Error AccountRecord}
    (hn : standing (s n) i = some (.ended c' a time)) (hm : m < n) {d : Resolver.Call}
    {flight due : Nat} (hd : standing (s m) i = some (.running d))
    (hphase : d.phase = .loading (some flight) due) (k : InstallationKey) :
    (k, flight) ∉ (flightsOf (s n).shared).inflight := by
  intro hk
  obtain ⟨j, p, hj, hled⟩ := (h.airspace.piloted n).led k flight hk
  have hm' : aboard viewRequest (standing (s m)) i = some (d.key, d.phase) :=
    aboard_eq_some.mpr ⟨d, hd, rfl⟩
  obtain rfl : i = j := h.airspace.same_leader hm' (by rw [hphase]; rfl) hm.le hj hled
  obtain ⟨d', hd', -⟩ := aboard_eq_some.mp hj
  cases hn.symm.trans hd'

end Late

/-- A request with a time limit of whole milliseconds is never on its way later than that. It ends
because the limit is over just if it has found no entry and is offered neither the value of the
flight that it has joined nor the end of its own lookup in time, and then it has stored nothing and
no flight of its own is left. -/
theorem requests_limited (h : Requests config s) (hS : Timeless S)
    (hp : Prompt Resolver.machine s) (hb : Starts s i b c) {t : UInt64}
    (ht : c.request.timeout = some (.ofMillis t.toNat)) : Limited s i b t.toNat where
  in_time n hbn c' hi := (h.inMillis hp hb ht hbn hi).2.le
  due n hbn c' hi hnow := by
    obtain ⟨ht', hlimit⟩ := h.inMillis hp hb ht hbn hi
    exact advance_of_inLimit ht' hlimit hnow
  late_iff n c' a time hn := h.late_iff hS hp hb ht hn
  late_time n c' time hn := h.late_time hS hp hb ht hn
  late_index n c' time hn m hm d u hu := h.late_index hn hm hu
  late_flight n c' time hn m hm d flight due hd hphase := h.landed_of_ended hn hm hd hphase

end Limits

def hurried : Request :=
  { Request.plain with timeout := some (.ofMillis 30) }

/-- A lookup takes fifty milliseconds. A request joins it, gives up after twenty of them and begins
its own, and after thirty its limit is over. -/
def patience : Nat → RequestRun AccountMemory :=
  play Resolver.machine ⟨0, (⟨{ AccountMemory.empty with latency := 50 }, ⟨.epoch⟩⟩,
      .new { ResolverConfig.standard with joinTimeoutMs := 20 }), [],
    [⟨0, none, .planned (.new .plain (.byAccount 7))⟩,
      ⟨0, none, .planned (.new hurried (.byAccount 7))⟩]⟩
    [.event (.start 0), .event (.step 0), .event (.start 1), .event (.step 1), .event (.tick 20),
      .event (.expire 1), .event (.tick 30), .event (.expire 1)]

theorem requests_limited_patience :
    (∃ m < 8, Misses patience 1 m) ∧ (∀ m < 8, (patience m).now ≤ 30 → ¬ Offered (patience m) 1) ∧
      ∀ m < 8, ∀ c u, Takes Resolver.machine (patience m) (patience (m + 1)) 1 c u →
        (patience (m + 1)).shared.2.index = (patience m).shared.2.index := by
  have hrequests : Requests { ResolverConfig.standard with joinTimeoutMs := 20 } patience := by
    refine ⟨chronicle_play _ _ (by simp), rfl, unstarted_of_jobs ?_⟩
    simp [patience, Resolver.Call.new]
  have hprompt : Prompt Resolver.machine patience := prompt_play _ _ (by simp)
  have hstarts : Starts patience 1 2 (.new hurried (.byAccount 7)) := ⟨rfl, rfl⟩
  have hlimited : Limited patience 1 2 30 :=
    requests_limited hrequests timeless_memory hprompt hstarts (t := 30) rfl
  have hend : ∃ c, standing (patience 8) 1 =
      some (.ended c (.error (.deadlineExceeded (.ofMillis 30))) 30) := ⟨_, rfl⟩
  obtain ⟨c, hc⟩ := hend
  obtain ⟨hmisses, hnone⟩ := (hlimited.late_iff 8 c _ 30 hc).mp rfl
  exact ⟨hmisses, hnone, hlimited.late_index 8 c 30 hc⟩

end Tenancy.Proofs
