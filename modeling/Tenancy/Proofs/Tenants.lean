import Mathlib.Data.List.Basic
import Mathlib.Logic.Function.Basic
import Tenancy.Proofs.Cache
import Tenancy.Resolver.Basic

/-!
# Records that a resolver hands out

Requests of one resolver run concurrently, while entries are dropped, the clock moves and the store
changes. If the store answers a key only with records that share a number with it, a request is
answered with a record that shares a number with its key, or with one that an earlier request with
both numbers got for the other one of its numbers.
-/

namespace Tenancy.Proofs

open Function Resolver Table

/-- Two keys have a number in common. -/
def Shares (j k : InstallationKey) : Prop :=
  ∃ a ∈ waysOf j, a ∈ waysOf k

/-- A key has one number in common with a second key, and the second key another one with a
third. -/
def Crosses (k j l : InstallationKey) : Prop :=
  ∃ a b, a ≠ b ∧ a ∈ waysOf k ∧ a ∈ waysOf j ∧ b ∈ waysOf j ∧ b ∈ waysOf l

/-- The requests that have ended, with their answers. -/
abbrev Answers := List (Nat × Resolver.Call × Except Error AccountRecord)

/-- A record is the right one for a key, or it was handed out before for a key with two numbers. -/
def Owned (past : Answers) (k : InstallationKey) (a : AccountRecord) : Prop :=
  Shares k a.key ∨ ∃ i c, (i, c, .ok a) ∈ past ∧ Crosses k c.key a.key

/-- The record of an entry has the number under which it stands, or it was handed out for a key that
has this number and shares one with the record. -/
def Vouched (past : Answers) (a : Way) (e : CacheEntry) : Prop :=
  ∀ found, e.found = some found → a ∈ waysOf found.key ∨
    ∃ i c, (i, c, .ok found) ∈ past ∧ a ∈ waysOf c.key ∧ Shares c.key found.key

/-- Every record that was handed out was owned by its key at that time. -/
def AllOwned (log : Answers) : Prop :=
  ∀ n i c a, log[n]? = some (i, c, .ok a) → Owned (log.take n) c.key a

lemma Vouched.append {past : Answers} {a : Way} {e : CacheEntry} (h : Vouched past a e)
    (new : Answers) : Vouched (past ++ new) a e := by
  intro found hf
  rcases h found hf with ha | ⟨i, c, hc, hw⟩
  · exact .inl ha
  · exact .inr ⟨i, c, List.mem_append_left _ hc, hw⟩

lemma Vouched.owned {past : Answers} {a : Way} {e : CacheEntry} {k : InstallationKey}
    {found : AccountRecord} (h : Vouched past a e) (ha : a ∈ waysOf k) (hf : e.found = some found) :
    Owned past k found := by
  rcases h found hf with hw | ⟨i, c, hc, hac, b, hb, hbf⟩
  · exact .inl ⟨a, ha, hw⟩
  · by_cases hab : a = b
    · exact .inl ⟨a, ha, hab ▸ hbf⟩
    · exact .inr ⟨i, c, hc, a, b, hab, ha, hac, hb, hbf⟩

lemma allOwned_concat {log : Answers} {i : Nat} {c : Call} {answer : Except Error AccountRecord}
    (h : AllOwned log) (hnew : ∀ a, answer = .ok a → Owned log c.key a) :
    AllOwned (log ++ [(i, c, answer)]) := by
  intro n j d a hn
  rcases Nat.lt_trichotomy n log.length with hlt | heq | hgt
  · rw [List.getElem?_append_left hlt] at hn
    rw [List.take_append_of_le_length (Nat.le_of_lt hlt)]
    exact h n j d a hn
  · subst heq
    rw [List.getElem?_concat_length, Option.some.injEq, Prod.mk.injEq, Prod.mk.injEq] at hn
    rw [List.take_left, ← hn.2.1]
    exact hnew a hn.2.2
  · rw [List.getElem?_eq_none (by rw [List.length_append, List.length_singleton]; omega)] at hn
    cases hn

lemma outcome_ok {e : CacheEntry} {a : AccountRecord} (h : e.outcome = .ok a) :
    e.found = some a := by
  unfold CacheEntry.outcome at h
  split at h
  · rename_i r hr
    rw [hr, Except.ok.inj h]
  · cases h

/-- The index and the answers of requests that have ended. -/
structure Told (log : Answers) (i : CacheIndex) : Prop where
  index : Described (Vouched log) i
  owned : AllOwned log

lemma Told.hit {log : Answers} {i : CacheIndex} {e : CacheEntry} {c : Call} (h : Told log i)
    (hp : i.probe c.key = some e) (n : Nat) : Told (log ++ [(n, c, e.outcome)]) i where
  index := h.index.mono fun a e hv => hv.append _
  owned := by
    apply allOwned_concat h.owned
    intro a ha
    obtain ⟨w, hw, hv⟩ := h.index.probe hp
    exact hv.owned hw (outcome_ok ha)

lemma Told.settle {log : Answers} {i : CacheIndex} {e : CacheEntry} {c : Call} (h : Told log i)
    (he : ∀ a, e.found = some a → Shares c.key a.key) (bound : Option Nat) (n : Nat) :
    Told (log ++ [(n, c, e.outcome)]) (i.populate bound c.key e).1 where
  index := by
    apply (h.index.mono fun a e hv => hv.append _).populate
    intro a ha found hf
    rw [mem_storedUnder] at ha
    rcases ha with ha | ⟨r, hr, ha⟩
    · have hnew : (n, c, Except.ok found) ∈ log ++ [(n, c, e.outcome)] := by
        rw [CacheEntry.outcome, hf]
        exact List.mem_append_right _ (List.mem_singleton_self _)
      exact .inr ⟨n, c, hnew, ha, he found hf⟩
    · rw [hf, Option.some.injEq] at hr
      rw [← hr] at ha
      exact .inl ha
  owned := allOwned_concat h.owned fun a ha => .inl (he a (outcome_ok ha))

lemma Told.fail {log : Answers} {i : CacheIndex} {c : Call} (h : Told log i) (e : Error) (n : Nat) :
    Told (log ++ [(n, c, .error e)]) i where
  index := h.index.mono fun a e hv => hv.append _
  owned := allOwned_concat h.owned (by simp)

/-- The flight that a request leads or has joined. -/
def flightOf : Coalescer.Phase → Option Nat
  | .arriving => none
  | .joining flight _ => some flight
  | .loading flight _ => flight

/-- The flights of a coalescer each belong to one key: to the key under which it is under way, to
that of every request aboard, and to one that owns the record that it has found. -/
structure Booked (keyOf : Nat → InstallationKey) (co : Coalescer InstallationKey CacheEntry)
    (f : Standing Call (Except Error AccountRecord)) : Prop where
  inflight : ∀ k n, (k, n) ∈ co.inflight → keyOf n = k ∧ n < co.nextFlight
  published : ∀ n e, (n, e) ∈ co.published →
    n < co.nextFlight ∧ ∀ a, e.found = some a → Shares (keyOf n) a.key
  aboard : ∀ i c n, f i = some (.running c) → flightOf c.phase = some n →
    keyOf n = c.key ∧ n < co.nextFlight

section Booked

variable {keyOf : Nat → InstallationKey} {co co' : Coalescer InstallationKey CacheEntry}
  {f : Standing Call (Except Error AccountRecord)} {k : InstallationKey} {n : Nat} {e : CacheEntry}

lemma booked_new (wait : Duration) (hf : ∀ i c, f i ≠ some (.running c)) :
    Booked keyOf (.new wait) f where
  inflight k n h := by cases h
  published n e h := by cases h
  aboard i c n h := absurd h (hf i c)

lemma Booked.update (h : Booked keyOf co f) (i : Nat) {x : Stand Call (Except Error AccountRecord)}
    (hx : ∀ c n, x = .running c → flightOf c.phase = some n → keyOf n = c.key ∧ n < co.nextFlight) :
    Booked keyOf co (update f i (some x)) where
  inflight := h.inflight
  published := h.published
  aboard j c n hj hn := by
    by_cases hji : j = i
    · rw [hji, update_self, Option.some.injEq] at hj
      exact hx c n hj hn
    · rw [update_of_ne hji] at hj
      exact h.aboard j c n hj hn

lemma Booked.mono (h : Booked keyOf co f) (hi : ∀ p ∈ co'.inflight, p ∈ co.inflight)
    (hp : ∀ p ∈ co'.published, p ∈ co.published) (hn : co'.nextFlight = co.nextFlight) :
    Booked keyOf co' f where
  inflight k n hk := by
    rw [hn]
    exact h.inflight k n (hi _ hk)
  published n e he := by
    rw [hn]
    exact h.published n e (hp _ he)
  aboard := by
    rw [hn]
    exact h.aboard

lemma Booked.land (h : Booked keyOf co f) (k : InstallationKey) : Booked keyOf (co.land k) f :=
  h.mono (fun _ hp => mem_of_mem_erase hp) (fun _ hp => hp) rfl

lemma Booked.publish (h : Booked keyOf co f) (hn : n < co.nextFlight)
    (he : ∀ a, e.found = some a → Shares (keyOf n) a.key) (k : InstallationKey) :
    Booked keyOf (co.publish k n e) f where
  inflight j m hj := h.inflight j m (mem_of_mem_erase hj)
  published m e' hm := by
    rcases List.mem_append.mp hm with hm | hm
    · exact h.published m e' (mem_of_mem_erase hm)
    · rw [List.mem_singleton, Prod.mk.injEq] at hm
      rw [hm.1, hm.2]
      exact ⟨hn, he⟩
  aboard := h.aboard

lemma Booked.lead (h : Booked keyOf co f) (k : InstallationKey) :
    Booked (Function.update keyOf co.nextFlight k) (co.lead k) f where
  inflight j n hj := by
    rcases List.mem_append.mp hj with hj | hj
    · obtain ⟨hk, hn⟩ := h.inflight j n (mem_of_mem_erase hj)
      rw [update_of_ne (Nat.ne_of_lt hn)]
      exact ⟨hk, Nat.lt_succ_of_lt hn⟩
    · rw [List.mem_singleton, Prod.mk.injEq] at hj
      rw [hj.1, hj.2, update_self]
      exact ⟨rfl, Nat.lt_succ_self _⟩
  published n e he := by
    obtain ⟨hn, hs⟩ := h.published n e he
    rw [update_of_ne (Nat.ne_of_lt hn)]
    exact ⟨Nat.lt_succ_of_lt hn, hs⟩
  aboard i c n hi hn := by
    obtain ⟨hk, hlt⟩ := h.aboard i c n hi hn
    rw [update_of_ne (Nat.ne_of_lt hlt)]
    exact ⟨hk, Nat.lt_succ_of_lt hlt⟩

lemma Booked.value (h : Booked keyOf co f) {i : Nat} {c : Call} (hi : f i = some (.running c))
    (hn : flightOf c.phase = some n) (hv : co.sight c.key n = .value e) :
    ∀ a, e.found = some a → Shares c.key a.key := by
  unfold Coalescer.sight at hv
  split at hv
  · rename_i v hp
    rw [Coalescer.Sight.value.injEq] at hv
    obtain ⟨hk, -⟩ := h.aboard i c n hi hn
    obtain ⟨-, hs⟩ := h.published n v (mem_of_get? hp)
    rw [← hk, ← hv]
    exact hs
  · split at hv <;> cases hv

end Booked

/-- The flights of a resolver, if it has a coalescer. -/
def Flights (r : Resolver) (f : Standing Call (Except Error AccountRecord)) : Prop :=
  ∀ co, r.coalescer = some co → ∃ keyOf, Booked keyOf co f

section Turns

variable {S : Type} {log : Answers}
  {f : Standing Call (Except Error AccountRecord)} {i now : Nat} {c : Call} {w : World S}
  {r r' : Resolver}

/-- The store answers keys only with records that share a number with them. -/
def Honest [AccountStore S] (s : S) : Prop :=
  ∀ k a, (AccountStore.lookup s k).1 = .ok a → Shares k a.key

/-- What is known of the answers and of the flights of a resolver. -/
structure Known (log : Answers) (r : Resolver) (f : Standing Call (Except Error AccountRecord)) :
    Prop where
  told : Told log r.index
  flights : Flights r f

lemma Flights.update (h : Flights r f) (hi : f i = some (.running c))
    {x : Stand Call (Except Error AccountRecord)} (hx : ∀ c', x = .running c' →
      flightOf c'.phase = none ∨ flightOf c'.phase = flightOf c.phase ∧ c'.key = c.key) :
    Flights r (update f i (some x)) := by
  intro co hco
  obtain ⟨keyOf, hb⟩ := h co hco
  refine ⟨keyOf, hb.update i ?_⟩
  intro c' n hc hn
  rcases hx c' hc with hnone | ⟨hsame, hk⟩
  · rw [hnone] at hn
    cases hn
  · rw [hsame] at hn
    rw [hk]
    exact hb.aboard i c n hi hn

lemma Flights.map {g : Coalescer InstallationKey CacheEntry → Coalescer InstallationKey CacheEntry}
    (h : Flights r f) (hg : ∀ co, r.coalescer = some co → ∀ keyOf, Booked keyOf co f →
      Booked keyOf (g co) f) : Flights (r.mapCoalescer g) f := by
  intro co hco
  obtain ⟨co', hco', rfl⟩ := Option.map_eq_some_iff.mp hco
  obtain ⟨keyOf, hb⟩ := h co' hco'
  exact ⟨keyOf, hg co' hco' keyOf hb⟩

lemma Flights.land (h : Flights r f) (c : Call) (flight : Option Nat) :
    Flights (Resolver.land r c flight) f := by
  unfold Resolver.land
  split
  · exact h.map fun co _ keyOf hb => hb.land c.key
  · exact h

lemma Flights.abandon (h : Flights r f) (c : Call) : Flights (Resolver.abandon r c) f := by
  unfold Resolver.abandon
  split
  · exact h.land c _
  · exact h

lemma Flights.publish {flight : Option Nat} {due : Nat} {e : CacheEntry} (h : Flights r f)
    (hi : f i = some (.running c)) (hp : c.phase = .loading flight due)
    (he : ∀ a, e.found = some a → Shares c.key a.key) :
    Flights (Resolver.publish r c flight e) f := by
  unfold Resolver.publish
  cases flight with
  | none => exact h
  | some n =>
    apply h.map
    intro co hco keyOf hb
    obtain ⟨hk, hn⟩ := hb.aboard i c n hi (by rw [hp]; rfl)
    exact hb.publish hn (hk ▸ he) c.key

lemma Known.congr (h : Known log r f) (hi : r'.index = r.index)
    (hc : r'.coalescer = r.coalescer) : Known log r' f where
  told := by
    rw [hi]
    exact h.told
  flights := by
    unfold Flights
    rw [hc]
    exact h.flights

/-- A request that ends without an outcome changes nothing but the flights. -/
lemma abandon_eq (r : Resolver) (c : Call) :
    ∃ co, Resolver.abandon r c = { r with coalescer := co } := by
  unfold Resolver.abandon Resolver.land
  split
  · split
    · exact ⟨_, rfl⟩
    · exact ⟨r.coalescer, rfl⟩
  · exact ⟨r.coalescer, rfl⟩

lemma abandon_index (r : Resolver) (c : Call) : (Resolver.abandon r c).index = r.index := by
  obtain ⟨co, hco⟩ := abandon_eq r c
  rw [hco]

lemma publish_index (r : Resolver) (c : Call) (flight : Option Nat) (e : CacheEntry) :
    (Resolver.publish r c flight e).index = r.index := by
  unfold Resolver.publish
  split <;> rfl

/-- What is known after a turn of a request. -/
def KnownAfter (log : Answers) (f : Standing Call (Except Error AccountRecord)) (i now : Nat)
    (c : Call) (u : CallTurn S) : Prop :=
  Known (log ++ entry i c u.next) u.shared.2 (update f i (some (Stand.after now c u.next)))

lemma Known.settle {e : CacheEntry} (h : Known log r f) (hi : f i = some (.running c))
    (he : ∀ a, e.found = some a → Shares c.key a.key) (w : World S) (notices : List Notice) :
    KnownAfter log f i now c (Resolver.settle w r c e notices) where
  told := h.told.settle he r.maxEntries i
  flights := by
    intro co hco
    exact h.flights.update hi (by simp [Resolver.settle, Stand.after]) co hco

variable [AccountStore S]

lemma known_beginLoad {c' : Call} {flight : Option Nat}
    (h : ∀ due, Known log r (update f i (some (.running { c' with phase := .loading flight due })))) :
    KnownAfter log f i now c (beginLoad now w r c' flight) := by
  unfold KnownAfter beginLoad
  rw [entry, List.append_nil]
  exact (h _).congr rfl rfl

lemma known_miss (h : Known log r f) :
    KnownAfter log f i now c (miss now w r c) := by
  unfold miss
  cases hco : r.coalescer with
  | none =>
    apply known_beginLoad
    exact fun due => ⟨h.told, nofun⟩
  | some co =>
    obtain ⟨keyOf, hb⟩ := h.flights co hco
    simp only
    cases hfl : co.inflight.get? c.key with
    | some n =>
      unfold KnownAfter
      rw [entry, List.append_nil]
      refine ⟨h.told, ?_⟩
      intro co' hco'
      rw [← Option.some.inj hco']
      refine ⟨keyOf, hb.update i ?_⟩
      intro c' m hc hm
      rw [Stand.after, Stand.running.injEq] at hc
      rw [← hc] at hm ⊢
      rw [← Option.some.inj hm]
      exact hb.inflight c.key n (mem_of_get? hfl)
    | none =>
      apply known_beginLoad
      refine fun due => ⟨h.told, ?_⟩
      intro co' hco'
      rw [← Option.some.inj hco']
      refine ⟨_, (hb.lead c.key).update i ?_⟩
      intro c' m hc hm
      rw [Stand.running.injEq] at hc
      rw [← hc] at hm ⊢
      rw [← Option.some.inj hm, update_self]
      exact ⟨rfl, Nat.lt_succ_self _⟩

lemma known_arrive (h : Known log r f) (hi : f i = some (.running c)) :
    KnownAfter log f i now c (arrive now w r c) := by
  have hend : ∀ a r', r'.coalescer = r.coalescer →
      Flights r' (update f i (some (Stand.after now c (.ended a)))) := by
    intro a r' hr
    have hF := h.flights.update hi (x := .ended c a now) (by simp)
    unfold Flights at hF ⊢
    rw [hr]
    exact hF
  unfold arrive
  split
  · exact ⟨h.told.fail .notFound i, hend _ r rfl⟩
  · split
    · rename_i e left hf
      exact ⟨h.told.hit (probe_of_fresh? hf) i, hend _ _ rfl⟩
    · exact known_miss h

lemma known_endLoad {flight : Option Nat} {due : Nat} (h : Known log r f)
    (hi : f i = some (.running c)) (hp : c.phase = .loading flight due) (hw : Honest w.store) :
    KnownAfter log f i now c (endLoad w r c flight) := by
  have hpublish : ∀ {e : CacheEntry}, (∀ a, e.found = some a → Shares c.key a.key) →
      Known log (Resolver.publish r c flight e) f := by
    intro e he
    refine ⟨?_, h.flights.publish hi hp he⟩
    rw [publish_index]
    exact h.told
  unfold endLoad
  have hhonest := hw c.key
  cases hl : AccountStore.lookup w.store c.key with
  | mk answer store =>
    rw [hl] at hhonest
    simp only
    split
    · rename_i found
      have he : ∀ a, some found = some a → Shares c.key a.key := by
        intro a ha
        rw [← Option.some.inj ha]
        exact hhonest found rfl
      exact (hpublish he).settle hi he _ _
    · exact (hpublish (by simp)).settle hi (by simp) _ _
    · rename_i e _
      refine ⟨?_, (h.flights.land c flight).update hi (by simp [Stand.after])⟩
      have hidx : (Resolver.land r c flight).index = r.index := by
        unfold Resolver.land
        split <;> rfl
      rw [hidx]
      exact h.told.fail e i

lemma known_fallBack (h : Known log r f) (hi : f i = some (.running c)) :
    KnownAfter log f i now c (fallBack now w r c) := by
  have hF := h.flights.map (g := Coalescer.countFallback) fun co _ keyOf hb =>
    hb.mono (fun _ hp => hp) (fun _ hp => hp) rfl
  apply known_beginLoad
  exact fun due => ⟨h.told, hF.update hi (by simp [flightOf])⟩

lemma known_step {u : CallTurn S} (h : Known log r f) (hi : f i = some (.running c))
    (hw : Honest w.store) (hu : Resolver.step now w r c = some u) : KnownAfter log f i now c u := by
  unfold Resolver.step at hu
  cases hp : c.phase with
  | arriving =>
    rw [hp] at hu
    rw [← Option.some.inj hu]
    exact known_arrive h hi
  | joining n due =>
    rw [hp] at hu
    simp only at hu
    have hn : flightOf c.phase = some n := by
      rw [hp]
      rfl
    cases hs : Resolver.sight r c n with
    | value e =>
      rw [hs] at hu
      rw [← Option.some.inj hu]
      have hF := h.flights.map (g := Coalescer.countJoined) fun co _ keyOf hb =>
        hb.mono (fun _ hp => hp) (fun _ hp => hp) rfl
      have he : ∀ a, e.found = some a → Shares c.key a.key := by
        unfold Resolver.sight at hs
        cases hco : r.coalescer with
        | none =>
          rw [hco] at hs
          cases hs
        | some co =>
          rw [hco] at hs
          obtain ⟨keyOf, hb⟩ := h.flights co hco
          exact hb.value hi hn hs
      have hjoined : Known log (r.mapCoalescer Coalescer.countJoined) f := ⟨h.told, hF⟩
      exact hjoined.settle hi he w []
    | lost =>
      rw [hs] at hu
      rw [← Option.some.inj hu]
      exact known_fallBack h hi
    | waiting =>
      rw [hs] at hu
      cases hu
  | loading flight due =>
    rw [hp] at hu
    simp only at hu
    split at hu
    · cases hu
    · rw [← Option.some.inj hu]
      exact known_endLoad h hi hp hw

lemma known_abandon (h : Known log r f) (hi : f i = some (.running c))
    {x : Stand Call (Except Error AccountRecord)} (hx : ∀ c', x ≠ .running c') :
    Known log (Resolver.abandon r c) (update f i (some x)) where
  told := by
    rw [abandon_index]
    exact h.told
  flights := (h.flights.abandon c).update hi fun c' hc => absurd hc (hx c')

lemma resolver_expire_cases {u : CallTurn S} (hu : Resolver.expire now w r c = some u) :
    u = fallBack now w r c ∨
      ∃ limit, u = ⟨(w, Resolver.abandon r c), [], .ended (.error (.deadlineExceeded limit))⟩ := by
  have hlate : ∀ deadline limit, (if deadline ≤ now then
      some (⟨(w, Resolver.abandon r c), [], .ended (.error (.deadlineExceeded limit))⟩ : CallTurn S)
      else none) = some u → ∃ limit, u = ⟨(w, Resolver.abandon r c), [],
        .ended (.error (.deadlineExceeded limit))⟩ := by
    intro deadline limit hu
    split at hu
    · exact ⟨limit, (Option.some.inj hu).symm⟩
    · cases hu
  unfold Resolver.expire at hu
  cases hp : c.phase with
  | joining n due =>
    rw [hp] at hu
    simp only at hu
    split at hu
    · exact .inl (Option.some.inj hu).symm
    · split at hu
      · exact .inr (hlate _ _ hu)
      · cases hu
  | arriving =>
    rw [hp] at hu
    simp only at hu
    split at hu
    · exact .inr (hlate _ _ hu)
    · cases hu
  | loading flight due =>
    rw [hp] at hu
    simp only at hu
    split at hu
    · exact .inr (hlate _ _ hu)
    · cases hu

lemma known_expire {u : CallTurn S} (h : Known log r f) (hi : f i = some (.running c))
    (hu : Resolver.expire now w r c = some u) :
    Known log u.shared.2 (update f i (some (Stand.after now c u.next))) := by
  rcases resolver_expire_cases hu with rfl | ⟨limit, rfl⟩
  · have hk : KnownAfter log f i now c (fallBack now w r c) := known_fallBack h hi
    unfold KnownAfter fallBack beginLoad at hk
    rwa [entry, List.append_nil] at hk
  · exact known_abandon h hi (by simp [Stand.after])

/-- What a turn leaves of a request and of the store: the key, and a store that is as it was or in
which a lookup has begun or ended. -/
structure Framed (w : World S) (c : Call) (u : CallTurn S) : Prop where
  key : ∀ c', u.next = .running c' → c'.key = c.key
  store : u.shared.1.store = w.store ∨ u.shared.1.store = AccountStore.begin w.store ∨
    u.shared.1.store = (AccountStore.lookup w.store c.key).2

lemma framed_beginLoad (now : Nat) (w : World S) (r : Resolver) {c c' : Call} (hk : c'.key = c.key)
    (flight : Option Nat) : Framed w c (beginLoad now w r c' flight) where
  key d hd := by
    rw [beginLoad, Next.running.injEq] at hd
    rw [← hd, ← hk]
  store := .inr (.inl rfl)

lemma framed_arrive (now : Nat) (w : World S) (r : Resolver) (c : Call) :
    Framed w c (arrive now w r c) := by
  unfold arrive
  split
  · exact ⟨by simp, .inl rfl⟩
  · split
    · exact ⟨by simp, .inl rfl⟩
    · unfold miss
      simp only
      split
      · apply framed_beginLoad
        rfl
      · split
        · exact ⟨by simp +contextual [eq_comm], .inl rfl⟩
        · apply framed_beginLoad
          rfl

lemma framed_endLoad (w : World S) (r : Resolver) (c : Call) (flight : Option Nat) :
    Framed w c (endLoad w r c flight) := by
  unfold endLoad
  simp only
  split <;> exact ⟨by simp [Resolver.settle], .inr (.inr rfl)⟩

lemma framed_turn {u : CallTurn S}
    (hu : Resolver.step now w r c = some u ∨ Resolver.expire now w r c = some u) : Framed w c u := by
  rcases hu with hu | hu
  · unfold Resolver.step at hu
    cases hp : c.phase with
    | arriving =>
      rw [hp] at hu
      rw [← Option.some.inj hu]
      exact framed_arrive now w r c
    | joining n due =>
      rw [hp] at hu
      simp only at hu
      split at hu
      · rw [← Option.some.inj hu]
        exact ⟨by simp [Resolver.settle], .inl rfl⟩
      · rw [← Option.some.inj hu]
        exact framed_beginLoad now w _ rfl none
      · cases hu
    | loading flight due =>
      rw [hp] at hu
      simp only at hu
      split at hu
      · cases hu
      · rw [← Option.some.inj hu]
        exact framed_endLoad w r c flight
  · rcases resolver_expire_cases hu with rfl | ⟨limit, rfl⟩
    · exact framed_beginLoad now w _ rfl none
    · exact ⟨by simp, .inl rfl⟩

end Turns

/-- What the surroundings of requests may do: the clock and the store change in any way, and keys
are invalidated. -/
def Meddled {S : Type} (s s' : World S × Resolver) : Prop :=
  s'.2 = s.2 ∨ ∃ k, s'.2 = s.2.invalidate k

/-- The store is honest in a state. -/
def honestStore {S : Type} [AccountStore S] (s : World S × Resolver)
    (_ : Standing Call (Except Error AccountRecord)) : Prop :=
  Honest s.1.store

section Histories

variable {S : Type} {log : Answers}
  {r r' : Run (World S × Resolver) Call (Except Error AccountRecord)}

lemma Known.meddled {s s' : World S × Resolver} {f : Standing Call (Except Error AccountRecord)}
    (h : Known log s.2 f) (hs : Meddled s s') : Known log s'.2 f := by
  rcases hs with hs | ⟨k, hs⟩
  · rw [hs]
    exact h
  · rw [hs]
    exact ⟨⟨h.told.index.invalidate k, h.told.owned⟩, h.flights⟩

variable [AccountStore S]

lemma known_kept : Kept Resolver.machine Meddled (honestStore (S := S)) fun log _ s f =>
    Honest s.1.store ∧ Known log s.2 f ∧ Planned (fun c => c.phase = .arriving) f := by
  constructor
  case pass => exact fun h _ => h
  case change => exact fun h hs ha => ⟨ha, h.2.1.meddled hs, h.2.2⟩
  case start =>
    intro log now s f i c h hi ha
    refine ⟨ha, ⟨h.2.1.told, ?_⟩, h.2.2.update i (by simp)⟩
    intro co hco
    obtain ⟨keyOf, hb⟩ := h.2.1.flights co hco
    refine ⟨keyOf, hb.update i ?_⟩
    intro c' n hc hn
    rw [Stand.running.injEq] at hc
    rw [← hc, h.2.2 i c hi] at hn
    cases hn
  case step =>
    intro log now s f i c u h hi hu ha
    exact ⟨ha, known_step h.2.1 hi h.1 hu, h.2.2.update i (after_ne_planned now c · u.next)⟩
  case expire =>
    intro log now s f i c u h hi _ hu ha
    exact ⟨ha, known_expire h.2.1 hi hu, h.2.2.update i (after_ne_planned now c · u.next)⟩
  case drop =>
    intro log now s f i c h hi ha
    exact ⟨ha, known_abandon h.2.1 hi (by simp), h.2.2.update i (by simp)⟩

/-- Every record that a resolver hands out shares a number with the key, or it was handed out before
to a request with two numbers that shares one with the key and the other one with the record. -/
theorem resolved_owned (h : History Resolver.machine Meddled honestStore r log r')
    {config : ResolverConfig} (hr : r.shared.2 = .new config)
    (hnew : Unstarted (fun c => c.phase = .arriving) (standing r)) :
    ∀ i c a time, standing r' i = some (.ended c (.ok a) time) →
      (∃ c₀, standing r i = some (.planned c₀) ∧ c₀.key = c.key) ∧
      ∃ n, log[n]? = some (i, c, .ok a) ∧ Owned (log.take n) c.key a := by
  have hnone : ∀ i c, standing r i ≠ some (.running c) := by
    intro i c hi
    obtain ⟨c₀, hc, -⟩ := hnew i _ hi
    cases hc
  have hfirst : Known [] r.shared.2 (standing r) := by
    rw [hr]
    refine ⟨⟨described_empty, by simp [AllOwned]⟩, ?_⟩
    intro co hco
    unfold Resolver.new at hco
    simp only at hco
    split at hco
    · rw [← Option.some.inj hco]
      exact ⟨fun _ => .unset, booked_new _ hnone⟩
    · cases hco
  obtain ⟨-, hk, -⟩ := h.keeps known_kept ⟨h.admitted, hfirst, hnew.planned⟩
  intro i c a time hi
  constructor
  · have ho := h.origin Call.key (fun _ _ _ _ c' hu hn => (framed_turn hu).key c' hn) i
    rw [hi] at ho
    cases hs : standing r i with
    | none =>
      rw [hs] at ho
      cases ho
    | some x =>
      obtain ⟨c₀, rfl, -⟩ := hnew i x hs
      rw [hs] at ho
      exact ⟨c₀, rfl, (Option.some.inj ho).symm⟩
  · rcases (h.recorded hnew).logged i c (.ok a) time hi with hl | ⟨now, s, u, hu, hn⟩
    · obtain ⟨n, hn⟩ := List.getElem?_of_mem hl
      exact ⟨n, hn, hk.told.owned n i c a hn⟩
    · rcases resolver_expire_cases hu with rfl | ⟨limit, rfl⟩
      · cases hn
      · cases hn

end Histories

lemma honest_stray {m : AccountMemory}
    (hm : SameContent (AccountMemory.empty.insert strayRecord) m) : Honest m := by
  intro k a h
  have hlookup : (AccountStore.lookup m k).1 = m.answer k := by
    change (AccountMemory.lookup m k).1 = _
    unfold AccountMemory.lookup
    rw [hm.failures]
  have haccount : ∀ id b, m.accounts.get? id = some b → id = ⟨9⟩ ∧ b = strayRecord := by
    intro id b hb
    rw [hm.accounts] at hb
    have hall : ∀ e ∈ (AccountMemory.empty.insert strayRecord).accounts,
        e.1 = ⟨9⟩ ∧ e.2 = strayRecord := by decide
    exact hall _ (mem_of_get? hb)
  have hinstall : ∀ p id, m.installations.get? p = some id → p = ⟨⟨3⟩, ⟨4⟩⟩ := by
    intro p id hp
    rw [hm.installations] at hp
    have hall : ∀ e ∈ (AccountMemory.empty.insert strayRecord).installations,
        e.1 = ⟨⟨3⟩, ⟨4⟩⟩ := by decide
    exact hall _ (mem_of_get? hp)
  rw [hlookup] at h
  have hf := find?_of_answer h
  unfold AccountMemory.find? at hf
  rcases Option.or_eq_some_iff.mp hf with hf | ⟨-, hf⟩
  · obtain ⟨id, hid, hb⟩ := Option.bind_eq_some_iff.mp hf
    obtain ⟨rfl, rfl⟩ := haccount id a hb
    exact ⟨.account ⟨9⟩, account_mem_waysOf.mpr hid, by decide⟩
  · obtain ⟨id, hid, hb⟩ := Option.bind_eq_some_iff.mp hf
    obtain ⟨p, hp, hi⟩ := Option.bind_eq_some_iff.mp hid
    obtain rfl := hinstall p id hi
    obtain ⟨-, rfl⟩ := haccount id a hb
    exact ⟨.install ⟨⟨3⟩, ⟨4⟩⟩, install_mem_waysOf.mpr hp, by decide⟩

/-- The stray key is resolved, and then the number of the other account that it names. -/
def borrow : Run (World AccountMemory × Resolver) Call (Except Error AccountRecord) where
  now := 0
  shared := (⟨AccountMemory.empty.insert strayRecord, ⟨default⟩⟩, .new .standard)
  notices := []
  jobs := [⟨0, none, .planned (.new .plain strayKey)⟩,
    ⟨1, none, .planned (.new .plain (.byAccount 7))⟩]

lemma unstarted_borrow : Unstarted (fun c => c.phase = .arriving) (standing borrow) := by
  apply unstarted_of_jobs
  simp [borrow, Call.new]

lemma honest_borrow {s : Run (World AccountMemory × Resolver) Call (Except Error AccountRecord)}
    (h : Reaches Resolver.machine borrow s) : honestStore s.shared (standing s) := by
  obtain ⟨log, hl⟩ : ∃ log, History Resolver.machine (fun s s' => s' = s) anyState borrow log s :=
    history_of_reaches h fun _ _ => trivial
  have hkept : Kept Resolver.machine (fun s s' => s' = s) anyState fun _ _ s _ =>
      SameContent (AccountMemory.empty.insert strayRecord) s.1.store := by
    have hturn : ∀ {now : Nat} {s : World AccountMemory × Resolver} {c : Call}
        {u : CallTurn AccountMemory},
        SameContent (AccountMemory.empty.insert strayRecord) s.1.store →
        Resolver.step now s.1 s.2 c = some u ∨ Resolver.expire now s.1 s.2 c = some u →
        SameContent (AccountMemory.empty.insert strayRecord) u.shared.1.store := by
      intro now s c u hs hu
      have hlookup : (AccountStore.lookup s.1.store c.key).2 = s.1.store := by
        change (AccountMemory.lookup s.1.store c.key).2 = _
        unfold AccountMemory.lookup
        rw [hs.failures]
      rcases (framed_turn hu).store with h | h | h
      · rwa [h]
      · rw [h]
        exact ⟨hs.accounts, hs.installations, hs.failures⟩
      · rwa [h, hlookup]
    constructor
    case pass => exact fun h _ => h
    case change => exact fun h hs _ => hs ▸ h
    case start => exact fun h _ _ => h
    case step => exact fun h _ hu _ => hturn h (.inl hu)
    case expire => exact fun h _ _ hu _ => hturn h (.inr hu)
    case drop => exact fun h _ _ => h
  exact honest_stray (hl.keeps hkept ⟨rfl, rfl, rfl⟩)

lemma borrow_reaches : Reaches Resolver.machine borrow (borrow.finish Resolver.machine) :=
  reaches_finishFrom Resolver.machine borrow borrow .refl _ none

lemma borrow_last : standing (borrow.finish Resolver.machine) 1 =
    some (.ended (.new .plain (.byAccount 7)) (.ok strayRecord) 1) :=
  rfl

theorem resolved_owned_borrow :
    ∃ log : Answers, ∃ n, log[n]? = some (1, .new .plain (.byAccount 7), .ok strayRecord) ∧
      Owned (log.take n) (.byAccount 7) strayRecord := by
  obtain ⟨log, h⟩ : ∃ log, History Resolver.machine Meddled honestStore borrow log
      (borrow.finish Resolver.machine) := history_of_reaches borrow_reaches fun _ => honest_borrow
  exact ⟨log, (resolved_owned h rfl unstarted_borrow 1 _ _ _ borrow_last).2⟩

/-- A record may be handed out to a key with which it shares no number. -/
theorem not_resolved_shares :
    ¬ ∀ (r r' : Run (World AccountMemory × Resolver) Call (Except Error AccountRecord))
      (log : Answers) (config : ResolverConfig),
      History Resolver.machine Meddled honestStore r log r' → r.shared.2 = .new config →
      Unstarted (fun c => c.phase = .arriving) (standing r) →
      ∀ i c a time, standing r' i = some (.ended c (.ok a) time) → Shares c.key a.key := by
  intro hall
  obtain ⟨log, h⟩ : ∃ log, History Resolver.machine Meddled honestStore borrow log
      (borrow.finish Resolver.machine) := history_of_reaches borrow_reaches fun _ => honest_borrow
  have hshare := hall _ _ log .standard h rfl unstarted_borrow 1 _ _ _ borrow_last
  exact absurd hshare (by unfold Shares; decide)

end Tenancy.Proofs
