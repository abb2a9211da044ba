import Tenancy.Proofs.Leaders

/-!
# Loads that are shared

Calls of one coalescer, interleaved in any way, dropped anywhere and however long their loads take.
A call loads at most once. It gets the value of another call only from the leader of its key whom it
joined, and an error only from its own load; and when the leader ends without a value, it loads for
itself. How long it waits for the leader is bounded only if it gets its turn in time.
-/

namespace Tenancy.Proofs

open Function Coalescer Table

variable {K V E : Type} [DecidableEq K] {now : Nat} {c : Coalescer K V} {l : Load K V E}
  {u : Turn (Coalescer K V) (Coalescer.Call K V E) (Coalescer.Answer V E)}

section Course

variable {wait : Duration} {s : Nat → SharedRun K V E} {i j n : Nat}

/-- A call runs its load. -/
def Loads (r : SharedRun K V E) (i : Nat) : Prop :=
  ∃ l flight due, standing r i = some (.running (.load l)) ∧ l.phase = .loading flight due

/-- A call begins its load at a moment. -/
def Begins (s : Nat → SharedRun K V E) (i n : Nat) : Prop :=
  ¬ Loads (s n) i ∧ Loads (s (n + 1)) i

/-- How far a call has come through its phases. -/
def phaseStage : Phase → Nat
  | .arriving => 1
  | .joining _ _ => 2
  | .loading _ _ => 3

/-- How far a job has come, from its start through the phases of its call to its end. -/
def stage : Option (Stand (Coalescer.Call K V E) (Coalescer.Answer V E)) → Nat
  | some (.running (.load l)) => phaseStage l.phase
  | some (.running .sample) => 1
  | some (.ended _ _ _) => 4
  | some (.dropped _ _) => 4
  | some (.planned _) => 0
  | none => 0

omit [DecidableEq K] in
lemma loads_iff {r : SharedRun K V E} : Loads r i ↔ stage (standing r i) = 3 := by
  constructor
  · rintro ⟨l, flight, due, hi, hp⟩
    rw [hi, stage, hp]
    rfl
  · intro h
    unfold stage at h
    split at h
    · rename_i l hi
      unfold phaseStage at h
      split at h
      · cases h
      · cases h
      · rename_i flight due hp
        exact ⟨l, flight, due, hi, hp⟩
    all_goals cases h

omit [DecidableEq K] in
lemma stage_running_le (k : Coalescer.Call K V E) : stage (some (.running k)) ≤ 3 := by
  cases k with
  | sample => simp [stage]
  | load l =>
    change phaseStage l.phase ≤ 3
    cases l.phase <;> simp [phaseStage]

lemma LoadTurn.stage_lt (h : LoadTurn now c l u) :
    phaseStage l.phase < stage (some (Stand.after now (.load l) u.next)) := by
  cases h with
  | lead hp | join hp =>
    rw [hp]
    simp [goOn, Stand.after, stage, phaseStage]
  | fallBack hp =>
    rw [hp]
    simp [Coalescer.fallBack, goOn, Stand.after, stage, phaseStage]
  | receive hp | publish hp | land hp | execute hp | fail hp =>
    rw [hp]
    simp [stop, Stand.after, stage, phaseStage]

lemma LoadCourse.monotone_stage (h : LoadCourse wait s) (i : Nat) :
    Monotone fun n => stage (standing (s n) i) := by
  apply monotone_nat_of_le_succ
  intro n
  cases h.chronicle.job n i with
  | same jobs => rw [jobs]
  | start k before after =>
    rw [before]
    exact Nat.zero_le _
  | turn k u takes after =>
    rw [takes.before, after]
    cases k with
    | load l => exact (loadTurn_of_takes takes).stage_lt.le
    | sample =>
      rw [stop_of_sample takes]
      simp [stage, stop, Stand.after]
  | drop k before after =>
    rw [before, after]
    exact (stage_running_le k).trans (Nat.le_succ 3)

lemma LoadCourse.begins_once (h : LoadCourse wait s) {m : Nat} (hm : Begins s i m)
    (hn : Begins s i n) : m = n := by
  have hlate : ∀ {m n}, Begins s i m → Begins s i n → ¬ m < n := by
    intro m n hm hn hlt
    have h3 := loads_iff.mp hm.2
    have h3' := loads_iff.mp hn.2
    have hmid : stage (standing (s (m + 1)) i) ≤ stage (standing (s n) i) :=
      h.monotone_stage i hlt
    have hend : stage (standing (s n) i) ≤ stage (standing (s (n + 1)) i) :=
      h.monotone_stage i (Nat.le_succ n)
    exact hn.1 (loads_iff.mpr (by omega))
  exact Nat.le_antisymm (Nat.le_of_not_lt (hlate hn hm)) (Nat.le_of_not_lt (hlate hm hn))

lemma LoadCourse.begun (h : LoadCourse wait s) (hn : Loads (s n) i) : ∃ m < n, Begins s i m := by
  induction n with
  | zero =>
    obtain ⟨l, flight, due, hi, -⟩ := hn
    obtain ⟨k, hk, -⟩ := h.fresh i _ hi
    cases hk
  | succ n ih =>
    by_cases hl : Loads (s n) i
    · obtain ⟨m, hm, hb⟩ := ih hl
      exact ⟨m, Nat.lt_succ_of_lt hm, hb⟩
    · exact ⟨n, Nat.lt_succ_self n, hl, hn⟩

/-- What a call is asked for: its key, and how long its own load takes and with what that ends. -/
def loadOf : Coalescer.Call K V E → Option (K × Nat × Except E V)
  | .load l => some (l.key, l.duration, l.outcome)
  | .sample => none

lemma loadOf_turn {r t : SharedRun K V E} {k k' : Coalescer.Call K V E}
    (h : Takes machine r t i k u) (hk : u.next = .running k') : loadOf k' = loadOf k := by
  cases k with
  | sample =>
    rw [stop_of_sample h] at hk
    cases hk
  | load l => cases loadTurn_of_takes h <;> cases hk <;> rfl

/-- A call was to load its key with an outcome. -/
def Asked (s : Nat → SharedRun K V E) (i : Nat) (k : K) (outcome : Except E V) : Prop :=
  ∃ l, standing (s 0) i = some (.planned (.load l)) ∧ l.key = k ∧ l.outcome = outcome

lemma LoadCourse.asked (h : LoadCourse wait s) {l : Load K V E}
    {x : Stand (Coalescer.Call K V E) (Coalescer.Answer V E)} (hn : standing (s n) i = some x)
    (hx : callOf x = .load l) : Asked s i l.key l.outcome := by
  obtain ⟨k, hk, -, hl⟩ := h.chronicle.origin loadOf h.fresh loadOf_turn hn
  rw [hx] at hl
  cases k with
  | sample => cases hl
  | load l₀ =>
    simp only [loadOf, Option.some.injEq, Prod.mk.injEq] at hl
    exact ⟨l₀, hk, hl.1.symm, hl.2.2.symm⟩

lemma LoadCourse.ended (h : LoadCourse wait s) {l : Load K V E} {a : Answer V E} {time : Nat}
    (hn : standing (s n) i = some (.ended (.load l) a time)) :
    ∃ m < n, ∃ u, Takes machine (s m) (s (m + 1)) i (.load l) u ∧
      LoadTurn (s m).now (s m).shared l u ∧ u.next = .ended a := by
  obtain ⟨m, hm, u, hu, ha, -⟩ := h.chronicle.ended h.fresh hn
  exact ⟨m, hm, u, hu, loadTurn_of_takes hu, ha⟩

/-- How a call answers with the outcome of its own load. -/
def ownAnswer : Except E V → Answer V E
  | .ok v => .executed v
  | .error e => .failed e

lemma LoadCourse.own (h : LoadCourse wait s) {l : Load K V E} (outcome : Except E V) {time : Nat}
    (hn : standing (s n) i = some (.ended (.load l) (ownAnswer outcome) time)) :
    Asked s i l.key outcome ∧ ∃ m < n, Begins s i m := by
  obtain ⟨m, hm, u, ht, hu, ha⟩ := h.ended hn
  have hown : l.outcome = outcome ∧ Loads (s m) i := by
    cases hu with
    | publish hp _ hv =>
      cases outcome <;> cases ha
      exact ⟨hv, l, _, _, ht.before, hp⟩
    | execute hp _ hv =>
      cases outcome <;> cases ha
      exact ⟨hv, l, _, _, ht.before, hp⟩
    | land hp _ hv =>
      cases outcome <;> cases ha
      exact ⟨hv, l, _, _, ht.before, hp⟩
    | fail hp _ hv =>
      cases outcome <;> cases ha
      exact ⟨hv, l, _, _, ht.before, hp⟩
    | _ => cases outcome <;> cases ha
  obtain ⟨b, hb, hbegins⟩ := h.begun hown.2
  exact ⟨hown.1 ▸ h.asked hn rfl, b, hb.trans hm, hbegins⟩

lemma LoadCourse.never_begins (h : LoadCourse wait s) {l : Load K V E} {a : Answer V E}
    {flight due : Nat} (ht : Takes machine (s n) (s (n + 1)) i (.load l) u)
    (hp : l.phase = .joining flight due) (ha : u.next = .ended a) (b : Nat) : ¬ Begins s i b := by
  intro hb
  have h3 := loads_iff.mp hb.2
  have h2 : stage (standing (s n) i) = 2 := by
    rw [ht.before, stage, hp]
    rfl
  have h4 : stage (standing (s (n + 1)) i) = 4 := by
    rw [ht.jobs, update_self, ha]
    rfl
  rcases Nat.lt_or_ge b n with hbn | hnb
  · have hle : stage (standing (s (b + 1)) i) ≤ stage (standing (s n) i) :=
      h.monotone_stage i hbn
    omega
  · have hle : stage (standing (s (n + 1)) i) ≤ stage (standing (s (b + 1)) i) :=
      h.monotone_stage i (Nat.succ_le_succ hnb)
    omega

/-- A call finds that another one leads a flight of its key, and joins it. -/
structure Joins (wait : Duration) (s : Nat → SharedRun K V E) (n i j : Nat) (l : Load K V E)
    (flight : Nat) : Prop where
  arriving : l.phase = .arriving
  before : standing (s n) i = some (.running (.load l))
  leads : Leads (s n) j l.key flight
  after : standing (s (n + 1)) i = some (.running (.load { l with
    phase := .joining flight ((s n).now + Request.limitMillis wait) }))

lemma LoadCourse.joinTimeout (h : LoadCourse wait s) (n : Nat) :
    (s n).shared.joinTimeout = wait := by
  induction n with
  | zero => rw [h.new]; rfl
  | succ n ih =>
    rw [← ih]
    cases (h.chronicle n).passage with
    | pass _ shared _ => rw [shared]
    | change _ shared _ => rw [shared]
    | start _ _ _ _ shared _ => rw [shared]
    | turn i k u takes =>
      rw [takes.shared]
      cases k with
      | sample =>
        rw [stop_of_sample takes]
        rfl
      | load l => cases loadTurn_of_takes takes <;> rfl
    | drop i k _ _ shared _ =>
      rw [shared]
      cases k with
      | sample => rfl
      | load l =>
        obtain ⟨key, duration, outcome, phase⟩ := l
        cases phase with
        | loading flight due => cases flight <;> rfl
        | _ => rfl

lemma LoadCourse.joins (h : LoadCourse wait s) {l : Load K V E} {flight due : Nat}
    (hn : standing (s n) i = some (.running (.load l))) (hp : l.phase = .joining flight due) :
    ∃ m < n, ∃ j, Joins wait s m i j { l with phase := .arriving } flight ∧
      due = (s m).now + Request.limitMillis wait := by
  induction n with
  | zero =>
    obtain ⟨k, hk, -⟩ := h.fresh i _ hn
    cases hk
  | succ n ih =>
    cases h.chronicle.job n i with
    | same jobs =>
      obtain ⟨m, hm, hj⟩ := ih (jobs ▸ hn)
      exact ⟨m, Nat.lt_succ_of_lt hm, hj⟩
    | start k before after =>
      rw [after] at hn
      cases hn
      have hfresh : l.phase = .arriving := h.chronicle.planned h.fresh n i _ before
      rw [hp] at hfresh
      cases hfresh
    | turn k u takes after =>
      rw [after] at hn
      cases k with
      | sample =>
        rw [stop_of_sample takes] at hn
        cases hn
      | load l₀ =>
        cases loadTurn_of_takes takes with
        | @join flight' hp' hk =>
          cases hn
          cases hp
          obtain ⟨j, hj⟩ := (get?_inflight (h.airspace.piloted n) _ _).mp hk
          obtain ⟨key, duration, outcome, phase⟩ := l₀
          cases hp'
          rw [h.joinTimeout] at after ⊢
          exact ⟨n, Nat.lt_succ_self n, j, ⟨rfl, takes.before, hj, after⟩, rfl⟩
        | lead =>
          cases hn
          cases hp
        | fallBack =>
          cases hn
          cases hp
        | _ => cases hn
    | drop k before after =>
      rw [after] at hn
      cases hn

/-- A value that is delivered on a flight is the one of the leader of this flight. -/
lemma LoadCourse.delivered (h : LoadCourse wait s) {l : Load K V E} {flight m q : Nat} {v : V}
    (hj : Leads (s m) j l.key flight) (hv : Delivers (s q) (s (q + 1)) l.key flight v) :
    ∃ l', l'.key = l.key ∧ Leads (s q) j l.key flight ∧
      standing (s (q + 1)) j = some (.ended (.load l') (.executed v) (s q).now) := by
  obtain ⟨j', l', due, hi', hk, hp, he⟩ := hv
  have hleads : Leads (s q) j' l.key flight := ⟨l', due, hi', hk, hp⟩
  obtain rfl := h.one_leader hj hleads
  exact ⟨l', hk, hleads, he⟩

/-- A call that waits sees a value only if the leader whom it joined has ended with it. -/
lemma LoadCourse.received (h : LoadCourse wait s) {l : Load K V E} {flight due m : Nat} {v : V}
    (hj : Leads (s m) j l.key flight) (hn : standing (s n) i = some (.running (.load l)))
    (hp : l.phase = .joining flight due) (hv : (s n).shared.published.get? flight = some v) :
    ∃ q < n, ∃ l', l'.key = l.key ∧ Leads (s q) j l.key flight ∧
      standing (s (q + 1)) j = some (.ended (.load l') (.executed v) (s q).now) ∧
      ∃ l₁, standing (s q) i = some (.running (.load l₁)) ∧ l₁.key = l.key ∧
        l₁.phase = .joining flight due := by
  have hi : aboard viewLoad (standing (s n)) i = some (l.key, .joining flight due) :=
    aboard_eq_some.mpr ⟨_, hn, by rw [viewLoad, hp]⟩
  obtain ⟨q, hq, hd, hi', -⟩ := h.airspace.received hi hv
  obtain ⟨l', hk, hl, he⟩ := h.delivered hj hd
  obtain ⟨k, hk', hview⟩ := aboard_eq_some.mp (hi' q (Nat.le_refl q) hq.le)
  cases k with
  | sample => cases hview
  | load l₁ =>
    rw [viewLoad, Option.some.injEq, Prod.mk.injEq] at hview
    exact ⟨q, hq, l', hk, hl, he, l₁, hk', hview⟩

/-- The time of every call that waits for a flight ends later. -/
def InTime (now : Nat) (f : Standing (Coalescer.Call K V E) (Coalescer.Answer V E)) : Prop :=
  ∀ i l flight due, f i = some (.running (.load l)) → l.phase = .joining flight due → now ≤ due

omit [DecidableEq K] in
lemma InTime.update {now : Nat} {f : Standing (Coalescer.Call K V E) (Coalescer.Answer V E)}
    (h : InTime now f) {x : Stand (Coalescer.Call K V E) (Coalescer.Answer V E)}
    (hx : ∀ l flight due, x = .running (.load l) → l.phase = .joining flight due → now ≤ due) :
    InTime now (update f i (some x)) := by
  intro j l flight due hj hp
  by_cases hji : j = i
  · rw [hji, update_self, Option.some.injEq] at hj
    exact hx l flight due hj hp
  · rw [update_of_ne hji] at hj
    exact h j l flight due hj hp

lemma InTime.turn {r t : SharedRun K V E} {k : Coalescer.Call K V E}
    (h : InTime r.now (standing r)) (hu : Takes machine r t i k u) : InTime t.now (standing t) := by
  rw [hu.now, hu.jobs]
  apply h.update
  intro l flight due hl hp
  cases k with
  | sample =>
    rw [stop_of_sample hu] at hl
    cases hl
  | load l₀ =>
    cases loadTurn_of_takes hu with
    | join =>
      cases hl
      cases hp
      exact Nat.le_add_right _ _
    | lead =>
      cases hl
      cases hp
    | fallBack =>
      cases hl
      cases hp
    | _ => cases hl

lemma inTime_of_tick {r t : SharedRun K V E} {time : Nat}
    (h : r.apply machine (.tick time) = some t) : InTime t.now (standing t) := by
  obtain rfl := eq_of_tick h
  intro i l flight due hi hp
  obtain ⟨-, hexpire, hdue⟩ := waits_of_tick h hi
  have hwait : ¬ due ≤ r.now := by
    intro hle
    change Coalescer.expire r.now r.shared (.load l) = none at hexpire
    simp [Coalescer.expire, hp, hle] at hexpire
  have hmem : due ∈ (machine : Machine (Coalescer K V) _ (Coalescer.Answer V E)).timers
      (.load l) := by
    change due ∈ timers (.load l)
    simp [timers, hp]
  exact (hdue due hmem).resolve_left hwait

/-- If time passes only while every call waits, no call waits too long. -/
lemma LoadCourse.inTime (h : LoadCourse wait s) (hs : Prompt machine s) (n : Nat) :
    InTime (s n).now (standing (s n)) := by
  induction n with
  | zero =>
    intro i l flight due hi
    obtain ⟨k, hk, -⟩ := h.fresh i _ hi
    cases hk
  | succ n ih =>
    rcases Nat.lt_or_ge (s n).now (s (n + 1)).now with hlt | hge
    · obtain ⟨time, ht⟩ := hs n hlt
      exact inTime_of_tick ht
    · have hnow : (s (n + 1)).now = (s n).now :=
        Nat.le_antisymm hge (h.chronicle.monotone_now (Nat.le_succ n))
      cases (h.chronicle n).passage with
      | pass _ _ jobs => rwa [hnow, jobs]
      | change _ _ jobs => rwa [hnow, jobs]
      | turn i k u takes => exact ih.turn takes
      | drop i k _ _ _ jobs =>
        rw [hnow, jobs]
        exact ih.update (by simp)
      | start i k before _ _ jobs =>
        rw [hnow, jobs]
        apply ih.update
        rintro l flight due hl hp
        cases hl
        have hfresh : l.phase = .arriving := h.chronicle.planned h.fresh n i _ before
        rw [hp] at hfresh
        cases hfresh

lemma sight_of_leads {r : SharedRun K V E} {k : K} {flight : Nat}
    (h : Piloted r.shared (aboard viewLoad (standing r))) (hj : Leads r j k flight) :
    r.shared.published.get? flight = none ∧ r.shared.sight k flight = .waiting := by
  have hk := (get?_inflight h k flight).mpr ⟨j, hj⟩
  have hnone : r.shared.published.get? flight = none := by
    by_contra hsome
    obtain ⟨v, hv⟩ := Option.ne_none_iff_exists'.mp hsome
    exact (h.landed flight v (mem_of_get? hv)).2 k (mem_of_get? hk)
  refine ⟨hnone, ?_⟩
  unfold Coalescer.sight
  rw [hnone]
  exact if_pos hk

/-- What has become of a call by a moment since it joined a flight; `l` is the call that waits. -/
inductive Aftermath (s : Nat → SharedRun K V E) (n i : Nat) (l : Load K V E) (flight : Nat) :
    Prop where
  | waits (here : standing (s n) i = some (.running (.load l)))
  | begun (m : Nat) (earlier : m < n) (begins : Begins s i m)
  | received (m : Nat) (v : V) (earlier : m < n)
      (waited : standing (s m) i = some (.running (.load l)))
      (value : (s m).shared.published.get? flight = some v)
  | dropped (time : Nat) (here : standing (s n) i = some (.dropped (.load l) time))

lemma LoadCourse.aftermath (h : LoadCourse wait s) {l : Load K V E} {flight due m : Nat}
    (hp : l.phase = .joining flight due) (hm : standing (s m) i = some (.running (.load l)))
    (hmn : m ≤ n) : Aftermath s n i l flight := by
  induction n, hmn using Nat.le_induction with
  | base => exact .waits hm
  | succ n _ ih =>
    cases ih with
    | begun b hb hbegins => exact .begun b (Nat.lt_succ_of_lt hb) hbegins
    | received b v hb hw hv => exact .received b v (Nat.lt_succ_of_lt hb) hw hv
    | dropped time hd =>
      exact .dropped time (h.chronicle.finished hd (by simp) (Nat.le_succ n))
    | waits hn =>
      cases h.chronicle.job n i with
      | same jobs => exact .waits (jobs ▸ hn)
      | start k before _ =>
        rw [hn] at before
        cases before
      | drop k before after =>
        rw [hn] at before
        cases before
        exact .dropped _ after
      | turn k u takes after =>
        have before := takes.before
        rw [hn] at before
        cases before
        rcases (loadTurn_of_takes takes).of_joining hp with ⟨v, hv, -⟩ | rfl
        · exact .received n v (Nat.lt_succ_self n) hn hv
        · refine .begun n (Nat.lt_succ_self n) ⟨?_, _, _, _, after, rfl⟩
          rw [loads_iff, hn, stage, hp]
          simp [phaseStage]

/-- A call ended with an error or was dropped. -/
def Lost (r : SharedRun K V E) (j : Nat) : Prop :=
  (∃ k e time, standing r j = some (.ended k (.failed e) time)) ∨
    ∃ k time, standing r j = some (.dropped k time)

/-- A call was dropped, or it has begun its own load, or all that it can do is to begin it. -/
def OnItsOwn (s : Nat → SharedRun K V E) (n i : Nat) : Prop :=
  (∃ k time, standing (s n) i = some (.dropped k time)) ∨ (∃ m < n, Begins s i m) ∨
    ∃ l due, standing (s n) i = some (.running (.load l)) ∧
      machine.advance (s n).now (s n).shared (.load l) =
        some (goOn (s n).shared.countFallback l (.loading none due))

/-- While a leader leads, and after it has ended without a value, nobody who waits for its flight
sees one. -/
lemma LoadCourse.unheard (h : LoadCourse wait s) {l : Load K V E} {flight due b m : Nat}
    (hj : Leads (s m) j l.key flight) (hn : Lost (s n) j ∨ Leads (s n) j l.key flight)
    (hb : b ≤ n) (hi : standing (s b) i = some (.running (.load l)))
    (hp : l.phase = .joining flight due) : (s b).shared.published.get? flight = none := by
  by_contra hsome
  obtain ⟨v, hv⟩ := Option.ne_none_iff_exists'.mp hsome
  obtain ⟨q, hq, l', -, -, he, -⟩ := h.received hj hi hp hv
  have hend : standing (s n) j = some (.ended (.load l') (.executed v) (s q).now) :=
    h.chronicle.finished he (by simp) (hb.trans' hq)
  rcases hn with (⟨k, e, time, hk⟩ | ⟨k, time, hk⟩) | ⟨l'', due', hk, -⟩
  all_goals
    rw [hend] at hk
    cases hk

/-- A call that joined a leader who has not published a value was dropped, has begun its own load or
still waits. -/
lemma LoadCourse.fate (h : LoadCourse wait s) {l : Load K V E} {flight due m q : Nat}
    (hj : Leads (s m) j l.key flight) (hn : Lost (s n) j ∨ Leads (s n) j l.key flight)
    (hp : l.phase = .joining flight due) (hi : standing (s q) i = some (.running (.load l)))
    (hqn : q ≤ n) :
    (∃ k time, standing (s n) i = some (.dropped k time)) ∨ (∃ b < n, Begins s i b) ∨
      standing (s n) i = some (.running (.load l)) ∧
        (s n).shared.published.get? flight = none := by
  cases h.aftermath hp hi hqn with
  | dropped time hd => exact .inl ⟨_, _, hd⟩
  | begun b hb hbegins => exact .inr (.inl ⟨b, hb, hbegins⟩)
  | waits hi => exact .inr (.inr ⟨hi, h.unheard hj hn (Nat.le_refl n) hi hp⟩)
  | received b v hb hw hv =>
    have hnone := h.unheard hj hn hb.le hw hp
    rw [hv] at hnone
    cases hnone

/-- A call that waits for a flight without a value begins its own load when the leader has ended,
and when its time is over. -/
lemma LoadCourse.falls_back (h : LoadCourse wait s) {l : Load K V E} {flight due m : Nat}
    (hj : Leads (s m) j l.key flight)
    (hn : Lost (s n) j ∨ Leads (s n) j l.key flight ∧ due ≤ (s n).now)
    (hp : l.phase = .joining flight due)
    (hnone : (s n).shared.published.get? flight = none) :
    machine.advance (s n).now (s n).shared (.load l) =
      some (fallBack (s n).now (s n).shared l) := by
  have hpiloted := h.airspace.piloted n
  change (stepLoad _ _ l).or (Coalescer.expire _ _ (.load l)) = _
  rcases hn with hlost | ⟨hleads, hdue⟩
  · have hgone : (s n).shared.inflight.get? l.key ≠ some flight := by
      intro hk
      obtain ⟨j', hj'⟩ := (get?_inflight hpiloted l.key flight).mp hk
      obtain rfl := h.one_leader hj hj'
      obtain ⟨l', due', hi, -⟩ := hj'
      rcases hlost with ⟨k, e, time, hk⟩ | ⟨k, time, hk⟩
      all_goals
        rw [hi] at hk
        cases hk
    have hsight : (s n).shared.sight l.key flight = .lost := by
      unfold Coalescer.sight
      rw [hnone]
      exact if_neg hgone
    simp [stepLoad, hp, hsight]
  · have hsight := (sight_of_leads hpiloted hleads).2
    simp [stepLoad, hp, hsight, Coalescer.expire, hdue]

/-- A call that ended before moment `n` joined the leader of its key at moment `m`, and this leader
ended with a value at moment `q`. -/
def HandedOver (wait : Duration) (s : Nat → SharedRun K V E) (n i : Nat) (k : K) (v : V)
    (m q : Nat) : Prop :=
  ∃ j l flight, Joins wait s m i j l flight ∧ l.key = k ∧ q < n ∧ Leads (s q) j k flight ∧
    ∃ l', standing (s (q + 1)) j = some (.ended (.load l') (.executed v) (s q).now)

/-- What calls that share their loads can rely on. -/
structure Sharing (wait : Duration) (s : Nat → SharedRun K V E) : Prop where
  /-- A call begins its load at most once. -/
  once : ∀ i m n, Begins s i m → Begins s i n → m = n
  executed : ∀ n i l v time, standing (s n) i = some (.ended (.load l) (.executed v) time) →
    Asked s i l.key (.ok v) ∧ ∃ m < n, Begins s i m
  failed : ∀ n i l e time, standing (s n) i = some (.ended (.load l) (.failed e) time) →
    Asked s i l.key (.error e) ∧ ∃ m < n, Begins s i m
  /-- The value of another call is the one with which the leader ended whom the call joined. -/
  joined : ∀ n i l v time, standing (s n) i = some (.ended (.load l) (.joined v) time) →
    (∀ m, ¬ Begins s i m) ∧ ∃ m q, HandedOver wait s n i l.key v m q
  /-- A call whose leader ends without a value, or is still loading when the time for waiting is
  over, is on its own. -/
  lost : ∀ m n i j l flight, Joins wait s m i j l flight → m < n →
    Lost (s n) j ∨ Leads (s n) j l.key flight ∧
      (s m).now + Request.limitMillis wait ≤ (s n).now → OnItsOwn s n i

/-- What calls can rely on besides if none of them is kept waiting for its turn. -/
structure Punctual (wait : Duration) (s : Nat → SharedRun K V E) : Prop where
  /-- The leader whose value a call was given ended before the time for waiting was over. -/
  joined : ∀ n i l v time, standing (s n) i = some (.ended (.load l) (.joined v) time) →
    ∀ m q, HandedOver wait s n i l.key v m q → (s q).now ≤ (s m).now + Request.limitMillis wait
  /-- When the time for waiting is over and the leader still loads, the call has begun to load. -/
  late : ∀ m n i j l flight, Joins wait s m i j l flight → m < n → Leads (s n) j l.key flight →
    (s m).now + Request.limitMillis wait < (s n).now →
    (∃ k time, standing (s n) i = some (.dropped k time)) ∨ ∃ b < n, Begins s i b

lemma LoadCourse.joined (h : LoadCourse wait s) {l : Load K V E} {v : V} {time : Nat}
    (hn : standing (s n) i = some (.ended (.load l) (.joined v) time)) :
    (∀ m, ¬ Begins s i m) ∧ ∃ m q, HandedOver wait s n i l.key v m q := by
  obtain ⟨r, hr, u, ht, hu, ha⟩ := h.ended hn
  have hwaits : ∃ flight due, l.phase = .joining flight due ∧
      (s r).shared.published.get? flight = some v := by
    cases hu with
    | receive hp hv =>
      cases ha
      exact ⟨_, _, hp, hv⟩
    | _ => cases ha
  obtain ⟨flight, due, hp, hv⟩ := hwaits
  obtain ⟨m, -, j, hj, -⟩ := h.joins ht.before hp
  have hled : Leads (s m) j l.key flight := hj.leads
  obtain ⟨q, hq, l', -, hl, he, -⟩ := h.received hled ht.before hp hv
  exact ⟨h.never_begins ht hp ha, m, q, j, _, flight, hj, rfl, hq.trans hr, hl, l', he⟩

/-- A call that waits for a flight of its key, and has been doing so since it joined it. -/
lemma LoadCourse.waiting (h : LoadCourse wait s) {l : Load K V E} {flight m : Nat}
    (hj : Joins wait s m i j l flight) (hmn : m < n) (hl : Leads (s n) j l.key flight) :
    (∃ k time, standing (s n) i = some (.dropped k time)) ∨ (∃ b < n, Begins s i b) ∨
      ∃ l', standing (s n) i = some (.running (.load l')) ∧
        l'.phase = .joining flight ((s m).now + Request.limitMillis wait) := by
  let w : Load K V E :=
    { l with phase := .joining flight ((s m).now + Request.limitMillis wait) }
  rcases h.fate (l := w) hj.leads (.inr hl) rfl hj.after hmn with hd | hb | ⟨hi, -⟩
  · exact .inl hd
  · exact .inr (.inl hb)
  · exact .inr (.inr ⟨w, hi, rfl⟩)

/-- If time passes only while every call waits, and not beyond an instant for which one waits, then
no call waits for its leader beyond its time. -/
theorem LoadCourse.punctual (h : LoadCourse wait s) (hs : Prompt machine s) : Punctual wait s where
  joined n i l v time hn m q hv := by
    obtain ⟨j, l₀, flight, hj, hkey, hq, hl, -⟩ := hv
    rw [← hkey] at hl
    rcases Nat.lt_or_ge m q with hmq | hqm
    · rcases h.waiting hj hmq hl with ⟨k, t, hd⟩ | ⟨b, -, hb⟩ | ⟨l', hi, hp⟩
      · have hend := h.chronicle.finished hd (by simp) hq.le
        rw [hn] at hend
        cases hend
      · exact absurd hb ((h.joined hn).1 b)
      · exact h.inTime hs q i l' flight _ hi hp
    · exact (h.chronicle.monotone_now hqm).trans (Nat.le_add_right _ _)
  late m n i j l flight hj hmn hl hlate := by
    rcases h.waiting hj hmn hl with hd | hb | ⟨l', hi, hp⟩
    · exact .inl hd
    · exact .inr hb
    · exact absurd (h.inTime hs n i l' flight _ hi hp) (Nat.not_le_of_lt hlate)

/-- Each call loads at most once and answers with its own error or value, or with the value of the
leader of its key whom it joined; and it loads for itself if this leader is lost. If time passes
only while all calls wait, it also loads for itself if the leader is late. -/
theorem loads_shared (h : LoadCourse wait s) :
    Sharing wait s ∧ (Prompt machine s → Punctual wait s) := by
  refine ⟨⟨fun i m n => h.begins_once, fun n i l v time hn => h.own (.ok v) hn,
    fun n i l e time hn => h.own (.error e) hn, fun n i l v time hn => h.joined hn, ?_⟩, h.punctual⟩
  intro m n i j l flight hj hmn hn
  let w : Load K V E :=
    { l with phase := .joining flight ((s m).now + Request.limitMillis wait) }
  have hled : Leads (s m) j w.key flight := hj.leads
  rcases h.fate (l := w) hled (hn.imp_right And.left) rfl hj.after hmn with
    hd | hbegins | ⟨hi, hnone⟩
  · exact .inl hd
  · exact .inr (.inl hbegins)
  · exact .inr (.inr ⟨w, _, hi, h.falls_back hled hn rfl hnone⟩)

end Course

/-- Three keys are loaded by two calls each. The first leader succeeds, the second one fails, and
the third one takes longer than the call waits that joined it. -/
def relayDeeds : List (Deed (Coalescer Nat Nat)) :=
  [.start 0, .step 0, .start 1, .step 1, .start 2, .step 2, .start 3, .step 3, .start 4, .step 4,
    .start 5, .step 5, .tick 4, .step 2, .step 3, .tick 10, .step 0, .step 1, .tick 12, .step 3,
    .tick 20, .expire 5, .tick 22].map .event

def relay : Nat → SharedRun Nat Nat String :=
  play machine ⟨0, .new (.ofMillis 20), [],
    [⟨0, none, .planned (.load ⟨1, 10, .ok 5, .arriving⟩)⟩,
      ⟨0, none, .planned (.load ⟨1, 3, .ok 6, .arriving⟩)⟩,
      ⟨0, none, .planned (.load ⟨2, 4, .error "no answer", .arriving⟩)⟩,
      ⟨0, none, .planned (.load ⟨2, 8, .ok 7, .arriving⟩)⟩,
      ⟨0, none, .planned (.load ⟨3, 30, .ok 8, .arriving⟩)⟩,
      ⟨0, none, .planned (.load ⟨3, 2, .ok 9, .arriving⟩)⟩]⟩ relayDeeds

lemma course_relay : LoadCourse (.ofMillis 20) relay where
  chronicle := chronicle_play _ _ (by simp [relayDeeds])
  new := rfl
  fresh := unstarted_of_jobs (by simp [relay, Fresh])

lemma prompt_relay : Prompt machine relay :=
  prompt_play _ _ (by simp [relayDeeds])

theorem loads_shared_relay :
    Asked relay 0 1 (.ok 5) ∧
      (∃ m q, HandedOver (.ofMillis 20) relay 18 1 1 5 m q ∧ (relay q).now ≤ (relay m).now + 20) ∧
      OnItsOwn relay 14 3 ∧ ∃ b < 23, Begins relay 5 b := by
  obtain ⟨hshared, hpunctual⟩ := loads_shared course_relay
  have hpunctual := hpunctual prompt_relay
  have hexecuted : standing (relay 17) 0 =
      some (.ended (.load ⟨1, 10, .ok 5, .loading (some 0) 10⟩) (.executed 5) 10) := rfl
  have hjoined : standing (relay 18) 1 =
      some (.ended (.load ⟨1, 3, .ok 6, .joining 0 20⟩) (.joined 5) 10) := rfl
  have hfailed : standing (relay 14) 2 =
      some (.ended (.load ⟨2, 4, .error "no answer", .loading (some 1) 4⟩) (.failed "no answer") 4) :=
    rfl
  have hleads : standing (relay 23) 4 =
      some (.running (.load ⟨3, 30, .ok 8, .loading (some 2) 30⟩)) := rfl
  have hsecond : Joins (.ofMillis 20) relay 7 3 2 ⟨2, 8, .ok 7, .arriving⟩ 1 :=
    ⟨rfl, rfl, ⟨_, _, rfl, rfl, rfl⟩, rfl⟩
  have hthird : Joins (.ofMillis 20) relay 11 5 4 ⟨3, 2, .ok 9, .arriving⟩ 2 :=
    ⟨rfl, rfl, ⟨_, _, rfl, rfl, rfl⟩, rfl⟩
  obtain ⟨-, m, q, hvalue⟩ := hshared.joined 18 1 _ 5 10 hjoined
  have hbound := hpunctual.joined 18 1 _ 5 10 hjoined m q hvalue
  have hown := hshared.lost 7 14 3 2 _ 1 hsecond (by decide) (.inl (.inl ⟨_, _, _, hfailed⟩))
  refine ⟨(hshared.executed 17 0 _ 5 10 hexecuted).1, ⟨m, q, hvalue, hbound⟩, hown, ?_⟩
  have hlate : (relay 11).now + Request.limitMillis (.ofMillis 20) < (relay 23).now := by decide
  rcases hpunctual.late 11 23 5 4 _ 2 hthird (by decide) ⟨_, _, hleads, rfl, rfl⟩ hlate with
    ⟨k, time, hd⟩ | hbegins
  · cases hd
  · exact hbegins

/-- A leader and a call that joins it, while other deeds are done. -/
def pairOf (outcome : Except String Nat) (deeds : List (Deed (Coalescer Nat Nat))) :
    Nat → SharedRun Nat Nat String :=
  play machine ⟨0, .new (.ofMillis 20), [],
    [⟨0, none, .planned (.load ⟨1, 30, outcome, .arriving⟩)⟩,
      ⟨0, none, .planned (.load ⟨1, 3, .ok 6, .arriving⟩)⟩]⟩
    ([.event (.start 0), .event (.step 0), .event (.start 1), .event (.step 1)] ++ deeds)

lemma course_pairOf (outcome : Except String Nat) {deeds : List (Deed (Coalescer Nat Nat))}
    (h : ∀ d ∈ deeds, d.Allowed Untouched) : LoadCourse (.ofMillis 20) (pairOf outcome deeds) where
  chronicle := chronicle_play _ _ (by simpa using h)
  new := rfl
  fresh := unstarted_of_jobs (by simp [pairOf, Fresh])

lemma joins_pairOf (outcome : Except String Nat) (deeds : List (Deed (Coalescer Nat Nat))) :
    Joins (.ofMillis 20) (pairOf outcome deeds) 3 1 0 ⟨1, 3, .ok 6, .arriving⟩ 0 :=
  ⟨rfl, rfl, ⟨_, _, rfl, rfl, rfl⟩, by cases deeds <;> rfl⟩

/-- A call that gets its turn late is given a value for which it should no longer have waited, and
one that is dropped does not load for itself when its leader fails. -/
theorem not_loads_shared :
    (¬ ∀ (wait : Duration) (s : Nat → SharedRun Nat Nat String),
      LoadCourse wait s → Punctual wait s) ∧
    ¬ ∀ (wait : Duration) (s : Nat → SharedRun Nat Nat String), LoadCourse wait s →
      ∀ m n i j l flight, Joins wait s m i j l flight → m < n → Lost (s n) j →
        ∃ b, Begins s i b := by
  constructor
  · intro hall
    let tardy := pairOf (.ok 5) [.pass 30, .event (.step 0), .event (.step 1)]
    have hbound := (hall _ tardy (course_pairOf _ (by simp))).joined 7 1
      ⟨1, 3, .ok 6, .joining 0 20⟩ 5 30 rfl 3 5
      ⟨0, _, 0, joins_pairOf _ _, rfl, by decide, ⟨_, _, rfl, rfl, rfl⟩, ⟨_, rfl⟩⟩
    exact absurd hbound (by decide)
  · intro hall
    let left := pairOf (.error "no answer") [.event (.drop 1), .pass 30, .event (.step 0)]
    have hcourse : LoadCourse (.ofMillis 20) left := course_pairOf _ (by simp)
    obtain ⟨b, hb⟩ := hall _ left hcourse 3 7 1 0 _ 0 (joins_pairOf _ _) (by decide)
      (.inl ⟨_, "no answer", 30, rfl⟩)
    have hloads := loads_iff.mp hb.2
    have hdropped : standing (left 5) 1 =
        some (.dropped (.load ⟨1, 3, .ok 6, .joining 0 20⟩) 0) := rfl
    rcases Nat.lt_or_ge b 4 with hlt | hge
    · have hearly : stage (standing (left (b + 1)) 1) ≤ stage (standing (left 4) 1) :=
        hcourse.monotone_stage 1 hlt
      have htwo : stage (standing (left 4) 1) = 2 := rfl
      omega
    · rw [hcourse.chronicle.finished hdropped (by simp) (Nat.succ_le_succ hge)] at hloads
      cases hloads

end Tenancy.Proofs
