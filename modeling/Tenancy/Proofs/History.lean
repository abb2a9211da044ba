import Mathlib.Logic.Function.Basic
import Tenancy.Schedule

/-!
# Histories of schedules

`Reaches` is driven by the events of a schedule whose time stands still while a call can go on. A
history admits more: time may pass by any amount between two turns, and the surroundings of the
calls may change the shared state in the ways that they have. It collects the calls that ended by a
turn of their own in the order in which they ended. What a history keeps is shown once for all
machines by `History.keeps`: it is enough to look at one turn, one start and one drop.
-/

namespace Tenancy.Proofs

open Function

variable {σ κ ρ : Type}

/-- How far each job of a run has come. -/
abbrev Standing (κ ρ : Type) := Nat → Option (Stand κ ρ)

def standing (r : Run σ κ ρ) : Standing κ ρ :=
  fun i => r.jobs[i]?.map Job.stand

/-- The job whose call has ended by its own turn at an event, with the call and its result. -/
def ended? (r : Run σ κ ρ) : Event → Option (Nat × κ × ρ)
  | .step i =>
    match standing r i with
    | some (.ended k a _) => some (i, k, a)
    | _ => none
  | _ => none

/-- What can come of a run when the surroundings may do what `outside` says between two turns, and
only those states occur that `admits` allows. -/
inductive History (m : Machine σ κ ρ) (outside : σ → σ → Prop) (admits : σ → Standing κ ρ → Prop)
    (r : Run σ κ ρ) : List (Nat × κ × ρ) → Run σ κ ρ → Prop where
  | nil : admits r.shared (standing r) → History m outside admits r [] r
  | event {log s t} (e : Event) : History m outside admits r log s → s.apply m e = some t →
      admits t.shared (standing t) → History m outside admits r (log ++ (ended? t e).toList) t
  | pass {log s} (time : Nat) : History m outside admits r log s → s.now ≤ time →
      History m outside admits r log { s with now := time }
  | change {log s} (shared : σ) : History m outside admits r log s → outside s.shared shared →
      admits shared (standing s) → History m outside admits r log { s with shared }

/-- Every state is allowed. -/
def anyState : σ → Standing κ ρ → Prop :=
  fun _ _ => True

/-- Every call of a run has yet to start, and is as a new one is. -/
def Unstarted (new : κ → Prop) (f : Standing κ ρ) : Prop :=
  ∀ i s, f i = some s → ∃ k, s = .planned k ∧ new k

/-- Every call of a run that has yet to start is as a new one is. -/
def Planned (new : κ → Prop) (f : Standing κ ρ) : Prop :=
  ∀ i k, f i = some (.planned k) → new k

lemma Unstarted.planned {new : κ → Prop} {f : Standing κ ρ} (h : Unstarted new f) :
    Planned new f := by
  intro i k hi
  obtain ⟨k', hk, hn⟩ := h i _ hi
  rwa [Stand.planned.inj hk]

lemma Planned.update {new : κ → Prop} {f : Standing κ ρ} (h : Planned new f) (i : Nat)
    {x : Stand κ ρ} (hx : ∀ k, x ≠ .planned k) : Planned new (update f i (some x)) := by
  intro j k hj
  by_cases hji : j = i
  · rw [hji, update_self, Option.some.injEq] at hj
    exact absurd hj (hx k)
  · rw [update_of_ne hji] at hj
    exact h j k hj

lemma unstarted_of_jobs {new : κ → Prop} {r : Run σ κ ρ}
    (h : ∀ t ∈ r.jobs, ∃ k, t.stand = .planned k ∧ new k) : Unstarted new (standing r) := by
  intro i x hi
  obtain ⟨t, ht, rfl⟩ := Option.map_eq_some_iff.mp hi
  exact h t (List.mem_of_getElem? ht)

lemma standing_put {r : Run σ κ ρ} {i : Nat} {s : Stand κ ρ} (h : standing r i = some s)
    (x : Stand κ ρ) : standing (r.put i x) = update (standing r) i (some x) := by
  funext j
  have hi : i < r.jobs.length := by
    by_contra hn
    simp [standing, List.getElem?_eq_none (Nat.le_of_not_lt hn)] at h
  by_cases hj : j = i
  · subst hj
    simp [standing, Run.put, hi]
  · simp [standing, Run.put, hj, Ne.symm hj]

lemma running?_eq_some {r : Run σ κ ρ} {i : Nat} {k : κ} :
    r.running? i = some k ↔ standing r i = some (.running k) := by
  simp only [Run.running?, standing, Option.bind_eq_some_iff, Option.map_eq_some_iff]
  constructor
  · rintro ⟨t, ht, hk⟩
    refine ⟨t, ht, ?_⟩
    unfold Job.running? at hk
    split at hk
    · rename_i k' hs
      rw [hs, Option.some.inj hk]
    · cases hk
  · rintro ⟨t, ht, hk⟩
    exact ⟨t, ht, by simp [Job.running?, hk]⟩

lemma apply_cases {m : Machine σ κ ρ} {r t : Run σ κ ρ} {e : Event} (h : r.apply m e = some t) :
    (∃ i k, e = .start i ∧ standing r i = some (.planned k) ∧ t = r.put i (.running k)) ∨
    (∃ i k u, e = .step i ∧ standing r i = some (.running k) ∧ m.step r.now r.shared k = some u ∧
      t = r.turn i k u) ∨
    (∃ i k u, e = .expire i ∧ standing r i = some (.running k) ∧
      m.step r.now r.shared k = none ∧ m.expire r.now r.shared k = some u ∧ t = r.turn i k u) ∨
    (∃ i k, e = .drop i ∧ standing r i = some (.running k) ∧
      t = { r with shared := m.drop r.shared k }.put i (.dropped k r.now)) ∨
    (∃ time, e = .tick time ∧ r.now ≤ time ∧ t = { r with now := time }) := by
  cases e with
  | start i =>
    simp only [Run.apply, Option.bind_eq_bind, Option.bind_eq_some_iff] at h
    obtain ⟨j, hj, k, hk, h⟩ := h
    split at h
    · cases h
    · refine .inl ⟨i, k, rfl, ?_, (Option.some.inj h).symm⟩
      unfold Job.planned? at hk
      split at hk
      · rename_i k' hs
        simp [standing, hj, hs, Option.some.inj hk]
      · cases hk
  | step i =>
    simp only [Run.apply, Option.bind_eq_bind, Option.bind_eq_some_iff] at h
    obtain ⟨k, hk, u, hu, h⟩ := h
    exact .inr (.inl ⟨i, k, u, rfl, running?_eq_some.mp hk, hu, (Option.some.inj h).symm⟩)
  | expire i =>
    simp only [Run.apply, Option.bind_eq_bind, Option.bind_eq_some_iff] at h
    obtain ⟨k, hk, h⟩ := h
    split at h
    · cases h
    · rename_i hn
      obtain ⟨u, hu, h⟩ := Option.bind_eq_some_iff.mp h
      exact .inr (.inr (.inl ⟨i, k, u, rfl, running?_eq_some.mp hk,
        by simpa using hn, hu, (Option.some.inj h).symm⟩))
  | drop i =>
    simp only [Run.apply, Option.bind_eq_bind, Option.bind_eq_some_iff] at h
    obtain ⟨k, hk, h⟩ := h
    exact .inr (.inr (.inr (.inl ⟨i, k, rfl, running?_eq_some.mp hk, (Option.some.inj h).symm⟩)))
  | tick time =>
    simp only [Run.apply] at h
    split at h
    · rename_i hc
      exact .inr (.inr (.inr (.inr ⟨time, rfl, Nat.le_of_lt hc.1, (Option.some.inj h).symm⟩)))
    · cases h

lemma eq_of_tick {m : Machine σ κ ρ} {r t : Run σ κ ρ} {time : Nat}
    (h : r.apply m (.tick time) = some t) : t = { r with now := time } := by
  simp only [Run.apply] at h
  split at h
  · exact (Option.some.inj h).symm
  · cases h

/-- Time passes only while every call waits, and not beyond an instant for which one waits. -/
lemma waits_of_tick {m : Machine σ κ ρ} {r t : Run σ κ ρ} {time i : Nat} {k : κ}
    (h : r.apply m (.tick time) = some t) (hi : standing r i = some (.running k)) :
    m.step r.now r.shared k = none ∧ m.expire r.now r.shared k = none ∧
      ∀ due ∈ m.timers k, due ≤ r.now ∨ time ≤ due := by
  simp only [Run.apply] at h
  split at h
  · rename_i hc
    obtain ⟨-, hwait, hdue⟩ := hc
    obtain ⟨j, hj, hs⟩ := Option.map_eq_some_iff.mp hi
    have hmem : j ∈ r.jobs := List.mem_of_getElem? hj
    have hk : j.running? = some k := by simp [Job.running?, hs]
    have hstuck : (r.canStep m j || r.canExpire m j) = false := by
      simpa using fun hcan => hwait (List.any_eq_true.mpr ⟨j, hmem, hcan⟩)
    rw [Bool.or_eq_false_iff] at hstuck
    have hstep : m.step r.now r.shared k = none := by
      simpa [Run.canStep, hk] using hstuck.1
    refine ⟨hstep, ?_, ?_⟩
    · simpa [Run.canExpire, hk, hstep] using hstuck.2
    · intro due hd
      have hin : due ∈ r.jobs.flatMap (Run.dueTimes m) :=
        List.mem_flatMap.mpr ⟨j, hmem, by simp [Run.dueTimes, hs, hd]⟩
      simpa using List.all_eq_true.mp hdue due hin
  · cases h

/-- Where the job of a call stands after a turn. -/
def Stand.after (time : Nat) (k : κ) : Next κ ρ → Stand κ ρ
  | .running k' => .running k'
  | .ended a => .ended k a time

lemma after_ne_planned (time : Nat) (k k' : κ) (n : Next κ ρ) :
    Stand.after time k n ≠ .planned k' := by
  cases n <;> simp [Stand.after]

/-- The entry in a history of a turn of its own of a call. -/
def entry (i : Nat) (k : κ) : Next κ ρ → List (Nat × κ × ρ)
  | .running _ => []
  | .ended a => [(i, k, a)]

lemma turn_shared (r : Run σ κ ρ) (i : Nat) (k : κ) (u : Turn σ κ ρ) :
    (r.turn i k u).shared = u.shared := by
  unfold Run.turn
  split <;> rfl

lemma turn_now (r : Run σ κ ρ) (i : Nat) (k : κ) (u : Turn σ κ ρ) : (r.turn i k u).now = r.now := by
  unfold Run.turn
  split <;> rfl

lemma standing_turn {r : Run σ κ ρ} {i : Nat} {k : κ} (h : standing r i = some (.running k))
    (u : Turn σ κ ρ) :
    standing (r.turn i k u) = update (standing r) i (some (Stand.after r.now k u.next)) := by
  let c : Run σ κ ρ := { r with shared := u.shared, notices := r.notices ++ u.notices }
  have hc : standing c i = some (.running k) := h
  have hp : standing (r.turn i k u) = standing (c.put i (Stand.after r.now k u.next)) := by
    unfold Run.turn
    cases u.next <;> rfl
  rw [hp, standing_put hc]
  rfl

lemma ended?_turn {r : Run σ κ ρ} {i : Nat} {k : κ} (h : standing r i = some (.running k))
    (u : Turn σ κ ρ) : (ended? (r.turn i k u) (.step i)).toList = entry i k u.next := by
  simp only [ended?, standing_turn h, update_self]
  cases u.next <;> rfl

/-- A property of a history, its time, the shared state and the jobs that the next thing to happen
cannot end. -/
structure Kept (m : Machine σ κ ρ) (outside : σ → σ → Prop) (admits : σ → Standing κ ρ → Prop)
    (P : List (Nat × κ × ρ) → Nat → σ → Standing κ ρ → Prop) : Prop where
  pass : ∀ {log now time s f}, P log now s f → now ≤ time → P log time s f
  change : ∀ {log now s s' f}, P log now s f → outside s s' → admits s' f → P log now s' f
  start : ∀ {log now s f i k}, P log now s f → f i = some (.planned k) →
    admits s (update f i (some (.running k))) → P log now s (update f i (some (.running k)))
  step : ∀ {log now s f i k u}, P log now s f → f i = some (.running k) →
    m.step now s k = some u → admits u.shared (update f i (some (Stand.after now k u.next))) →
    P (log ++ entry i k u.next) now u.shared (update f i (some (Stand.after now k u.next)))
  expire : ∀ {log now s f i k u}, P log now s f → f i = some (.running k) →
    m.step now s k = none → m.expire now s k = some u →
    admits u.shared (update f i (some (Stand.after now k u.next))) →
    P log now u.shared (update f i (some (Stand.after now k u.next)))
  drop : ∀ {log now s f i k}, P log now s f → f i = some (.running k) →
    admits (m.drop s k) (update f i (some (.dropped k now))) →
    P log now (m.drop s k) (update f i (some (.dropped k now)))

variable {m : Machine σ κ ρ} {outside : σ → σ → Prop} {admits : σ → Standing κ ρ → Prop}
  {r r' : Run σ κ ρ} {log : List (Nat × κ × ρ)}

/-- What holds at first and cannot be ended holds at the end of every history. -/
theorem History.keeps {P : List (Nat × κ × ρ) → Nat → σ → Standing κ ρ → Prop}
    (h : History m outside admits r log r') (hP : Kept m outside admits P)
    (h₀ : P [] r.now r.shared (standing r)) : P log r'.now r'.shared (standing r') := by
  induction h with
  | nil => exact h₀
  | @event log s t e h hs ha ih =>
    rcases apply_cases hs with ⟨i, k, rfl, hi, rfl⟩ | ⟨i, k, u, rfl, hi, hu, rfl⟩ |
      ⟨i, k, u, rfl, hi, hn, hu, rfl⟩ | ⟨i, k, rfl, hi, rfl⟩ | ⟨time, rfl, ht, rfl⟩
    · have hf := standing_put hi (.running k)
      rw [hf] at ha ⊢
      simpa [ended?, Run.put] using hP.start ih hi ha
    · rw [ended?_turn hi, turn_now]
      rw [turn_shared, standing_turn hi] at ha ⊢
      exact hP.step ih hi hu ha
    · rw [turn_now]
      rw [turn_shared, standing_turn hi] at ha ⊢
      simpa [ended?] using hP.expire ih hi hn hu ha
    · let d : Run σ κ ρ := { s with shared := m.drop s.shared k }
      have hf : standing (d.put i (.dropped k s.now)) = update (standing s) i _ :=
        standing_put (r := d) hi _
      rw [hf] at ha ⊢
      simpa [ended?, Run.put] using hP.drop ih hi ha
    · rw [show (ended? { s with now := time } (.tick time)).toList = [] from rfl, List.append_nil]
      exact hP.pass ih ht
  | pass time h ht ih => exact hP.pass ih ht
  | change shared h hc ha ih => exact hP.change ih hc ha

lemma History.admitted (h : History m outside admits r log r') :
    admits r.shared (standing r) := by
  induction h with
  | nil h => exact h
  | event e h hs ha ih => exact ih
  | pass time h ht ih => exact ih
  | change shared h hc ha ih => exact ih

/-- Schedules are histories in which the surroundings do nothing. -/
theorem history_of_reaches (h : Reaches m r r')
    (ha : ∀ s, Reaches m r s → admits s.shared (standing s)) :
    ∃ log, History m outside admits r log r' := by
  induction h with
  | refl => exact ⟨[], .nil (ha r .refl)⟩
  | next e hr hs ih =>
    obtain ⟨log, hl⟩ := ih
    exact ⟨_, .event e hl hs (ha _ (.next e hr hs))⟩

/-- The run after an event, if it can happen. -/
def follow (m : Machine σ κ ρ) (r : Run σ κ ρ) (e : Event) : Run σ κ ρ :=
  (r.apply m e).getD r

/-- Events that lead only through states that are allowed make a history. -/
theorem history_of_events (es : List Event)
    (ha : ∀ n ≤ es.length, admits ((es.take n).foldl (follow m) r).shared
      (standing ((es.take n).foldl (follow m) r))) :
    ∃ log, History m outside admits r log (es.foldl (follow m) r) := by
  have hall : ∀ n ≤ es.length,
      ∃ log, History m outside admits r log ((es.take n).foldl (follow m) r) := by
    intro n
    induction n with
    | zero => exact fun _ => ⟨[], .nil (ha 0 (Nat.zero_le _))⟩
    | succ n ih =>
      intro hn
      obtain ⟨log, hl⟩ := ih (Nat.le_of_succ_le hn)
      have hnext := ha (n + 1) hn
      rw [List.take_add_one, List.getElem?_eq_getElem hn, List.foldl_append] at hnext ⊢
      cases he : ((es.take n).foldl (follow m) r).apply m es[n] with
      | none =>
        refine ⟨log, ?_⟩
        simpa [follow, he] using hl
      | some t =>
        refine ⟨_, .event es[n] hl ?_ hnext⟩
        simp [follow, he]
  have hlast := hall es.length (Nat.le_refl _)
  rwa [List.take_length] at hlast

/-- The call of a job. -/
def callOf : Stand κ ρ → κ
  | .planned k => k
  | .running k => k
  | .ended k _ _ => k
  | .dropped k _ => k

/-- What no turn changes in a call is in every job as it was at first. -/
theorem History.origin {α : Type} (g : κ → α) (h : History m outside admits r log r')
    (hg : ∀ now s k u k', m.step now s k = some u ∨ m.expire now s k = some u →
      u.next = .running k' → g k' = g k) (i : Nat) :
    (standing r' i).map (fun x => g (callOf x)) = (standing r i).map (fun x => g (callOf x)) := by
  have hup : ∀ {f : Standing κ ρ} {i : Nat} {s x : Stand κ ρ}, f i = some s →
      g (callOf x) = g (callOf s) → (∀ j, (f j).map (fun x => g (callOf x)) =
        (standing r j).map (fun x => g (callOf x))) →
      ∀ j, (update f i (some x) j).map (fun x => g (callOf x)) =
        (standing r j).map (fun x => g (callOf x)) := by
    intro f i s x hi hx hf j
    by_cases hj : j = i
    · subst hj
      rw [update_self, ← hf j, hi, Option.map_some, Option.map_some, hx]
    · rw [update_of_ne hj, hf j]
  have hafter : ∀ now s k (u : Turn σ κ ρ), m.step now s k = some u ∨ m.expire now s k = some u →
      g (callOf (Stand.after now k u.next)) = g k := by
    intro now s k u hu
    cases hn : u.next with
    | running k' => exact hg now s k u k' hu hn
    | ended a => rfl
  have hP : Kept m outside admits fun _ _ _ f => ∀ j, (f j).map (fun x => g (callOf x)) =
      (standing r j).map (fun x => g (callOf x)) := by
    constructor
    case pass => exact fun h _ => h
    case change => exact fun h _ _ => h
    case start => exact fun h hi _ => hup hi rfl h
    case step => exact fun h hi hu _ => hup hi (hafter _ _ _ _ (.inl hu)) h
    case expire => exact fun h hi _ hu _ => hup hi (hafter _ _ _ _ (.inr hu)) h
    case drop => exact fun h hi _ => hup hi rfl h
  exact h.keeps hP (fun _ => rfl) i

/-- The calls of a history are those that have ended, each once, but for those whose time was
over. -/
structure Recorded (m : Machine σ κ ρ) (log : List (Nat × κ × ρ)) (f : Standing κ ρ) : Prop where
  nodup : (log.map Prod.fst).Nodup
  ended : ∀ i k a, (i, k, a) ∈ log → ∃ time, f i = some (.ended k a time)
  logged : ∀ i k a time, f i = some (.ended k a time) →
    (i, k, a) ∈ log ∨ ∃ now s u, m.expire now s k = some u ∧ u.next = .ended a

lemma Recorded.update {f : Standing κ ρ} {i : Nat} {s x : Stand κ ρ} (h : Recorded m log f)
    (hi : f i = some s) (hs : ∀ k a time, s ≠ .ended k a time)
    (hx : ∀ k a time, x = .ended k a time →
      ∃ now s u, m.expire now s k = some u ∧ u.next = .ended a) :
    Recorded m log (update f i (some x)) where
  nodup := h.nodup
  ended j k a hj := by
    obtain ⟨time, ht⟩ := h.ended j k a hj
    have hne : j ≠ i := by
      rintro rfl
      exact hs k a time (Option.some.inj (hi.symm.trans ht))
    exact ⟨time, by rw [update_of_ne hne, ht]⟩
  logged j k a time hj := by
    by_cases hji : j = i
    · subst hji
      rw [update_self] at hj
      exact .inr (hx k a time (Option.some.inj hj))
    · rw [update_of_ne hji] at hj
      exact h.logged j k a time hj

lemma recorded_kept : Kept m outside admits fun log _ _ f => Recorded m log f where
  pass h _ := h
  change h _ _ := h
  start h hi _ := h.update hi (by simp) (by simp)
  step {log now s f i k u} h hi hu _ := by
    cases hn : u.next with
    | running k' => simpa [entry, Stand.after] using h.update hi (by simp) (by simp)
    | ended a =>
      have hnew : ∀ k' a', (i, k', a') ∉ log := by
        intro k' a' hm
        obtain ⟨time, ht⟩ := h.ended i k' a' hm
        rw [hi] at ht
        cases ht
      refine ⟨?_, ?_, ?_⟩
      · simp only [entry, List.map_append, List.map_cons, List.map_nil]
        rw [List.nodup_append]
        refine ⟨h.nodup, by simp, ?_⟩
        intro j hj j' hj' hjj
        obtain ⟨⟨i', k', a'⟩, hm, rfl⟩ := List.mem_map.mp hj
        rw [List.mem_singleton] at hj'
        subst hj'
        cases hjj
        exact hnew k' a' hm
      · intro j k' a' hm
        rcases List.mem_append.mp hm with hj | hm
        · obtain ⟨time, ht⟩ := h.ended j k' a' hj
          have hne : j ≠ i := by
            rintro rfl
            exact hnew k' a' hj
          exact ⟨time, by rw [update_of_ne hne, ht]⟩
        · simp only [entry, List.mem_singleton, Prod.mk.injEq] at hm
          obtain ⟨rfl, rfl, rfl⟩ := hm
          exact ⟨now, by simp [Stand.after]⟩
      · intro j k' a' time hj
        by_cases hji : j = i
        · subst hji
          simp only [Stand.after, update_self, Option.some.injEq, Stand.ended.injEq] at hj
          exact .inl (by simp [entry, hj.1, hj.2.1])
        · rw [update_of_ne hji] at hj
          exact (h.logged j k' a' time hj).imp_left (by simp +contextual)
  expire {log now s f i k u} h hi _ hu _ := by
    refine h.update hi (by simp) ?_
    intro k' a time hx
    unfold Stand.after at hx
    split at hx
    · cases hx
    · rename_i a' hn
      cases hx
      exact ⟨now, s, u, hu, hn⟩
  drop h hi _ := h.update hi (by simp) (by simp)

/-- A history of calls that had yet to start records those that have ended. -/
theorem History.recorded {new : κ → Prop} (h : History m outside admits r log r')
    (hnew : Unstarted new (standing r)) : Recorded m log (standing r') := by
  refine h.keeps recorded_kept ⟨List.nodup_nil, by simp, ?_⟩
  intro i k a time hi
  obtain ⟨k', hk, _⟩ := hnew i _ hi
  cases hk

section Alone

variable {now due fuel : Nat} {s s' : σ} {k k' : κ} {a : ρ} {said new : List Notice}

lemma aloneFrom_running (h : m.step now s k = some ⟨s', new, .running k'⟩) :
    m.aloneFrom (fuel + 1) now s said k = m.aloneFrom fuel now s' (said ++ new) k' := by
  rw [Machine.aloneFrom, Machine.advance, h, Option.some_or]

lemma aloneFrom_ended (h : m.step now s k = some ⟨s', new, .ended a⟩) :
    m.aloneFrom (fuel + 1) now s said k = some ⟨now, s', said ++ new, a⟩ := by
  rw [Machine.aloneFrom, Machine.advance, h, Option.some_or]

lemma aloneFrom_waits (hs : m.step now s k = none) (he : m.expire now s k = none)
    (ht : m.nextTimer now k = some due) :
    m.aloneFrom (fuel + 1) now s said k = m.aloneFrom fuel due s said k := by
  rw [Machine.aloneFrom, Machine.advance, hs, he, Option.none_or, ht]

/-- What the turns of a call that runs alone keep holds before the last of them. -/
lemma aloneFrom_last {P : σ → κ → Prop} {f : Finished σ ρ}
    (hP : ∀ now s k u k', P s k → m.step now s k = some u ∨ m.expire now s k = some u →
      u.next = .running k' → P u.shared k')
    (h : m.aloneFrom fuel now s said k = some f) (hk : P s k) :
    ∃ now s k u, P s k ∧ (m.step now s k = some u ∨ m.expire now s k = some u) ∧
      u.shared = f.shared ∧ u.next = .ended f.result := by
  induction fuel generalizing now s said k with
  | zero => cases h
  | succ fuel ih =>
    rw [Machine.aloneFrom] at h
    cases hadvance : m.advance now s k with
    | none =>
      rw [hadvance] at h
      simp only at h
      cases htimer : m.nextTimer now k with
      | none =>
        rw [htimer] at h
        cases h
      | some due =>
        rw [htimer] at h
        exact ih h hk
    | some u =>
      have hu : m.step now s k = some u ∨ m.expire now s k = some u := by
        rw [Machine.advance, Option.or_eq_some_iff] at hadvance
        exact hadvance.imp_right And.right
      rw [hadvance] at h
      simp only at h
      cases hn : u.next with
      | ended a =>
        rw [hn] at h
        cases h
        exact ⟨now, s, k, u, hk, hu, rfl, hn⟩
      | running k' =>
        rw [hn] at h
        exact ih h (hP now s k u k' hk hu hn)

end Alone

section Part

variable {σ' κ' ρ' : Type} {m' : Machine σ' κ' ρ'} {get : σ → σ'} {put : σ → σ' → σ} {g : κ' → κ}
  {h : ρ' → ρ}

/-- The calls of a machine, among those of a larger one, run on a part of its state. -/
structure Part (m' : Machine σ' κ' ρ') (m : Machine σ κ ρ) (get : σ → σ') (put : σ → σ' → σ)
    (g : κ' → κ) (h : ρ' → ρ) : Prop where
  get_put : ∀ s x, get (put s x) = x
  put_put : ∀ s x y, put (put s x) y = put s y
  step : ∀ now s k, m.step now s (g k) = (m'.step now (get s) k).map (Turn.map (put s) g h)
  expire : ∀ now s k, m.expire now s (g k) = (m'.expire now (get s) k).map (Turn.map (put s) g h)
  timers : ∀ k, m.timers (g k) = m'.timers k

lemma Part.advance (hp : Part m' m get put g h) (now : Nat) (s : σ) (k : κ') :
    m.advance now s (g k) = (m'.advance now (get s) k).map (Turn.map (put s) g h) := by
  unfold Machine.advance
  rw [hp.step, hp.expire]
  cases m'.step now (get s) k <;> rfl

lemma Part.aloneFrom (hp : Part m' m get put g h) (fuel now : Nat) (s : σ) (said : List Notice)
    (k : κ') :
    m.aloneFrom fuel now s said (g k) = (m'.aloneFrom fuel now (get s) said k).map fun f =>
      ⟨f.time, put s f.shared, f.notices, h f.result⟩ := by
  induction fuel generalizing now s said k with
  | zero => rfl
  | succ fuel ih =>
    rw [Machine.aloneFrom, Machine.aloneFrom, hp.advance]
    cases m'.advance now (get s) k with
    | none =>
      have htimer : m.nextTimer now (g k) = m'.nextTimer now k := by
        unfold Machine.nextTimer
        rw [hp.timers]
      simp only [Option.map_none, htimer]
      cases m'.nextTimer now k with
      | none => rfl
      | some due => exact ih due s said k
    | some u =>
      obtain ⟨shared, new, next⟩ := u
      cases next with
      | ended a => rfl
      | running k' =>
        have hrest := ih now (put s shared) (said ++ new) k'
        rw [hp.get_put] at hrest
        simp only [hp.put_put] at hrest
        exact hrest

/-- A call that runs alone on its part runs alone on the whole. -/
lemma Part.alone (hp : Part m' m get put g h) {now time : Nat} {s : σ} {k : κ'} {x : σ'}
    {said : List Notice} {a : ρ'} (ha : m'.alone now (get s) k = some ⟨time, x, said, a⟩) :
    m.alone now s (g k) = some ⟨time, put s x, said, h a⟩ := by
  unfold Machine.alone at ha ⊢
  rw [hp.aloneFrom, ha, Option.map_some]

lemma next_of_map_running {f : σ' → σ} {w : Turn σ' κ' ρ'} {k : κ}
    (hw : (w.map f g h).next = .running k) : ∃ k', w.next = .running k' ∧ k = g k' := by
  unfold Turn.map at hw
  cases hn : w.next with
  | running k' =>
    rw [hn] at hw
    exact ⟨k', rfl, (Next.running.inj hw).symm⟩
  | ended a =>
    rw [hn] at hw
    cases hw

lemma next_of_map_ended {f : σ' → σ} {w : Turn σ' κ' ρ'} {b : ρ}
    (hw : (w.map f g h).next = .ended b) : ∃ a, w.next = .ended a ∧ b = h a := by
  unfold Turn.map at hw
  cases hn : w.next with
  | running k' =>
    rw [hn] at hw
    cases hw
  | ended a =>
    rw [hn] at hw
    exact ⟨a, rfl, (Next.ended.inj hw).symm⟩

end Part

end Tenancy.Proofs
