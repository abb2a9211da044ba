import Mathlib.Order.Monotone.Basic
import Tenancy.Proofs.History

/-!
# Chronicles of schedules

The states of a schedule one after another, numbered by moments. A history tells what can come of a
run; a chronicle is for statements about several moments of the same run: what was there between the
start and the end of a call, or what a call that starts after a change can still see. Where nothing
happens a state is repeated, so a chronicle has no last moment and every history is part of one.
-/

namespace Tenancy.Proofs

open Function

variable {σ κ ρ : Type}

/-- What can happen next in a run: an event, time that passes by any amount, or a change of the
shared state by the surroundings. -/
inductive Happens (m : Machine σ κ ρ) (outside : σ → σ → Prop) (r : Run σ κ ρ) :
    Run σ κ ρ → Prop where
  | event {t} (e : Event) : r.apply m e = some t → Happens m outside r t
  | pass (time : Nat) : r.now ≤ time → Happens m outside r { r with now := time }
  | change (shared : σ) : outside r.shared shared → Happens m outside r { r with shared }

/-- The states of a run at one moment after another. -/
def Chronicle (m : Machine σ κ ρ) (outside : σ → σ → Prop) (s : Nat → Run σ κ ρ) : Prop :=
  ∀ n, Happens m outside (s n) (s (n + 1))

/-- Time passes only as in a schedule: while every call waits, and not beyond an instant for which
one of them does. -/
def Prompt (m : Machine σ κ ρ) (s : Nat → Run σ κ ρ) : Prop :=
  ∀ n, (s n).now < (s (n + 1)).now → ∃ time, (s n).apply m (.tick time) = some (s (n + 1))

/-- The surroundings do nothing. -/
def Untouched (s s' : σ) : Prop :=
  s' = s

/-- A call takes a turn, in which it goes on or, if it waits, expires. -/
structure Takes (m : Machine σ κ ρ) (r t : Run σ κ ρ) (i : Nat) (k : κ) (u : Turn σ κ ρ) :
    Prop where
  before : standing r i = some (.running k)
  does : m.step r.now r.shared k = some u ∨
    m.step r.now r.shared k = none ∧ m.expire r.now r.shared k = some u
  now : t.now = r.now
  shared : t.shared = u.shared
  jobs : standing t = update (standing r) i (some (Stand.after r.now k u.next))

/-- What one moment leaves of a state, seen from the shared state and the jobs. -/
inductive Passage (m : Machine σ κ ρ) (outside : σ → σ → Prop) (r t : Run σ κ ρ) : Prop where
  | pass (now : r.now ≤ t.now) (shared : t.shared = r.shared) (jobs : standing t = standing r)
  | change (now : t.now = r.now) (shared : outside r.shared t.shared)
      (jobs : standing t = standing r)
  | start (i : Nat) (k : κ) (before : standing r i = some (.planned k)) (now : t.now = r.now)
      (shared : t.shared = r.shared) (jobs : standing t = update (standing r) i (some (.running k)))
  | turn (i : Nat) (k : κ) (u : Turn σ κ ρ) (takes : Takes m r t i k u)
  | drop (i : Nat) (k : κ) (before : standing r i = some (.running k)) (now : t.now = r.now)
      (shared : t.shared = m.drop r.shared k)
      (jobs : standing t = update (standing r) i (some (.dropped k r.now)))

variable {m : Machine σ κ ρ} {outside : σ → σ → Prop} {r t : Run σ κ ρ} {s : Nat → Run σ κ ρ}
  {log : List (Nat × κ × ρ)} {n : Nat}

lemma takes_turn {i : Nat} {k : κ} {u : Turn σ κ ρ} (hi : standing r i = some (.running k))
    (hu : m.step r.now r.shared k = some u) : Takes m r (r.turn i k u) i k u :=
  ⟨hi, .inl hu, turn_now r i k u, turn_shared r i k u, standing_turn hi u⟩

lemma Happens.passage (h : Happens m outside r t) : Passage m outside r t := by
  cases h with
  | event e h =>
    rcases apply_cases h with ⟨i, k, rfl, hi, rfl⟩ | ⟨i, k, u, rfl, hi, hu, rfl⟩ |
      ⟨i, k, u, rfl, hi, hn, hu, rfl⟩ | ⟨i, k, rfl, hi, rfl⟩ | ⟨time, rfl, ht, rfl⟩
    · exact .start i k hi rfl rfl (standing_put hi _)
    · exact .turn i k u (takes_turn hi hu)
    · exact .turn i k u
        ⟨hi, .inr ⟨hn, hu⟩, turn_now r i k u, turn_shared r i k u, standing_turn hi u⟩
    · exact .drop i k hi rfl rfl (standing_put (r := { r with shared := m.drop r.shared k }) hi _)
    · exact .pass ht rfl rfl
  | pass time ht => exact .pass ht rfl rfl
  | change shared hs => exact .change rfl hs rfl

lemma takes_of_step {i : Nat} {k : κ} (h : r.apply m (.step i) = some t)
    (hi : standing r i = some (.running k)) : ∃ u, Takes m r t i k u := by
  rcases apply_cases h with ⟨j, k', he, -, -⟩ | ⟨j, k', u, he, hj, hu, rfl⟩ |
    ⟨j, k', u, he, -, -, -, -⟩ | ⟨j, k', he, -, -⟩ | ⟨time, he, -, -⟩
  · cases he
  · cases he
    rw [hi] at hj
    cases hj
    exact ⟨u, takes_turn hi hu⟩
  · cases he
  · cases he
  · cases he

lemma Takes.next_of_ended {i : Nat} {k k' : κ} {u : Turn σ κ ρ} {a : ρ} {time : Nat}
    (h : Takes m r t i k u) (ht : standing t i = some (.ended k' a time)) : u.next = .ended a := by
  rw [h.jobs, update_self, Option.some.injEq] at ht
  cases hn : u.next with
  | running k'' =>
    rw [hn] at ht
    cases ht
  | ended b =>
    rw [hn] at ht
    cases ht
    rfl

lemma Happens.refl (m : Machine σ κ ρ) (outside : σ → σ → Prop) (r : Run σ κ ρ) :
    Happens m outside r r :=
  .pass r.now (Nat.le_refl _)

lemma Happens.mono {outside' : σ → σ → Prop} (h : Happens m outside r t)
    (ho : ∀ a b, outside a b → outside' a b) : Happens m outside' r t := by
  cases h with
  | event e he => exact .event e he
  | pass time ht => exact .pass time ht
  | change shared hs => exact .change shared (ho _ _ hs)

lemma Chronicle.mono {outside' : σ → σ → Prop} (h : Chronicle m outside s)
    (ho : ∀ a b, outside a b → outside' a b) : Chronicle m outside' s :=
  fun n => (h n).mono ho

lemma Part.takes {σ' κ' ρ' : Type} {m' : Machine σ' κ' ρ'} {get : σ → σ'} {put : σ → σ' → σ}
    {g : κ' → κ} {h : ρ' → ρ} (hp : Part m' m get put g h) {i : Nat} {k : κ'} {u : Turn σ κ ρ}
    (hu : Takes m r t i (g k) u) :
    ∃ v, (m'.step r.now (get r.shared) k = some v ∨ m'.step r.now (get r.shared) k = none ∧
      m'.expire r.now (get r.shared) k = some v) ∧ u = v.map (put r.shared) g h := by
  have hdoes := hu.does
  rw [hp.step, hp.expire] at hdoes
  rcases hdoes with hs | ⟨hn, he⟩
  · obtain ⟨v, hv, rfl⟩ := Option.map_eq_some_iff.mp hs
    exact ⟨v, .inl hv, rfl⟩
  · obtain ⟨v, hv, rfl⟩ := Option.map_eq_some_iff.mp he
    exact ⟨v, .inr ⟨Option.map_eq_none_iff.mp hn, hv⟩, rfl⟩

lemma History.happens (h : History m outside anyState r log t) {t' : Run σ κ ρ}
    (ht : Happens m outside t t') : ∃ log, History m outside anyState r log t' := by
  cases ht with
  | event e he => exact ⟨_, .event e h he trivial⟩
  | pass time ht => exact ⟨_, .pass time h ht⟩
  | change shared hs => exact ⟨_, .change shared h hs trivial⟩

lemma Chronicle.history (h : Chronicle m outside s) (n : Nat) :
    ∃ log, History m outside anyState (s 0) log (s n) := by
  induction n with
  | zero => exact ⟨[], .nil trivial⟩
  | succ n ih =>
    obtain ⟨log, hl⟩ := ih
    exact hl.happens (h n)

/-- A chronicle up to a moment, at which it stops with another state. -/
lemma Chronicle.stop (h : Chronicle m outside s) (ht : Happens m outside (s n) t) :
    Chronicle m outside fun l => if l ≤ n then s l else t := by
  intro l
  simp only
  rcases Nat.lt_trichotomy l n with hl | rfl | hl
  · rw [if_pos (Nat.le_of_lt hl), if_pos (show l + 1 ≤ n from hl)]
    exact h l
  · rwa [if_neg (Nat.not_succ_le_self l), if_pos (Nat.le_refl l)]
  · rw [if_neg (by omega), if_neg (by omega)]
    exact .refl m outside t

/-- Every history is part of a chronicle. -/
theorem chronicle_of_history (h : History m outside anyState r log t) :
    ∃ s n, Chronicle m outside s ∧ s 0 = r ∧ s n = t := by
  have hnext : ∀ {t t' : Run σ κ ρ}, (∃ s n, Chronicle m outside s ∧ s 0 = r ∧ s n = t) →
      Happens m outside t t' → ∃ s n, Chronicle m outside s ∧ s 0 = r ∧ s n = t' := by
    rintro t t' ⟨s, n, hs, rfl, rfl⟩ ht
    exact ⟨_, n + 1, hs.stop ht, if_pos (Nat.zero_le n), if_neg (Nat.not_succ_le_self n)⟩
  induction h with
  | nil => exact ⟨fun _ => r, 0, fun _ => .refl m outside r, rfl, rfl⟩
  | event e _ he _ ih => exact hnext ih (.event e he)
  | pass time _ ht ih => exact hnext ih (.pass time ht)
  | change shared _ hs _ ih => exact hnext ih (.change shared hs)

lemma Chronicle.monotone_now (h : Chronicle m outside s) : Monotone fun n => (s n).now := by
  apply monotone_nat_of_le_succ
  intro n
  cases (h n).passage with
  | pass now _ _ => exact now
  | change now _ _ => exact now.ge
  | start _ _ _ now _ _ => exact now.ge
  | turn _ _ _ takes => exact takes.now.ge
  | drop _ _ _ now _ _ => exact now.ge

lemma Chronicle.planned {new : κ → Prop} (h : Chronicle m outside s)
    (hnew : Unstarted new (standing (s 0))) (n : Nat) : Planned new (standing (s n)) := by
  obtain ⟨log, hl⟩ := h.history n
  refine hl.keeps (P := fun _ _ _ f => Planned new f) ?_ hnew.planned
  constructor
  case pass => exact fun h _ => h
  case change => exact fun h _ _ => h
  case start => exact fun h _ _ => h.update _ (by simp)
  case step => exact fun {_ now _ _ _ k u} h _ _ _ => h.update _ (after_ne_planned now k · u.next)
  case expire =>
    exact fun {_ now _ _ _ k u} h _ _ _ _ => h.update _ (after_ne_planned now k · u.next)
  case drop => exact fun h _ _ => h.update _ (by simp)

/-- What becomes of one job at a moment. -/
inductive JobPassage (m : Machine σ κ ρ) (r t : Run σ κ ρ) (i : Nat) : Prop where
  | same (jobs : standing t i = standing r i)
  | start (k : κ) (before : standing r i = some (.planned k))
      (after : standing t i = some (.running k))
  | turn (k : κ) (u : Turn σ κ ρ) (takes : Takes m r t i k u)
      (after : standing t i = some (Stand.after r.now k u.next))
  | drop (k : κ) (before : standing r i = some (.running k))
      (after : standing t i = some (.dropped k r.now))

lemma Chronicle.job (h : Chronicle m outside s) (n i : Nat) :
    JobPassage m (s n) (s (n + 1)) i := by
  cases (h n).passage with
  | pass _ _ jobs => exact .same (by rw [jobs])
  | change _ _ jobs => exact .same (by rw [jobs])
  | start j k before _ _ jobs =>
    by_cases hj : i = j
    · subst hj
      exact .start k before (by rw [jobs, update_self])
    · exact .same (by rw [jobs, update_of_ne hj])
  | turn j k u takes =>
    by_cases hj : i = j
    · subst hj
      exact .turn k u takes (by rw [takes.jobs, update_self])
    · exact .same (by rw [takes.jobs, update_of_ne hj])
  | drop j k before _ _ jobs =>
    by_cases hj : i = j
    · subst hj
      exact .drop k before (by rw [jobs, update_self])
    · exact .same (by rw [jobs, update_of_ne hj])

lemma Chronicle.ended {new : κ → Prop} (h : Chronicle m outside s)
    (hnew : Unstarted new (standing (s 0))) {i : Nat} {k : κ} {a : ρ} {time : Nat}
    (hn : standing (s n) i = some (.ended k a time)) :
    ∃ l < n, ∃ u, Takes m (s l) (s (l + 1)) i k u ∧ u.next = .ended a ∧ time = (s l).now := by
  induction n with
  | zero =>
    obtain ⟨k', hk, -⟩ := hnew i _ hn
    cases hk
  | succ n ih =>
    cases h.job n i with
    | same jobs =>
      obtain ⟨l, hl, hu⟩ := ih (jobs ▸ hn)
      exact ⟨l, Nat.lt_succ_of_lt hl, hu⟩
    | start k' _ after =>
      rw [after] at hn
      cases hn
    | turn k' u takes after =>
      rw [after, Option.some.injEq] at hn
      cases hu : u.next with
      | running k'' =>
        rw [hu] at hn
        cases hn
      | ended a' =>
        rw [hu] at hn
        cases hn
        exact ⟨n, Nat.lt_succ_self n, u, takes, hu, rfl⟩
    | drop k' _ after =>
      rw [after] at hn
      cases hn

lemma Chronicle.shared_of_dropped (h : Chronicle m outside s) {i : Nat} {k : κ} {time : Nat}
    (hn : standing (s n) i = some (.running k))
    (hd : standing (s (n + 1)) i = some (.dropped k time)) :
    (s (n + 1)).shared = m.drop (s n).shared k := by
  have hchanged : standing (s (n + 1)) i ≠ standing (s n) i := by
    rw [hn, hd]
    simp
  cases (h n).passage with
  | pass _ _ jobs => exact absurd (congrFun jobs i) hchanged
  | change _ _ jobs => exact absurd (congrFun jobs i) hchanged
  | start j k' before _ _ jobs =>
    by_cases hj : i = j
    · subst hj
      rw [hn] at before
      cases before
    · exact absurd (by rw [jobs, update_of_ne hj]) hchanged
  | turn j k' u takes =>
    by_cases hj : i = j
    · subst hj
      rw [takes.jobs, update_self, Option.some.injEq] at hd
      cases hnext : u.next with
      | running k'' =>
        rw [hnext] at hd
        cases hd
      | ended a =>
        rw [hnext] at hd
        cases hd
    · exact absurd (by rw [takes.jobs, update_of_ne hj]) hchanged
  | drop j k' before _ shared jobs =>
    by_cases hj : i = j
    · subst hj
      rw [hn] at before
      cases before
      exact shared
    · exact absurd (by rw [jobs, update_of_ne hj]) hchanged

/-- What no turn changes in a call is in every job as it was at first. -/
lemma Chronicle.origin {new : κ → Prop} {α : Type} (g : κ → α) (h : Chronicle m outside s)
    (hnew : Unstarted new (standing (s 0)))
    (hg : ∀ {r t i k u k'}, Takes m r t i k u → u.next = .running k' → g k' = g k) {i : Nat}
    {x : Stand κ ρ} (hn : standing (s n) i = some x) :
    ∃ k, standing (s 0) i = some (.planned k) ∧ new k ∧ g (callOf x) = g k := by
  induction n generalizing x with
  | zero =>
    obtain ⟨k, rfl, hk⟩ := hnew i x hn
    exact ⟨k, hn, hk, rfl⟩
  | succ n ih =>
    cases h.job n i with
    | same jobs => exact ih (jobs ▸ hn)
    | start k before after =>
      rw [after, Option.some.injEq] at hn
      have ho := ih before
      rwa [← hn]
    | turn k u takes after =>
      obtain ⟨k₀, hk, hnew, hgk⟩ := ih takes.before
      rw [after, Option.some.injEq] at hn
      refine ⟨k₀, hk, hnew, Eq.trans ?_ hgk⟩
      rw [← hn]
      cases hu : u.next with
      | running k' => exact hg takes hu
      | ended a => rfl
    | drop k before after =>
      rw [after, Option.some.injEq] at hn
      have ho := ih before
      rwa [← hn]

lemma Chronicle.planned_before (h : Chronicle m outside s) {i l : Nat} {k : κ}
    (hn : standing (s n) i = some (.planned k)) (hln : l ≤ n) :
    standing (s l) i = some (.planned k) := by
  induction n, hln using Nat.le_induction with
  | base => exact hn
  | succ n _ ih =>
    cases h.job n i with
    | same jobs => exact ih (jobs ▸ hn)
    | start k' before after =>
      rw [after] at hn
      cases hn
    | turn k' u takes after =>
      rw [after, Option.some.injEq] at hn
      exact absurd hn (after_ne_planned _ _ _ _)
    | drop k' before after =>
      rw [after] at hn
      cases hn

lemma Chronicle.running (h : Chronicle m outside s) {i : Nat} {k : κ}
    (hn : standing (s (n + 1)) i = some (.running k)) :
    standing (s n) i = some (.running k) ∨ standing (s n) i = some (.planned k) ∨
      ∃ k' u, Takes m (s n) (s (n + 1)) i k' u ∧ u.next = .running k := by
  cases h.job n i with
  | same jobs => exact .inl (jobs ▸ hn)
  | start k' before after =>
    rw [after] at hn
    cases hn
    exact .inr (.inl before)
  | turn k' u takes after =>
    cases hnext : u.next with
    | ended a =>
      rw [after, hnext] at hn
      cases hn
    | running k'' =>
      rw [after, hnext] at hn
      cases hn
      exact .inr (.inr ⟨k', u, takes, hnext⟩)
  | drop k' _ after =>
    rw [after] at hn
    cases hn

lemma Chronicle.still_running (h : Chronicle m outside s) {i l : Nat} {k k' : κ}
    (hl : standing (s l) i = some (.running k')) (hln : l ≤ n)
    (hn : standing (s (n + 1)) i = some (.running k)) :
    standing (s n) i = some (.running k) ∨
      ∃ k' u, Takes m (s n) (s (n + 1)) i k' u ∧ u.next = .running k := by
  rcases h.running hn with hsame | hplanned | hturn
  · exact .inl hsame
  · rw [h.planned_before hplanned hln] at hl
    cases hl
  · exact .inr hturn

lemma Chronicle.finished (h : Chronicle m outside s) {i l : Nat} {x : Stand κ ρ}
    (hl : standing (s l) i = some x) (hx : ∀ k, x ≠ .planned k ∧ x ≠ .running k) (hln : l ≤ n) :
    standing (s n) i = some x := by
  induction n, hln using Nat.le_induction with
  | base => exact hl
  | succ n _ ih =>
    cases h.job n i with
    | same jobs => rw [jobs, ih]
    | start k before _ =>
      rw [ih, Option.some.injEq] at before
      exact absurd before (hx k).1
    | turn k u takes _ =>
      have before := takes.before
      rw [ih, Option.some.injEq] at before
      exact absurd before (hx k).2
    | drop k before _ =>
      rw [ih, Option.some.injEq] at before
      exact absurd before (hx k).2

/-- Something that is made to happen. -/
inductive Deed (σ : Type) where
  | event (e : Event)
  | pass (time : Nat)
  | change (f : σ → σ)

/-- The run after a deed; what cannot happen does not. -/
def Deed.perform (m : Machine σ κ ρ) (r : Run σ κ ρ) : Deed σ → Run σ κ ρ
  | .event e => follow m r e
  | .pass time => { r with now := max r.now time }
  | .change f => { r with shared := f r.shared }

/-- The states of a run in which one deed after another is done. -/
def play (m : Machine σ κ ρ) : Run σ κ ρ → List (Deed σ) → Nat → Run σ κ ρ
  | r, _, 0 => r
  | r, [], _ => r
  | r, d :: ds, n + 1 => play m (d.perform m r) ds n

@[simp]
lemma play_zero (r : Run σ κ ρ) (ds : List (Deed σ)) : play m r ds 0 = r := by
  cases ds <;> rfl

/-- What a deed changes may be changed at any moment. -/
def Deed.Allowed (outside : σ → σ → Prop) : Deed σ → Prop
  | .event _ => True
  | .pass _ => True
  | .change f => ∀ s, outside s (f s)

@[simp]
lemma allowed_event (e : Event) : (Deed.event e).Allowed outside :=
  trivial

@[simp]
lemma allowed_pass (time : Nat) : (Deed.pass time).Allowed outside :=
  trivial

@[simp]
lemma allowed_change (f : σ → σ) : (Deed.change f).Allowed outside ↔ ∀ s, outside s (f s) :=
  Iff.rfl

lemma happens_perform {d : Deed σ} (hd : d.Allowed outside) (r : Run σ κ ρ) :
    Happens m outside r (d.perform m r) := by
  cases d with
  | event e =>
    change Happens m outside r ((r.apply m e).getD r)
    cases he : r.apply m e with
    | none => exact .refl m outside r
    | some t => exact .event e he
  | pass time => exact .pass _ (Nat.le_max_left _ _)
  | change f => exact .change _ (hd r.shared)

theorem chronicle_play (r : Run σ κ ρ) (ds : List (Deed σ)) (hds : ∀ d ∈ ds, d.Allowed outside) :
    Chronicle m outside (play m r ds) := by
  induction ds generalizing r with
  | nil =>
    intro n
    cases n <;> exact .refl m outside r
  | cons d ds ih =>
    intro n
    cases n with
    | zero =>
      have hd : play m r (d :: ds) 1 = d.perform m r := by
        cases ds <;> rfl
      rw [hd]
      exact happens_perform (hds d List.mem_cons_self) r
    | succ n => exact ih (d.perform m r) (fun d' hd => hds d' (List.mem_cons_of_mem d hd)) n

/-- Where no time passes by itself, it passes only as in a schedule. -/
lemma prompt_play (r : Run σ κ ρ) (ds : List (Deed σ)) (hds : ∀ time, .pass time ∉ ds) :
    Prompt m (play m r ds) := by
  induction ds generalizing r with
  | nil =>
    intro n hn
    cases n <;> exact absurd hn (Nat.lt_irrefl _)
  | cons d ds ih =>
    intro n hn
    cases n with
    | succ n => exact ih (d.perform m r) (fun time ht => hds time (List.mem_cons_of_mem d ht)) n hn
    | zero =>
      have hd : play m r (d :: ds) 1 = d.perform m r := by
        cases ds <;> rfl
      rw [play_zero, hd] at hn ⊢
      cases d with
      | pass time => exact absurd List.mem_cons_self (hds time)
      | change f => exact absurd hn (Nat.lt_irrefl _)
      | event e =>
        change r.now < ((r.apply m e).getD r).now at hn
        change ∃ time, r.apply m (.tick time) = some ((r.apply m e).getD r)
        cases he : r.apply m e with
        | none =>
          rw [he] at hn
          exact absurd hn (Nat.lt_irrefl _)
        | some t =>
          rw [he, Option.getD_some] at hn
          rcases apply_cases he with ⟨i, k, rfl, -, rfl⟩ | ⟨i, k, u, rfl, -, -, rfl⟩ |
            ⟨i, k, u, rfl, -, -, -, rfl⟩ | ⟨i, k, rfl, -, rfl⟩ | ⟨time, rfl, -, -⟩
          · exact absurd hn (Nat.lt_irrefl _)
          · exact absurd hn (by rw [turn_now]; exact Nat.lt_irrefl _)
          · exact absurd hn (by rw [turn_now]; exact Nat.lt_irrefl _)
          · exact absurd hn (Nat.lt_irrefl _)
          · exact ⟨time, he⟩

end Tenancy.Proofs
