import Mathlib.Data.List.Basic
import Mathlib.Logic.Function.Basic
import Tenancy.Progress.Locks
import Tenancy.Proofs.Table

/-!
# Lines for rows

What the operations on row locks do to each line. A transaction that holds a row goes on holding it
until it leaves, whatever the others do. Numbers of transactions are given to parties, such as calls
or names, and nobody stands in a line whose number no party has.
-/

namespace Tenancy.Proofs

open Table Function

variable {l : RowLocks} {a b : AccountId} {o p : Nat}

/-- Each row has at most one line. -/
def Tidy (l : RowLocks) : Prop :=
  (keys l.lines).Nodup

lemma tidy_of_lines_nil (h : l.lines = []) : Tidy l := by
  rw [Tidy, h]
  exact List.nodup_nil

lemma line_of_lines_nil (h : l.lines = []) (a : AccountId) : l.line a = [] := by
  rw [RowLocks.line, h]
  rfl

lemma line_join (l : RowLocks) (a : AccountId) (o : Nat) (b : AccountId) :
    (l.join a o).line b = if b = a ∧ o ∉ l.line a then l.line a ++ [o] else l.line b := by
  unfold RowLocks.join
  by_cases ho : o ∈ l.line a
  · rw [if_pos ho, if_neg (fun h => h.2 ho)]
  · rw [if_neg ho]
    unfold RowLocks.line
    rw [get?_insert]
    by_cases hb : b = a
    · rw [if_pos hb, if_pos ⟨hb, ho⟩]
      rfl
    · rw [if_neg hb, if_neg (fun h => hb h.1)]

lemma shorten_key {e e' : AccountId × List Nat} (h : RowLocks.shorten o e = some e') :
    e'.1 = e.1 := by
  unfold RowLocks.shorten at h
  split at h
  · cases h
  · rw [← Option.some.inj h]

lemma getD_shorten (e : AccountId × List Nat) :
    ((RowLocks.shorten o e).map Prod.snd).getD [] = e.2.filter (· ≠ o) := by
  unfold RowLocks.shorten
  split
  · rename_i h
    rw [h]
    rfl
  · rfl

lemma leave_key {e e' : AccountId × List Nat}
    (h : (if e.1 = a then RowLocks.shorten o e else some e) = some e') : e'.1 = e.1 := by
  split at h
  · exact shorten_key h
  · rw [← Option.some.inj h]

lemma line_release (h : Tidy l) (o : Nat) (b : AccountId) :
    (l.release o).line b = (l.line b).filter (· ≠ o) := by
  have hget := get?_filterMap (fun _ _ he => shorten_key (o := o) he) h b
  unfold RowLocks.line RowLocks.release
  rw [hget]
  cases get? l.lines b with
  | none => rfl
  | some owners => exact getD_shorten (b, owners)

lemma line_leave (h : Tidy l) (a : AccountId) (o : Nat) (b : AccountId) :
    (l.leave a o).line b = if b = a then (l.line a).filter (· ≠ o) else l.line b := by
  have hget := get?_filterMap (fun _ _ he => leave_key (a := a) (o := o) he) h b
  unfold RowLocks.line RowLocks.leave
  rw [hget]
  by_cases hb : b = a
  · subst hb
    rw [if_pos rfl]
    cases get? l.lines b with
    | none => rfl
    | some owners => simpa using getD_shorten (o := o) (b, owners)
  · rw [if_neg hb]
    cases get? l.lines b with
    | none => rfl
    | some owners => simp [hb]

lemma Tidy.join (h : Tidy l) (a : AccountId) (o : Nat) : Tidy (l.join a o) := by
  unfold RowLocks.join
  split
  · exact h
  · exact nodup_keys_insert h _ _

lemma Tidy.release (h : Tidy l) (o : Nat) : Tidy (l.release o) :=
  nodup_keys_filterMap (fun _ _ he => shorten_key he) h

lemma Tidy.leave (h : Tidy l) (a : AccountId) (o : Nat) : Tidy (l.leave a o) :=
  nodup_keys_filterMap (fun _ _ he => leave_key he) h

lemma mem_line_join : p ∈ (l.join a o).line b ↔ p ∈ l.line b ∨ p = o ∧ b = a := by
  rw [line_join]
  by_cases hb : b = a
  · subst hb
    by_cases ho : o ∈ l.line b
    · simp only [ho, not_true_eq_false, and_false, if_false, and_true]
      constructor
      · exact .inl
      · rintro (hp | rfl)
        · exact hp
        · exact ho
    · simp [ho]
  · simp [hb]

lemma mem_line_release (h : Tidy l) : p ∈ (l.release o).line b ↔ p ∈ l.line b ∧ p ≠ o := by
  simp [line_release h]

lemma mem_line_leave (h : Tidy l) :
    p ∈ (l.leave a o).line b ↔ p ∈ l.line b ∧ (b = a → p ≠ o) := by
  rw [line_leave h]
  by_cases hb : b = a
  · subst hb
    simp
  · simp [hb]

lemma holds_iff : l.holds a o = true ↔ (l.line a).head? = some o := by
  simp [RowLocks.holds]

lemma holds_unique (h : l.holds a o = true) (h' : l.holds a p = true) : o = p :=
  Option.some.inj ((holds_iff.mp h).symm.trans (holds_iff.mp h'))

lemma holds_join (h : l.holds b p = true) (a : AccountId) (o : Nat) :
    (l.join a o).holds b p = true := by
  rw [holds_iff] at h ⊢
  rw [line_join]
  split
  · rename_i hc
    rw [← hc.1, List.head?_append, h]
    rfl
  · exact h

lemma head?_filter_ne {owners : List Nat} (h : owners.head? = some p) (hp : p ≠ o) :
    (owners.filter (· ≠ o)).head? = some p := by
  cases owners with
  | nil => cases h
  | cons q owners =>
    rw [List.head?_cons] at h
    rw [Option.some.inj h, List.filter_cons_of_pos (by simpa using hp), List.head?_cons]

lemma holds_release (hl : Tidy l) (h : l.holds b p = true) (hp : p ≠ o) :
    (l.release o).holds b p = true := by
  rw [holds_iff] at h ⊢
  rw [line_release hl]
  exact head?_filter_ne h hp

lemma holds_leave (hl : Tidy l) (h : l.holds b p = true) (hp : p ≠ o ∨ b ≠ a) :
    (l.leave a o).holds b p = true := by
  rw [holds_iff] at h ⊢
  rw [line_leave hl]
  by_cases hb : b = a
  · rw [if_pos hb, ← hb]
    exact head?_filter_ne h (hp.resolve_right (not_not_intro hb))
  · rw [if_neg hb]
    exact h

section Parties

variable {ι : Type} {own : ι → Option Nat} {i : ι}

/-- Each party that takes part has a number of its own, which was given before, and only the numbers
of parties stand in lines. -/
structure Manned (l : RowLocks) (own : ι → Option Nat) : Prop where
  tidy : Tidy l
  given : ∀ i o, own i = some o → o < l.nextOwner
  apart : ∀ i j o, own i = some o → own j = some o → i = j
  lined : ∀ a o, o ∈ l.line a → ∃ i, own i = some o

lemma manned_of_lines_nil (h : l.lines = []) (hn : ∀ i, own i = none) : Manned l own where
  tidy := tidy_of_lines_nil h
  given i o ho := by simp [hn i] at ho
  apart i j o ho := by simp [hn i] at ho
  lined a o ho := by
    rw [line_of_lines_nil h] at ho
    cases ho

lemma Manned.line_eq_nil (h : Manned l own) (hn : ∀ i, own i = none) (a : AccountId) :
    l.line a = [] := by
  rw [List.eq_nil_iff_forall_not_mem]
  intro o ho
  obtain ⟨i, hi⟩ := h.lined a o ho
  rw [hn i] at hi
  cases hi

lemma Manned.enroll [DecidableEq ι] (h : Manned l own) (hi : own i = none) :
    Manned l.enroll (update own i (some l.nextOwner)) where
  tidy := h.tidy
  given j o hj := by
    by_cases hji : j = i
    · subst hji
      rw [update_self, Option.some.injEq] at hj
      rw [← hj]
      exact Nat.lt_succ_self _
    · rw [update_of_ne hji] at hj
      exact Nat.lt_succ_of_lt (h.given j o hj)
  apart j k o hj hk := by
    have hnew : ∀ j, own j ≠ some l.nextOwner := fun j hj =>
      Nat.lt_irrefl _ (h.given j _ hj)
    by_cases hji : j = i
    · by_cases hki : k = i
      · rw [hji, hki]
      · subst hji
        rw [update_self, Option.some.injEq] at hj
        rw [update_of_ne hki, ← hj] at hk
        exact absurd hk (hnew k)
    · rw [update_of_ne hji] at hj
      by_cases hki : k = i
      · subst hki
        rw [update_self, Option.some.injEq] at hk
        rw [← hk] at hj
        exact absurd hj (hnew j)
      · rw [update_of_ne hki] at hk
        exact h.apart j k o hj hk
  lined a o ho := by
    obtain ⟨j, hj⟩ := h.lined a o ho
    have hji : j ≠ i := by
      rintro rfl
      rw [hi] at hj
      cases hj
    exact ⟨j, by rw [update_of_ne hji, hj]⟩

lemma Manned.join (h : Manned l own) (hi : own i = some o) (a : AccountId) :
    Manned (l.join a o) own where
  tidy := h.tidy.join a o
  given j p hj := by
    have hn : (l.join a o).nextOwner = l.nextOwner := by
      unfold RowLocks.join
      split <;> rfl
    rw [hn]
    exact h.given j p hj
  apart := h.apart
  lined b p hp := by
    rcases mem_line_join.mp hp with hp | ⟨rfl, -⟩
    · exact h.lined b p hp
    · exact ⟨i, hi⟩

lemma Manned.leave (h : Manned l own) (a : AccountId) (o : Nat) : Manned (l.leave a o) own where
  tidy := h.tidy.leave a o
  given := h.given
  apart := h.apart
  lined b p hp := h.lined b p ((mem_line_leave h.tidy).mp hp).1

/-- The only party with a number holds a row as soon as it is in line for it. -/
lemma Manned.holds_join (h : Manned l own) (hi : own i = some o) (hone : ∀ j p, own j = some p → j = i)
    (a : AccountId) : (l.join a o).holds a o = true := by
  have hmine : ∀ p ∈ l.line a, p = o := by
    intro p hp
    obtain ⟨j, hj⟩ := h.lined a p hp
    rw [hone j p hj, hi] at hj
    exact (Option.some.inj hj).symm
  rw [holds_iff, line_join]
  cases hl : l.line a with
  | nil => simp
  | cons p owners =>
    have hp : p = o := hmine p (hl ▸ List.mem_cons_self)
    simp [hp]

lemma Manned.release [DecidableEq ι] (h : Manned l own) (hi : own i = some o) :
    Manned (l.release o) (update own i none) where
  tidy := h.tidy.release o
  given j p hj := by
    have hji : j ≠ i := by
      rintro rfl
      rw [update_self] at hj
      cases hj
    rw [update_of_ne hji] at hj
    exact h.given j p hj
  apart j k p hj hk := by
    have hne : ∀ j, update own i none j = some p → own j = some p := by
      intro j hj
      by_cases hji : j = i
      · rw [hji, update_self] at hj
        cases hj
      · rwa [update_of_ne hji] at hj
    exact h.apart j k p (hne j hj) (hne k hk)
  lined b p hp := by
    obtain ⟨hp, hpo⟩ := (mem_line_release h.tidy).mp hp
    obtain ⟨j, hj⟩ := h.lined b p hp
    have hji : j ≠ i := by
      rintro rfl
      exact hpo (Option.some.inj (hj.symm.trans hi))
    exact ⟨j, by rw [update_of_ne hji, hj]⟩

end Parties

end Tenancy.Proofs
