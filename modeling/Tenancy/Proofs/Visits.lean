import Mathlib.Data.List.DropRight
import Tenancy.Proofs.Revisions
import Tenancy.Proofs.Updates

/-!
# Visits of stages

Accounts come to stages again and again, also to earlier ones, and an account that is at a stage
already stays as it is. So what is left of all visits is the stage of the last one and, for each
stage with a column, the instant at which the last run of visits of this stage began. The visits of
other accounts make no difference.
-/

namespace Tenancy.Proofs

open Function Table

/-- An account comes to a stage at an instant. -/
structure StageVisit where
  stage : Stage
  instant : Instant
  deriving DecidableEq

variable {schema : ProgressSchema} {a : AccountId} {s : Stage} {v : StageVisit}
  {vs : List StageVisit}

/-- The last run of visits of a stage, with no visit of another stage in between. -/
def lastRun (s : Stage) (vs : List StageVisit) : List StageVisit :=
  (vs.rdropWhile fun v => v.stage ≠ s).rtakeWhile fun v => v.stage = s

/-- When the last run of visits of a stage began. -/
def lastEntry (s : Stage) (vs : List StageVisit) : Option Instant :=
  (lastRun s vs).head?.map StageVisit.instant

lemma lastEntry_nil (s : Stage) : lastEntry s [] = none :=
  rfl

lemma lastRun_concat_of_ne (h : v.stage ≠ s) : lastRun s (vs ++ [v]) = lastRun s vs := by
  unfold lastRun
  rw [List.rdropWhile_concat_pos _ _ v (by simpa using h)]

/-- A visit of a stage ends the last run of the stage; what comes before it belongs to the run as
long as it is of the stage, too. -/
lemma lastRun_concat_self (vs : List StageVisit) (v : StageVisit) :
    lastRun v.stage (vs ++ [v]) = (vs.rtakeWhile fun w => w.stage = v.stage) ++ [v] := by
  unfold lastRun
  rw [List.rdropWhile_concat_neg _ _ v (by simp), List.rtakeWhile_concat_pos _ _ v (by simp)]

/-- The last run of a stage at which the visits begin anew consists of one visit. -/
lemma lastRun_concat_begin (h : ∀ w ∈ vs.getLast?, w.stage ≠ v.stage) :
    lastRun v.stage (vs ++ [v]) = [v] := by
  have hnil : (vs.rtakeWhile fun w => w.stage = v.stage) = [] := by
    rw [List.rtakeWhile_eq_nil_iff]
    intro hne
    simpa using h _ (List.getLast?_eq_some_getLast hne)
  rw [lastRun_concat_self, hnil, List.nil_append]

lemma lastEntry_concat_again {w : StageVisit} (hw : w ∈ vs.getLast?) (h : w.stage = v.stage)
    (s : Stage) : lastEntry s (vs ++ [v]) = lastEntry s vs := by
  unfold lastEntry
  by_cases hs : v.stage = s
  · obtain ⟨ws, rfl⟩ := List.getLast?_eq_some_iff.mp hw
    have hrun : lastRun s (ws ++ [w]) = (ws.rtakeWhile fun u => u.stage = s) ++ [w] := by
      rw [← hs, ← h]
      exact lastRun_concat_self ws w
    have hlonger : lastRun s (ws ++ [w] ++ [v]) = lastRun s (ws ++ [w]) ++ [v] := by
      rw [hrun, ← hs, lastRun_concat_self, List.rtakeWhile_concat_pos _ _ w (by simpa using h)]
    rw [hlonger, hrun]
    cases ws.rtakeWhile fun u => u.stage = s <;> rfl
  · rw [lastRun_concat_of_ne hs]

lemma lastEntry_concat_begin (h : ∀ w ∈ vs.getLast?, w.stage ≠ v.stage) (s : Stage) :
    lastEntry s (vs ++ [v]) = if s = v.stage then some v.instant else lastEntry s vs := by
  split
  · rename_i hs
    rw [hs, lastEntry, lastRun_concat_begin h]
    rfl
  · rename_i hs
    rw [lastEntry, lastRun_concat_of_ne (Ne.symm hs)]
    rfl

/-- The record of an account after a visit. -/
def visit (schema : ProgressSchema) (a : AccountId) (before : Option ProgressRecord)
    (v : StageVisit) : ProgressRecord :=
  match before with
  | some r => if r.status = v.stage then r else .move schema a (some r) v.stage v.instant
  | none => .move schema a none v.stage v.instant

/-- The record of an account after visits, if there is one. -/
def attend (schema : ProgressSchema) (a : AccountId) (before : Option ProgressRecord)
    (vs : List StageVisit) : Option ProgressRecord :=
  vs.foldl (fun r v => some (visit schema a r v)) before

/-- When the last run of each stage with a column began. -/
def lastEntries (schema : ProgressSchema) (vs : List StageVisit) : StageMap Instant :=
  fun s => if (schema.column? s).isSome then lastEntry s vs else none

/-- The record that tells when the last runs of visits began. -/
def recordOf (schema : ProgressSchema) (a : AccountId) (vs : List StageVisit) :
    Option ProgressRecord :=
  vs.getLast?.map fun v => ⟨a, lastEntries schema vs, v.stage⟩

lemma bind_recordOf (vs : List StageVisit) (s : Stage) :
    ((recordOf schema a vs).bind fun r => r.entered s) = lastEntries schema vs s := by
  unfold recordOf
  cases hlast : vs.getLast? with
  | none =>
    rw [List.getLast?_eq_none_iff.mp hlast, lastEntries, lastEntry_nil, ite_self]
    rfl
  | some v => rfl

lemma move_eq {before : Option ProgressRecord} (h : ∀ r ∈ before, r.account = a) (i : Instant) :
    ProgressRecord.move schema a before s i = ⟨a, fun t =>
      if t = s ∧ (schema.column? s).isSome then some i
      else before.bind fun r => r.entered t, s⟩ := by
  have hbefore : before.getD (.new a s) =
      ⟨a, fun t => before.bind fun r => r.entered t, (before.getD (.new a s)).status⟩ := by
    cases before with
    | none => rfl
    | some r =>
      rw [← h r rfl]
      rfl
  unfold ProgressRecord.move
  rw [hbefore]
  by_cases hc : (schema.column? s).isSome
  · simp only [hc, if_true, and_true]
    rfl
  · simp only [hc, Bool.false_eq_true, if_false, and_false]

/-- A visit that begins a run moves the account. -/
lemma recordOf_concat_begin (h : ∀ w ∈ vs.getLast?, w.stage ≠ v.stage) :
    recordOf schema a (vs ++ [v]) =
      some (.move schema a (recordOf schema a vs) v.stage v.instant) := by
  have hown : ∀ r ∈ recordOf schema a vs, r.account = a := by
    intro r hr
    obtain ⟨w, -, rfl⟩ := Option.map_eq_some_iff.mp hr
    rfl
  rw [move_eq hown, recordOf, List.getLast?_concat, Option.map_some, Option.some.injEq,
    ProgressRecord.mk.injEq]
  refine ⟨rfl, ?_, rfl⟩
  funext t
  rw [bind_recordOf, lastEntries, lastEntries, lastEntry_concat_begin h]
  by_cases ht : t = v.stage
  · rw [if_pos ht, ht]
    cases hc : (schema.column? v.stage).isSome <;> simp
  · have hother : ¬ (t = v.stage ∧ (schema.column? v.stage).isSome) := fun hboth => ht hboth.1
    rw [if_neg ht, if_neg hother]

/-- A visit that goes on with a run leaves the account as it is. -/
lemma recordOf_concat_again {w : StageVisit} (hw : w ∈ vs.getLast?) (h : w.stage = v.stage) :
    recordOf schema a (vs ++ [v]) = recordOf schema a vs := by
  have hentries : lastEntries schema (vs ++ [v]) = lastEntries schema vs := by
    funext s
    rw [lastEntries, lastEntries, lastEntry_concat_again hw h]
  rw [recordOf, recordOf, List.getLast?_concat, hw, hentries, Option.map_some, Option.map_some, h]

lemma recordOf_concat (vs : List StageVisit) (v : StageVisit) :
    recordOf schema a (vs ++ [v]) = some (visit schema a (recordOf schema a vs) v) := by
  cases hlast : vs.getLast? with
  | none =>
    rw [recordOf_concat_begin (by simp [hlast]), recordOf, hlast]
    rfl
  | some w =>
    have hrecord : recordOf schema a vs = some ⟨a, lastEntries schema vs, w.stage⟩ := by
      rw [recordOf, hlast]
      rfl
    by_cases hw : w.stage = v.stage
    · rw [recordOf_concat_again hlast hw, hrecord]
      exact congrArg some (if_pos hw).symm
    · rw [recordOf_concat_begin (by simpa [hlast] using hw), hrecord]
      exact congrArg some (if_neg hw).symm

theorem attend_eq_recordOf (vs : List StageVisit) :
    attend schema a none vs = recordOf schema a vs := by
  induction vs using List.reverseRecOn with
  | nil => rfl
  | append_singleton vs v ih =>
    rw [recordOf_concat, ← ih, attend, List.foldl_append]
    rfl

/-- The records of accounts, as far as there are any. -/
abbrev Book := AccountId → Option ProgressRecord

/-- The rows of a store that has the records of a book and can be read. -/
def Book.rows (b : Book) : Rows :=
  fun a => match b a with
    | some r => .ok r
    | none => .error .notFound

/-- The book after an account came to a stage. -/
def Book.visit (schema : ProgressSchema) (b : Book) (e : AccountId × StageVisit) : Book :=
  update b e.1 (some (Proofs.visit schema e.1 (b e.1) e.2))

/-- The visits of one account. -/
def visitsOf (a : AccountId) (es : List (AccountId × StageVisit)) : List StageVisit :=
  (es.filter fun e => e.1 = a).map Prod.snd

/-- An update answers with the change that it makes to the record of its account, and writes this
record. -/
lemma amend_rows (schema : ProgressSchema) (b : Book) (a : AccountId) (v : StageVisit) :
    (amend schema b.rows a v.stage v.instant).1 = .ok (changeOf (b a) v.stage) ∧
      putRow b.rows (amend schema b.rows a v.stage v.instant).2 = (b.visit schema (a, v)).rows := by
  have hput : ∀ r, putRow b.rows (some (a, r)) = Book.rows (update b a (some r)) := by
    intro r
    funext c
    change update b.rows a (.ok r) c = _
    by_cases hc : c = a
    · rw [hc, update_self, Book.rows, update_self]
    · rw [update_of_ne hc, Book.rows, Book.rows, update_of_ne hc]
  unfold amend Book.visit visit changeOf
  cases hb : b a with
  | none =>
    have hrow : b.rows a = .error .notFound := by rw [Book.rows, hb]
    rw [hrow]
    exact ⟨rfl, hput _⟩
  | some r =>
    have hrow : b.rows a = .ok r := by rw [Book.rows, hb]
    rw [hrow]
    by_cases hs : r.status = v.stage
    · have hsame : update b a (some r) = b := by rw [← hb, update_eq_self]
      simp only [hs, if_true, hsame]
      exact ⟨trivial, rfl⟩
    · simp only [hs, if_false]
      exact ⟨trivial, hput _⟩

lemma visitsOf_cons_self (v : StageVisit) (es : List (AccountId × StageVisit)) :
    visitsOf a ((a, v) :: es) = v :: visitsOf a es := by
  simp [visitsOf]

lemma visitsOf_cons_of_ne {e : AccountId × StageVisit} (h : e.1 ≠ a)
    (es : List (AccountId × StageVisit)) : visitsOf a (e :: es) = visitsOf a es := by
  simp [visitsOf, h]

lemma foldl_visit_apply (schema : ProgressSchema) (b : Book) (es : List (AccountId × StageVisit))
    (a : AccountId) :
    es.foldl (Book.visit schema) b a = attend schema a (b a) (visitsOf a es) := by
  induction es generalizing b with
  | nil => rfl
  | cons e es ih =>
    obtain ⟨c, v⟩ := e
    rw [List.foldl_cons, ih]
    by_cases hc : c = a
    · subst hc
      rw [visitsOf_cons_self, Book.visit, update_self]
      rfl
    · rw [visitsOf_cons_of_ne hc, Book.visit, update_of_ne (Ne.symm hc)]

/-- What visits of many accounts leave of an empty book. -/
theorem foldl_visit_empty (schema : ProgressSchema) (es : List (AccountId × StageVisit))
    (a : AccountId) :
    es.foldl (Book.visit schema) (fun _ => none) a = recordOf schema a (visitsOf a es) := by
  rw [foldl_visit_apply, attend_eq_recordOf]

end Tenancy.Proofs
