import Mathlib.Data.List.Nodup
import Mathlib.Logic.Function.Basic
import Tenancy.Progress.Desk
import Tenancy.Proofs.Table

/-!
# Transactions one at a time

What the tasks of transactions answer, and what becomes of the rows of a store, when one transaction
runs after another. A transaction that keeps what it writes to itself gives the same answers, and the
same rows once it has committed. The journal of a desk tells which transactions have committed, in
the order of their commits, and which are open, each with what it has done.
-/

namespace Tenancy.Proofs

open Table Function Desk

/-- The rows of a store by their accounts. -/
abbrev Rows := AccountId → Except Error ProgressRecord

/-- The account whose row a task reads or writes. -/
def account? : Task → Option AccountId
  | .read a => some a
  | .write a _ _ => some a
  | _ => none

/-- What a task on rows answers, and the row that it writes. -/
def work (schema : ProgressSchema) (rows : Rows) :
    Task → Desk.Answer × Option (AccountId × ProgressRecord)
  | .read a =>
    match rows a with
    | .ok r => (.row r, none)
    | .error e => (.failed e, none)
  | .write a stage instant =>
    match rows a with
    | .ok r => (.done, some (a, .move schema a (some r) stage instant))
    | .error .notFound => (.done, some (a, .move schema a none stage instant))
    | .error e => (.failed e, none)
  | _ => (.done, none)

/-- The rows with one that is written. -/
def putRow (rows : Rows) : Option (AccountId × ProgressRecord) → Rows
  | some (a, r) => update rows a (.ok r)
  | none => rows

/-- A task on rows, with its answer and the rows after it. -/
def perform (schema : ProgressSchema) (rows : Rows) (task : Task) : Desk.Answer × Rows :=
  let w := work schema rows task
  (w.1, putRow rows w.2)

/-- Does one thing after another, each where the one before it ended. -/
def oneByOne {σ α β : Type} (f : σ → α → β × σ) (s : σ) : List α → List β × σ
  | [] => ([], s)
  | x :: xs =>
    let one := f s x
    let rest := oneByOne f one.2 xs
    (one.1 :: rest.1, rest.2)

/-- The rows as a store gives them back that keeps its records in a form of its own. -/
def givenBack (kept : ProgressRecord → ProgressRecord) (rows : Rows) : Rows :=
  fun a => (rows a).map kept

/-- A whole transaction, with its answers and the rows that the store gives back after it. -/
def transact (schema : ProgressSchema) (kept : ProgressRecord → ProgressRecord) (rows : Rows)
    (tasks : List Task) : List Desk.Answer × Rows :=
  let done := oneByOne (perform schema) rows tasks
  (done.1, givenBack kept done.2)

/-- Whole transactions one after another, with their answers and the rows after them. -/
def serial (schema : ProgressSchema) (kept : ProgressRecord → ProgressRecord) (rows : Rows)
    (transactions : List (List Task)) : List (List Desk.Answer) × Rows :=
  oneByOne (transact schema kept) rows transactions

section OneByOne

variable {σ τ α β : Type} {f g : σ → α → β × σ}

lemma oneByOne_append (s : σ) (xs ys : List α) :
    oneByOne f s (xs ++ ys) =
      ((oneByOne f s xs).1 ++ (oneByOne f (oneByOne f s xs).2 ys).1,
        (oneByOne f (oneByOne f s xs).2 ys).2) := by
  induction xs generalizing s with
  | nil => rfl
  | cons x xs ih =>
    simp only [List.cons_append, oneByOne]
    rw [ih]

lemma oneByOne_congr {xs : List α} (h : ∀ x ∈ xs, ∀ s, f s x = g s x) (s : σ) :
    oneByOne f s xs = oneByOne g s xs := by
  induction xs generalizing s with
  | nil => rfl
  | cons x xs ih =>
    simp only [oneByOne]
    rw [h x List.mem_cons_self s, ih fun y hy => h y (List.mem_cons_of_mem x hy)]

lemma oneByOne_keeps {P : σ → Prop} {xs : List α} (h : ∀ x ∈ xs, ∀ s, P s → P (f s x).2) {s : σ}
    (hs : P s) : P (oneByOne f s xs).2 := by
  induction xs generalizing s with
  | nil => exact hs
  | cons x xs ih =>
    simp only [oneByOne]
    exact ih (fun y hy => h y (List.mem_cons_of_mem x hy)) (h x List.mem_cons_self s hs)

lemma oneByOne_map {f' : τ → α → β × τ} {view : σ → τ}
    (h : ∀ s x, f' (view s) x = ((f s x).1, view (f s x).2)) (s : σ) (xs : List α) :
    oneByOne f' (view s) xs = ((oneByOne f s xs).1, view (oneByOne f s xs).2) := by
  induction xs generalizing s with
  | nil => rfl
  | cons x xs ih =>
    simp only [oneByOne]
    rw [h, ih]

end OneByOne

variable {schema : ProgressSchema} {rows base base' : Rows} {p : Table AccountId ProgressRecord}
  {task : Task}

lemma work_congr (h : ∀ a, account? task = some a → base a = base' a) :
    work schema base task = work schema base' task := by
  cases task with
  | read a =>
    have ha : base a = base' a := h a rfl
    simp only [work]
    rw [ha]
  | write a stage instant =>
    have ha : base a = base' a := h a rfl
    simp only [work]
    rw [ha]
  | begin => rfl
  | commit => rfl
  | rollback => rfl
  | drop => rfl

/-- A row that a task writes is that of its account, moved from the row before. -/
lemma work_writes {a : AccountId} {r : ProgressRecord}
    (h : (work schema rows task).2 = some (a, r)) :
    ∃ before stage instant, task = .write a stage instant ∧ (∀ r' ∈ before, rows a = .ok r') ∧
      r = .move schema a before stage instant := by
  cases task with
  | write b stage instant =>
    simp only [work] at h
    cases hb : rows b with
    | ok r' =>
      rw [hb] at h
      obtain ⟨rfl, rfl⟩ := Prod.mk.inj (Option.some.inj h)
      exact ⟨some r', stage, instant, rfl, by simp [hb], rfl⟩
    | error e =>
      rw [hb] at h
      cases e with
      | notFound =>
        obtain ⟨rfl, rfl⟩ := Prod.mk.inj (Option.some.inj h)
        exact ⟨none, stage, instant, rfl, by simp, rfl⟩
      | _ => cases h
  | read b =>
    simp only [work] at h
    split at h <;> cases h
  | begin => cases h
  | commit => cases h
  | rollback => cases h
  | drop => cases h

/-- The rows as a transaction sees them that has written some of its own. -/
def overlay (rows : Rows) (p : Table AccountId ProgressRecord) : Rows :=
  fun a =>
    match p.get? a with
    | some r => .ok r
    | none => rows a

/-- The rows of a transaction with one that it has written. -/
def keepRow (p : Table AccountId ProgressRecord) :
    Option (AccountId × ProgressRecord) → Table AccountId ProgressRecord
  | some (a, r) => p.insert a r
  | none => p

/-- A task of a transaction that keeps what it writes to itself. -/
def buffer (schema : ProgressSchema) (rows : Rows) (p : Table AccountId ProgressRecord)
    (task : Task) : Desk.Answer × Table AccountId ProgressRecord :=
  let w := work schema (overlay rows p) task
  (w.1, keepRow p w.2)

lemma overlay_nil (rows : Rows) : overlay rows [] = rows :=
  rfl

lemma overlay_of_notMem {a : AccountId} (h : a ∉ keys p) : overlay rows p a = rows a := by
  rw [overlay, get?_eq_none.mpr h]

lemma overlay_insert (a : AccountId) (r : ProgressRecord) :
    overlay rows (p.insert a r) = update (overlay rows p) a (.ok r) := by
  funext b
  rw [overlay, get?_insert]
  by_cases hb : b = a
  · rw [if_pos hb, hb, update_self]
  · rw [if_neg hb, update_of_ne hb, overlay]

lemma overlay_congr {a : AccountId} (h : base a = base' a) :
    overlay base p a = overlay base' p a := by
  simp only [overlay, h]

lemma perform_overlay (p : Table AccountId ProgressRecord) (task : Task) :
    perform schema (overlay rows p) task =
      ((buffer schema rows p task).1, overlay rows (buffer schema rows p task).2) := by
  have hput : ∀ w, putRow (overlay rows p) w = overlay rows (keepRow p w) := by
    rintro (_ | ⟨a, r⟩)
    · rfl
    · exact (overlay_insert a r).symm
  exact congrArg _ (hput _)

/-- A transaction that keeps what it writes to itself answers as one that writes at once. -/
lemma perform_buffer (schema : ProgressSchema) (rows : Rows) (p : Table AccountId ProgressRecord)
    (tasks : List Task) :
    oneByOne (perform schema) (overlay rows p) tasks =
      ((oneByOne (buffer schema rows) p tasks).1,
        overlay rows (oneByOne (buffer schema rows) p tasks).2) :=
  oneByOne_map perform_overlay p tasks

lemma buffer_congr {tasks : List Task}
    (h : ∀ task ∈ tasks, ∀ a, account? task = some a → base a = base' a)
    (p : Table AccountId ProgressRecord) :
    oneByOne (buffer schema base) p tasks = oneByOne (buffer schema base') p tasks := by
  refine oneByOne_congr ?_ p
  intro task ht q
  have hw : work schema (overlay base q) task = work schema (overlay base' q) task :=
    work_congr fun a ha => overlay_congr (h task ht a ha)
  simp only [buffer, hw]

/-- Nothing fails that is about to read or write. -/
structure Unfailing {S : Type} [RowStore S] (s : S) : Prop where
  read : RowStore.aboutToRead s = (.ok (), s)
  write : RowStore.aboutToWrite s = (.ok (), s)

/-- A transaction reads what it has written, or else the row of the store, unless that fails. -/
lemma ledger_read {S : Type} [RowStore S] {l : Ledger S}
    (h : RowStore.aboutToRead l.store = (.ok (), l.store)) (t : Transaction) (a : AccountId) :
    l.read t a = (overlay (RowStore.row l.store) t.pending a, l) := by
  unfold Ledger.read
  rw [h]
  rfl

lemma ledger_aboutToWrite {S : Type} [RowStore S] {l : Ledger S}
    (h : RowStore.aboutToWrite l.store = (.ok (), l.store)) : l.aboutToWrite = (.ok (), l) := by
  unfold Ledger.aboutToWrite
  rw [h]
  rfl

/-- A store that gives back the rows that were committed to it, in the form in which it keeps them, if
its columns are sound and the rows fit them. -/
class RowKeeper (S : Type) [RowStore S] where
  Sound : ProgressSchema → Prop
  Fits : ProgressSchema → AccountId → ProgressRecord → Prop
  kept : ProgressRecord → ProgressRecord
  schema_commit : ∀ (s : S) p, RowStore.schema (RowStore.commit s p) = RowStore.schema s
  ready_commit : ∀ (s : S) p, Unfailing s → Unfailing (RowStore.commit s p)
  fits_row : ∀ (s : S) a r, RowStore.row s a = .ok r → Fits (RowStore.schema s) a r
  kept_row : ∀ (s : S) a r, RowStore.row s a = .ok r → kept r = r
  fits_move : ∀ schema a before stage instant, (∀ r ∈ before, Fits schema a r) →
    Fits schema a (.move schema a before stage instant)
  row_commit : ∀ (s : S) p, Sound (RowStore.schema s) → (keys p).Nodup →
    (∀ a r, (a, r) ∈ p → Fits (RowStore.schema s) a r) →
    RowStore.row (RowStore.commit s p) = givenBack kept (overlay (RowStore.row s) p)

lemma aboutToRead_memory {m : ProgressMemory} :
    RowStore.aboutToRead m = (.ok (), m) ↔ m.readFailures = [] := by
  obtain ⟨schema, rows, mutations, readFailures, writeFailures, beginDelay⟩ := m
  constructor
  · intro h
    cases readFailures with
    | nil => rfl
    | cons reason later => cases congrArg Prod.fst h
  · rintro rfl
    rfl

lemma aboutToWrite_memory {m : ProgressMemory} :
    RowStore.aboutToWrite m = (.ok (), m) ↔ m.writeFailures = [] := by
  obtain ⟨schema, rows, mutations, readFailures, writeFailures, beginDelay⟩ := m
  constructor
  · intro h
    cases writeFailures with
    | nil => rfl
    | cons reason later => cases congrArg Prod.fst h
  · rintro rfl
    rfl

lemma ready_memory {m : ProgressMemory} :
    Unfailing m ↔ m.readFailures = [] ∧ m.writeFailures = [] := by
  rw [← aboutToRead_memory, ← aboutToWrite_memory]
  exact ⟨fun h => ⟨h.read, h.write⟩, fun h => ⟨h.1, h.2⟩⟩

/-- Memory keeps any rows as they are under any columns. -/
instance : RowKeeper ProgressMemory where
  Sound _ := True
  Fits _ _ _ := True
  kept := id
  schema_commit _ _ := rfl
  ready_commit s _ h := by
    have hs := ready_memory.mp h
    exact ready_memory.mpr hs
  fits_row _ _ _ _ := trivial
  kept_row _ _ _ _ := rfl
  fits_move _ _ _ _ _ _ := trivial
  row_commit s p _ hn _ := by
    funext a
    change ProgressMemory.row (ProgressMemory.commit s p) a =
      (overlay (ProgressMemory.row s) p a).map id
    unfold ProgressMemory.row ProgressMemory.commit overlay
    simp only [get?_foldl_insert p s.rows hn a]
    cases p.get? a with
    | some r => rfl
    | none => cases s.rows.get? a <;> rfl

/-- What a transaction keeps back: at most one row for each account, which fits. -/
structure Stocked (fits : AccountId → ProgressRecord → Prop)
    (p : Table AccountId ProgressRecord) : Prop where
  nodup : (keys p).Nodup
  fits : ∀ a r, (a, r) ∈ p → fits a r

lemma stocked_nil {fits : AccountId → ProgressRecord → Prop} : Stocked fits [] :=
  ⟨List.nodup_nil, by simp⟩

lemma Stocked.mono {fits fits' : AccountId → ProgressRecord → Prop} (h : Stocked fits p)
    (hf : ∀ a r, fits a r → fits' a r) : Stocked fits' p :=
  ⟨h.nodup, fun a r hm => hf a r (h.fits a r hm)⟩

lemma Stocked.insert {fits : AccountId → ProgressRecord → Prop} (h : Stocked fits p) {a : AccountId}
    {r : ProgressRecord} (hr : fits a r) : Stocked fits (p.insert a r) where
  nodup := nodup_keys_insert h.nodup a r
  fits b r' hm := by
    rcases List.mem_append.mp hm with hm | hm
    · exact h.fits b r' (mem_of_mem_erase hm)
    · obtain ⟨rfl, rfl⟩ := Prod.mk.inj (List.mem_singleton.mp hm)
      exact hr

lemma Stocked.buffer {fits : AccountId → ProgressRecord → Prop} (h : Stocked fits p)
    (hrows : ∀ a r, rows a = .ok r → fits a r)
    (hmove : ∀ a before stage instant, task = .write a stage instant → (∀ r ∈ before, fits a r) →
      fits a (.move schema a before stage instant)) :
    Stocked fits (buffer schema rows p task).2 := by
  change Stocked fits (keepRow p (work schema (overlay rows p) task).2)
  generalize hw : (work schema (overlay rows p) task).2 = w
  cases w with
  | none => exact h
  | some e =>
    obtain ⟨a, r⟩ := e
    obtain ⟨before, stage, instant, htask, hb, rfl⟩ := work_writes hw
    refine h.insert (hmove a before stage instant htask ?_)
    intro r' hr'
    have hrow := hb r' hr'
    unfold overlay at hrow
    split at hrow
    · rename_i q hq
      rw [← Except.ok.inj hrow]
      exact h.fits a q (mem_of_get? hq)
    · exact hrows a r' hrow

section Keeper

variable {S : Type} [RowStore S] [RowKeeper S] {s : S} {a : AccountId} {r : ProgressRecord}

/-- What the tasks of a transaction have kept back: rows of their accounts that fit. -/
structure Kempt (fits : AccountId → ProgressRecord → Prop) (tasks : List Task)
    (p : Table AccountId ProgressRecord) : Prop extends Stocked fits p where
  touched : ∀ a ∈ keys p, ∃ task ∈ tasks, account? task = some a

lemma kempt_buffer (s : S) (tasks : List Task) :
    Kempt (RowKeeper.Fits S (RowStore.schema s)) tasks
      (oneByOne (buffer (RowStore.schema s) (RowStore.row s)) [] tasks).2 := by
  refine oneByOne_keeps ?_ ⟨stocked_nil, by simp [keys]⟩
  intro task ht p hp
  have hmove : ∀ a before stage instant, task = .write a stage instant →
      (∀ r ∈ before, RowKeeper.Fits S (RowStore.schema s) a r) →
      RowKeeper.Fits S (RowStore.schema s) a (.move (RowStore.schema s) a before stage instant) :=
    fun a before stage instant _ => RowKeeper.fits_move _ a before stage instant
  refine ⟨hp.toStocked.buffer (RowKeeper.fits_row s) hmove, ?_⟩
  change ∀ a ∈ keys (keepRow p (work (RowStore.schema s) (overlay (RowStore.row s) p) task).2), _
  generalize hw : (work (RowStore.schema s) (overlay (RowStore.row s) p) task).2 = w
  cases w with
  | none => exact hp.touched
  | some e =>
    intro b hm
    obtain ⟨d, hd, rfl⟩ := List.mem_map.mp hm
    rcases List.mem_append.mp hd with hd | hd
    · exact hp.touched d.1 (List.mem_map.mpr ⟨d, mem_of_mem_erase hd, rfl⟩)
    · rw [List.mem_singleton.mp hd]
      obtain ⟨before, stage, instant, rfl, -⟩ := work_writes hw
      exact ⟨_, ht, rfl⟩

/-- A row that is committed as it is kept is given back, and so is one that stays as it was. -/
lemma row_commit_at {p : Table AccountId ProgressRecord}
    (hs : RowKeeper.Sound S (RowStore.schema s))
    (hp : Stocked (RowKeeper.Fits S (RowStore.schema s)) p)
    (hkept : ∀ r, (a, r) ∈ p → RowKeeper.kept S r = r) :
    RowStore.row (RowStore.commit s p) a = overlay (RowStore.row s) p a := by
  rw [RowKeeper.row_commit s p hs hp.nodup hp.fits, givenBack, overlay]
  cases ha : get? p a with
  | some r => rw [Except.map, hkept r (mem_of_get? ha)]
  | none =>
    cases hr : RowStore.row s a with
    | error e => rfl
    | ok r => rw [Except.map, RowKeeper.kept_row s a r hr]

lemma row_commit_kept {p : Table AccountId ProgressRecord}
    (hs : RowKeeper.Sound S (RowStore.schema s))
    (hp : Stocked (RowKeeper.Fits S (RowStore.schema s)) p)
    (hkept : ∀ a r, (a, r) ∈ p → RowKeeper.kept S r = r) :
    RowStore.row (RowStore.commit s p) = overlay (RowStore.row s) p :=
  funext fun a => row_commit_at hs hp (hkept a)

lemma row_commit_of_notMem {p : Table AccountId ProgressRecord}
    (hs : RowKeeper.Sound S (RowStore.schema s))
    (hp : Stocked (RowKeeper.Fits S (RowStore.schema s)) p) (ha : a ∉ keys p) :
    RowStore.row (RowStore.commit s p) a = RowStore.row s a := by
  rw [row_commit_at hs hp fun r hr => absurd (List.mem_map_of_mem hr) ha, overlay_of_notMem ha]

lemma row_commit_buffer (hs : RowKeeper.Sound S (RowStore.schema s)) (tasks : List Task) :
    RowStore.row (RowStore.commit s
        (oneByOne (buffer (RowStore.schema s) (RowStore.row s)) [] tasks).2) =
      (transact (RowStore.schema s) (RowKeeper.kept S) (RowStore.row s) tasks).2 := by
  have hk := kempt_buffer s tasks
  have hp := perform_buffer (RowStore.schema s) (RowStore.row s) [] tasks
  rw [overlay_nil] at hp
  rw [RowKeeper.row_commit s _ hs hk.nodup hk.fits]
  unfold transact
  rw [hp]

end Keeper

/-- The tasks that the open transactions have done, by name, and those of the transactions that have
committed, in the order of their commits; each task with its answer. -/
structure Journal where
  opened : Table String (List (Task × Desk.Answer))
  committed : List (List (Task × Desk.Answer))

/-- The journal with one more task that is done. -/
def Journal.note (j : Journal) (name : String) (task : Task) (answer : Desk.Answer) : Journal :=
  match task, j.opened.get? name with
  | .begin, _ => { j with opened := j.opened.insert name [] }
  | _, none => j
  | .commit, some done => ⟨j.opened.erase name, j.committed ++ [done]⟩
  | .rollback, some _ => { j with opened := j.opened.erase name }
  | .drop, some _ => { j with opened := j.opened.erase name }
  | task, some done => { j with opened := j.opened.insert name (done ++ [(task, answer)]) }

/-- The journal of the calls of a history. -/
def journal (log : List (Nat × Call × Desk.Answer)) : Journal :=
  log.foldl (fun j e => j.note e.2.1.name e.2.1.task e.2.2) ⟨[], []⟩

lemma journal_append (log : List (Nat × Call × Desk.Answer)) (i : Nat) (c : Call)
    (answer : Desk.Answer) :
    journal (log ++ [(i, c, answer)]) = (journal log).note c.name c.task answer :=
  List.foldl_append

end Tenancy.Proofs
