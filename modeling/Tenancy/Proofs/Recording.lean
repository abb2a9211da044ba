import Tenancy.Proofs.Visits

/-!
# Visits that are recorded

A ledger in memory holds a book of records. An update that runs alone records a visit, whether it
is run by a schedule or at once, and the ledger then holds the book after the visit.
-/

namespace Tenancy.Proofs

open Function Table Tracker

section Record

variable {S : Type} [RowStore S] {l : Ledger S} {u : Update}

lemma recordMove_engaged (hs : Unfailing l.store) (change : StatusChange)
    (before : Option ProgressRecord)
    (hrow : RowStore.row l.store u.account = before.elim (.error .notFound) .ok) :
    recordMove (engaged l u) u l.begin.1 change = (.ok change,
      disengaged l u (some (u.account, .move (RowStore.schema l.store) u.account before u.stage
        (u.instant.getD l.world.clock.now)))) := by
  have hready : Unfailing (engaged l u).store := hs
  have hcurrent : overlay (RowStore.row (engaged l u).store) l.begin.1.pending u.account =
      before.elim (.error .notFound) .ok := hrow
  unfold recordMove Ledger.write
  rw [ledger_aboutToWrite hready.write]
  simp only
  rw [ledger_read hready.read, hcurrent]
  cases before <;> rfl

/-- An update that is run at once does what one does that runs alone. -/
lemma record_eq (hs : Unfailing l.store) (u : Update) :
    let w := amend (RowStore.schema l.store) (RowStore.row l.store) u.account u.stage
      (u.instant.getD l.world.clock.now)
    record l u = (w.1, disengaged l u w.2) := by
  have hread : (engaged l u).read l.begin.1 u.account =
      (RowStore.row l.store u.account, engaged l u) := ledger_read (l := engaged l u) hs.read _ _
  unfold amend record
  simp only
  rw [show l.begin.2.join l.begin.1 u.account = engaged l u from rfl, hread]
  cases hrow : RowStore.row l.store u.account with
  | ok r =>
    by_cases hstage : r.status = u.stage
    · simp only [Tracker.decide, hstage, if_true]
      rfl
    · simp only [Tracker.decide, hstage, if_false]
      exact recordMove_engaged hs _ (some r) hrow
  | error e =>
    cases e with
    | notFound => exact recordMove_engaged hs _ none hrow
    | _ => rfl

end Record

/-- A ledger on which nobody works, whose store is ready and has the records of a book. -/
structure Holding (schema : ProgressSchema) (b : Book) (l : Ledger ProgressMemory) : Prop where
  quiet : Manned l.locks fun _ : Unit => none
  swift : Swift l.store
  columns : l.store.schema = schema
  stocked : Stocked (Fitting schema) l.store.rows
  rows : RowStore.row l.store = b.rows

variable {schema : ProgressSchema} {b : Book} {l : Ledger ProgressMemory}

/-- The ledger of a store in memory without rows. -/
def emptyLedger (schema : ProgressSchema) (clock : Clock) : Ledger ProgressMemory :=
  ⟨⟨.empty schema, clock⟩, .empty⟩

lemma holding_empty (schema : ProgressSchema) (clock : Clock) :
    Holding schema (fun _ => none) (emptyLedger schema clock) where
  quiet := manned_of_lines_nil rfl fun _ => rfl
  swift := ⟨⟨rfl, rfl⟩, rfl⟩
  columns := rfl
  stocked := stocked_nil
  rows := rfl

lemma row_progressMemory (m : ProgressMemory) : RowStore.row m = rowsOf m.rows :=
  row_memory ⟨.empty, m⟩

lemma Holding.fits (h : Holding schema b l) (a : AccountId) (r : ProgressRecord)
    (hr : b.rows a = .ok r) : Fitting schema a r := by
  rw [← h.rows, row_progressMemory, rowsOf_eq_ok] at hr
  exact h.stocked.fits a r (mem_of_get? hr)

lemma Holding.disengaged (h : Holding schema b l) (u : Update) (i : Instant) :
    Holding schema (b.visit schema (u.account, ⟨u.stage, i⟩))
      (disengaged l u (amend schema b.rows u.account u.stage i).2) := by
  have hquiet := h.quiet.disengaged (i := ()) rfl u
  have hrows := (amend_rows schema b u.account ⟨u.stage, i⟩).2
  cases hw : (amend schema b.rows u.account u.stage i).2 with
  | none =>
    rw [hw] at hrows
    exact ⟨hquiet, h.swift, h.columns, h.stocked, h.rows.trans hrows⟩
  | some e =>
    obtain ⟨a, r⟩ := e
    have hone : (keys [(a, r)]).Nodup := List.nodup_singleton a
    have hkept : RowStore.row (RowStore.commit l.store [(a, r)]) =
        putRow (RowStore.row l.store) (some (a, r)) :=
      (row_commit_kept (s := l.store) trivial ⟨hone, fun _ _ _ => trivial⟩ fun _ _ _ => rfl).trans
        (overlay_insert (p := []) a r)
    rw [hw, ← h.rows] at hrows
    exact ⟨hquiet, ⟨RowKeeper.ready_commit _ _ h.swift.unfailing, h.swift.prompt⟩, h.columns,
      h.stocked.insert (amend_fits h.fits (fun _ => fitting_move) hw), hkept.trans hrows⟩

/-- An update that runs alone answers with the change that its visit makes, and the ledger holds the
book after the visit. -/
theorem Holding.update (h : Holding schema b l) {u : Update} (hu : u.phase = .arriving)
    (now : Nat) :
    ∃ l' said, Tracker.machine.alone now l u =
        some ⟨now, l', said, .ok (changeOf (b u.account) u.stage)⟩ ∧
      Holding schema (b.visit schema
        (u.account, ⟨u.stage, u.instant.getD l.world.clock.now⟩)) l' := by
  obtain ⟨said, halone⟩ := alone_update h.swift (h.quiet.line_eq_nil (fun _ => rfl) _) hu now
  rw [show RowStore.schema l.store = schema from h.columns, h.rows,
    (amend_rows schema b u.account ⟨u.stage, _⟩).1] at halone
  exact ⟨_, said, halone, h.disengaged u _⟩

/-- The same is true of an update that is run at once. -/
theorem Holding.record (h : Holding schema b l) (u : Update) :
    ∃ l', Tracker.record l u = (.ok (changeOf (b u.account) u.stage), l') ∧
      Holding schema (b.visit schema
        (u.account, ⟨u.stage, u.instant.getD l.world.clock.now⟩)) l' := by
  have hrecord := record_eq h.swift.unfailing u
  simp only at hrecord
  rw [show RowStore.schema l.store = schema from h.columns, h.rows,
    (amend_rows schema b u.account ⟨u.stage, _⟩).1] at hrecord
  exact ⟨_, hrecord, h.disengaged u _⟩

end Tenancy.Proofs
