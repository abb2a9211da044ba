import Tenancy.Progress.Json

/-!
# Rows of progress in a database

A row is an object with the stage that the account is at and one instant for each column that the
record has, its keys in ascending order. When a row is read under other columns than those with
which it was written, what stands in columns that no stage has is left aside.
-/

namespace Tenancy

open Json

namespace ProgressRecord

/-- The key under which a row says which stage the account is at. -/
def statusColumn : String :=
  "current_status"

def columnEntries (schema : ProgressSchema) (r : ProgressRecord) : List (String × Value) :=
  schema.entries.filterMap fun e => (r.entered e.1).map fun i => (e.2, i.toJson)

/-- The row of a record. A column counts before another one of its name that stands before it, and
before the stage that the account is at. -/
def row (schema : ProgressSchema) (r : ProgressRecord) : Value :=
  .object (Reader.sortEntries ((statusColumn, r.status.toJson) :: r.columnEntries schema))

def rowBytes (schema : ProgressSchema) (r : ProgressRecord) : List UInt8 :=
  (r.row schema).toBytes

/-- A record with the instant that stands in a column of a row. -/
def addColumn (schema : ProgressSchema) (r : ProgressRecord) (e : String × Value) :
    Except Mismatch ProgressRecord :=
  match schema.stageOf? e.1 with
  | some s => do return { r with entered := r.entered.insert s (← Instant.ofValue e.2) }
  | none => .ok r

def ofColumns (schema : ProgressSchema) (account : AccountId) (status : Value)
    (columns : List (String × Value)) : Except Mismatch ProgressRecord := do
  columns.foldlM (addColumn schema) (new account (← Stage.ofValue status))

def rowReader : Reader (List (String × Value)) := do
  return Reader.sortEntries (← Reader.map Reader.textBody (Reader.value (Reader.depthLimit - 1)))

def ofRow (schema : ProgressSchema) (account : AccountId) (columns : List (String × Value)) :
    Except Error ProgressRecord :=
  match Table.get? columns statusColumn with
  | none => .error (.storage (.noStatus account))
  | some status =>
    (ofColumns schema account status (Table.erase columns statusColumn)).mapError fun m =>
      .json ⟨.mismatch m, none⟩

def ofRowBytes (schema : ProgressSchema) (account : AccountId) (bytes : List UInt8) :
    Except Error ProgressRecord :=
  match rowReader.document bytes with
  | .ok columns => ofRow schema account columns
  | .error e => .error (.json e)

end ProgressRecord

end Tenancy
