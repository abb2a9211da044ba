import Tenancy.Progress.Record
import Tenancy.Table

/-!
# Stores of progress

What a store of progress does for its transactions, and a store that holds its rows in memory. The
store in memory counts the rows that were written, and it can be told to begin slowly and to fail.
-/

namespace Tenancy

/-- A store of one row of progress per account. -/
class RowStore (S : Type) where
  /-- The stages for which instants are kept. -/
  schema : S → ProgressSchema
  /-- How many milliseconds a transaction takes to begin. -/
  beginDelay : S → Nat
  /-- The row of an account. -/
  row : S → AccountId → Except Error ProgressRecord
  /-- All rows in ascending order of their accounts. -/
  rows : S → Except Error (List ProgressRecord)
  /-- A transaction is about to read, which may fail. -/
  aboutToRead : S → Except Error Unit × S
  /-- A transaction is about to write, which may fail. -/
  aboutToWrite : S → Except Error Unit × S
  /-- The rows of a transaction become those of the store, all at once. -/
  commit : S → Table AccountId ProgressRecord → S

/-- A store that holds its rows in memory. -/
structure ProgressMemory where
  schema : ProgressSchema
  rows : Table AccountId ProgressRecord
  /-- The number of rows that were written. -/
  mutations : Nat
  /-- The reasons for which the next readings fail. -/
  readFailures : List String
  /-- The reasons for which the next writings fail. -/
  writeFailures : List String
  /-- How many milliseconds a transaction takes to begin. -/
  beginDelay : Nat

namespace ProgressMemory

/-- The store without rows. -/
def empty (schema : ProgressSchema) : ProgressMemory :=
  ⟨schema, [], 0, [], [], 0⟩

def row (m : ProgressMemory) (a : AccountId) : Except Error ProgressRecord :=
  match m.rows.get? a with
  | some r => .ok r
  | none => .error .notFound

/-- The rows in ascending order of their accounts. -/
def sorted (m : ProgressMemory) : List ProgressRecord :=
  (m.rows.map (·.2)).mergeSort fun r s => r.account.value ≤ s.account.value

def commit (m : ProgressMemory) (pending : Table AccountId ProgressRecord) : ProgressMemory :=
  { m with
    rows := pending.foldl (fun rows e => rows.insert e.1 e.2) m.rows
    mutations := m.mutations + pending.length }

/-- The first of the reasons is used up. -/
def takeFailure : List String → Except Error Unit × List String
  | [] => (.ok (), [])
  | reason :: later => (.error (.storage (.other reason)), later)

/-- A reading fails if there is a reason for it. -/
def aboutToRead (m : ProgressMemory) : Except Error Unit × ProgressMemory :=
  let (answer, later) := takeFailure m.readFailures
  (answer, { m with readFailures := later })

/-- A writing fails if there is a reason for it. -/
def aboutToWrite (m : ProgressMemory) : Except Error Unit × ProgressMemory :=
  let (answer, later) := takeFailure m.writeFailures
  (answer, { m with writeFailures := later })

instance : RowStore ProgressMemory where
  schema m := m.schema
  beginDelay m := m.beginDelay
  row := row
  rows m := .ok m.sorted
  aboutToRead := aboutToRead
  aboutToWrite := aboutToWrite
  commit := commit

end ProgressMemory

end Tenancy
