import Tenancy.Progress.Event
import Tenancy.Progress.Report
import Tenancy.Progress.Tracker

/-!
# Replaying events

A stream of events is recorded one after the other. A line that cannot be read, and an event that
cannot be recorded, leave everything as it is and do not end the stream.
-/

namespace Tenancy

/-- What became of an item of a stream. -/
inductive Replayed where
  | unreadable (e : Csv.Error)
  | tried (account : AccountId) (answer : Except Error StatusChange)

namespace Replayed

def answer : Replayed → Except Error StatusChange
  | unreadable e => .error (.csv e)
  | tried _ answer => answer

def account? : Replayed → Option AccountId
  | unreadable _ => none
  | tried a _ => some a

/-- The item could not be read. -/
def isUnreadable : Replayed → Bool
  | unreadable _ => true
  | tried _ _ => false

/-- The item could be read but not recorded. -/
def isFailed : Replayed → Bool
  | tried _ (.error _) => true
  | _ => false

end Replayed

/-- How far a stream was recorded: the ledger, and what became of the items so far. -/
structure Replay (S : Type) where
  ledger : Ledger S
  items : List Replayed

namespace Replay

variable {S : Type}

def start (l : Ledger S) : Replay S :=
  ⟨l, []⟩

def pause (r : Replay S) (d : Duration) : Replay S :=
  let world := r.ledger.world
  { r with ledger := { r.ledger with world := { world with clock := world.clock.advance d } } }

/-- The accounts of the items that could be read, in ascending order. -/
def accounts (r : Replay S) : List AccountId :=
  ((r.items.filterMap Replayed.account?).eraseDups).mergeSort fun a b => a.value ≤ b.value

variable [RowStore S]

def next (r : Replay S) : Except Csv.Error StageEvent → Replay S
  | .error e => { r with items := r.items ++ [.unreadable e] }
  | .ok e =>
    let (answer, ledger) := Tracker.record r.ledger (.new .plain e.account e.stage e.timestamp)
    ⟨ledger, r.items ++ [.tried e.account answer]⟩

/-- Records a stream; after each item some time passes. -/
def run (pause : Duration) (l : Ledger S) (items : List (Except Csv.Error StageEvent)) : Replay S :=
  items.foldl (fun r i => (r.next i).pause pause) (start l)

/-- The rows of the accounts of the stream in ascending order. An account without a row has none. -/
def rows (r : Replay S) : Except Error (List ProgressRecord) := do
  let found ← r.accounts.mapM fun a =>
    match RowStore.row r.ledger.store a with
    | .ok row => .ok (some row)
    | .error .notFound => .ok none
    | .error e => .error e
  return found.filterMap id

end Replay

end Tenancy
