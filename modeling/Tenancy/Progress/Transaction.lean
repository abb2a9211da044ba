import Tenancy.Account.Store
import Tenancy.Progress.Locks
import Tenancy.Progress.Store
import Tenancy.Schedule

/-!
# Transactions on progress

A transaction locks each row that it reads or writes when it first touches it, and keeps what it
writes to itself. When it commits, all its rows become those of the store; when it is rolled back or
dropped, nothing of it remains. Either way it then leaves all its rows to the next in line.
-/

namespace Tenancy

/-- A transaction under way: its number in the lines for rows, and the rows that it has written. -/
structure Transaction where
  owner : Nat
  pending : Table AccountId ProgressRecord

/-- A store with a clock and the locks on its rows. -/
structure Ledger (S : Type) where
  world : World S
  locks : RowLocks

namespace Ledger

variable {S : Type}

def store (l : Ledger S) : S :=
  l.world.store

def withStore (l : Ledger S) (store : S) : Ledger S :=
  { l with world := { l.world with store } }

def begin (l : Ledger S) : Transaction × Ledger S :=
  (⟨l.locks.nextOwner, []⟩, { l with locks := l.locks.enroll })

/-- A transaction lines up for the row of an account. -/
def join (l : Ledger S) (t : Transaction) (a : AccountId) : Ledger S :=
  { l with locks := l.locks.join a t.owner }

/-- A transaction leaves the line for the row of an account. -/
def leave (l : Ledger S) (t : Transaction) (a : AccountId) : Ledger S :=
  { l with locks := l.locks.leave a t.owner }

def holds (l : Ledger S) (t : Transaction) (a : AccountId) : Bool :=
  l.locks.holds a t.owner

/-- A transaction ends and leaves nothing but what it has committed. -/
def close (l : Ledger S) (t : Transaction) : Ledger S :=
  { l with locks := l.locks.release t.owner }

variable [RowStore S]

/-- What a transaction that holds the row of an account reads there: what it has written itself, or
else the row of the store. -/
def read (l : Ledger S) (t : Transaction) (a : AccountId) :
    Except Error ProgressRecord × Ledger S :=
  let (ready, store) := RowStore.aboutToRead l.store
  (ready.bind fun _ =>
    match t.pending.get? a with
    | some r => .ok r
    | none => RowStore.row store a,
   l.withStore store)

def aboutToWrite (l : Ledger S) : Except Error Unit × Ledger S :=
  let (ready, store) := RowStore.aboutToWrite l.store
  (ready, l.withStore store)

/-- A transaction that holds the row of an account moves the account to a stage. -/
def write (l : Ledger S) (t : Transaction) (a : AccountId) (stage : Stage) (instant : Instant) :
    Except Error Transaction × Ledger S :=
  let (current, l) := l.read t a
  let moved (before : Option ProgressRecord) : Transaction :=
    let r := ProgressRecord.move (RowStore.schema l.store) a before stage instant
    { t with pending := t.pending.insert a r }
  match current with
  | .ok r => (.ok (moved (some r)), l)
  | .error .notFound => (.ok (moved none), l)
  | .error e => (.error e, l)

def commit (l : Ledger S) (t : Transaction) : Ledger S :=
  (l.withStore (RowStore.commit l.store t.pending)).close t

end Ledger

end Tenancy
