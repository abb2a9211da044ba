import Tenancy.Account.Key
import Tenancy.Table

/-!
# Row locks

Who may work on the row of an account. Transactions line up for a row; the first in the line holds
the row until it leaves, and then the next one holds it. Lines for different accounts have nothing
to do with each other.
-/

namespace Tenancy

/-- The lines of transactions for the rows of accounts. -/
structure RowLocks where
  /-- The line for each row that is held. -/
  lines : Table AccountId (List Nat)
  /-- The number of the next transaction. -/
  nextOwner : Nat

namespace RowLocks

def empty : RowLocks :=
  ⟨[], 0⟩

/-- The transactions in the line for a row, the holder first. -/
def line (l : RowLocks) (a : AccountId) : List Nat :=
  (l.lines.get? a).getD []

def enroll (l : RowLocks) : RowLocks :=
  { l with nextOwner := l.nextOwner + 1 }

def holds (l : RowLocks) (a : AccountId) (owner : Nat) : Bool :=
  (l.line a).head? == some owner

/-- A transaction lines up for a row, unless it is in the line already. -/
def join (l : RowLocks) (a : AccountId) (owner : Nat) : RowLocks :=
  if owner ∈ l.line a then l
  else { l with lines := l.lines.insert a (l.line a ++ [owner]) }

/-- A line without a transaction, unless nobody is left in it. -/
def shorten (owner : Nat) (e : AccountId × List Nat) : Option (AccountId × List Nat) :=
  match e.2.filter (· ≠ owner) with
  | [] => none
  | owners => some (e.1, owners)

def leave (l : RowLocks) (a : AccountId) (owner : Nat) : RowLocks :=
  { l with lines := l.lines.filterMap fun e => if e.1 = a then shorten owner e else some e }

def release (l : RowLocks) (owner : Nat) : RowLocks :=
  { l with lines := l.lines.filterMap (shorten owner) }

end RowLocks

end Tenancy
