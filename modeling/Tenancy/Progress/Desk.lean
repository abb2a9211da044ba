import Tenancy.Progress.Tracker

/-!
# Transactions under names

A desk keeps transactions open under names that its callers choose, so that the calls of one
transaction can come one by one and from different callers.
-/

namespace Tenancy

/-- A ledger and the transactions that are open on it, by their names. -/
structure Desk (S : Type) where
  ledger : Ledger S
  transactions : Table String Transaction

namespace Desk

variable {S : Type}

/-- What is done with a transaction. -/
inductive Task where
  /-- A new one takes the name. -/
  | begin
  | read (account : AccountId)
  | write (account : AccountId) (stage : Stage) (instant : Instant)
  | commit
  | rollback
  | drop
  deriving DecidableEq

/-- For what a call waits. -/
structure Wait where
  /-- When what it waits for is there at the latest, if that is known. -/
  due : Option Nat
  /-- When its time limit is over. -/
  deadline : Option Nat

/-- A call for a transaction, on its way. -/
structure Call where
  request : Request
  name : String
  task : Task
  wait : Option Wait

/-- What comes of a call. -/
inductive Answer where
  /-- No transaction has the name. -/
  | unknown
  | failed (error : Error)
  | done
  | row (r : ProgressRecord)

abbrev CallTurn (S : Type) := Turn (Desk S) Call Answer

def stop (d : Desk S) (a : Answer) : CallTurn S :=
  ⟨d, [], .ended a⟩

def withLedger (d : Desk S) (ledger : Ledger S) : Desk S :=
  { d with ledger }

/-- The name is free again, and nothing of its transaction remains. -/
def close (d : Desk S) (name : String) (t : Transaction) : Desk S :=
  ⟨d.ledger.close t, d.transactions.erase name⟩

/-- A transaction takes a name; the one that had the name is dropped. -/
def assign (d : Desk S) (name : String) : Desk S :=
  let (t, ledger) := d.ledger.begin
  let ledger := match d.transactions.get? name with
    | some old => ledger.close old
    | none => ledger
  ⟨ledger, d.transactions.insert name t⟩

/-- A call that waits for the row of an account, as long as its time limit allows. -/
def await (now : Nat) (d : Desk S) (c : Call) (t : Transaction) (a : AccountId) : CallTurn S :=
  ⟨d.withLedger (d.ledger.join t a), [],
    .running { c with wait := some ⟨none, Tracker.deadline now c.request⟩ }⟩

variable [RowStore S]

def read (d : Desk S) (t : Transaction) (a : AccountId) : CallTurn S :=
  match d.ledger.read t a with
  | (.ok r, ledger) => (d.withLedger ledger).stop (.row r)
  | (.error e, ledger) => (d.withLedger ledger).stop (.failed e)

def write (d : Desk S) (name : String) (t : Transaction) (a : AccountId) (stage : Stage)
    (instant : Instant) : CallTurn S :=
  match d.ledger.write t a stage instant with
  | (.ok t, ledger) => stop ⟨ledger, d.transactions.insert name t⟩ .done
  | (.error e, ledger) => (d.withLedger ledger).stop (.failed e)

/-- The first turn of a call for an open transaction. -/
def start (now : Nat) (d : Desk S) (c : Call) (t : Transaction) : CallTurn S :=
  match c.task with
  | .begin => d.stop .done
  | .read a => if d.ledger.holds t a then d.read t a else d.await now c t a
  | .write a stage instant =>
    match d.ledger.aboutToWrite with
    | (.error e, ledger) => (d.withLedger ledger).stop (.failed e)
    | (.ok _, ledger) =>
      let d := d.withLedger ledger
      if d.ledger.holds t a then d.write c.name t a stage instant else d.await now c t a
  | .commit =>
    stop ⟨d.ledger.commit t, d.transactions.erase c.name⟩ .done
  | .rollback => (d.close c.name t).stop .done
  | .drop => (d.close c.name t).stop .done

/-- The turn of a call for an open transaction after it has waited for a row. -/
def resume (d : Desk S) (c : Call) (t : Transaction) : Option (CallTurn S) :=
  match c.task with
  | .read a => if d.ledger.holds t a then some (d.read t a) else none
  | .write a stage instant =>
    if d.ledger.holds t a then some (d.write c.name t a stage instant) else none
  | _ => none

/-- The turn of a call with which a transaction begins. -/
def stepBegin (now : Nat) (d : Desk S) (c : Call) : Option (CallTurn S) :=
  match c.wait with
  | none =>
    let due := now + RowStore.beginDelay d.ledger.store
    some ⟨d, [], .running { c with wait := some ⟨some due, Tracker.deadline now c.request⟩ }⟩
  | some w =>
    if w.due.any (now < ·) then none else some ((d.assign c.name).stop .done)

def step (now : Nat) (d : Desk S) (c : Call) : Option (CallTurn S) :=
  if c.task = .begin then d.stepBegin now c
  else match d.transactions.get? c.name, c.wait with
    | none, _ => some (d.stop .unknown)
    | some t, none => some (d.start now c t)
    | some t, some _ => d.resume c t

/-- The desk when a call is dropped: its transaction no longer waits for the row, and stays open. -/
def drop (d : Desk S) (c : Call) : Desk S :=
  match c.wait, d.transactions.get? c.name, c.task with
  | some _, some t, .read a => d.withLedger (d.ledger.leave t a)
  | some _, some t, .write a _ _ => d.withLedger (d.ledger.leave t a)
  | _, _, _ => d

/-- A call that waits longer than its time limit ends. -/
def expire (now : Nat) (d : Desk S) (c : Call) : Option (CallTurn S) :=
  match c.wait.bind Wait.deadline, c.request.timeout with
  | some deadline, some limit =>
    if deadline ≤ now then some ((drop d c).stop (.failed (.deadlineExceeded limit))) else none
  | _, _ => none

def timers (c : Call) : List Nat :=
  match c.wait with
  | some w => w.due.toList ++ w.deadline.toList
  | none => []

def machine : Machine (Desk S) Call Answer :=
  ⟨step, expire, drop, timers⟩

end Desk

end Tenancy
