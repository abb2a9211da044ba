import Tenancy.Progress.Transaction

/-!
# Recording progress

An update moves an account to a stage within one transaction. An account that is at the stage
already stays as it is. The instant, unless the caller gives one, is read from the clock while the
transaction holds the row. Whatever fails, expires or is dropped leaves no trace.
-/

namespace Tenancy

/-- What an update did to a row. -/
inductive StatusChange where
  | created
  | updated (previous : Stage)
  /-- The account was at the stage already. -/
  | unchanged
  deriving DecidableEq, Inhabited

def StatusChange.text : StatusChange → String
  | created => "Created"
  | updated previous => "Updated \x7b from: " ++ previous.title ++ " \x7d"
  | unchanged => "Unchanged"

namespace Tracker

/-- How far an update has come. -/
inductive Phase where
  | arriving
  /-- The transaction begins, and is there at an instant. -/
  | beginning (due : Nat) (deadline : Option Nat)
  /-- The transaction is in line for the row. -/
  | locking (t : Transaction) (deadline : Option Nat)
  /-- The account is at the stage already. -/
  | keeping (t : Transaction)
  /-- The row is to be written. -/
  | writing (t : Transaction) (change : StatusChange)
  /-- The row is written and is to become that of the store. -/
  | committing (t : Transaction) (change : StatusChange) (instant : Instant)

/-- An update on its way. -/
structure Update where
  request : Request
  account : AccountId
  stage : Stage
  /-- The instant that the caller gives. -/
  instant : Option Instant
  phase : Phase

/-- An update that has not begun. -/
def Update.new (request : Request) (account : AccountId) (stage : Stage)
    (instant : Option Instant) : Update :=
  ⟨request, account, stage, instant, .arriving⟩

def Phase.transaction? : Phase → Option Transaction
  | arriving => none
  | beginning _ _ => none
  | locking t _ => some t
  | keeping t => some t
  | writing t _ => some t
  | committing t _ _ => some t

/-- When the time limit of the call to the store is over, for which an update waits. -/
def Phase.deadline? : Phase → Option Nat
  | beginning _ deadline => deadline
  | locking _ deadline => deadline
  | _ => none

/-- When the time limit of a call that begins now is over. -/
def deadline (now : Nat) (r : Request) : Option Nat :=
  r.timeout.map fun t => now + Request.limitMillis t

variable {S : Type}

abbrev UpdateTurn (S : Type) := Turn (Ledger S) Update (Except Error StatusChange)

def goOn (l : Ledger S) (u : Update) (p : Phase) : UpdateTurn S :=
  ⟨l, [], .running { u with phase := p }⟩

/-- An update ends with an error; its transaction leaves nothing. -/
def fail (l : Ledger S) (t : Transaction) (e : Error) : UpdateTurn S :=
  ⟨l.close t, [], .ended (.error e)⟩

def fields (u : Update) : List (String × String) :=
  [("account", u.account.text), ("stage", u.stage.name)]

/-- The report that the account was at the stage already. -/
def keptNotice (u : Update) : Notice :=
  ⟨.debug, "stage already recorded", fields u, u.request.scope "update_status"⟩

/-- The report that the account was moved to the stage. -/
def movedNotice (u : Update) (change : StatusChange) (instant : Instant) : Notice :=
  ⟨.info, "stage recorded",
    fields u ++ [("change", change.text), ("timestamp", Rfc3339.plainText instant)],
    u.request.scope "update_status"⟩

def decide (u : Update) (t : Transaction) : Except Error ProgressRecord → Except Error Phase
  | .ok r => .ok (if r.status = u.stage then .keeping t else .writing t (.updated r.status))
  | .error .notFound => .ok (.writing t .created)
  | .error e => .error e

variable [RowStore S]

/-- The row is written, as far as the transaction is concerned. -/
def write (l : Ledger S) (u : Update) (t : Transaction) (change : StatusChange) : UpdateTurn S :=
  let instant := u.instant.getD l.world.clock.now
  match l.aboutToWrite with
  | (.error e, l) => fail l t e
  | (.ok _, l) =>
    match l.write t u.account u.stage instant with
    | (.error e, l) => fail l t e
    | (.ok t, l) => goOn l u (.committing t change instant)

/-- The row is written and committed by an update that runs alone. -/
def recordMove (l : Ledger S) (u : Update) (t : Transaction) (change : StatusChange) :
    Except Error StatusChange × Ledger S :=
  match l.aboutToWrite with
  | (.error e, l) => (.error e, l.close t)
  | (.ok _, l) =>
    match l.write t u.account u.stage (u.instant.getD l.world.clock.now) with
    | (.error e, l) => (.error e, l.close t)
    | (.ok t, l) => (.ok change, l.commit t)

/-- Runs an update alone and with all the time that it needs. -/
def record (l : Ledger S) (u : Update) : Except Error StatusChange × Ledger S :=
  let (t, l) := l.begin
  let (current, l) := (l.join t u.account).read t u.account
  match decide u t current with
  | .error e => (.error e, l.close t)
  | .ok (.writing t change) => recordMove l u t change
  | .ok _ => (.ok .unchanged, l.close t)

def step (now : Nat) (l : Ledger S) (u : Update) : Option (UpdateTurn S) :=
  match u.phase with
  | .arriving =>
    some (goOn l u (.beginning (now + RowStore.beginDelay l.store) (deadline now u.request)))
  | .beginning due _ =>
    if now < due then none
    else
      let (t, l) := l.begin
      some (goOn (l.join t u.account) u (.locking t (deadline now u.request)))
  | .locking t _ =>
    if l.holds t u.account then
      let (current, l) := l.read t u.account
      match decide u t current with
      | .ok p => some (goOn l u p)
      | .error e => some (fail l t e)
    else none
  | .keeping t => some ⟨l.close t, [keptNotice u], .ended (.ok .unchanged)⟩
  | .writing t change => some (write l u t change)
  | .committing t change instant =>
    some ⟨l.commit t, [movedNotice u change instant], .ended (.ok change)⟩

/-- The transaction of an update is dropped with it. -/
def drop (l : Ledger S) (u : Update) : Ledger S :=
  match u.phase.transaction? with
  | some t => l.close t
  | none => l

/-- An update that waits longer than its time limit ends. -/
def expire (now : Nat) (l : Ledger S) (u : Update) : Option (UpdateTurn S) :=
  match u.phase.deadline?, u.request.timeout with
  | some deadline, some limit =>
    if deadline ≤ now then some ⟨drop l u, [], .ended (.error (.deadlineExceeded limit))⟩ else none
  | _, _ => none

def timers (u : Update) : List Nat :=
  u.phase.deadline?.toList ++
    match u.phase with
    | .beginning due _ => [due]
    | _ => []

def machine : Machine (Ledger S) Update (Except Error StatusChange) :=
  ⟨step, expire, drop, timers⟩

end Tracker

end Tenancy
