import Tenancy.Progress.Desk
import Tenancy.Resolver.Basic

/-!
# The service

A resolver of accounts and a tracker of progress that work on one store with one clock. Commands of
all kinds run on it side by side.
-/

namespace Tenancy

/-- A store with all that works on it. -/
structure Service (S : Type) where
  desk : Desk S
  resolver : Resolver

/-- What is asked of a service. Changes of the store answer with values of a type of their own. -/
inductive Command (S A : Type) where
  | resolve (c : Resolver.Call)
  /-- Looks an account up in the store itself. -/
  | fetch (f : Resolver.Fetch)
  | invalidate (k : InstallationKey)
  | update (u : Tracker.Update)
  /-- Reads the row of an account outside of transactions. -/
  | status (a : AccountId)
  /-- Reads all rows. -/
  | report
  | transaction (c : Desk.Call)
  | advance (d : Duration)
  | setClock (i : Instant)
  | change (f : S → A × S)

/-- What a command answers with. -/
inductive Answer (A : Type) where
  | done
  | failed (e : Error)
  | account (r : AccountRecord)
  | change (c : StatusChange)
  | row (r : ProgressRecord)
  | rows (rs : List ProgressRecord)
  | noTransaction
  | changed (a : A)

/-- The answer with what succeeded, or with the error. -/
def Answer.ofExcept {A α : Type} (f : α → Answer A) : Except Error α → Answer A
  | .ok a => f a
  | .error e => .failed e

def Answer.ofDesk {A : Type} : Desk.Answer → Answer A
  | .unknown => .noTransaction
  | .failed e => .failed e
  | .done => .done
  | .row r => .row r

namespace Service

variable {S A : Type}

def new (store : S) (now : Instant) (config : ResolverConfig) : Service S :=
  ⟨⟨⟨⟨store, ⟨now⟩⟩, .empty⟩, []⟩, .new config⟩

def world (s : Service S) : World S :=
  s.desk.ledger.world

def withLedger (s : Service S) (l : Ledger S) : Service S :=
  { s with desk := s.desk.withLedger l }

def withWorld (s : Service S) (w : World S) : Service S :=
  s.withLedger { s.desk.ledger with world := w }

def withStore (s : Service S) (store : S) : Service S :=
  s.withLedger (s.desk.ledger.withStore store)

def withClock (s : Service S) (clock : Clock) : Service S :=
  s.withWorld { s.world with clock }

def withResolving (s : Service S) (p : World S × Resolver) : Service S :=
  { s.withWorld p.1 with resolver := p.2 }

abbrev CommandTurn (S A : Type) := Turn (Service S) (Command S A) (Answer A)

def ofResolving (s : Service S) :
    Turn (World S × Resolver) Resolver.Call (Except Error AccountRecord) → CommandTurn S A :=
  Turn.map s.withResolving .resolve (.ofExcept .account)

def ofFetching (s : Service S) :
    Turn S Resolver.Fetch (Except Error AccountRecord) → CommandTurn S A :=
  Turn.map s.withStore .fetch (.ofExcept .account)

def ofUpdating (s : Service S) : Tracker.UpdateTurn S → CommandTurn S A :=
  Turn.map s.withLedger .update (.ofExcept .change)

def ofTransaction (s : Service S) : Desk.CallTurn S → CommandTurn S A :=
  Turn.map (fun desk => { s with desk }) .transaction .ofDesk

def stop (s : Service S) (a : Answer A) : CommandTurn S A :=
  ⟨s, [], .ended a⟩

variable [AccountStore S] [RowStore S]

def step (now : Nat) (s : Service S) : Command S A → Option (CommandTurn S A)
  | .resolve c => (Resolver.step now s.world s.resolver c).map s.ofResolving
  | .fetch f => (Resolver.stepFetch now s.world.store f).map s.ofFetching
  | .invalidate k => some (stop { s with resolver := s.resolver.invalidate k } .done)
  | .update u => (Tracker.step now s.desk.ledger u).map s.ofUpdating
  | .status a => some (s.stop (.ofExcept .row (RowStore.row s.world.store a)))
  | .report => some (s.stop (.ofExcept .rows (RowStore.rows s.world.store)))
  | .transaction c => (Desk.step now s.desk c).map s.ofTransaction
  | .advance d => some ((s.withClock (s.world.clock.advance d)).stop .done)
  | .setClock i => some ((s.withClock (s.world.clock.set i)).stop .done)
  | .change f =>
    let (answer, store) := f s.world.store
    some ((s.withStore store).stop (.changed answer))

/-- What becomes of a command that waits, if its time is over. -/
def expire (now : Nat) (s : Service S) : Command S A → Option (CommandTurn S A)
  | .resolve c => (Resolver.expire now s.world s.resolver c).map s.ofResolving
  | .fetch f => (Resolver.expireFetch now s.world.store f).map s.ofFetching
  | .update u => (Tracker.expire now s.desk.ledger u).map s.ofUpdating
  | .transaction c => (Desk.expire now s.desk c).map s.ofTransaction
  | _ => none

/-- The service when a command is dropped. -/
def drop (s : Service S) : Command S A → Service S
  | .resolve c => s.withResolving (Resolver.drop s.world s.resolver c)
  | .update u => s.withLedger (Tracker.drop s.desk.ledger u)
  | .transaction c => { s with desk := Desk.drop s.desk c }
  | _ => s

def timers : Command S A → List Nat
  | .resolve c => Resolver.timers c
  | .fetch f => Resolver.timersFetch f
  | .update u => Tracker.timers u
  | .transaction c => Desk.timers c
  | _ => []

def machine : Machine (Service S) (Command S A) (Answer A) :=
  ⟨step, expire, drop, timers⟩

end Service

end Tenancy
