import Tenancy.Schedule
import Tenancy.Table

/-!
# Shared loads

Concurrent loads of one key share one flight. The first call for a key leads: it runs its load, and
if that succeeds it publishes the value. A call that finds a flight for its key joins it and waits;
when the wait takes too long, or the flight ends without a value, it runs its own load outside of
any flight. Errors stay with the call that ran into them.
-/

namespace Tenancy

/-- The flights under way, and how calls ended up with their values. -/
structure Coalescer (K V : Type) where
  /-- How long a call waits for the flight of another one. -/
  joinTimeout : Duration
  /-- The flight of each key that is being loaded. -/
  inflight : Table K Nat
  /-- The values of flights that succeeded. -/
  published : Table Nat V
  /-- The number of the next flight. -/
  nextFlight : Nat
  leaders : Nat
  joined : Nat
  fallbacks : Nat

namespace Coalescer

variable {K V E : Type} [DecidableEq K]

/-- A coalescer without flights. -/
def new (joinTimeout : Duration) : Coalescer K V :=
  ⟨joinTimeout, [], [], 0, 0, 0, 0⟩

def lead (c : Coalescer K V) (k : K) : Coalescer K V :=
  { c with
    inflight := c.inflight.insert k c.nextFlight
    nextFlight := c.nextFlight + 1
    leaders := c.leaders + 1 }

def land (c : Coalescer K V) (k : K) : Coalescer K V :=
  { c with inflight := c.inflight.erase k }

def publish (c : Coalescer K V) (k : K) (flight : Nat) (v : V) : Coalescer K V :=
  { c with published := c.published.insert flight v }.land k

def countJoined (c : Coalescer K V) : Coalescer K V :=
  { c with joined := c.joined + 1 }

def countFallback (c : Coalescer K V) : Coalescer K V :=
  { c with fallbacks := c.fallbacks + 1 }

/-- What a call that joined a flight sees. -/
inductive Sight (V : Type) where
  | waiting
  | value (v : V)
  | lost

def sight (c : Coalescer K V) (k : K) (flight : Nat) : Sight V :=
  match c.published.get? flight with
  | some v => .value v
  | none => if c.inflight.get? k = some flight then .waiting else .lost

/-- How far a call has come. -/
inductive Phase where
  | arriving
  /-- It waits for a flight, no longer than until an instant. -/
  | joining (flight : Nat) (due : Nat)
  /-- Its own load ends at an instant; it leads a flight if one is given. -/
  | loading (flight : Option Nat) (due : Nat)
  deriving DecidableEq

/-- A call: its key, how long its load takes and with what that ends, and how far it has come. -/
structure Load (K V E : Type) where
  key : K
  duration : Nat
  outcome : Except E V
  phase : Phase

/-- What is asked of a coalescer. -/
inductive Call (K V E : Type) where
  | load (l : Load K V E)
  /-- Reads the number of flights and the counters. -/
  | sample

/-- What comes of it. -/
inductive Answer (V E : Type) where
  | executed (v : V)
  | joined (v : V)
  | failed (e : E)
  | counted (inflight leaders joined fallbacks : Nat)

def goOn (c : Coalescer K V) (l : Load K V E) (p : Phase) :
    Turn (Coalescer K V) (Call K V E) (Answer V E) :=
  ⟨c, [], .running (.load { l with phase := p })⟩

def stop (c : Coalescer K V) (a : Answer V E) : Turn (Coalescer K V) (Call K V E) (Answer V E) :=
  ⟨c, [], .ended a⟩

def fallBack (now : Nat) (c : Coalescer K V) (l : Load K V E) :
    Turn (Coalescer K V) (Call K V E) (Answer V E) :=
  goOn c.countFallback l (.loading none (now + l.duration))

def stepLoad (now : Nat) (c : Coalescer K V) (l : Load K V E) :
    Option (Turn (Coalescer K V) (Call K V E) (Answer V E)) :=
  match l.phase with
  | .arriving =>
    match c.inflight.get? l.key with
    | some flight =>
      some (goOn c l (.joining flight (now + Request.limitMillis c.joinTimeout)))
    | none => some (goOn (c.lead l.key) l (.loading (some c.nextFlight) (now + l.duration)))
  | .joining flight _ =>
    match c.sight l.key flight with
    | .value v => some (stop c.countJoined (.joined v))
    | .lost => some (fallBack now c l)
    | .waiting => none
  | .loading flight due =>
    if now < due then none
    else match l.outcome, flight with
      | .ok v, some flight => some (stop (c.publish l.key flight v) (.executed v))
      | .ok v, none => some (stop c (.executed v))
      | .error e, some _ => some (stop (c.land l.key) (.failed e))
      | .error e, none => some (stop c (.failed e))

def step (now : Nat) (c : Coalescer K V) :
    Call K V E → Option (Turn (Coalescer K V) (Call K V E) (Answer V E))
  | .load l => stepLoad now c l
  | .sample => some (stop c (.counted c.inflight.length c.leaders c.joined c.fallbacks))

/-- A call that has waited long enough for a flight runs its own load. -/
def expire (now : Nat) (c : Coalescer K V) :
    Call K V E → Option (Turn (Coalescer K V) (Call K V E) (Answer V E))
  | .load l =>
    match l.phase with
    | .joining _ due => if due ≤ now then some (fallBack now c l) else none
    | _ => none
  | .sample => none

/-- A call that is dropped takes its flight with it. -/
def drop (c : Coalescer K V) : Call K V E → Coalescer K V
  | .load l =>
    match l.phase with
    | .loading (some _) _ => c.land l.key
    | _ => c
  | .sample => c

def timers : Call K V E → List Nat
  | .load l =>
    match l.phase with
    | .arriving => []
    | .joining _ due => [due]
    | .loading _ due => [due]
  | .sample => []

def machine : Machine (Coalescer K V) (Call K V E) (Answer V E) :=
  ⟨step, expire, drop, timers⟩

end Coalescer

end Tenancy
