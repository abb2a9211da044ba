import Tenancy.Error

/-!
# Requests

What a caller hands to every operation: how long each call to a store may take, and by what names
the request is known in the reports of what happened.
-/

namespace Tenancy

/-- What is said about an operation in every report of what happened in it. -/
structure Scope where
  operation : String
  event : String
  service : String
  attributes : String
  deriving DecidableEq, Inhabited

/-- How much a report matters. -/
inductive Level where
  | debug
  | info
  deriving DecidableEq, Inhabited

/-- A report of something that happened in an operation. -/
structure Notice where
  level : Level
  message : String
  fields : List (String × String)
  scope : Scope
  deriving DecidableEq, Inhabited

/-- What a caller hands to an operation. -/
structure Request where
  /-- How long a call to a store may take. -/
  timeout : Option Duration
  event : Option String
  service : Option String
  /-- Further names and values, in the order in which they were given. -/
  attributes : List (String × String)
  deriving DecidableEq, Inhabited

namespace Request

def plain : Request :=
  ⟨none, none, none, []⟩

/-- The request with one more name and value. -/
def withAttribute (r : Request) (name value : String) : Request :=
  { r with attributes := r.attributes ++ [(name, value)] }

/-- The value of a name that was given last. -/
def attribute? (r : Request) (name : String) : Option String :=
  (r.attributes.reverse.find? fun e => e.1 = name).map (·.2)

/-- The time kept back at the end of a request. -/
def margin : Duration :=
  .ofSecs 5

/-- The time of a request that sets none. -/
def defaultTimeout : Duration :=
  .ofSecs 60

/-- The request with a time limit that leaves the margin for what comes after it. A limit of at most
three margins is left as it is. -/
def ensureTimeout (r : Request) : Request :=
  { r with
    timeout := some <|
      match r.timeout with
      | some t => if Duration.ofSecs 15 < t then t - margin else t
      | none => defaultTimeout - margin }

def scope (r : Request) (operation : String) : Scope :=
  ⟨operation, r.event.getD "", r.service.getD "",
    String.intercalate "," (r.attributes.map fun e => e.1 ++ "=" ++ e.2)⟩

/-- The whole milliseconds after which a limit is over. A limit that the clock cannot reach is over
after thirty years. -/
def limitMillis (limit : Duration) : Nat :=
  if limit.secs < 0x8000000000000000 then limit.ceilMillis else 30 * 365 * 86400 * 1000

/-- A call that takes `wait` milliseconds: how long the caller waits for it, and what it gets. A
call that ends together with its limit counts as finished. -/
def bound {α : Type} (r : Request) (wait : Nat) (outcome : Except Error α) :
    Nat × Except Error α :=
  match r.timeout with
  | none => (wait, outcome)
  | some limit =>
    if wait ≤ limitMillis limit then (wait, outcome)
    else (limitMillis limit, .error (.deadlineExceeded limit))

end Request

end Tenancy
