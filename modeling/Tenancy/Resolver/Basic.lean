import Tenancy.Account.Store
import Tenancy.Resolver.Coalescer
import Tenancy.Resolver.Index
import Tenancy.Settings

/-!
# Resolving accounts

A cache in front of a store of accounts. Outcomes, also those that found nothing, are trusted for a
while and then looked up again; errors go to the caller and are not kept. Concurrent misses for one
key may share a lookup. The time limit of a request covers its own lookup and any wait for the
lookup of another one.
-/

namespace Tenancy

/-- The state of a resolver. -/
structure Resolver where
  /-- How long an outcome is trusted. -/
  ttl : Span
  maxEntries : Option Nat
  index : CacheIndex
  coalescer : Option (Coalescer InstallationKey CacheEntry)
  hits : Nat
  misses : Nat
  storeCalls : Nat
  evictions : Nat

namespace Resolver

def new (c : ResolverConfig) : Resolver where
  ttl := .ofDuration c.ttl
  maxEntries := c.maxEntries.map UInt64.toNat
  index := .empty
  coalescer := if c.coalesce then some (.new c.joinTimeout) else none
  hits := 0
  misses := 0
  storeCalls := 0
  evictions := 0

/-- The entry that answers a key at an instant, and how much longer it is trusted. A clock that was
set back can make that longer than the longest span. -/
def fresh? (r : Resolver) (now : Instant) (k : InstallationKey) : Option (CacheEntry × Span) := do
  let e ← r.index.probe k
  let age : Span := now - e.loadedAt
  if age < r.ttl then return (e, (r.ttl.sub? age).getD Span.longest) else none

def populate (r : Resolver) (request : InstallationKey) (e : CacheEntry) : Resolver :=
  let (index, dropped) := r.index.populate r.maxEntries request e
  { r with index, evictions := r.evictions + dropped }

def invalidate (r : Resolver) (k : InstallationKey) : Resolver :=
  { r with index := r.index.invalidate k }

/-- Changes the coalescer, if there is one. -/
def mapCoalescer (r : Resolver)
    (f : Coalescer InstallationKey CacheEntry → Coalescer InstallationKey CacheEntry) : Resolver :=
  { r with coalescer := r.coalescer.map f }

/-- A request for a key, on its way. -/
structure Call where
  request : Request
  key : InstallationKey
  /-- When the time limit of the request is over; it is set when the request has missed. -/
  deadline : Option Nat
  phase : Coalescer.Phase

/-- A request that has not begun. -/
def Call.new (request : Request) (key : InstallationKey) : Call :=
  ⟨request, key, none, .arriving⟩

variable {S : Type} [AccountStore S]

abbrev CallTurn (S : Type) := Turn (World S × Resolver) Call (Except Error AccountRecord)

def report (c : Call) (message : String) (fields : List (String × String)) : Notice :=
  ⟨.debug, message, ("key", c.key.text) :: fields, c.request.scope "resolve"⟩

/-- The request begins its own lookup; it leads a flight if one is given. -/
def beginLoad (now : Nat) (w : World S) (r : Resolver) (c : Call) (flight : Option Nat) :
    CallTurn S :=
  let store := AccountStore.begin w.store
  ⟨({ w with store }, { r with storeCalls := r.storeCalls + 1 }), [],
    .running { c with phase := .loading flight (now + AccountStore.latency store) }⟩

/-- The request has missed: it leads a flight, joins one, or begins its own lookup. -/
def miss (now : Nat) (w : World S) (r : Resolver) (c : Call) : CallTurn S :=
  let r := { r with misses := r.misses + 1 }
  let c := { c with deadline := c.request.timeout.map fun t => now + Request.limitMillis t }
  match r.coalescer with
  | none => beginLoad now w r c none
  | some co =>
    match co.inflight.get? c.key with
    | some flight =>
      ⟨(w, r), [], .running { c with
        phase := .joining flight (now + Request.limitMillis co.joinTimeout) }⟩
    | none => beginLoad now w { r with coalescer := some (co.lead c.key) } c (some co.nextFlight)

/-- The request begins: a key that names nothing finds nothing, and an entry that is trusted is the
answer. -/
def arrive (now : Nat) (w : World S) (r : Resolver) (c : Call) : CallTurn S :=
  if ¬ c.key.isUsable then ⟨(w, r), [], .ended (.error .notFound)⟩
  else match r.fresh? w.clock.now c.key with
    | some (e, left) =>
      ⟨(w, { r with hits := r.hits + 1 }),
        [report c "using cached account" [("expires_in", left.text)]], .ended e.outcome⟩
    | none => miss now w r c

/-- The request has an outcome, which it stores and answers with. -/
def settle (w : World S) (r : Resolver) (c : Call) (e : CacheEntry) (notices : List Notice) :
    CallTurn S :=
  ⟨(w, r.populate c.key e), notices, .ended e.outcome⟩

def publish (r : Resolver) (c : Call) (flight : Option Nat) (e : CacheEntry) : Resolver :=
  match flight with
  | some f => r.mapCoalescer fun co => co.publish c.key f e
  | none => r

/-- The flight of the request ends without an outcome. -/
def land (r : Resolver) (c : Call) (flight : Option Nat) : Resolver :=
  match flight with
  | some _ => r.mapCoalescer fun co => co.land c.key
  | none => r

def endLoad (w : World S) (r : Resolver) (c : Call) (flight : Option Nat) : CallTurn S :=
  let (answer, store) := AccountStore.lookup w.store c.key
  let w := { w with store }
  match answer with
  | .ok found =>
    let e : CacheEntry := ⟨w.clock.now, some found⟩
    settle w (publish r c flight e) c e []
  | .error .notFound =>
    let e : CacheEntry := ⟨w.clock.now, none⟩
    settle w (publish r c flight e) c e
      [report c "account not found, caching negative result" []]
  | .error error => ⟨(w, land r c flight), [], .ended (.error error)⟩

/-- The request gives up waiting and begins its own lookup. -/
def fallBack (now : Nat) (w : World S) (r : Resolver) (c : Call) : CallTurn S :=
  beginLoad now w (r.mapCoalescer Coalescer.countFallback) c none

def sight (r : Resolver) (c : Call) (flight : Nat) : Coalescer.Sight CacheEntry :=
  match r.coalescer with
  | some co => co.sight c.key flight
  | none => .lost

def step (now : Nat) (w : World S) (r : Resolver) (c : Call) : Option (CallTurn S) :=
  match c.phase with
  | .arriving => some (arrive now w r c)
  | .joining flight _ =>
    match sight r c flight with
    | .value e => some (settle w (r.mapCoalescer Coalescer.countJoined) c e [])
    | .lost => some (fallBack now w r c)
    | .waiting => none
  | .loading flight due => if now < due then none else some (endLoad w r c flight)

/-- The flight that a request leads ends when the request ends without an outcome. -/
def abandon (r : Resolver) (c : Call) : Resolver :=
  match c.phase with
  | .loading flight _ => land r c flight
  | _ => r

/-- A request that waits too long for a flight begins its own lookup, and one whose time limit is
over ends. -/
def expire (now : Nat) (w : World S) (r : Resolver) (c : Call) : Option (CallTurn S) :=
  let late : Option (CallTurn S) :=
    match c.deadline, c.request.timeout with
    | some deadline, some limit =>
      if deadline ≤ now then
        some ⟨(w, abandon r c), [], .ended (.error (.deadlineExceeded limit))⟩
      else none
    | _, _ => none
  match c.phase with
  | .joining _ due => if due ≤ now then some (fallBack now w r c) else late
  | _ => late

def timers (c : Call) : List Nat :=
  c.deadline.toList ++
    match c.phase with
    | .arriving => []
    | .joining _ due => [due]
    | .loading _ due => [due]

/-- The state when a request is dropped. -/
def drop (w : World S) (r : Resolver) (c : Call) : World S × Resolver :=
  (w, abandon r c)

def machine : Machine (World S × Resolver) Call (Except Error AccountRecord) where
  step now s := step now s.1 s.2
  expire now s := expire now s.1 s.2
  drop s := drop s.1 s.2
  timers := timers

/-- A lookup in the store itself, on its way. -/
structure Fetch where
  request : Request
  key : InstallationKey
  /-- When the time limit is over and when the lookup ends, once it has begun. -/
  due : Option (Option Nat × Nat)

def stepFetch (now : Nat) (store : S) (f : Fetch) :
    Option (Turn S Fetch (Except Error AccountRecord)) :=
  match f.due with
  | none =>
    let store := AccountStore.begin store
    some ⟨store, [], .running { f with
      due := some (f.request.timeout.map fun t => now + Request.limitMillis t,
        now + AccountStore.latency store) }⟩
  | some (_, due) =>
    if now < due then none
    else
      let (answer, store) := AccountStore.lookup store f.key
      some ⟨store, [], .ended answer⟩

def expireFetch (now : Nat) (store : S) (f : Fetch) :
    Option (Turn S Fetch (Except Error AccountRecord)) :=
  match f.due, f.request.timeout with
  | some (some deadline, _), some limit =>
    if deadline ≤ now then some ⟨store, [], .ended (.error (.deadlineExceeded limit))⟩ else none
  | _, _ => none

def timersFetch (f : Fetch) : List Nat :=
  match f.due with
  | some (deadline, due) => due :: deadline.toList
  | none => []

end Resolver

end Tenancy
