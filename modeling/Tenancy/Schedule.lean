import Tenancy.Request

/-!
# Schedules of concurrent calls

Calls run one turn at a time on a state that they share. A call takes a turn when it can go on, it
expires when it waits and its time is over, and it may be dropped wherever it waits. Time is counted
in milliseconds and passes only while every call waits. A machine says how the calls of one kind do
this; a run is driven by events, and `Run.finish` chooses them in one particular order: calls whose
time has come have their turns in the order of their list, before those that another call lets go
on, a call goes on until it waits, and time jumps to the next instant at which something can happen.
-/

namespace Tenancy

/-- A call after a turn. -/
inductive Next (κ ρ : Type) where
  | running (call : κ)
  | ended (result : ρ)

/-- What a turn of a call does: the state that it leaves, what it reports, and the call after it. -/
structure Turn (σ κ ρ : Type) where
  shared : σ
  notices : List Notice
  next : Next κ ρ

/-- A turn of a call that is part of a larger state, and of the calls of a larger kind. -/
def Turn.map {σ σ' κ κ' ρ ρ' : Type} (f : σ → σ') (g : κ → κ') (h : ρ → ρ') (t : Turn σ κ ρ) :
    Turn σ' κ' ρ' where
  shared := f t.shared
  notices := t.notices
  next := match t.next with
    | .running k => .running (g k)
    | .ended a => .ended (h a)

/-- How calls run on a shared state. -/
structure Machine (σ κ ρ : Type) where
  /-- The turn of a call at an instant, unless it waits. -/
  step : Nat → σ → κ → Option (Turn σ κ ρ)
  /-- What becomes of a call that waits, if its time is over. -/
  expire : Nat → σ → κ → Option (Turn σ κ ρ)
  /-- The state when a call is dropped. -/
  drop : σ → κ → σ
  /-- The instants for which a call waits. -/
  timers : κ → List Nat

/-- What a call leaves that has ended. -/
structure Finished (σ ρ : Type) where
  time : Nat
  shared : σ
  notices : List Notice
  result : ρ

namespace Machine

variable {σ κ ρ : Type}

/-- What becomes of a call at an instant when it has the turn: it goes on, or it expires. -/
def advance (m : Machine σ κ ρ) (now : Nat) (s : σ) (k : κ) : Option (Turn σ κ ρ) :=
  (m.step now s k).or (m.expire now s k)

def nextTimer (m : Machine σ κ ρ) (now : Nat) (k : κ) : Option Nat :=
  ((m.timers k).filter (now < ·)).min?

/-- Runs a call to its end while nothing else happens. -/
def aloneFrom (m : Machine σ κ ρ) : Nat → Nat → σ → List Notice → κ → Option (Finished σ ρ)
  | 0, _, _, _, _ => none
  | fuel + 1, now, s, said, k =>
    match m.advance now s k with
    | some t =>
      match t.next with
      | .ended a => some ⟨now, t.shared, said ++ t.notices, a⟩
      | .running k => aloneFrom m fuel now t.shared (said ++ t.notices) k
    | none =>
      match m.nextTimer now k with
      | some due => aloneFrom m fuel due s said k
      | none => none

/-- Runs a call to its end while nothing else happens; `none` if it would wait forever. No call
takes more than a few turns. -/
def alone (m : Machine σ κ ρ) (now : Nat) (s : σ) (k : κ) : Option (Finished σ ρ) :=
  m.aloneFrom 16 now s [] k

end Machine

/-- How far a call has come. -/
inductive Stand (κ ρ : Type) where
  | planned (call : κ)
  | running (call : κ)
  /-- The call had its result at an instant; it is kept as it was before its last turn. -/
  | ended (call : κ) (result : ρ) (time : Nat)
  | dropped (call : κ) (time : Nat)

/-- A call of a schedule: when it starts, and when it is dropped unless it has ended. -/
structure Job (κ ρ : Type) where
  start : Nat
  cancel : Option Nat
  stand : Stand κ ρ

/-- The state of a schedule. -/
structure Run (σ κ ρ : Type) where
  now : Nat
  shared : σ
  notices : List Notice
  jobs : List (Job κ ρ)

/-- What can happen in a schedule. -/
inductive Event where
  | start (i : Nat)
  | step (i : Nat)
  | expire (i : Nat)
  | drop (i : Nat)
  | tick (time : Nat)
  deriving DecidableEq

namespace Job

variable {κ ρ : Type}

/-- The call that waits for its start. -/
def planned? (t : Job κ ρ) : Option κ :=
  match t.stand with
  | .planned k => some k
  | _ => none

def running? (t : Job κ ρ) : Option κ :=
  match t.stand with
  | .running k => some k
  | _ => none

end Job

namespace Run

variable {σ κ ρ : Type}

def put (r : Run σ κ ρ) (i : Nat) (s : Stand κ ρ) : Run σ κ ρ :=
  { r with jobs := r.jobs.modify i fun t => { t with stand := s } }

def turn (r : Run σ κ ρ) (i : Nat) (k : κ) (t : Turn σ κ ρ) : Run σ κ ρ :=
  let r := { r with shared := t.shared, notices := r.notices ++ t.notices }
  match t.next with
  | .running k => r.put i (.running k)
  | .ended a => r.put i (.ended k a r.now)

def running? (r : Run σ κ ρ) (i : Nat) : Option κ :=
  r.jobs[i]?.bind Job.running?

def canStep (m : Machine σ κ ρ) (r : Run σ κ ρ) (t : Job κ ρ) : Bool :=
  t.running?.any fun k => (m.step r.now r.shared k).isSome

def canExpire (m : Machine σ κ ρ) (r : Run σ κ ρ) (t : Job κ ρ) : Bool :=
  t.running?.any fun k => (m.step r.now r.shared k).isNone && (m.expire r.now r.shared k).isSome

/-- The instants at which something is due for a job. -/
def dueTimes (m : Machine σ κ ρ) (t : Job κ ρ) : List Nat :=
  match t.stand with
  | .planned _ => [t.start]
  | .running k => t.cancel.toList ++ m.timers k
  | _ => []

/-- The run after an event, if it can happen. -/
def apply (m : Machine σ κ ρ) (r : Run σ κ ρ) : Event → Option (Run σ κ ρ)
  | .start i => do
    let t ← r.jobs[i]?
    let k ← t.planned?
    if r.now < t.start then none else return r.put i (.running k)
  | .step i => do
    let k ← r.running? i
    return r.turn i k (← m.step r.now r.shared k)
  | .expire i => do
    let k ← r.running? i
    if (m.step r.now r.shared k).isSome then none
    else return r.turn i k (← m.expire r.now r.shared k)
  | .drop i => do
    let k ← r.running? i
    return { r with shared := m.drop r.shared k }.put i (.dropped k r.now)
  | .tick time =>
    if r.now < time ∧ ¬ r.jobs.any (fun t => r.canStep m t || r.canExpire m t) ∧
        (r.jobs.flatMap (dueTimes m)).all (fun due => due ≤ r.now || time ≤ due) then
      some { r with now := time }
    else none

/-- The first job that satisfies a condition. -/
def first? (r : Run σ κ ρ) (p : Job κ ρ → Bool) : Option Nat :=
  let i := r.jobs.findIdx p
  if i < r.jobs.length then some i else none

def isDue (r : Run σ κ ρ) (t : Job κ ρ) : Bool :=
  t.planned?.isSome && t.start ≤ r.now

def isCancelled (r : Run σ κ ρ) (t : Job κ ρ) : Bool :=
  t.running?.isSome && t.cancel.any (· ≤ r.now)

/-- The time for which a job waited has come: it is due, or it can go on by now. -/
def isAwake (m : Machine σ κ ρ) (r : Run σ κ ρ) (t : Job κ ρ) : Bool :=
  r.isDue t || r.canStep m t && t.running?.any fun k => (m.timers k).any (· ≤ r.now)

/-- What happens next to the job that has the turn. A job that is to be dropped before it starts
gets no further than to where it waits. -/
def nextOf (m : Machine σ κ ρ) (r : Run σ κ ρ) (i : Nat) : Option Event := do
  let t ← r.jobs[i]?
  if r.isDue t then return .start i
  else if r.canStep m t then return .step i
  else if r.canExpire m t then return .expire i
  else if r.isCancelled t && t.start = r.now then return .drop i
  else none

def nextTime (m : Machine σ κ ρ) (r : Run σ κ ρ) : Option Nat :=
  ((r.jobs.flatMap (dueTimes m)).filter (r.now < ·)).min?

/-- What happens next, and the job that has the turn then; `current` has it now. -/
def nextEvent (m : Machine σ κ ρ) (r : Run σ κ ρ) (current : Option Nat) :
    Option (Event × Option Nat) :=
  match current.bind (r.nextOf m) with
  | some e => some (e, current)
  | none =>
    match r.first? (r.isAwake m) with
    | some i => (r.nextOf m i).map fun e => (e, some i)
    | none =>
      match r.first? (r.canStep m) with
      | some i => some (.step i, some i)
      | none =>
        match r.first? (r.canExpire m) with
        | some i => some (.expire i, some i)
        | none =>
          match r.first? r.isCancelled with
          | some i => some (.drop i, none)
          | none => (r.nextTime m).map fun t => (.tick t, none)

/-- Lets events happen until none is left. -/
def finishFrom (m : Machine σ κ ρ) : Nat → Option Nat → Run σ κ ρ → Run σ κ ρ
  | 0, _, r => r
  | fuel + 1, current, r =>
    match r.nextEvent m current with
    | none => r
    | some (e, current) =>
      match r.apply m e with
      | none => r
      | some r => finishFrom m fuel current r

/-- Lets a schedule run to its end. A call takes only a few turns, so the number of events is
bounded by the number of calls. -/
def finish (m : Machine σ κ ρ) (r : Run σ κ ρ) : Run σ κ ρ :=
  finishFrom m (64 * (r.jobs.length + 1)) none r

end Run

/-- What can be reached by events. -/
inductive Reaches {σ κ ρ : Type} (m : Machine σ κ ρ) (r : Run σ κ ρ) : Run σ κ ρ → Prop where
  | refl : Reaches m r r
  | next {s t : Run σ κ ρ} (e : Event) : Reaches m r s → s.apply m e = some t → Reaches m r t

theorem reaches_finishFrom {σ κ ρ : Type} (m : Machine σ κ ρ) (r s : Run σ κ ρ) (h : Reaches m r s)
    (fuel : Nat) (current : Option Nat) : Reaches m r (s.finishFrom m fuel current) := by
  induction fuel generalizing s current with
  | zero => exact h
  | succ fuel ih =>
    rw [Run.finishFrom]
    split
    · exact h
    · split
      · exact h
      · rename_i t he
        exact ih t (.next _ h he) _

end Tenancy
