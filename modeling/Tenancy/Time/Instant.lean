import Tenancy.Time.Calendar
import Tenancy.Time.Span

/-!
# Instants

A moment of universal time: a day, a second of that day and the nanoseconds within the second. The
days reach from -262143-01-01 to +262142-12-31. A leap second is written as the second before it
with a nanosecond count of a thousand million or more. A count like that may stand in any second, not
only in the last one of a minute.
-/

namespace Tenancy

/-- A moment of universal time. -/
@[ext]
structure Instant where
  /-- Days since 1970-01-01. -/
  day : Int
  /-- Seconds since the day began. -/
  second : Nat
  /-- Nanoseconds since the second began; a leap second counts on from a thousand million. -/
  nano : Nat
  day_mem : -96465292 ≤ day ∧ day ≤ 95026236
  second_lt : second < 86400
  nano_lt : nano < 2000000000
  deriving DecidableEq

namespace Instant

/-- The instant of a day, a second and a nanosecond, if there is one. -/
def ofParts? (day : Int) (second nano : Nat) : Option Instant :=
  if h : (-96465292 ≤ day ∧ day ≤ 95026236) ∧ second < 86400 ∧ nano < 2000000000 then
    some ⟨day, second, nano, h.1, h.2.1, h.2.2⟩
  else none

/-- The first instant of 1970. -/
def epoch : Instant :=
  ⟨0, 0, 0, by decide, by decide, by decide⟩

instance : Inhabited Instant := ⟨epoch⟩

/-- The last instant, +262142-12-31T23:59:59.999999999Z. -/
def last : Instant :=
  ⟨95026236, 86399, 999999999, by decide, by decide, by decide⟩

/-- Nanoseconds since 1970 began, for an instant outside leap seconds. -/
def nanosSinceEpoch (i : Instant) : Int :=
  (i.day * 86400 + i.second) * 1000000000 + i.nano

/-- The span from one instant to another. Between two times of day a leap second that lies at the
earlier one counts as a second of its own. -/
def sub (a b : Instant) : Span :=
  let leap : Int :=
    if b.second < a.second then (if 1000000000 ≤ b.nano then 1 else 0)
    else if a.second < b.second then (if 1000000000 ≤ a.nano then -1 else 0)
    else 0
  ⟨((a.day - b.day) * 86400 + (a.second - b.second) + leap) * 1000000000 + (a.nano - b.nano)⟩

instance : HSub Instant Instant Span := ⟨sub⟩

/-- The instant that lies a span behind, if the calendar reaches so far. Time that is added to a
leap second either stays within it or leaves it for the second that follows. -/
def add? (i : Instant) (nanos : Nat) : Option Instant :=
  if 1000000000 ≤ i.nano ∧ i.nano + nanos < 2000000000 then
    ofParts? i.day i.second (i.nano + nanos)
  else
    let total := i.second * 1000000000 +
      (if 1000000000 ≤ i.nano then i.nano - 1000000000 else i.nano) + nanos
    let seconds := total / 1000000000
    ofParts? (i.day + (seconds / 86400 : Nat)) (seconds % 86400) (total % 1000000000)

/-- The instant that lies a duration behind, and the last instant if the calendar ends before. A
duration longer than the longest span counts as that span. -/
def advance (i : Instant) (d : Duration) : Instant :=
  (i.add? (Span.ofDuration d).nanos.toNat).getD last

end Instant

end Tenancy
