import Tenancy.Text.Numeral

/-!
# Lengths of time

A length of time is a whole number of nanoseconds. It is shown in the largest unit of which it has
at least one, with a fraction that ends in no zero: `1.5µs`, `20ms`, `55s`.
-/

namespace Tenancy

/-- A length of time, counted in nanoseconds. -/
structure Duration where
  nanos : Nat
  deriving DecidableEq, Repr, Inhabited

namespace Duration

/-- The length of a number of seconds and a number of nanoseconds. -/
def ofParts (secs nanos : Nat) : Duration :=
  ⟨secs * 1000000000 + nanos⟩

/-- The length of a number of seconds. -/
def ofSecs (secs : Nat) : Duration :=
  ofParts secs 0

/-- The length of a number of milliseconds. -/
def ofMillis (millis : Nat) : Duration :=
  ⟨millis * 1000000⟩

/-- The whole seconds of a length. -/
def secs (d : Duration) : Nat :=
  d.nanos / 1000000000

/-- The nanoseconds beyond the whole seconds. -/
def subsecNanos (d : Duration) : Nat :=
  d.nanos % 1000000000

/-- The least number of whole milliseconds that is not shorter. -/
def ceilMillis (d : Duration) : Nat :=
  (d.nanos + 999999) / 1000000

instance : LT Duration := ⟨fun a b => a.nanos < b.nanos⟩

instance (a b : Duration) : Decidable (a < b) :=
  inferInstanceAs (Decidable (a.nanos < b.nanos))

/-- The length less another one, and nothing if that one is longer. -/
instance : Sub Duration := ⟨fun a b => ⟨a.nanos - b.nanos⟩⟩

/-- A length in a unit of `10^places` nanoseconds, with its fraction and the name of the unit. -/
def showIn (d : Duration) (places : Nat) (unit : String) : String :=
  String.ofList (Text.decimal (d.nanos / Nat.pow 10 places) ++
    Text.shortFraction places (d.nanos % Nat.pow 10 places)) ++ unit

/-- The text of a length in the largest unit of which it has at least one. -/
def text (d : Duration) : String :=
  if 1000000000 ≤ d.nanos then d.showIn 9 "s"
  else if 1000000 ≤ d.nanos then d.showIn 6 "ms"
  else if 1000 ≤ d.nanos then d.showIn 3 "µs"
  else d.showIn 0 "ns"

end Duration

end Tenancy
