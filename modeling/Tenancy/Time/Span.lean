import Tenancy.Time.Duration

/-!
# Signed spans of time

The difference of two instants. A span is limited to what fits a signed 64-bit number of
milliseconds; a longer duration counts as the longest span.
-/

namespace Tenancy

/-- A signed span of time in nanoseconds. -/
structure Span where
  nanos : Int
  deriving DecidableEq, Repr, Inhabited

namespace Span

/-- The longest span: the greatest signed 64-bit number of milliseconds. -/
def longest : Span :=
  ⟨0x7FFFFFFFFFFFFFFF * 1000000⟩

instance : LT Span := ⟨fun a b => a.nanos < b.nanos⟩

instance (a b : Span) : Decidable (a < b) :=
  inferInstanceAs (Decidable (a.nanos < b.nanos))

/-- A span lies between the longest one and its opposite. -/
def InRange (s : Span) : Prop :=
  -longest.nanos ≤ s.nanos ∧ s.nanos ≤ longest.nanos

instance (s : Span) : Decidable s.InRange :=
  inferInstanceAs (Decidable (_ ∧ _))

/-- The span of a duration, and the longest span for a duration that is longer. -/
def ofDuration (d : Duration) : Span :=
  if (d.nanos : Int) ≤ longest.nanos then ⟨d.nanos⟩ else longest

/-- The difference of two spans, unless it is too long for a span. -/
def sub? (a b : Span) : Option Span :=
  let d : Span := ⟨a.nanos - b.nanos⟩
  if d.InRange then some d else none

/-- The text of a span: `PT600S`, `PT0.5S`, and `P0D` for the empty one. -/
def text (s : Span) : String :=
  let sign := if s.nanos < 0 then "-" else ""
  let abs := s.nanos.natAbs
  if abs == 0 then sign ++ "P0D"
  else
    sign ++ "PT" ++ String.ofList (Text.decimal (abs / 1000000000) ++
      Text.shortFraction 9 (abs % 1000000000)) ++ "S"

end Span

end Tenancy
