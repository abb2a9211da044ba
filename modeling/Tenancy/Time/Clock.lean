import Tenancy.Time.Instant

/-!
# Clocks

A clock that shows one instant until it is told to move. It can be moved forward by a duration,
where it stops at the last instant of the calendar, and it can be set to any instant.
-/

namespace Tenancy

/-- A clock that only moves when told to. -/
structure Clock where
  now : Instant
  deriving DecidableEq, Inhabited

namespace Clock

def advance (c : Clock) (d : Duration) : Clock :=
  ⟨c.now.advance d⟩

def set (_ : Clock) (i : Instant) : Clock :=
  ⟨i⟩

end Clock

end Tenancy
