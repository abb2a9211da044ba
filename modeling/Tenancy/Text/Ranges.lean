/-!
# Ranges of characters

Sets of characters as lists of ranges of their numbers, both ends included.
-/

namespace Tenancy.Text

def within (ranges : List (Nat × Nat)) (c : Char) : Bool :=
  ranges.any fun r => r.1 ≤ c.toNat && c.toNat ≤ r.2

end Tenancy.Text
