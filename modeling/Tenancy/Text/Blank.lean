/-!
# Blank characters

Which characters count as blank around a name, a column or a field, and the text that is left when
they are trimmed. The set is Unicode's White_Space property, so a no-break space is trimmed and a
zero-width space is not.
-/

namespace Tenancy.Text

/-- The characters with the property White_Space. -/
def isBlank (c : Char) : Bool :=
  let n := c.toNat
  (0x09 ≤ n && n ≤ 0x0D) || n == 0x20 || n == 0x85 || n == 0xA0 || n == 0x1680 ||
    (0x2000 ≤ n && n ≤ 0x200A) || n == 0x2028 || n == 0x2029 || n == 0x202F || n == 0x205F ||
    n == 0x3000

/-- The text from its first character that is not blank. -/
def trimStart (cs : List Char) : List Char :=
  cs.dropWhile isBlank

/-- The text up to its last character that is not blank. -/
def trimEnd (cs : List Char) : List Char :=
  (cs.reverse.dropWhile isBlank).reverse

/-- The text without the blanks at both ends. -/
def trim (cs : List Char) : List Char :=
  trimEnd (trimStart cs)

/-- Equality up to the case of ASCII letters; all other characters count as they are. -/
def eqIgnoringCase (a b : List Char) : Bool :=
  a.map Char.toLower == b.map Char.toLower

end Tenancy.Text
