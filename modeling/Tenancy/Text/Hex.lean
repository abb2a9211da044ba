/-!
# Hexadecimal text

Bytes as pairs of hexadecimal digits, the higher half of a byte first. Capital letters are read too.
-/

namespace Tenancy.Text

def hexDigits (bs : List UInt8) : List Char :=
  bs.flatMap fun b => [Nat.digitChar (b.toNat / 16), Nat.digitChar (b.toNat % 16)]

def hexValue? (c : Char) : Option Nat :=
  "0123456789abcdef".toList.idxOf? c.toLower

def ofHexDigits? : List Char → Option (List UInt8)
  | [] => some []
  | [_] => none
  | a :: b :: rest => do
    let high ← hexValue? a
    let low ← hexValue? b
    return UInt8.ofNat (high * 16 + low) :: (← ofHexDigits? rest)

end Tenancy.Text
