import Tenancy.Text.Utf8

/-!
# Percent codes

Bytes that may not stand in a part of an address are written as a percent sign with two hexadecimal
digits. What lies outside ASCII and every control character is always written so.
-/

namespace Tenancy.Url

def isPrintable (b : UInt8) : Bool :=
  0x20 ≤ b && b ≤ 0x7E

def isPathByte (b : UInt8) : Bool :=
  isPrintable b && !(" \"#<>?`\x7b\x7d".toList.any fun c => c.toNat = b.toNat)

def hexDigit (n : Nat) : Char :=
  (Nat.digitChar n).toUpper

def percentCode (b : UInt8) : List Char :=
  ['%', hexDigit (b.toNat / 16), hexDigit (b.toNat % 16)]

/-- A text in which every byte that does not stand for itself has a percent code. -/
def percentEncode (plain : UInt8 → Bool) (s : List Char) : List Char :=
  (Text.utf8 s).flatMap fun b => if plain b then [Char.ofNat b.toNat] else percentCode b

def hexValue? (b : UInt8) : Option UInt8 :=
  if 0x30 ≤ b ∧ b ≤ 0x39 then some (b - 0x30)
  else if 0x61 ≤ b ∧ b ≤ 0x66 then some (b - 0x61 + 10)
  else if 0x41 ≤ b ∧ b ≤ 0x46 then some (b - 0x41 + 10)
  else none

/-- The bytes for which percent codes stand; a percent sign without two digits is left. -/
def percentDecode : List UInt8 → List UInt8
  | [] => []
  | [b] => [b]
  | [b, c] => [b, c]
  | b :: high :: low :: rest =>
    match hexValue? high, hexValue? low with
    | some h, some l =>
      if b = 0x25 then (h * 16 + l) :: percentDecode rest
      else b :: percentDecode (high :: low :: rest)
    | _, _ => b :: percentDecode (high :: low :: rest)

end Tenancy.Url
