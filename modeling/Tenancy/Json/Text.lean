import Tenancy.Json.Reader
import Tenancy.Text.Utf8

/-!
# Texts in a document

A text stands between quotes. A backslash begins an escape; a character beyond the basic plane is
escaped as two surrogates, which must come as a pair. Control characters must be escaped. A text
whose value is not needed is skipped: its escapes must be well formed, but surrogates may stand
alone and its bytes may be no characters.
-/

namespace Tenancy.Json.Reader

def hexValue? (b : UInt8) : Option Nat :=
  if 0x30 ≤ b ∧ b ≤ 0x39 then some (b.toNat - 0x30)
  else if 0x61 ≤ b ∧ b ≤ 0x66 then some (b.toNat - 0x61 + 10)
  else if 0x41 ≤ b ∧ b ≤ 0x46 then some (b.toNat - 0x41 + 10)
  else none

def hexEscape : Reader Nat := do
  if (← remaining) < 4 then
    let _ ← skipWhile fun _ => true
    fail .endInText
  let a ← next
  let b ← next
  let c ← next
  let d ← next
  match a.bind hexValue?, b.bind hexValue?, c.bind hexValue?, d.bind hexValue? with
  | some a, some b, some c, some d => return ((a * 16 + b) * 16 + c) * 16 + d
  | _, _, _, _ => fail .invalidEscape

def nextInText : Reader UInt8 := do
  match ← next with
  | some b => return b
  | none => fail .endInText

/-- Reads the character of an escape whose first four digits have the given value. -/
def codePoint (n : Nat) : Reader Char := do
  if 0xDC00 ≤ n ∧ n ≤ 0xDFFF then fail .loneSurrogate
  if n < 0xD800 ∨ 0xDBFF < n then return Char.ofNat n
  if (← nextInText) ≠ 0x5C then fail .endOfHexEscape
  if (← nextInText) ≠ 0x75 then fail .endOfHexEscape
  let low ← hexEscape
  if low < 0xDC00 ∨ 0xDFFF < low then fail .loneSurrogate
  return Char.ofNat ((n - 0xD800) * 1024 + (low - 0xDC00) + 0x10000)

/-- The byte for which an escape of one letter stands. -/
def shortEscape? (b : UInt8) : Option UInt8 :=
  if b = 0x22 ∨ b = 0x5C ∨ b = 0x2F then some b
  else if b = 0x62 then some 0x08
  else if b = 0x66 then some 0x0C
  else if b = 0x6E then some 0x0A
  else if b = 0x72 then some 0x0D
  else if b = 0x74 then some 0x09
  else none

/-- Reads an escape behind its backslash. -/
def escape : Reader (List UInt8) := do
  let b ← nextInText
  match shortEscape? b with
  | some value => return [value]
  | none =>
    if b = 0x75 then return String.utf8EncodeChar (← codePoint (← hexEscape))
    else fail .invalidEscape

/-- Reads a text up to its closing quote, which is left; `done` holds the bytes before, the last one
first. -/
def textBytes : Nat → List UInt8 → Reader (List UInt8)
  | 0, _ => fail .endInText
  | fuel + 1, done => do
    match ← peek with
    | none => fail .endInText
    | some 0x22 => return done.reverse
    | some 0x5C =>
      skip
      textBytes fuel ((← escape).reverse ++ done)
    | some b =>
      skip
      if b < 0x20 then fail .controlCharacter
      textBytes fuel (b :: done)

/-- Reads a text behind its opening quote. -/
def textBody : Reader String := do
  let bytes ← textBytes ((← remaining) + 1) []
  match Text.ofUtf8? bytes with
  | none => fail .invalidCodePoint
  | some s =>
    skip
    return s

/-- Skips an escape behind its backslash. -/
def skipEscape : Reader Unit := do
  let b ← nextInText
  if (shortEscape? b).isSome then return
  if b = 0x75 then
    let _ ← hexEscape
  else fail .invalidEscape

/-- Skips a text behind its opening quote. -/
def skipText : Nat → Reader Unit
  | 0 => fail .endInText
  | fuel + 1 => do
    match ← peek with
    | none => fail .endInText
    | some 0x22 => skip
    | some 0x5C =>
      skip
      skipEscape
      skipText fuel
    | some b =>
      if b < 0x20 then fail .controlCharacter
      skip
      skipText fuel

end Tenancy.Json.Reader
