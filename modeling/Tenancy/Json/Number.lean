import Tenancy.Json.Reader

/-!
# Numbers in a document

A number without a fraction and an exponent is an integer as long as it fits 64 bits; every other
number, and also minus zero, is a binary number. Its digits are gathered as an integer of 64 bits,
further ones only move the point, and the power of ten is applied in one or two roundings.
-/

namespace Tenancy.Json.Reader

def digitValue (b : UInt8) : Nat :=
  b.toNat - 0x30

def digitAhead : Reader Bool := do
  return (← peek).any isDigit

/-- `significand · 10 ^ exponent` as a binary number, which must be finite. -/
def scale (significand : Nat) : Nat → Int → Option Float
  | 0, _ => none
  | fuel + 1, exponent =>
    go fuel (UInt64.ofNat significand).toFloat exponent
where
  /-- Moves the point of `value`, by at most 308 places in one step. -/
  go : Nat → Float → Int → Option Float
  | fuel, value, exponent =>
    if exponent.natAbs ≤ 308 then
      if 0 ≤ exponent then
        let result := value * Float.ofScientific 1 false exponent.toNat
        if result.isInf then none else some result
      else some (value / Float.ofScientific 1 false exponent.natAbs)
    else if value == 0.0 then some value
    else if 0 ≤ exponent then none
    else match fuel with
      | 0 => some 0.0
      | fuel + 1 => go fuel (value / Float.ofScientific 1 false 308) (exponent + 308)

/-- The binary number of a sign, digits and a power of ten. -/
def double (negative : Bool) (significand : Nat) (exponent : Int) : Reader Number :=
  match scale significand 8 exponent with
  | some value => return .double (if negative then -value else value).toBits
  | none => fail .numberOutOfRange

def signedZero (negative : Bool) : Number :=
  .double (if negative then 0x8000000000000000 else 0)

/-- Reads the digits of an exponent behind its first one, as long as it fits 31 bits. -/
def exponentDigits : Nat → Nat → Reader (Option Nat)
  | 0, value => return some value
  | fuel + 1, value => do
    match ← peek with
    | some b =>
      if isDigit b then
        skip
        let value := value * 10 + digitValue b
        if value ≤ 2147483647 then exponentDigits fuel value else return none
      else return some value
    | none => return some value

def exponent (negative : Bool) (significand : Nat) (start : Int) : Reader Number := do
  skip
  let down ← match ← peek with
    | some 0x2B => do skip; pure false
    | some 0x2D => do skip; pure true
    | _ => pure false
  match ← next with
  | none => fail .endInValue
  | some b =>
    unless isDigit b do fail .invalidNumber
    match ← exponentDigits ((← remaining) + 1) (digitValue b) with
    | some e => double negative significand (if down then start - e else start + e)
    | none =>
      if significand ≠ 0 ∧ ¬ down then fail .numberOutOfRange
      let _ ← skipWhile isDigit
      return signedZero negative

/-- An `e` or an `E` comes next. -/
def exponentAhead : Reader Bool := do
  return (← peek).any fun b => b = 0x65 || b = 0x45

/-- Reads the digits behind a point as long as the significand fits 64 bits; yields it, the number
of digits read, and whether it was left because a digit did not fit. -/
def fractionDigits : Nat → Nat → Nat → Reader (Nat × Nat × Bool)
  | 0, significand, places => return (significand, places, false)
  | fuel + 1, significand, places => do
    match ← peek with
    | some b =>
      if isDigit b then
        let more := significand * 10 + digitValue b
        if more < 0x10000000000000000 then
          skip
          fractionDigits fuel more (places + 1)
        else return (significand, places, true)
      else return (significand, places, false)
    | none => return (significand, places, false)

def fraction (negative : Bool) (significand : Nat) (start : Int) : Reader Number := do
  skip
  let (significand, places, full) ← fractionDigits ((← remaining) + 1) significand 0
  let start := start - places
  if full then
    let _ ← skipWhile isDigit
  else if places = 0 then
    if (← peek).isSome then failNext .invalidNumber else failNext .endInValue
  if ← exponentAhead then exponent negative significand start
  else double negative significand start

/-- Yields the number of a sign and its integer digits, which are read. -/
def numberTail (negative : Bool) (significand : Nat) : Reader Number := do
  if (← peek) = some 0x2E then fraction negative significand 0
  else if ← exponentAhead then exponent negative significand 0
  else if ¬ negative then return .natural (UInt64.ofNat significand)
  else if significand = 0 ∨ 0x8000000000000000 < significand then double true significand 0
  else return .negative (Int64.ofInt (-significand))

/-- Yields a number whose integer digits do not fit 64 bits; `moved` of them are dropped. -/
def longNumber (negative : Bool) (significand : Nat) : Reader Number := do
  let moved ← skipWhile isDigit
  if (← peek) = some 0x2E then fraction negative significand moved
  else if ← exponentAhead then exponent negative significand moved
  else double negative significand moved

/-- Reads integer digits as long as they fit 64 bits, and then the rest of the number. -/
def integerDigits (negative : Bool) : Nat → Nat → Reader Number
  | 0, significand => numberTail negative significand
  | fuel + 1, significand => do
    match ← peek with
    | some b =>
      if isDigit b then
        let more := significand * 10 + digitValue b
        if more < 0x10000000000000000 then
          skip
          integerDigits negative fuel more
        else longNumber negative significand
      else numberTail negative significand
    | none => numberTail negative significand

def unsignedNumber (negative : Bool) : Reader Number := do
  match ← next with
  | none => fail .endInValue
  | some b =>
    unless isDigit b do fail .invalidNumber
    if b = 0x30 then
      if ← digitAhead then failNext .invalidNumber
      numberTail negative 0
    else integerDigits negative ((← remaining) + 1) (digitValue b)

/-- Reads a number, whose first byte is known to be a digit or a minus sign. -/
def number : Reader Number := do
  if (← peek) = some 0x2D then
    skip
    unsignedNumber true
  else unsignedNumber false

def startsNumber (b : UInt8) : Bool :=
  b = 0x2D || isDigit b

/-- Takes the byte that comes next, which must be a digit. -/
def skipDigit : Reader UInt8 := do
  match ← next with
  | some b => if isDigit b then return b else fail .invalidNumber
  | none => fail .invalidNumber

def skipExponent : Reader Unit := do
  skip
  if (← peek).any fun b => b = 0x2B || b = 0x2D then skip
  let _ ← skipDigit
  let _ ← skipWhile isDigit

/-- Skips a number behind its sign: its form is checked, its size does not matter. -/
def skipUnsigned : Reader Unit := do
  if (← skipDigit) = 0x30 then
    if ← digitAhead then failNext .invalidNumber
  else
    let _ ← skipWhile isDigit
  if (← peek) = some 0x2E then
    skip
    if (← skipWhile isDigit) = 0 then failNext .invalidNumber
  if ← exponentAhead then skipExponent

end Tenancy.Json.Reader
