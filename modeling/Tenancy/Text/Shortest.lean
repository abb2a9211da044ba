import Tenancy.Text.Numeral

/-!
# Shortest decimal text of a binary number

A binary number of 64 bits stands for all reals that round to it. Its text has the fewest digits
whose value is one of those reals, and of several such values the nearest to it. All of this is done
in exact arithmetic: for one, two, … seventeen digits the two neighbours of the number on that
decimal grid are tried.
-/

namespace Tenancy.Text

/-- A positive decimal number `digits · 10 ^ exponent`. -/
structure DecimalNumber where
  digits : Nat
  exponent : Int
  deriving DecidableEq, Repr

namespace Shortest

/-- A positive number `value / unit` with the ends of the interval of reals that round to it. -/
structure Target where
  low : Nat
  value : Nat
  high : Nat
  unit : Nat
  /-- The ends round to the number as well. -/
  closed : Bool
  deriving Repr

/-- The interval of a finite positive number given by its bits. -/
def target (bits : UInt64) : Target :=
  let mantissa := bits.toNat % 0x10000000000000
  let exponent := bits.toNat / 0x10000000000000 % 0x800
  let m := if exponent = 0 then mantissa else mantissa + 0x10000000000000
  let e := max exponent 1
  let below := if mantissa = 0 ∧ 1 < exponent then 1 else 2
  let up := Nat.pow 2 (e - 1077)
  { low := (4 * m - below) * up
    value := 4 * m * up
    high := (4 * m + 2) * up
    unit := Nat.pow 2 (1077 - e)
    closed := m % 2 = 0 }

/-- `digits · 10 ^ exponent` rounds to the number. -/
def hits (t : Target) (digits : Nat) (exponent : Int) : Bool :=
  let scaled := digits * Nat.pow 10 exponent.toNat * t.unit
  let shift := Nat.pow 10 (-exponent).toNat
  if t.closed then t.low * shift ≤ scaled && scaled ≤ t.high * shift
  else t.low * shift < scaled && scaled < t.high * shift

/-- The least number of places by which the number must be shifted to reach one, counted on from
`places`. -/
def placesBelowOne (t : Target) : Nat → Nat → Nat
  | 0, places => places
  | fuel + 1, places =>
    if t.unit ≤ t.value * Nat.pow 10 places then places else placesBelowOne t fuel (places + 1)

/-- The power of ten of the first digit. -/
def magnitude (t : Target) : Int :=
  if t.unit ≤ t.value then (decimal (t.value / t.unit)).length - 1
  else -(placesBelowOne t 330 1 : Int)

/-- A grid point of `count` digits that rounds to the number, if there is one. -/
def onGrid (t : Target) (count : Nat) : Option DecimalNumber :=
  let exponent := magnitude t - (count - 1 : Nat)
  let grid := t.unit * Nat.pow 10 exponent.toNat
  let value := t.value * Nat.pow 10 (-exponent).toNat
  let down := value / grid
  let rest := value % grid
  match hits t down exponent, hits t (down + 1) exponent with
  | true, true =>
    some ⟨if 2 * rest < grid ∨ (2 * rest = grid ∧ down % 2 = 0) then down else down + 1, exponent⟩
  | true, false => some ⟨down, exponent⟩
  | false, true => some ⟨down + 1, exponent⟩
  | false, false => none

/-- The digits of a finite positive number given by its bits. -/
def digits (bits : UInt64) : DecimalNumber :=
  let t := target bits
  ((List.range' 1 17).findSome? (onGrid t)).getD ⟨0, 0⟩

/-- The number without zeros at the end of its digits. -/
def normalize : Nat → DecimalNumber → DecimalNumber
  | 0, d => d
  | fuel + 1, d =>
    if d.digits % 10 = 0 then normalize fuel ⟨d.digits / 10, d.exponent + 1⟩ else d

end Shortest

/-- How a decimal number is laid out. -/
structure NumberLayout where
  /-- The least power of ten of the first digit that is written without an exponent. -/
  leastPlain : Int
  /-- The greatest power of ten of the first digit that is written without an exponent. -/
  greatestPlain : Int
  /-- The least number of digits of an exponent. -/
  exponentWidth : Nat

/-- Numbers from 0.0001 up to below 10 ^ 16 are written without an exponent. -/
def NumberLayout.standard : NumberLayout :=
  ⟨-4, 15, 2⟩

/-- The text of a positive decimal number: plain with at least one place behind the point, or with
an exponent that has a sign. -/
def NumberLayout.text (layout : NumberLayout) (d : DecimalNumber) : List Char :=
  let digits := decimal d.digits
  let first := d.exponent + digits.length - 1
  if layout.leastPlain ≤ first ∧ first ≤ layout.greatestPlain then
    if 0 ≤ d.exponent then digits ++ List.replicate d.exponent.toNat '0' ++ ['.', '0']
    else if 0 ≤ first then
      digits.take (first + 1).toNat ++ '.' :: digits.drop (first + 1).toNat
    else '0' :: '.' :: List.replicate (-first - 1).toNat '0' ++ digits
  else
    let fraction := match digits.drop 1 with
      | [] => []
      | rest => '.' :: rest
    digits.take 1 ++ fraction ++ 'e' :: (if first < 0 then '-' else '+') ::
      padDecimal layout.exponentWidth first.natAbs

def doubleText (bits : UInt64) : List Char :=
  let positive := UInt64.ofNat (bits.toNat % 0x8000000000000000)
  let text :=
    if positive = 0 then ['0', '.', '0']
    else NumberLayout.standard.text (Shortest.normalize 20 (Shortest.digits positive))
  if bits.toNat < 0x8000000000000000 then text else '-' :: text

end Tenancy.Text
