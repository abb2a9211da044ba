/-!
# Whole numbers as text

Reading a whole number of a given base and range. A sign may stand in front of the digits, and a
refusal names its cause: nothing to read, something that is no digit, or a value that leaves the
range at one of its two ends. Digits are read from the left, so of two faults the one further left
is reported.
-/

namespace Tenancy.Text

/-- Why a text is no whole number of the range. -/
inductive NumeralFault where
  | empty
  | invalidDigit
  | tooLarge
  | tooSmall
  deriving DecidableEq, Repr, Inhabited

def NumeralFault.message : NumeralFault → String
  | empty => "cannot parse integer from empty string"
  | invalidDigit => "invalid digit found in string"
  | tooLarge => "number too large to fit in target type"
  | tooSmall => "number too small to fit in target type"

/-- The value of a digit below `base`, with `a` to `z` and `A` to `Z` for ten and above. -/
def digitValue? (base : Nat) (c : Char) : Option Nat :=
  let n := c.toNat
  let value :=
    if 0x30 ≤ n ∧ n ≤ 0x39 then n - 0x30
    else if 0x61 ≤ n ∧ n ≤ 0x7A then n - 0x61 + 10
    else if 0x41 ≤ n ∧ n ≤ 0x5A then n - 0x41 + 10
    else base
  if value < base then some value else none

/-- Reads digits after a value that is already read, which must not exceed `limit`. -/
def readDigits (base limit : Nat) (overflow : NumeralFault) (value : Nat) :
    List Char → Except NumeralFault Nat
  | [] => .ok value
  | c :: cs =>
    match digitValue? base c with
    | none => .error .invalidDigit
    | some d =>
      if value * base + d ≤ limit then readDigits base limit overflow (value * base + d) cs
      else .error overflow

/-- Reads a whole number from `-2 ^ 63` to `2 ^ 63 - 1` with an optional sign. -/
def readInt64 (base : Nat) : List Char → Except NumeralFault Int64
  | [] => .error .empty
  | ['+'] => .error .invalidDigit
  | ['-'] => .error .invalidDigit
  | '+' :: cs => (readDigits base 0x7FFFFFFFFFFFFFFF .tooLarge 0 cs).map fun n => Int64.ofInt n
  | '-' :: cs => (readDigits base 0x8000000000000000 .tooSmall 0 cs).map fun n => Int64.ofInt (-n)
  | cs => (readDigits base 0x7FFFFFFFFFFFFFFF .tooLarge 0 cs).map fun n => Int64.ofInt n

def decimal (n : Nat) : List Char :=
  Nat.toDigits 10 n

/-- A natural number in at least `width` decimal digits, with zeros in front. -/
def padDecimal (width n : Nat) : List Char :=
  List.replicate (width - (decimal n).length) '0' ++ decimal n

/-- A whole number in decimal digits, with a minus sign below zero. -/
def signedDecimal (i : Int) : List Char :=
  if i < 0 then '-' :: decimal i.natAbs else decimal i.natAbs

/-- A fraction of `width` places after its point, without the zeros at the end; nothing if all of
its places are zero. -/
def shortFraction (width n : Nat) : List Char :=
  match ((padDecimal width n).reverse.dropWhile (· == '0')).reverse with
  | [] => []
  | digits => '.' :: digits

end Tenancy.Text
