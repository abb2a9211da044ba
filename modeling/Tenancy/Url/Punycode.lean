/-!
# Punycode

Labels of a domain name in ASCII. The ASCII characters of a label stand in front; behind the last
hyphen follows, as a number of varying length for each further character, how far the next place and
character are in the order of all insertions. The thresholds of the digits adapt to the distances
seen so far.
-/

namespace Tenancy.Url.Punycode

/-- The digit of a number below 36. -/
def digit (n : Nat) : Char :=
  Char.ofNat (if n < 26 then 0x61 + n else 0x30 + (n - 26))

def digitValue? (c : Char) : Option Nat :=
  if 'a' ≤ c ∧ c ≤ 'z' then some (c.toNat - 0x61)
  else if '0' ≤ c ∧ c ≤ '9' then some (c.toNat - 0x30 + 26)
  else none

/-- The threshold of a digit: how large it must be for another one to follow. `place` is 36 for the
first digit and 36 more for each further one. -/
def threshold (bias place : Nat) : Nat :=
  if place ≤ bias then 1 else min 26 (place - bias)

theorem threshold_bounds (bias place : Nat) :
    1 ≤ threshold bias place ∧ threshold bias place ≤ 26 := by
  rw [threshold]
  split <;> omega

/-- Divides a distance by 35 until it is at most 455 and adds 36 to `done` each time. -/
def settle (delta done : Nat) : Nat × Nat :=
  if 455 < delta then settle (delta / 35) (done + 36) else (delta, done)
termination_by delta
decreasing_by omega

/-- The bias after a distance, when `count` characters are placed. -/
def adapt (first : Bool) (delta count : Nat) : Nat :=
  let delta := if first then delta / 700 else delta / 2
  let (delta, done) := settle (delta + delta / count) 0
  done + 36 * delta / (delta + 38)

/-- The digits of a distance. -/
def distanceDigits (bias place delta : Nat) : List Char :=
  let t := threshold bias place
  if delta < t then [digit delta]
  else
    digit (t + (delta - t) % (36 - t)) ::
      distanceDigits bias (place + 36) ((delta - t) / (36 - t))
termination_by delta
decreasing_by
  have h := threshold_bounds bias place
  exact Nat.lt_of_le_of_lt (Nat.div_le_self _ _) (by omega)

/-- What is known while a label is encoded: the distance from the last insertion, the bias, and the
number of characters placed. -/
structure Progress where
  delta : Nat
  bias : Nat
  placed : Nat

/-- The digits for the places of the character `c` in a label of which `ascii` characters are ASCII;
characters below `c` are placed already. -/
def placeDigits (ascii : Nat) (c : Char) : List Char → Progress → List Char × Progress
  | [], p => ([], p)
  | d :: label, p =>
    if d < c then placeDigits ascii c label { p with delta := p.delta + 1 }
    else if d = c then
      let (digits, q) := placeDigits ascii c label
        ⟨0, adapt (p.placed = ascii) p.delta (p.placed + 1), p.placed + 1⟩
      (distanceDigits p.bias 36 p.delta ++ digits, q)
    else placeDigits ascii c label p

/-- The digits for the characters `cs` of a label, in ascending order; `next` is the number of the
character at which the insertions have arrived. -/
def encodeFrom (label : List Char) (ascii : Nat) : List Char → Nat → Progress → List Char
  | [], _, _ => []
  | c :: cs, next, p =>
    let p := { p with delta := p.delta + (c.toNat - next) * (p.placed + 1) }
    let (digits, p) := placeDigits ascii c label p
    digits ++ encodeFrom label ascii cs (c.toNat + 1) { p with delta := p.delta + 1 }

/-- The characters of a label beyond ASCII, in ascending order and each one once. -/
def foreign (label : List Char) : List Char :=
  let sorted := (label.filter fun c => 0x80 ≤ c.toNat).mergeSort (· ≤ ·)
  sorted.eraseReps

def encode (label : List Char) : List Char :=
  let ascii := label.filter fun c => c.toNat < 0x80
  (if ascii.isEmpty then [] else ascii ++ ['-']) ++
    encodeFrom label ascii.length (foreign label) 0x80 ⟨0, 72, ascii.length⟩

/-- The largest number that a distance or a place may reach. -/
def limit : Nat :=
  0x100000000

/-- Reads a distance, of which `value` is read and whose next digit counts `weight`. -/
def readDistance (bias : Nat) : Nat → Nat → Nat → List Char → Option (Nat × List Char)
  | _, _, _, [] => none
  | place, weight, value, c :: cs => do
    let d ← digitValue? c
    let value := value + d * weight
    if limit ≤ value then none
    let t := threshold bias place
    if d < t then return (value, cs)
    let weight := weight * (36 - t)
    if limit ≤ weight then none
    readDistance bias (place + 36) weight value cs

def insertAt (c : Char) : Nat → List Char → List Char
  | 0, cs => c :: cs
  | _, [] => [c]
  | n + 1, d :: cs => d :: insertAt c n cs

/-- The character of a number, unless it is a surrogate or too large. -/
def char? (n : Nat) : Option Char :=
  if h : n.isValidChar then some (Char.ofNatAux n h) else none

/-- Inserts the characters for which digits stand; `next` is the number of the character and `place`
the place at which the insertions have arrived. -/
def decodeFrom : Nat → List Char → Nat → Nat → Nat → List Char → Option (List Char)
  | _, [], _, _, _, label => some label
  | 0, _, _, _, _, _ => none
  | fuel + 1, digits, next, place, bias, label => do
    let (delta, rest) ← readDistance bias 36 1 0 digits
    let count := label.length + 1
    let total := place + delta
    if limit ≤ total then none
    let next := next + total / count
    if limit ≤ next then none
    let c ← char? next
    decodeFrom fuel rest next (total % count + 1) (adapt (place = 0) delta count)
      (insertAt c (total % count) label)

/-- The text before the last hyphen and the text behind it; a hyphen in front separates nothing. -/
def splitLastHyphen (s : List Char) : List Char × List Char :=
  let behind := (s.reverse.takeWhile (· ≠ '-')).reverse
  let before := s.take (s.length - behind.length - 1)
  if behind.length = s.length ∨ before.isEmpty then ([], s) else (before, behind)

def decode (s : List Char) : Option (List Char) :=
  let (ascii, digits) := splitLastHyphen s
  decodeFrom digits.length digits 0x80 0 72 ascii

end Tenancy.Url.Punycode
