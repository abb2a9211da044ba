import Tenancy.Text.Numeral

/-!
# Numeric addresses

Addresses of four and of sixteen bytes. The parts of the first kind may be decimal, octal or
hexadecimal, and the last one covers all bytes that are left. The second kind is written with the
longest run of at least two zero pieces left out.
-/

namespace Tenancy.Url

def splitAt (sep : Char → Bool) : List Char → List (List Char)
  | [] => [[]]
  | c :: cs =>
    if sep c then [] :: splitAt sep cs
    else match splitAt sep cs with
      | [] => [[c]]
      | part :: parts => (c :: part) :: parts

def number? (base : Nat) : List Char → Option Nat
  | cs => cs.foldlM (fun n c => (Text.digitValue? base c).map (n * base + ·)) 0

/-- The number of a part of an address: hexadecimal behind `0x`, octal behind `0`, or decimal. -/
def partNumber? : List Char → Option Nat
  | [] => none
  | '0' :: 'x' :: cs => number? 16 cs
  | '0' :: 'X' :: cs => number? 16 cs
  | '0' :: c :: cs => number? 8 (c :: cs)
  | cs => number? 10 cs

/-- The parts of a name without an empty last one. -/
def addressParts (name : List Char) : List (List Char) :=
  let parts := splitAt (· = '.') name
  if 1 < parts.length ∧ parts.getLast? = some [] then parts.dropLast else parts

/-- The last part of a name is a number, so the name must be an address of four bytes. -/
def endsInNumber (name : List Char) : Bool :=
  match (addressParts name).getLast? with
  | none => false
  | some part => (!part.isEmpty && part.all Char.isDigit) || (partNumber? part).isSome

def address4? (name : List Char) : Option Nat := do
  let parts := addressParts name
  if 4 < parts.length then none
  let numbers ← parts.mapM partNumber?
  let last ← numbers.getLast?
  let bytes := numbers.dropLast
  if Nat.pow 256 (4 - bytes.length) ≤ last then none
  if bytes.any (255 < ·) then none
  return (bytes.foldl (· * 256 + ·) 0) * Nat.pow 256 (4 - bytes.length) + last

def address4Text (n : Nat) : List Char :=
  List.intercalate ['.']
    [Text.decimal (n / 16777216 % 256), Text.decimal (n / 65536 % 256),
      Text.decimal (n / 256 % 256), Text.decimal (n % 256)]

/-- One of the four numbers at the end of a longer address: no zero stands in front. -/
def byteNumber? (cs : List Char) : Option Nat :=
  match cs with
  | [] => none
  | ['0'] => some 0
  | '0' :: _ => none
  | cs => (number? 10 cs).filter (· ≤ 255)

def bytePieces? (cs : List Char) : Option (List Nat) :=
  match splitAt (· = '.') cs with
  | [a, b, c, d] => do
    return [(← byteNumber? a) * 256 + (← byteNumber? b),
      (← byteNumber? c) * 256 + (← byteNumber? d)]
  | _ => none

/-- The pieces of a longer address or of a part of it: numbers of at most four hexadecimal digits,
of which the last two may be given as four byte numbers. -/
def pieces? : List (List Char) → Option (List Nat)
  | [] => some []
  | [last] =>
    if last.contains '.' then bytePieces? last
    else if last.isEmpty ∨ 4 < last.length then none
    else (number? 16 last).map fun n => [n]
  | part :: parts => do
    if part.isEmpty ∨ 4 < part.length then none
    return (← number? 16 part) :: (← pieces? parts)

/-- The parts of a text between colons; none of an empty text. -/
def colonParts (cs : List Char) : List (List Char) :=
  if cs.isEmpty then [] else splitAt (· = ':') cs

/-- The text before and behind the first two colons in a row. -/
def splitGap : List Char → Option (List Char × List Char)
  | ':' :: ':' :: rest => some ([], rest)
  | c :: rest => (splitGap rest).map fun p => (c :: p.1, p.2)
  | [] => none

def address16? (cs : List Char) : Option (List Nat) :=
  match splitGap cs with
  | none => (pieces? (colonParts cs)).filter fun ps => ps.length = 8
  | some (front, back) => do
    if front.contains '.' then none
    let a ← pieces? (colonParts front)
    let b ← pieces? (colonParts back)
    if 7 < a.length + b.length then none
    return a ++ List.replicate (8 - a.length - b.length) 0 ++ b

/-- The first of the longest runs of zeros, as its start and its length. -/
def longestGap (pieces : List Nat) : Nat × Nat :=
  (List.range pieces.length).foldl (fun best i =>
    let run := ((pieces.drop i).takeWhile (· = 0)).length
    if best.2 < run then (i, run) else best) (0, 0)

/-- The text of pieces with colons between them. -/
def piecesText (pieces : List Nat) : List Char :=
  List.intercalate [':'] (pieces.map (Nat.toDigits 16))

def address16Text (pieces : List Nat) : List Char :=
  let (start, run) := longestGap pieces
  if run < 2 then piecesText pieces
  else piecesText (pieces.take start) ++ [':', ':'] ++ piecesText (pieces.drop (start + run))

end Tenancy.Url
