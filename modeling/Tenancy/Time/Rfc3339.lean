import Tenancy.Text.Blank
import Tenancy.Time.Instant

/-!
# Instants as text

The profile of ISO 8601 for the Internet, `2024-03-01T09:30:00Z`. Reading is lenient where people
are: blanks may stand around the parts, the date and the time may be parted by `T`, `t` or a blank,
numbers may lack their leading zeros, a year may have a sign and then any number of digits, and the
offset may be `Z`, `UTC` or hours and minutes. Writing is exact: universal time with `Z`, a fraction
of no, three, six or nine places as needed, and a sign before a year outside 0 to 9999.
-/

namespace Tenancy.Rfc3339

/-- Why a text is no instant. -/
inductive Fault where
  | outOfRange
  | impossible
  | invalid
  | tooShort
  | tooLong
  deriving DecidableEq, Repr, Inhabited

def Fault.message : Fault → String
  | outOfRange => "input is out of range"
  | impossible => "no possible date and time matching input"
  | invalid => "input contains invalid characters"
  | tooShort => "premature end of input"
  | tooLong => "trailing input"

/-- A reader of a part of a text, which leaves the rest. -/
abbrev Scan := StateT (List Char) (Except Fault)

def blanks : Scan Unit :=
  modify Text.trimStart

def literal (c : Char) : Scan Unit := do
  match ← get with
  | [] => throw .tooShort
  | d :: rest => if d = c then set rest else throw .invalid

def digitsValue (cs : List Char) : Nat :=
  cs.foldl (fun n c => n * 10 + (c.toNat - 0x30)) 0

/-- Reads at least one digit and, if there is a bound, no more than that many. -/
def digits (bound : Option Nat) : Scan (List Char) := do
  let text ← get
  let found := match bound with
    | some n => (text.take n).takeWhile Char.isDigit
    | none => text.takeWhile Char.isDigit
  if text.isEmpty then throw .tooShort
  if found.isEmpty then throw .invalid
  set (text.drop found.length)
  pure found

/-- Reads a number of one or two digits that lies between two bounds. -/
def field (low high : Nat) : Scan Nat := do
  blanks
  let n := digitsValue (← digits (some 2))
  if low ≤ n ∧ n ≤ high then pure n else throw .outOfRange

/-- Reads a year: four digits at most without a sign, any number of them behind one. -/
def year : Scan Int := do
  blanks
  let value ← match ← get with
    | '-' :: rest => do set rest; pure (-(digitsValue (← digits none) : Int))
    | '+' :: rest => do set rest; pure (digitsValue (← digits none) : Int)
    | _ => do pure (digitsValue (← digits (some 4)) : Int)
  if -2147483648 ≤ value ∧ value ≤ 2147483647 then pure value else throw .outOfRange

/-- Reads a fraction of a second as nanoseconds; places beyond the ninth are dropped. -/
def fraction : Scan Nat := do
  match ← get with
  | '.' :: rest =>
    set rest
    let found ← digits none
    let places := found.take 9
    pure (digitsValue places * Nat.pow 10 (9 - places.length))
  | _ => pure 0

/-- Reads two characters that must be digits, the first of them below a bound. -/
def twoDigits (bound : Char) : Scan Nat := do
  match ← get with
  | [] => throw .tooShort
  | [c] => if c.toNat < 0x80 then throw .tooShort else throw .invalid
  | c :: d :: rest =>
    if c.isDigit && d.isDigit then
      if bound < c then throw .outOfRange
      set rest
      pure (digitsValue [c, d])
    else throw .invalid

/-- Reads an offset from universal time in seconds: `Z`, or a sign, hours and minutes with colons
or blanks between them. The sign may be the hyphen or the true minus sign. -/
def numericOffset : Scan Int := do
  match ← get with
  | 'Z' :: rest => set rest; pure 0
  | 'z' :: rest => set rest; pure 0
  | [] => throw .tooShort
  | sign :: rest =>
    let negative ←
      if sign = '+' then pure false
      else if sign = '-' || sign = '\u2212' then pure true
      else throw .invalid
    set rest
    let hours ← twoDigits '9'
    modify (·.dropWhile fun c => c = ':' || Text.isBlank c)
    let minutes ← twoDigits '5'
    let seconds : Int := hours * 3600 + minutes * 60
    pure (if negative then -seconds else seconds)

/-- Reads an offset from universal time in seconds, which may also be the word `UTC`. -/
def offset : Scan Int := do
  blanks
  match ← get with
  | u :: t :: c :: rest =>
    if Text.eqIgnoringCase [u, t, c] ['U', 'T', 'C'] then
      set rest
      pure 0
    else numericOffset
  | _ => numericOffset

/-- What a text says: a date, a time of day and an offset. -/
structure Reading where
  date : CivilDate
  hour : Nat
  minute : Nat
  second : Nat
  nano : Nat
  offset : Int
  deriving Repr

def reading : Scan Reading := do
  let year ← year
  blanks
  literal '-'
  let month ← field 1 12
  blanks
  literal '-'
  let day ← field 1 31
  match ← get with
  | [] => throw .tooShort
  | c :: rest => if c = 't' || c = 'T' || c = ' ' then set rest else throw .invalid
  let hour ← field 0 23
  blanks
  literal ':'
  let minute ← field 0 59
  blanks
  literal ':'
  let second ← field 0 60
  let nano ← fraction
  let offset ← offset
  blanks
  unless (← get).isEmpty do throw .tooLong
  pure { date := ⟨year, month, day⟩, hour, minute, second, nano, offset }

/-- The instant that a reading means. The date must be one of the calendar, and the second 60 is a
leap second; the offset must be shorter than a day, and the calendar must reach to the instant. -/
def Reading.instant (r : Reading) : Except Fault Instant :=
  let day := r.date.toDayNumber
  if !r.date.exists? || day < -96465292 || 95026236 < day || 86400 ≤ r.offset.natAbs then
    .error .outOfRange
  else
    let second := if r.second = 60 then 59 else r.second
    let nano := if r.second = 60 then r.nano + 1000000000 else r.nano
    let total : Int := r.hour * 3600 + r.minute * 60 + second - r.offset
    match Instant.ofParts? (day + total / 86400) (total % 86400).toNat nano with
    | some i => .ok i
    | none => .error .impossible

def read (text : String) : Except Fault Instant := do
  let (r, _) ← reading.run text.toList
  r.instant

/-- A year in four digits, with a sign if it is negative or has more of them. -/
def yearText (year : Int) : List Char :=
  if 0 ≤ year ∧ year ≤ 9999 then Text.padDecimal 4 year.natAbs
  else (if year < 0 then '-' else '+') :: Text.padDecimal 4 year.natAbs

def dateText (date : CivilDate) : List Char :=
  yearText date.year ++ '-' :: Text.padDecimal 2 date.month ++ '-' :: Text.padDecimal 2 date.day

/-- The time of day of an instant to the second. The leap second of a minute's last second is the
second 60; that of another second is written as the second after it. -/
def timeText (i : Instant) : List Char :=
  let second := i.second % 60 + i.nano / 1000000000
  Text.padDecimal 2 (i.second / 3600) ++ ':' :: Text.padDecimal 2 (i.second / 60 % 60) ++
    ':' :: Text.padDecimal 2 second

/-- The fraction of the second of an instant in no, three, six or nine places. -/
def fractionText (i : Instant) : List Char :=
  let nano := i.nano % 1000000000
  if nano = 0 then []
  else if nano % 1000000 = 0 then '.' :: Text.padDecimal 3 (nano / 1000000)
  else if nano % 1000 = 0 then '.' :: Text.padDecimal 6 (nano / 1000)
  else '.' :: Text.padDecimal 9 nano

def dateOf (i : Instant) : CivilDate :=
  CivilDate.ofDayNumber i.day

def text (i : Instant) : String :=
  String.ofList (dateText (dateOf i) ++ 'T' :: timeText i ++ fractionText i ++ ['Z'])

def secondsText (i : Instant) : String :=
  String.ofList (dateText (dateOf i) ++ 'T' :: timeText i ++ ['Z'])

/-- An instant as people read it, with blanks between its parts. -/
def plainText (i : Instant) : String :=
  String.ofList (dateText (dateOf i) ++ ' ' :: timeText i ++ fractionText i) ++ " UTC"

end Tenancy.Rfc3339
