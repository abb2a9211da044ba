import Tenancy.Csv.Error
import Tenancy.Progress.Json

/-!
# Stage events

A table of events, one line each: an account entered a stage at an instant, or when the event is
processed. The columns are named in the first line and may stand in any order, among others that do
not matter. If the first line is no text, the columns are taken in their usual order. Every line is
read for itself: a bad one is an error in its place and leaves the others alone.
-/

namespace Tenancy

/-- An account enters a stage. -/
structure StageEvent where
  account : AccountId
  stage : Stage
  /-- When; if this is not set, when the event is processed. -/
  timestamp : Option Instant
  deriving DecidableEq

namespace StageEvent

/-- The blanks of ASCII, without the vertical tab. -/
def isAsciiBlank (b : UInt8) : Bool :=
  b = 0x20 || b = 0x09 || b = 0x0A || b = 0x0C || b = 0x0D

/-- A field without the blanks of ASCII around it. -/
def trimField (f : Csv.Field) : Csv.Field :=
  ((f.dropWhile isAsciiBlank).reverse.dropWhile isAsciiBlank).reverse

/-- The texts of fields without the blanks around them; `i` is the number of the first one. -/
def textsFrom (i : Nat) : List Csv.Field → Except Csv.Fault (List String)
  | [] => .ok []
  | f :: fs =>
    match Text.Utf8.decode (trimField f) with
    | .ok cs => (textsFrom (i + 1) fs).map (String.ofList (Text.trim cs) :: ·)
    | .error valid => .error (.invalidUtf8 i valid)

/-- The columns of an event. -/
inductive Column where
  | account
  | stage
  | timestamp
  deriving DecidableEq

namespace Column

def all : List Column :=
  [account, stage, timestamp]

def name : Column → String
  | account => "account"
  | stage => "stage"
  | timestamp => "timestamp"

/-- The column of a name. -/
def ofName? (text : String) : Option Column :=
  all.find? fun c => c.name = text

end Column

/-- What is known of an event while its line is read. -/
structure Draft where
  account : Option AccountId
  stage : Option Stage
  timestamp : Option (Option Instant)

namespace Draft

def empty : Draft :=
  ⟨none, none, none⟩

def has (d : Draft) : Column → Bool
  | .account => d.account.isSome
  | .stage => d.stage.isSome
  | .timestamp => d.timestamp.isSome

/-- The event, in which only the instant may be missing. -/
def finish (d : Draft) : Except Csv.Fault StageEvent :=
  match d.account, d.stage with
  | none, _ => .error (.mismatch (.missingField "account"))
  | _, none => .error (.mismatch (.missingField "stage"))
  | some account, some stage => .ok ⟨account, stage, d.timestamp.getD none⟩

end Draft

/-- The account number of the field `i`, in decimal digits or in hexadecimal ones behind `0x`. -/
def accountOf (i : Nat) (text : String) : Except Csv.Fault AccountId :=
  let number := match text.toList with
    | '0' :: 'x' :: digits => Text.readInt64 16 digits
    | cs => Text.readInt64 10 cs
  (number.map AccountId.mk).mapError (.number i)

/-- The instant of a field; none of an empty one. -/
def timestampOf (text : String) : Except Csv.Fault (Option Instant) :=
  if text.isEmpty then .ok none else ((Json.Reader.instantOf text).map some).mapError .mismatch

def readColumn (d : Draft) (c : Column) (i : Nat) (text : String) : Except Csv.Fault Draft := do
  match c with
  | .account => return { d with account := some (← accountOf i text) }
  | .stage => return { d with stage := some (← (Stage.ofName text).mapError .mismatch) }
  | .timestamp => return { d with timestamp := some (← timestampOf text) }

/-- Reads a line by the names of its columns; `i` is the number of the first field. Only an instant
may be missing at the end of the line. -/
def readNamed (d : Draft) (i : Nat) : List String → List String → Except Csv.Fault StageEvent
  | [], _ => d.finish
  | name :: names, fields =>
    match Column.ofName? name, fields with
    | some c, fields =>
      if d.has c then .error (.mismatch (.duplicateField name))
      else match fields with
        | field :: fields => do readNamed (← readColumn d c i field) (i + 1) names fields
        | [] =>
          if c = .timestamp then readNamed { d with timestamp := some none } (i + 1) names []
          else .error .endOfRow
    | none, _ :: fields => readNamed d (i + 1) names fields
    | none, [] => .error .endOfRow

/-- Reads a line whose columns stand in their usual order; `i` is the number of the first field. -/
def readPositional (d : Draft) (i : Nat) : List Column → List String → Except Csv.Fault StageEvent
  | c :: cs, field :: fields => do readPositional (← readColumn d c i field) (i + 1) cs fields
  | c :: _, [] =>
    if c = .timestamp then d.finish
    else .error (.mismatch (.invalidLength i (.elements "StageEvent" 3)))
  | [], _ => d.finish

/-- The names of the columns, unless the first line is no text. -/
def columnNames (header : Csv.Record) : Option (List String) :=
  (textsFrom 0 header.fields).toOption

def readLine (names : Option (List String)) (fields : List Csv.Field) :
    Except Csv.Fault StageEvent := do
  let fields ← textsFrom 0 fields
  match names with
  | some names => readNamed .empty 0 names fields
  | none => readPositional .empty 0 Column.all fields

/-- Reads the lines behind the header; `n` is the number of the first of them. -/
def readLines (names : Option (List String)) (n : Nat) :
    List Csv.Record → List (Except Csv.Error StageEvent)
  | [] => []
  | r :: rs =>
    (readLine names r.fields).mapError (⟨·, n, r.before⟩) :: readLines names (n + 1) rs

def readAll (table : List UInt8) : List (Except Csv.Error StageEvent) :=
  match Csv.records table with
  | [] => []
  | header :: rows => readLines (columnNames header) 1 rows

end StageEvent

end Tenancy
