import Tenancy.Json.Number
import Tenancy.Json.Text
import Tenancy.Table

/-!
# Values of documents

A document as a value, read with a bound on how deep containers may be nested, and its compact
text. The entries of an object are kept in the order in which they are listed; an object that is
read is listed in ascending order of its keys, and of two entries with one key the later one counts.
-/

namespace Tenancy.Json

/-- A value of a document. -/
inductive Value where
  | null
  | flag (b : Bool)
  | number (n : Number)
  | text (s : String)
  | list (items : List Value)
  | object (entries : List (String × Value))
  deriving Inhabited

namespace Value

/-- What a reader says that it found when it did not expect this value. -/
def found : Value → Found
  | null => .null
  | flag b => .boolean b
  | number n => .number n
  | text s => .text s
  | list _ => .list
  | object _ => .map

/-- The number of an integer, without a sign if it can be. -/
def ofInt64 (n : Int64) : Value :=
  if n < 0 then number (.negative n) else number (.natural n.toUInt64)

/-- The form of one character of a text between quotes. -/
def escapeChar (c : Char) : List Char :=
  if c = '"' then ['\\', '"']
  else if c = '\\' then ['\\', '\\']
  else if c = '\x08' then ['\\', 'b']
  else if c = '\t' then ['\\', 't']
  else if c = '\n' then ['\\', 'n']
  else if c = '\x0c' then ['\\', 'f']
  else if c = '\r' then ['\\', 'r']
  else if c.toNat < 0x20 then
    ['\\', 'u', '0', '0', Nat.digitChar (c.toNat / 16), Nat.digitChar (c.toNat % 16)]
  else [c]

def writeText (s : String) : List Char :=
  '"' :: s.toList.flatMap escapeChar ++ ['"']

def writeNumber : Number → List Char
  | .natural n => Text.decimal n.toNat
  | .negative n => Text.signedDecimal n.toInt
  | .double bits => Text.doubleText bits

mutual

def write : Value → List Char
  | null => "null".toList
  | flag true => "true".toList
  | flag false => "false".toList
  | number n => writeNumber n
  | text s => writeText s
  | list items => '[' :: writeItems items ++ [']']
  | object entries => '\x7b' :: writeEntries entries ++ ['\x7d']

def writeItems : List Value → List Char
  | [] => []
  | [v] => write v
  | v :: w :: rest => write v ++ ',' :: writeItems (w :: rest)

/-- The entries of an object with commas between them. -/
def writeEntries : List (String × Value) → List Char
  | [] => []
  | [(k, v)] => writeText k ++ ':' :: write v
  | (k, v) :: e :: rest => writeText k ++ ':' :: write v ++ ',' :: writeEntries (e :: rest)

end

def toText (v : Value) : String :=
  String.ofList v.write

def toBytes (v : Value) : List UInt8 :=
  Text.utf8 v.write

end Value

namespace Reader

variable {α : Type}

/-- Reads elements up to the end of their list, which is left. -/
def itemsFrom (item : Reader α) : Nat → Bool → Reader (List α)
  | 0, _ => return []
  | fuel + 1, first => do
    if ← nextElement first then
      let a ← item
      return a :: (← itemsFrom item fuel false)
    else return []

/-- Reads the elements of a list behind its opening bracket. -/
def items (item : Reader α) : Reader (List α) := do
  itemsFrom item ((← remaining) + 1) true

/-- Reads entries up to the end of their object, which is left. -/
def entriesFrom {K : Type} (key : Reader K) (value : Reader α) : Nat → Bool → Reader (List (K × α))
  | 0, _ => return []
  | fuel + 1, first => do
    if ← nextKey first then
      skip
      let k ← key
      colon
      let a ← value
      return (k, a) :: (← entriesFrom key value fuel false)
    else return []

/-- Reads the entries of an object behind its opening brace; `key` reads a key behind its quote. -/
def entries {K : Type} (key : Reader K) (value : Reader α) : Reader (List (K × α)) := do
  entriesFrom key value ((← remaining) + 1) true

/-- The entries in ascending order of their keys; of two with one key the later one counts. -/
def sortEntries (es : List (String × α)) : List (String × α) :=
  es.foldl (fun t e => Table.insertSorted (fun a b => a < b) e.1 e.2 t) []

/-- Reads a value whose lists and objects are read by the given readers, in front of which their
opening brackets stand. -/
def valueWith (list : Reader (List Value)) (object : Reader (List (String × Value))) :
    Reader Value := do
  match ← peekSolid with
  | none => failNext .endInValue
  | some b =>
    if b = 0x6E then skip; ull; return .null
    else if b = 0x74 then skip; rue; return .flag true
    else if b = 0x66 then skip; alse; return .flag false
    else if b = 0x22 then skip; return .text (← textBody)
    else if b = 0x5B then return .list (← list)
    else if b = 0x7B then return .object (sortEntries (← object))
    else if startsNumber b then return .number (← number)
    else failNext .expectedValue

/-- Reads a value in which containers are nested at most `depth` deep. -/
def value : Nat → Reader Value
  | 0 => valueWith (failNext .tooDeep) (failNext .tooDeep)
  | depth + 1 =>
    valueWith (closing endList (do skip; items (value depth)))
      (closing endObject (do skip; entries textBody (value depth)))

/-- How deep containers may be nested in a document. -/
def depthLimit : Nat :=
  127

end Reader

end Tenancy.Json
