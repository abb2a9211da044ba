import Tenancy.Json.Skip
import Tenancy.Json.Value
import Tenancy.Time.Instant

/-!
# Typed readers

Readers of numbers, flags, texts, instants, lists, options and records. Where something else stands
than is expected it is read, so that a fault of the text comes before the fault of its meaning. A
record stands as an object, whose fields may come in any order and among fields that nobody knows,
or as the list of its fields in their order.
-/

namespace Tenancy.Json

namespace Reader

variable {α R : Type}

def ofExcept : Except Mismatch α → Reader α
  | .ok a => return a
  | .error f => raise f

/-- Reads what begins with the given byte and refuses it. -/
def unexpected (b : UInt8) (expected : Expected) : Reader α := do
  if b = 0x6E then
    skip; ull
    raise (.invalidType .null expected)
  else if b = 0x74 then
    skip; rue
    raise (.invalidType (.boolean true) expected)
  else if b = 0x66 then
    skip; alse
    raise (.invalidType (.boolean false) expected)
  else if b = 0x22 then
    skip
    raise (.invalidType (.text (← textBody)) expected)
  else if b = 0x5B then raise (.invalidType .list expected)
  else if b = 0x7B then raise (.invalidType .map expected)
  else if startsNumber b then raise (.invalidType (.number (← number)) expected)
  else failNext .expectedValue

/-- Reads a value by its first byte; a fault of its meaning is placed behind what was read. -/
def byHead (r : UInt8 → Reader α) : Reader α :=
  located do
    match ← peekSolid with
    | none => failNext .endInValue
    | some b => r b

def numberAs (expected : Expected) (convert : Number → Except Mismatch α) : Reader α :=
  byHead fun b => do
    if startsNumber b then ofExcept (convert (← number)) else unexpected b expected

def int64 : Reader Int64 :=
  numberAs .int64 Number.toInt64

def uint64 : Reader UInt64 :=
  numberAs .uint64 (Number.toUInt64 .uint64)

def size : Reader UInt64 :=
  numberAs .size (Number.toUInt64 .size)

def flag : Reader Bool :=
  byHead fun b => do
    if b = 0x74 then
      skip; rue
      return true
    else if b = 0x66 then
      skip; alse
      return false
    else unexpected b .flag

def textAs (expected : Expected) (convert : String → Except Mismatch α) : Reader α :=
  byHead fun b => do
    if b = 0x22 then
      skip
      ofExcept (convert (← textBody))
    else unexpected b expected

def text : Reader String :=
  textAs .text .ok

def instantOf (s : String) : Except Mismatch Instant :=
  (Rfc3339.read s).mapError .badInstant

def instant : Reader Instant :=
  textAs .instant instantOf

def unit : Reader Unit :=
  byHead fun b => do
    if b = 0x6E then
      skip; ull
    else unexpected b .unit

def option (r : Reader α) : Reader (Option α) := do
  if (← peekSolid) = some 0x6E then
    skip; ull
    return none
  else return some (← r)

def list (item : Reader α) : Reader (List α) :=
  byHead fun b => do
    if b = 0x5B then closing endList (do skip; items item) else unexpected b .list

/-- Reads a map from keys to values; `key` reads a key behind its quote. -/
def map {K : Type} (key : Reader K) (value : Reader α) : Reader (List (K × α)) :=
  byHead fun b => do
    if b = 0x7B then closing endObject (do skip; entries key value) else unexpected b .map

/-- A field of a record: its name, whether it may be missing, and how its value is read into the
record. -/
structure Field (R : Type) where
  name : String
  required : Bool
  read : R → Reader R

/-- The field whose value is read by `r` and stored by `store`. -/
def field (name : String) (required : Bool) (r : Reader α) (store : R → α → R) : Field R :=
  ⟨name, required, fun record => do return store record (← r)⟩

/-- Reads the fields of a record as the elements of a list, of which `i` are read. -/
def fieldsInOrder (short : Expected) : Nat → Bool → List (Field R) → R → Reader R
  | _, _, [], record => return record
  | i, first, f :: fs, record => do
    if ← nextElement first then fieldsInOrder short (i + 1) false fs (← f.read record)
    else if f.required then raise (.invalidLength i short)
    else fieldsInOrder short (i + 1) first fs record

/-- Reads the fields of a record as the entries of an object; `seen` holds the names already
read. -/
def fieldsByName (fields : List (Field R)) : Nat → Bool → List String → R → Reader R
  | 0, _, _, record => return record
  | fuel + 1, first, seen, record => do
    if ← nextKey first then
      skip
      let name ← textBody
      match fields.find? fun f => f.name = name with
      | none =>
        colon
        skipValue
        fieldsByName fields fuel false seen record
      | some f =>
        if name ∈ seen then raise (.duplicateField name)
        colon
        fieldsByName fields fuel false (name :: seen) (← f.read record)
    else match fields.find? fun f => f.required && f.name ∉ seen with
      | some f => raise (.missingField f.name)
      | none => return record

/-- Reads a record; a field that may be missing then keeps its value in `start`. -/
def record (name : String) (fields : List (Field R)) (start : R) : Reader R :=
  byHead fun b => do
    if b = 0x5B then
      closing endList do
        skip
        fieldsInOrder (.elements name fields.length) 0 true fields start
    else if b = 0x7B then
      closing endObject do
        skip
        fieldsByName fields ((← remaining) + 1) true [] start
    else unexpected b (.record name)

end Reader

end Tenancy.Json
