import Tenancy.Account.Json
import Tenancy.Progress.Record

/-!
# Progress as documents

The documents of stages, columns of stages and progress records, and their readers. A stage is read
from its name alone or from an object with its name as the only key and nothing behind it. What is
already a value is read in the same way, but its faults have no place.
-/

namespace Tenancy

open Json

namespace Stage

def ofName (name : String) : Except Mismatch Stage :=
  match ofName? name with
  | some s => .ok s
  | none => .error (.unknownVariant name (all.map Stage.name))

def toJson (s : Stage) : Value :=
  .text s.name

def nameReader (expected : Expected) : Reader Stage :=
  Reader.textAs expected ofName

def reader : Reader Stage := do
  match ← Reader.peekSolid with
  | none => Reader.failNext .endInValue
  | some 0x22 => nameReader .variantName
  | some 0x7B =>
    Reader.skip
    let s ← nameReader .variantName
    Reader.colon
    Reader.unit
    match ← Reader.peekSolid with
    | some 0x7D =>
      Reader.skip
      return s
    | some _ => Reader.fail .expectedValue
    | none => Reader.fail .endInObject
  | some _ => Reader.failNext .expectedValue

def keyReader : Reader Stage :=
  Reader.located do Reader.ofExcept (ofName (← Reader.textBody))

def ofValue : Value → Except Mismatch Stage
  | .text name => ofName name
  | .object [(name, v)] => do
    let s ← ofName name
    match v with
    | .null => .ok s
    | v => .error (.invalidType v.found .unit)
  | .object _ => .error (.invalidValue .map .singleEntry)
  | v => .error (.invalidType v.found .textOrMap)

end Stage

def Instant.toJson (i : Instant) : Value :=
  .text (Rfc3339.text i)

def Instant.ofValue : Value → Except Mismatch Instant
  | .text s => Reader.instantOf s
  | v => .error (.invalidType v.found .instant)

def StageMap.toJson {α : Type} (toValue : α → Value) (m : StageMap α) : Value :=
  .object (m.entries.map fun e => (e.1.name, toValue e.2))

def StageMap.reader {α : Type} (r : Reader α) : Reader (StageMap α) := do
  return StageMap.ofList (← Reader.map Stage.keyReader r)

def ProgressSchema.toJson (schema : ProgressSchema) : Value :=
  StageMap.toJson .text schema.columns

def ProgressSchema.reader : Reader ProgressSchema := do
  return ⟨← StageMap.reader Reader.text⟩

namespace ProgressRecord

def toJson (r : ProgressRecord) : Value :=
  .object [("account_id", r.account.toJson),
    ("stage_timestamps", StageMap.toJson Instant.toJson r.entered),
    ("current_status", r.status.toJson)]

def reader : Reader ProgressRecord :=
  Reader.record "ProgressRecord"
    [Reader.field "account_id" true AccountId.reader fun r account => { r with account },
      Reader.field "stage_timestamps" true (StageMap.reader Reader.instant)
        fun r entered => { r with entered },
      Reader.field "current_status" true Stage.reader fun r status => { r with status }]
    (new ⟨0⟩ .accountCreated)

def accountOfValue : Value → Except Mismatch AccountId
  | .number n => n.toInt64.map AccountId.mk
  | v => .error (.invalidType v.found .int64)

def enteredOfValue : Value → Except Mismatch (StageMap Instant)
  | .object entries => do
    let es ← entries.mapM fun e => do
      let s ← Stage.ofName e.1
      return (s, ← Instant.ofValue e.2)
    return StageMap.ofList es
  | v => .error (.invalidType v.found .map)

/-- The fields of a record by name, with what reads a value into them. -/
def valueFields : List (String × (ProgressRecord → Value → Except Mismatch ProgressRecord)) :=
  [("account_id", fun r v => do return { r with account := ← accountOfValue v }),
    ("stage_timestamps", fun r v => do return { r with entered := ← enteredOfValue v }),
    ("current_status", fun r v => do return { r with status := ← Stage.ofValue v })]

/-- Reads the elements of a list into the fields of a record, of which `i` are read. -/
def ofItems : Nat → List (String × (ProgressRecord → Value → Except Mismatch ProgressRecord)) →
    ProgressRecord → List Value → Except Mismatch ProgressRecord
  | _, [], r, [] => .ok r
  | i, [], _, extra => .error (.invalidLength (i + extra.length) .fewerElements)
  | i, _ :: _, _, [] => .error (.invalidLength i (.elements "ProgressRecord" 3))
  | i, f :: fs, r, v :: vs => do ofItems (i + 1) fs (← f.2 r v) vs

def ofValue : Value → Except Mismatch ProgressRecord
  | .list items => ofItems 0 valueFields (new ⟨0⟩ .accountCreated) items
  | .object entries => do
    let r ← entries.foldlM (fun r e =>
      match valueFields.find? fun f => f.1 = e.1 with
      | some f => f.2 r e.2
      | none => .ok r) (new ⟨0⟩ .accountCreated)
    match valueFields.find? fun f => entries.all fun e => e.1 ≠ f.1 with
    | some f => .error (.missingField f.1)
    | none => .ok r
  | v => .error (.invalidType v.found (.record "ProgressRecord"))

end ProgressRecord

end Tenancy
