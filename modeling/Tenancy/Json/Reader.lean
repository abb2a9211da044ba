import Tenancy.Json.Error

/-!
# Readers of a document

A reader takes bytes from the front of what is left of a document and knows the place that it has
reached. When it fails it stays where it failed, because a fault that has no place of its own is
given the place reached when the value around it was left.
-/

namespace Tenancy.Json

/-- What is left of a document, and the place before it. -/
structure Cursor where
  rest : List UInt8
  place : Position
  deriving DecidableEq, Repr, Inhabited

def Cursor.ofBytes (bytes : List UInt8) : Cursor :=
  ⟨bytes, Position.start⟩

abbrev Reader := EStateM Error Cursor

namespace Reader

variable {α : Type}

/-- Fails because a value is not what is expected; the fault has no place yet. -/
def raise (m : Mismatch) : Reader α :=
  throw ⟨.mismatch m, none⟩

def fail (f : Fault) : Reader α := do
  throw ⟨f, some (← get).place⟩

/-- Fails behind the byte that comes next. -/
def failNext (f : Fault) : Reader α := do
  match ← get with
  | ⟨[], place⟩ => throw ⟨f, some place⟩
  | ⟨b :: _, place⟩ => throw ⟨f, some (place.after b)⟩

def peek : Reader (Option UInt8) := do
  return (← get).rest.head?

def next : Reader (Option UInt8) := do
  match ← get with
  | ⟨[], _⟩ => return none
  | ⟨b :: rest, place⟩ =>
    set (⟨rest, place.after b⟩ : Cursor)
    return some b

def skip : Reader Unit := do
  let _ ← next

/-- The cursor behind bytes at its front that satisfy a condition. -/
def dropBytes (p : UInt8 → Bool) : List UInt8 → Position → Cursor
  | [], place => ⟨[], place⟩
  | b :: rest, place => if p b then dropBytes p rest (place.after b) else ⟨b :: rest, place⟩

/-- Drops bytes that satisfy a condition, and tells how many. -/
def skipWhile (p : UInt8 → Bool) : Reader Nat := do
  let c ← get
  set (dropBytes p c.rest c.place)
  return (c.rest.takeWhile p).length

/-- A space, a tab, a line feed or a carriage return. -/
def isSpace (b : UInt8) : Bool :=
  b = 0x20 || b = 0x09 || b = 0x0A || b = 0x0D

/-- A decimal digit. -/
def isDigit (b : UInt8) : Bool :=
  0x30 ≤ b && b ≤ 0x39

/-- The byte that comes next behind white space. -/
def peekSolid : Reader (Option UInt8) := do
  let _ ← skipWhile isSpace
  peek

/-- Gives a fault without a place the place reached. -/
def located (r : Reader α) : Reader α := fun c =>
  match r c with
  | .ok a c => .ok a c
  | .error e c => .error ⟨e.fault, some (e.place.getD c.place)⟩ c

/-- Runs a reader and then the one that leaves the value around it, which is tried even if the first
one failed; the first failure counts. -/
def closing (finish : Reader Unit) (r : Reader α) : Reader α := fun c =>
  match r c with
  | .ok a c =>
    match finish c with
    | .ok _ c => .ok a c
    | .error e c => .error e c
  | .error e c =>
    match finish c with
    | .ok _ c => .error e c
    | .error _ c => .error e c

def word : List UInt8 → Reader Unit
  | [] => return
  | expected :: more => do
    match ← next with
    | none => fail .endInValue
    | some b => if b = expected then word more else fail .expectedIdent

/-- Reads the rest of `null`. -/
def ull : Reader Unit := word [0x75, 0x6C, 0x6C]

/-- Reads the rest of `true`. -/
def rue : Reader Unit := word [0x72, 0x75, 0x65]

/-- Reads the rest of `false`. -/
def alse : Reader Unit := word [0x61, 0x6C, 0x73, 0x65]

def remaining : Reader Nat := do
  return (← get).rest.length

/-- Leaves a list behind its last element. -/
def endList : Reader Unit := do
  match ← peekSolid with
  | some 0x5D => skip
  | some 0x2C =>
    skip
    if (← peekSolid) = some 0x5D then failNext .trailingComma else failNext .trailingCharacters
  | some _ => failNext .trailingCharacters
  | none => failNext .endInList

/-- Leaves an object behind its last entry. -/
def endObject : Reader Unit := do
  match ← peekSolid with
  | some 0x7D => skip
  | some 0x2C => failNext .trailingComma
  | some _ => failNext .trailingCharacters
  | none => failNext .endInObject

/-- Goes to the next element of a list, if there is one. -/
def nextElement (first : Bool) : Reader Bool := do
  match ← peekSolid with
  | none => failNext .endInList
  | some 0x5D => return false
  | some b =>
    if first then return true
    else if b = 0x2C then
      skip
      match ← peekSolid with
      | some 0x5D => failNext .trailingComma
      | some _ => return true
      | none => failNext .endInValue
    else failNext .expectedListEnd

/-- Goes to the quote before the next key of an object, if there is one. -/
def nextKey (first : Bool) : Reader Bool := do
  match ← peekSolid with
  | none => failNext .endInObject
  | some 0x7D => return false
  | some b =>
    if first then
      if b = 0x22 then return true else failNext .keyNotText
    else if b = 0x2C then
      skip
      match ← peekSolid with
      | some 0x22 => return true
      | some 0x7D => failNext .trailingComma
      | some _ => failNext .keyNotText
      | none => failNext .endInValue
    else failNext .expectedObjectEnd

def colon : Reader Unit := do
  match ← peekSolid with
  | some 0x3A => skip
  | some _ => failNext .expectedColon
  | none => failNext .endInObject

/-- Reads a whole document: a value with nothing but white space around it. -/
def document (r : Reader α) (bytes : List UInt8) : Except Error α :=
  let whole : Reader α := do
    let a ← r
    match ← peekSolid with
    | some _ => failNext .trailingCharacters
    | none => return a
  match whole (Cursor.ofBytes bytes) with
  | .ok a _ => .ok a
  | .error e _ => .error e

end Reader

end Tenancy.Json
