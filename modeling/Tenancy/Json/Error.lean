import Tenancy.Mismatch

/-!
# Faults of JSON documents

A fault is either one of the text itself or one of its meaning, when a value is not what the reader
expects. A fault in a text knows the line and the column at which it was found; a fault in a value
that is already read knows no place.
-/

namespace Tenancy.Json

/-- A place in a text: the line from 1, and the number of bytes read of that line. -/
structure Position where
  line : Nat
  column : Nat
  deriving DecidableEq, Repr, Inhabited

/-- The place before the first byte. -/
def Position.start : Position :=
  ⟨1, 0⟩

def Position.after (p : Position) (b : UInt8) : Position :=
  if b = 0x0A then ⟨p.line + 1, 0⟩ else ⟨p.line, p.column + 1⟩

/-- What is wrong with a document. -/
inductive Fault where
  | endInValue
  | endInList
  | endInObject
  | endInText
  | expectedColon
  | expectedListEnd
  | expectedObjectEnd
  | expectedIdent
  | expectedValue
  | invalidEscape
  | invalidNumber
  | numberOutOfRange
  | invalidCodePoint
  | controlCharacter
  | keyNotText
  | loneSurrogate
  | trailingComma
  | trailingCharacters
  | endOfHexEscape
  | tooDeep
  | mismatch (m : Mismatch)
  deriving DecidableEq, Inhabited

/-- A fault, and where it was found if it was found in a text. -/
structure Error where
  fault : Fault
  place : Option Position
  deriving DecidableEq, Inhabited

def Fault.message : Fault → String
  | endInValue => "EOF while parsing a value"
  | endInList => "EOF while parsing a list"
  | endInObject => "EOF while parsing an object"
  | endInText => "EOF while parsing a string"
  | expectedColon => "expected `:`"
  | expectedListEnd => "expected `,` or `]`"
  | expectedObjectEnd => "expected `,` or `\x7d`"
  | expectedIdent => "expected ident"
  | expectedValue => "expected value"
  | invalidEscape => "invalid escape"
  | invalidNumber => "invalid number"
  | numberOutOfRange => "number out of range"
  | invalidCodePoint => "invalid unicode code point"
  | controlCharacter => "control character (\\u0000-\\u001F) found while parsing a string"
  | keyNotText => "key must be a string"
  | loneSurrogate => "lone leading surrogate in hex escape"
  | trailingComma => "trailing comma"
  | trailingCharacters => "trailing characters"
  | endOfHexEscape => "unexpected end of hex escape"
  | tooDeep => "recursion limit exceeded"
  | mismatch m => m.message

def Error.message (e : Error) : String :=
  match e.place with
  | none => e.fault.message
  | some p =>
    e.fault.message ++ " at line " ++ toString p.line ++ " column " ++ toString p.column

end Tenancy.Json
