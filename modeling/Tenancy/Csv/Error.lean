import Tenancy.Csv.Record
import Tenancy.Mismatch

/-!
# Faults of tables

A fault in a table names the record in which it was found, counted from the header as record zero,
and the place at which that record begins.
-/

namespace Tenancy.Csv

/-- What is wrong with a record. -/
inductive Fault where
  /-- A field is no text; so many bytes of it are sound. -/
  | invalidUtf8 (field : Nat) (valid : Nat)
  /-- The record has fewer fields than the header has columns. -/
  | endOfRow
  /-- A field is no number of its range. -/
  | number (field : Nat) (fault : Text.NumeralFault)
  | mismatch (m : Mismatch)
  deriving DecidableEq, Inhabited

/-- A fault of a record, with its number and the place at which it begins. -/
structure Error where
  fault : Fault
  record : Nat
  before : Place
  deriving DecidableEq, Inhabited

def Error.placeText (e : Error) : String :=
  toString e.record ++ " (line: " ++ toString e.before.line ++ ", byte: " ++
    toString e.before.byte ++ "): "

def Error.message (e : Error) : String :=
  match e.fault with
  | .invalidUtf8 field valid =>
    "CSV parse error: record " ++ toString e.record ++ " (line " ++ toString e.before.line ++
      ", field: " ++ toString field ++ ", byte: " ++ toString e.before.byte ++
      "): invalid utf-8: invalid UTF-8 in field " ++ toString field ++ " near byte index " ++
      toString valid
  | .endOfRow =>
    "CSV deserialize error: record " ++ e.placeText ++ "expected field, but got end of row"
  | .number field fault =>
    "CSV deserialize error: record " ++ e.placeText ++ "field " ++ toString field ++ ": " ++
      fault.message
  | .mismatch m => "CSV deserialize error: record " ++ e.placeText ++ m.message

end Tenancy.Csv
