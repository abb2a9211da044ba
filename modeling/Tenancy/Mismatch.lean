import Tenancy.Text.Shortest
import Tenancy.Text.Quoted
import Tenancy.Time.Rfc3339

/-!
# Mismatches

How a value can fail to be what a reader expects: it is of another kind, it lies outside a range, a
field is missing or stands twice, a name is not known. The wording names what was found and what was
expected.
-/

namespace Tenancy

/-- A number as it is read: without a sign if it can be, and as the bits of a binary number if it
has a fraction or an exponent or is too large for an integer of 64 bits. -/
inductive Number where
  | natural (n : UInt64)
  | negative (n : Int64)
  | double (bits : UInt64)
  deriving DecidableEq, Inhabited

/-- What a reader found in place of what it expected. -/
inductive Found where
  | null
  | boolean (b : Bool)
  | number (n : Number)
  | text (s : String)
  | list
  | map
  deriving DecidableEq, Inhabited

/-- What a reader expected. -/
inductive Expected where
  | int64
  | uint64
  | size
  | flag
  | text
  | list
  | map
  | unit
  | instant
  | variantName
  | textOrMap
  | singleEntry
  | fewerElements
  | record (name : String)
  | elements (name : String) (count : Nat)
  deriving DecidableEq, Inhabited

/-- How a value is not what its reader expects. -/
inductive Mismatch where
  | invalidType (found : Found) (expected : Expected)
  | invalidValue (found : Found) (expected : Expected)
  | invalidLength (length : Nat) (expected : Expected)
  | missingField (name : String)
  | duplicateField (name : String)
  | unknownVariant (name : String) (known : List String)
  | badInstant (fault : Rfc3339.Fault)
  deriving DecidableEq, Inhabited

/-- The whole numbers from `-2 ^ 63` to `2 ^ 63 - 1`. -/
def Number.toInt64 : Number → Except Mismatch Int64
  | .natural n =>
    if n.toNat < 0x8000000000000000 then .ok n.toInt64
    else .error (.invalidValue (.number (.natural n)) .int64)
  | .negative n => .ok n
  | n => .error (.invalidType (.number n) .int64)

/-- The whole numbers from zero to `2 ^ 64 - 1`. -/
def Number.toUInt64 (expected : Expected) : Number → Except Mismatch UInt64
  | .natural n => .ok n
  | .negative n => .error (.invalidValue (.number (.negative n)) expected)
  | n => .error (.invalidType (.number n) expected)

def Found.message : Found → String
  | null => "null"
  | boolean true => "boolean `true`"
  | boolean false => "boolean `false`"
  | number (.natural n) => "integer `" ++ toString n.toNat ++ "`"
  | number (.negative n) => "integer `" ++ toString n.toInt ++ "`"
  | number (.double bits) => "floating point `" ++ String.ofList (Text.doubleText bits) ++ "`"
  | text s => "string " ++ Text.quote s
  | list => "sequence"
  | map => "map"

def Expected.message : Expected → String
  | int64 => "i64"
  | uint64 => "u64"
  | size => "usize"
  | flag => "a boolean"
  | text => "a string"
  | list => "a sequence"
  | map => "a map"
  | unit => "unit"
  | instant => "an RFC 3339 formatted date and time string"
  | variantName => "variant identifier"
  | textOrMap => "string or map"
  | singleEntry => "map with a single key"
  | fewerElements => "fewer elements in array"
  | record name => "struct " ++ name
  | elements name count => "struct " ++ name ++ " with " ++ toString count ++ " elements"

def oneOf (names : List String) : String :=
  match names.map fun n => "`" ++ n ++ "`" with
  | [] => "there are no variants"
  | [a] => "expected " ++ a
  | [a, b] => "expected " ++ a ++ " or " ++ b
  | quoted => "expected one of " ++ String.intercalate ", " quoted

def Mismatch.message : Mismatch → String
  | invalidType found expected =>
    "invalid type: " ++ found.message ++ ", expected " ++ expected.message
  | invalidValue found expected =>
    "invalid value: " ++ found.message ++ ", expected " ++ expected.message
  | invalidLength length expected =>
    "invalid length " ++ toString length ++ ", expected " ++ expected.message
  | missingField name => "missing field `" ++ name ++ "`"
  | duplicateField name => "duplicate field `" ++ name ++ "`"
  | unknownVariant name known => "unknown variant `" ++ name ++ "`, " ++ oneOf known
  | badInstant fault => fault.message

end Tenancy
