import Tenancy.Text.Composition
import Tenancy.Text.Utf8
import Tenancy.Url.Address
import Tenancy.Url.Direction
import Tenancy.Url.Joining
import Tenancy.Url.Mapping
import Tenancy.Url.Punycode

/-!
# Domain names

A domain name is compared and shown in its ASCII form. A name that is ASCII already is only put into
lower case. Any other name is mapped and composed, and its labels are encoded one by one; a label
that comes encoded must stand for a label that could have been written itself.
-/

namespace Tenancy.Url

/-- A character that no domain name may hold. -/
def isForbidden (c : Char) : Bool :=
  c.toNat ≤ 0x20 || c.toNat = 0x7F || "%#/:<>?@[\\]^|".toList.contains c

def encodedMark : List Char :=
  ['x', 'n', '-', '-']

/-- A label in the ASCII form of one that is not ASCII. -/
def isEncoded (label : List Char) : Bool :=
  (label.take 4).map Char.toLower = encodedMark

/-- The name has no character beyond ASCII and no label that stands for one. -/
def isPlain (name : List Char) : Bool :=
  name.all (fun c => c.toNat < 0x80) && !(splitAt (· = '.') name).any isEncoded

def plainToAscii? (name : List Char) : Option (List Char) :=
  if name.any isForbidden then none else some (name.map Char.toLower)

def isAscii (label : List Char) : Bool :=
  label.all fun c => c.toNat < 0x80

def longestLabel : Nat := 1000

def longestEncoded : Nat := 2000

/-- The label for which an encoded one stands, unless it stands for none that could have been
written itself. -/
def decodeLabel? (encoded : List Char) : Option (List Char) :=
  if encoded.getLast? = some '-' ∨ longestEncoded < encoded.length ∨ ¬ isAscii encoded then none
  else
    (Punycode.decode encoded).filter fun label =>
      !isAscii label && label.all isKept && Text.composed label == label

/-- The label as it is read: an encoded one is decoded. -/
def readLabel? (label : List Char) : Option (List Char) :=
  if label.any isForbidden then none
  else if isEncoded label then decodeLabel? (label.drop 4)
  else some label

/-- The characters of a label may stand where they do. -/
def isSound (label : List Char) : Bool :=
  !label.head?.any Text.isMark && joinsWell label && !isEncoded label

def writeLabel? (label : List Char) : Option (List Char) :=
  if isAscii label then some label
  else if longestLabel < label.length then none
  else some (encodedMark ++ Punycode.encode label)

def joinLabels : List (List Char) → List Char
  | [] => []
  | [l] => l
  | l :: ls => l ++ '.' :: joinLabels ls

def foreignToAscii? (name : List Char) : Option (List Char) := do
  let name ← mapText name
  let labels ← (splitAt (· = '.') (Text.composed name)).mapM readLabel?
  if !labels.all isSound || (labels.any hasRight && !labels.all isReadable) then none
  else return joinLabels (← labels.mapM writeLabel?)

/-- The ASCII form of a domain name that is given as bytes. -/
def toAscii? (bytes : List UInt8) : Option (List Char) :=
  match Text.Utf8.decode bytes with
  | .error _ => none
  | .ok name => if isPlain name then plainToAscii? name else foreignToAscii? name

end Tenancy.Url
