import Tenancy.Json.Number
import Tenancy.Json.Text

/-!
# Skipping a value

A value that nobody asked for is read and dropped. Its form is checked and it may be nested to any
depth, so the containers that are open are kept in a list and not in a recursion.
-/

namespace Tenancy.Json.Reader

/-- A list or an object. -/
inductive Container where
  | list
  | object
  deriving DecidableEq

def Container.close : Container → UInt8
  | list => 0x5D
  | object => 0x7D

/-- The fault of a container in which an element is followed by something else than a comma or its
end. -/
def Container.expectedEnd : Container → Fault
  | list => .expectedListEnd
  | object => .expectedObjectEnd

/-- The fault of a container in which the document ends. -/
def Container.endInside : Container → Fault
  | list => .endInList
  | object => .endInObject

/-- What comes next while a value is skipped. -/
inductive Spot where
  /-- A value. -/
  | value
  /-- An element of the innermost container or its end. -/
  | opened
  /-- A comma or the end of the innermost container. -/
  | filled
  deriving DecidableEq

/-- Skips the key of an entry and the colon behind it. -/
def skipKey : Reader Unit := do
  match ← peekSolid with
  | some 0x22 =>
    skip
    skipText ((← remaining) + 1)
    colon
  | some _ => failNext .keyNotText
  | none => failNext .endInObject

/-- Goes to the value of the next element of a container. -/
def enterElement (c : Container) : Reader Spot := do
  if c = .object then skipKey
  return .value

/-- Skips a value that is no container, or the bracket that opens one; its first byte is given. -/
def skipHead (b : UInt8) : Reader (Option Container) := do
  if b = 0x6E then skip; ull; return none
  else if b = 0x74 then skip; rue; return none
  else if b = 0x66 then skip; alse; return none
  else if b = 0x22 then skip; skipText ((← remaining) + 1); return none
  else if b = 0x5B then skip; return some .list
  else if b = 0x7B then skip; return some .object
  else if startsNumber b then
    if b = 0x2D then skip
    skipUnsigned
    return none
  else failNext .expectedValue

/-- One step of skipping a value: `around` holds the open containers, the innermost first. The value
is skipped when no container is open any more. -/
def skipStep (spot : Spot) (around : List Container) : Reader (Option (Spot × List Container)) := do
  match spot, around with
  | .value, _ =>
    match ← peekSolid with
    | none => failNext .endInValue
    | some b =>
      match ← skipHead b with
      | some c => return some (.opened, c :: around)
      | none => if around.isEmpty then return none else return some (.filled, around)
  | _, [] => return none
  | spot, c :: outer =>
    match ← peekSolid with
    | none => failNext c.endInside
    | some b =>
      if b = c.close then
        skip
        if outer.isEmpty then return none else return some (.filled, outer)
      else if spot = .opened then return some (← enterElement c, around)
      else if b = 0x2C then
        skip
        return some (← enterElement c, around)
      else failNext c.expectedEnd

/-- Steps until the value is skipped. -/
def skipSteps : Nat → Spot → List Container → Reader Unit
  | 0, _, _ => fail .endInValue
  | fuel + 1, spot, around => do
    match ← skipStep spot around with
    | none => return
    | some (spot, around) => skipSteps fuel spot around

/-- Skips a value. Every step takes a byte, or the next one does. -/
def skipValue : Reader Unit := do
  skipSteps (2 * (← remaining) + 2) .value []

end Tenancy.Json.Reader
