import Tenancy.Url.Percent
import Tenancy.Url.Address

/-!
# Paths of addresses

A path is cut into segments, which are percent-encoded. A segment that is a dot is dropped, and one
that is two dots takes the segment before it along, unless that one looks like the name of a drive.
Behind a dot or two dots at the end of a path an empty segment is left.
-/

namespace Tenancy.Url

/-- The kinds of addresses, which differ in how their parts are separated. -/
inductive SchemeKind where
  /-- Files, which have no port. -/
  | file
  /-- The well-known schemes, with their usual port. -/
  | special (port : Nat)
  | other
  deriving DecidableEq, Inhabited

/-- A backslash counts as a slash. -/
def SchemeKind.isSpecial : SchemeKind → Bool
  | other => false
  | _ => true

/-- A character that separates the segments of a path. -/
def SchemeKind.isSlash (kind : SchemeKind) (c : Char) : Bool :=
  c = '/' || (kind.isSpecial && c = '\\')

/-- The place of the parent, written with or without percent codes for the dots. -/
def isParent (segment : List Char) : Bool :=
  ["..", ".%2e", "%2e.", "%2e%2e"].contains (String.ofList (segment.map Char.toLower))

/-- The place of the path itself, written with or without a percent code for the dot. -/
def isSelf (segment : List Char) : Bool :=
  [".", "%2e"].contains (String.ofList (segment.map Char.toLower))

/-- The name of a drive: a letter and a colon or a bar. -/
def isDrive (segment : List Char) : Bool :=
  match segment with
  | [letter, mark] => letter.isAlpha && (mark = ':' || mark = '|')
  | _ => false

/-- The segments, the last one first, without the last one, which stays if it is a drive. -/
def parentOf : List (List Char) → List (List Char)
  | [] => []
  | last :: front => if isDrive last then last :: front else front

def driveName (segment : List Char) : List Char :=
  segment.take 1 ++ [':']

/-- Adds a segment to those of a path, which are given last one first. The first segment of a file
may name a drive. -/
def addSegment (kind : SchemeKind) (done : List (List Char)) (segment : List Char) :
    List (List Char) :=
  if kind = .file ∧ done = [] ∧ isDrive segment then [driveName segment] else segment :: done

/-- The segments of a path, of which `done` are known, the last one first. -/
def normalize (kind : SchemeKind) (done : List (List Char)) :
    List (List Char) → List (List Char)
  | [] => done.reverse
  | [last] =>
    if isParent last then ([] :: parentOf done).reverse
    else if isSelf last then ([] :: done).reverse
    else (addSegment kind done last).reverse
  | segment :: rest =>
    if isParent segment then normalize kind (parentOf done) rest
    else if isSelf segment then normalize kind done rest
    else normalize kind (addSegment kind done segment) rest

/-- The part of an address before its query and its fragment. -/
def beforeQuery (s : List Char) : List Char :=
  s.takeWhile fun c => c ≠ '?' && c ≠ '#'

/-- The segments of a path that is given without the slash in front. -/
def segmentsOf (kind : SchemeKind) (path : List Char) : List (List Char) :=
  normalize kind [] ((splitAt kind.isSlash (beforeQuery path)).map (percentEncode isPathByte))

/-- The segments of the path of a file, which loses the empty ones at the beginning. -/
def fileSegments (segments : List (List Char)) : List (List Char) :=
  match segments.dropWhile List.isEmpty with
  | [] => [[]]
  | segments => segments

end Tenancy.Url
