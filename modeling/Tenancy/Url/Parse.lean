import Tenancy.Url.Domain
import Tenancy.Url.Path

/-!
# Addresses

Reading an address: its host, its port, if it is not the usual one, and the segments of its path.
Control characters and blanks around an address do not count, and tabs and line ends within it
neither. An address stands for itself: one that has no scheme is refused.
-/

namespace Tenancy

/-- What an address says about where something is. -/
structure Url where
  /-- The host in its written form, empty if there is none. -/
  host : List Char
  /-- The port, unless it is the usual one of the scheme. -/
  port : Option Nat
  /-- The segments of the path; none if the path is no path of segments. -/
  segments : List (List Char)
  deriving DecidableEq, Inhabited

namespace Url

/-- An address without what does not count in it. -/
def clean (s : List Char) : List Char :=
  let outer : Char → Bool := fun c => c.toNat ≤ 0x20
  (((s.dropWhile outer).reverse.dropWhile outer).reverse).filter fun c =>
    c ≠ '\t' && c ≠ '\n' && c ≠ '\r'

/-- A character that may follow the first letter of a scheme. -/
def isSchemeChar (c : Char) : Bool :=
  c.isAlphanum || c = '+' || c = '-' || c = '.'

/-- The scheme in lower case, and what follows its colon. -/
def splitScheme (s : List Char) : Option (List Char × List Char) :=
  let scheme := s.takeWhile isSchemeChar
  match scheme, s.dropWhile isSchemeChar with
  | letter :: _, ':' :: rest =>
    if letter.isAlpha then some (scheme.map Char.toLower, rest) else none
  | _, _ => none

def kindOf (scheme : List Char) : SchemeKind :=
  match String.ofList scheme with
  | "file" => .file
  | "http" | "ws" => .special 80
  | "https" | "wss" => .special 443
  | "ftp" => .special 21
  | _ => .other

/-- The host that a text stands for where hosts are domain names. -/
def hostOf? (s : List Char) : Option (List Char) :=
  match s with
  | '[' :: rest =>
    if rest.getLast? = some ']' then
      (address16? rest.dropLast).map fun pieces => '[' :: address16Text pieces ++ [']']
    else none
  | s => do
    let name ← toAscii? (percentDecode (Text.utf8 s))
    if name.isEmpty then none
    else if endsInNumber name then (address4? name).map address4Text
    else some name

/-- The host that a text stands for where nothing is known about hosts. -/
def opaqueHost? (s : List Char) : Option (List Char) :=
  match s with
  | '[' :: _ => hostOf? s
  | s =>
    if s.any fun c => "\x00\t\n\r #/:<>?@[\\]^|".toList.contains c then none
    else some (percentEncode isPrintable s)

/-- The text up to the colon before a port, which is one outside of brackets, and the rest. -/
def splitHost : Bool → List Char → List Char × List Char
  | _, [] => ([], [])
  | inside, c :: cs =>
    if c = ':' ∧ ¬ inside then ([], c :: cs)
    else
      let (host, rest) := splitHost (if c = '[' then true else if c = ']' then false else inside) cs
      (c :: host, rest)

/-- The port at the front of a text, unless it is the usual one, and the text behind it. -/
def port? (usual : Option Nat) (s : List Char) : Option (Option Nat × List Char) := do
  let digits := s.takeWhile Char.isDigit
  let rest := s.dropWhile Char.isDigit
  if digits = [] then return (none, rest)
  let n ← number? 10 digits
  if 65535 < n then none
  return (if some n = usual then none else some n, rest)

/-- The text behind the last `@`, and the text before it. -/
def splitUser (s : List Char) : Option (List Char) × List Char :=
  if s.contains '@' then
    let host := (s.reverse.takeWhile (· ≠ '@')).reverse
    (some (s.take (s.length - host.length - 1)), host)
  else (none, s)

/-- A character that ends the part of an address that names its host. -/
def endsHost (kind : SchemeKind) (c : Char) : Bool :=
  kind.isSlash c || c = '?' || c = '#'

def usualPort : SchemeKind → Option Nat
  | .special port => some port
  | _ => none

/-- The host that a text stands for; only where nothing is known about hosts it may be empty. -/
def hostFor? (kind : SchemeKind) (name : List Char) : Option (List Char) :=
  if ¬ kind.isSpecial then opaqueHost? name
  else if name = [] then none
  else hostOf? name

def pathBehindHost (kind : SchemeKind) : List Char → List (List Char)
  | [] => if kind.isSpecial then [[]] else []
  | c :: path =>
    if kind.isSlash c then segmentsOf kind path
    else if c = '?' ∨ c = '#' then (if kind.isSpecial then [[]] else [])
    else segmentsOf kind (c :: path)

/-- The address behind a double slash. A user that is given needs a host, and so does a port; what
the user is does not matter. A port is followed by the path, and may be followed by a backslash even
where that is no slash. -/
def afterSlashes (kind : SchemeKind) (s : List Char) : Option Url := do
  let more := s.dropWhile fun c => !endsHost kind c
  let (user, place) := splitUser (s.takeWhile fun c => !endsHost kind c)
  if user = some [] ∧ place = [] ∧ more ≠ [] then none
  let (name, behind) := splitHost false place
  let host ← hostFor? kind name
  if host = [] ∧ (behind ≠ [] ∨ user.any fun u => u ≠ [] && u ≠ [':']) then none
  let (port, rest) ← port? (usualPort kind) (behind.drop 1)
  if rest ≠ [] ∧ rest.head? ≠ some '\\' then none
  return ⟨host, port, pathBehindHost kind (rest ++ more)⟩

/-- The host of a file: none if none is named and if it is the local one. -/
def fileHost? (name : List Char) : Option (List Char) :=
  if name = [] then some []
  else (hostOf? name).map fun host => if host = "localhost".toList then [] else host

/-- The address of a file, behind the colon. A file on a drive has no host. -/
def fileUrl? (s : List Char) : Option Url :=
  let isSlash := SchemeKind.isSlash .file
  let dropSlash : List Char → List Char := fun s =>
    if s.head?.any isSlash then s.drop 1 else s
  if (s.take 2).length = 2 ∧ (s.take 2).all isSlash then
    let rest := s.drop 2
    let name := rest.takeWhile fun c => !endsHost .file c
    if isDrive name then some ⟨[], none, fileSegments (segmentsOf .file rest)⟩
    else do
      let host ← fileHost? name
      let segments := segmentsOf .file (dropSlash (rest.drop name.length))
      let onDrive := segments.head?.any isDrive
      return ⟨if onDrive then [] else host, none, fileSegments segments⟩
  else some ⟨[], none, fileSegments (segmentsOf .file (dropSlash s))⟩

def parse? (s : List Char) : Option Url := do
  let (scheme, rest) ← splitScheme (clean s)
  match kindOf scheme with
  | .file => fileUrl? rest
  | .special port => afterSlashes (.special port) (rest.dropWhile (SchemeKind.special port).isSlash)
  | .other =>
    match rest with
    | '/' :: '/' :: rest => afterSlashes .other rest
    | '/' :: path => return ⟨[], none, segmentsOf .other path⟩
    | _ => return ⟨[], none, []⟩

end Url

end Tenancy
