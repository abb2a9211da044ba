import Std.Time.DateTime
import Tenancy.CommandLine.Program
import Tenancy.Storage.Image

/-!
# Command line

Reads what stands under the paths of the arguments, runs the program and writes back the database.
-/

namespace Tenancy.CommandLine

/-- The file of a database that holds its maps. -/
def mapsPath (path : String) : String :=
  path ++ "/maps"

/-- What can be opened under a path. -/
def handle? (path : String) : IO (Option IO.FS.Handle) :=
  try some <$> IO.FS.Handle.mk path .read catch _ => pure none

/-- The content of a file; `none` for a directory. -/
def content? (h : IO.FS.Handle) : IO (Option ByteArray) :=
  try some <$> h.readBinToEnd catch _ => pure none

/-- What stands under the path of a directory: a database, unless its maps cannot be read. -/
def readDatabase (path : String) : IO Entry := do
  match ← handle? (mapsPath path) with
  | none => return .database .empty
  | some h =>
    let text := (← content? h).bind fun bytes => Text.ofUtf8? bytes.toList
    match text.bind Directory.ofText? with
    | some d => return .database d
    | none => return .file []

def readEntry (path : String) : IO (Option Entry) := do
  match ← handle? path with
  | none => return none
  | some h =>
    match ← content? h with
    | some bytes => return some (.file bytes.toList)
    | none => return some (← readDatabase path)

/-- What stands under paths. -/
def readFiles (paths : List String) : IO Files :=
  paths.foldlM (fun (files : Files) path => do
    match ← readEntry path with
    | some e => return files.put path e
    | none => return files) []

def pathsOf : Option Invocation → List String
  | some (.replay o) => o.input :: o.database.toList ++ o.config.toList
  | _ => []

def writeDatabase (files : Files) (path : String) : IO Unit := do
  match files.get? path with
  | some (.database d) =>
    IO.FS.createDirAll path
    IO.FS.writeFile (mapsPath path) d.toText
  | _ => return ()

def systemNow : IO Instant := do
  let nanos := (← Std.Time.Timestamp.now).toNanosecondsSinceUnixEpoch.val
  return Instant.epoch.advance (.ofParts 0 nanos.toNat)

/-- Writes a line to standard error as often as something happened. -/
def warn (times : Nat) (line : String) : IO Unit :=
  (List.replicate times line).forM IO.eprintln

def report (o : Outcome) : IO Unit := do
  if o.memoryOnly then warn 1 "falling back to in-memory storage"
  warn o.unreadable "skipping unreadable event"
  warn o.failed "failed to record stage"
  IO.print o.output

end Tenancy.CommandLine

open Tenancy.CommandLine in
def main (args : List String) : IO UInt32 := do
  let invocation := Invocation.ofArguments args
  let files ← readFiles (pathsOf invocation)
  let (outcome, files) := run true files (← systemNow) args
  match invocation with
  | some (.replay ⟨_, some path, _⟩) => writeDatabase files path
  | _ => pure ()
  report outcome
  return UInt32.ofNat outcome.code
