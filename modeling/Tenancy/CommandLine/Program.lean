import Tenancy.CommandLine.Arguments
import Tenancy.Progress.Replay
import Tenancy.Settings
import Tenancy.Storage.Database
import Tenancy.Storage.Memory

/-!
# The program

Replays a file of events and reports how far its accounts have come. The rows are kept in memory, or
in a database whose path is given if the program is built with one. All that the program does is a
function of what stands under the paths and of the instant that the clock shows; a path under which
nothing stands is the place of a new database, but not of a file.
-/

namespace Tenancy.CommandLine

/-- What stands under a path. -/
inductive Entry where
  | file (content : List UInt8)
  | database (directory : Directory)

abbrev Files := Table String Entry

/-- What a run of the program leaves. -/
structure Outcome where
  /-- The code with which the program exits. -/
  code : Nat
  output : String
  /-- How many lines of the events could not be read. -/
  unreadable : Nat
  /-- How many events could not be recorded. -/
  failed : Nat
  /-- A database was asked for, but the program keeps rows in memory only. -/
  memoryOnly : Bool
  deriving DecidableEq

def Outcome.printed (output : String) : Outcome :=
  ⟨0, output, 0, 0, false⟩

/-- The run ends before it has done anything. -/
def Outcome.stopped (code : Nat) : Outcome :=
  ⟨code, "", 0, 0, false⟩

def versionText : String :=
  "tenantcore 0.1.0\n"

def helpText : String :=
  "Usage: tenantcore [OPTIONS] <INPUT>\n\nArguments:\n" ++
  "  <INPUT>  Input stage events CSV file (account, stage, timestamp)\n\nOptions:\n" ++
  "      --db-path <DB_PATH>  Path to persistent database (optional). " ++
  "If provided, uses RocksDB\n" ++
  "      --config <CONFIG>    JSON settings file (optional)\n" ++
  "  -h, --help               Print help\n" ++
  "  -V, --version            Print version\n"

/-- What stands under the paths after something was put under one of them. -/
def Files.put (files : Files) (path : String) (e : Entry) : Files :=
  files.insert path e

/-- The content of a file, if it is there. -/
def Files.content? (files : Files) (path : String) : Option (List UInt8) :=
  match files.get? path with
  | some (.file content) => some content
  | _ => none

/-- What can be read as events under a path; a database reads as nothing. -/
def Files.events? (files : Files) (path : String) : Option (List UInt8) :=
  match files.get? path with
  | some (.file content) => some content
  | some (.database _) => some []
  | none => none

/-- The database under a path, which is made if nothing stands there. -/
def Files.database? (files : Files) (path : String) (schema : ProgressSchema) :
    Except Error Database :=
  match files.get? path with
  | some (.file _) => .error .database
  | some (.database directory) => Database.ofDirectory directory schema
  | none => Database.ofDirectory .empty schema

/-- Replays events into a store and reports; a row that cannot be read ends the run without a
report. -/
def replay {S : Type} [RowStore S] (schema : ProgressSchema) (now : Instant) (store : S)
    (events : List UInt8) : Outcome × S :=
  let r := Replay.run (.ofSecs 0) ⟨⟨store, ⟨now⟩⟩, .empty⟩ (StageEvent.readAll events)
  let (code, output) := match r.rows with
    | .ok rows => (0, Report.text schema rows)
    | .error _ => (1, "")
  (⟨code, output, r.items.countP Replayed.isUnreadable, r.items.countP Replayed.isFailed, false⟩,
    r.ledger.store)

/-- Replays the events of a file, if it is there, into a store. -/
def replayFile {S : Type} [RowStore S] (schema : ProgressSchema) (now : Instant) (store : S) :
    Option (List UInt8) → Outcome × S
  | none => (.stopped 1, store)
  | some events => replay schema now store events

def Options.settings (o : Options) (files : Files) : Except Error Settings :=
  match o.config with
  | some path => Settings.ofFile (files.content? path)
  | none => .ok .standard

def Options.runInMemory (o : Options) (files : Files) (now : Instant) (schema : ProgressSchema) :
    Outcome :=
  let (outcome, _) := replayFile schema now (ProgressMemory.empty schema) (files.events? o.input)
  { outcome with memoryOnly := o.database.isSome }

def Options.runInDatabase (o : Options) (path : String) (files : Files) (now : Instant)
    (schema : ProgressSchema) : Outcome × Files :=
  match files.database? path schema with
  | .error _ => (.stopped 1, files)
  | .ok b =>
    let files := files.put path (.database b.directory)
    let (outcome, b) := replayFile schema now b (files.events? o.input)
    (outcome, files.put path (.database b.directory))

def Options.run (o : Options) (databases : Bool) (files : Files) (now : Instant) :
    Outcome × Files :=
  match o.settings files with
  | .error _ => (.stopped 1, files)
  | .ok settings =>
    match o.database, databases with
    | some path, true => o.runInDatabase path files now settings.progress
    | _, _ => (o.runInMemory files now settings.progress, files)

/-- Runs the program with its arguments; `databases` tells that it is built with databases. -/
def run (databases : Bool) (files : Files) (now : Instant) (args : List String) :
    Outcome × Files :=
  match Invocation.ofArguments args with
  | none => (.stopped 2, files)
  | some .help => (.printed helpText, files)
  | some .version => (.printed versionText, files)
  | some (.replay o) => o.run databases files now

end Tenancy.CommandLine
