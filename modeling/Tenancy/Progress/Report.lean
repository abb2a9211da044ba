import Tenancy.Csv.Record
import Tenancy.Text.Utf8
import Tenancy.Progress.Record

/-!
# Reports on progress

A table with one line per account: its number, the stage that it is at, and for each stage with a
column the instant, to the second, at which it entered that stage.
-/

namespace Tenancy.Report

/-- The names in the first line. -/
def header (schema : ProgressSchema) : List String :=
  "account" :: "current_status" :: schema.entries.map (·.2)

/-- The cell of a stage, which is empty for a stage that was not entered. -/
def cell (r : ProgressRecord) (s : Stage) : String :=
  match r.entered s with
  | some i => Rfc3339.secondsText i
  | none => ""

def line (schema : ProgressSchema) (r : ProgressRecord) : List String :=
  r.account.text :: r.status.name :: schema.entries.map fun e => cell r e.1

def cells (schema : ProgressSchema) (rows : List ProgressRecord) : List (List String) :=
  header schema :: rows.map (line schema)

def write (schema : ProgressSchema) (rows : List ProgressRecord) : List UInt8 :=
  Csv.writeTable ((cells schema rows).map fun l => l.map Text.bytesOf)

def text (schema : ProgressSchema) (rows : List ProgressRecord) : String :=
  (Text.ofUtf8? (write schema rows)).getD ""

end Tenancy.Report
