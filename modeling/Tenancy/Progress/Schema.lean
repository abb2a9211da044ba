import Tenancy.Error

/-!
# Columns of stages

A stored row has a column with an instant for some of the stages. Which stages have one, and how it
is called, has changed over time, so the mapping is data. A stage without a column only moves the
status of an account.
-/

namespace Tenancy

/-- The stage that a person means, or the refusal of a text that names none. -/
def Stage.parse (text : String) : Except Error Stage :=
  match Stage.read? text with
  | some s => .ok s
  | none => .error (.invalidKey (.unknownStage text))

/-- Which column, if any, holds the instant at which an account entered a stage. -/
structure ProgressSchema where
  columns : StageMap String
  deriving DecidableEq

namespace ProgressSchema

/-- The mapping of a list of stages and columns; of two columns for one stage the later one
counts. -/
def ofList (cs : List (Stage × String)) : ProgressSchema :=
  ⟨StageMap.ofList cs⟩

/-- Each of the given stages has a column of its own name. -/
def named (stages : List Stage) : ProgressSchema :=
  ofList (stages.map fun s => (s, s.name))

/-- The current columns: those of fetching and of the consistency check. -/
def current : ProgressSchema :=
  named [.fetchStarted, .fetchCompleted, .consistencyStarted, .consistencyCompleted]

/-- The earlier columns, which also recorded the computation ahead. -/
def legacy : ProgressSchema :=
  named (Stage.all.drop 1)

instance : Inhabited ProgressSchema := ⟨current⟩

def column? (schema : ProgressSchema) (s : Stage) : Option String :=
  schema.columns s

/-- The stages that have a column, with their columns, in the order of the stages. -/
def entries (schema : ProgressSchema) : List (Stage × String) :=
  schema.columns.entries

/-- The first stage that has a column. -/
def stageOf? (schema : ProgressSchema) (column : String) : Option Stage :=
  (schema.entries.find? fun e => e.2 = column).map (·.1)

/-- Looks for a column that is blank or stands in `seen`. -/
def faultIn (seen : List String) : List (Stage × String) → Except ConfigFault Unit
  | [] => .ok ()
  | (s, column) :: rest =>
    if (Text.trim column.toList).isEmpty then .error (.blankColumn s)
    else if column ∈ seen then .error (.repeatedColumn column)
    else faultIn (column :: seen) rest

/-- Refuses a blank column and a column of two stages. -/
def validate (schema : ProgressSchema) : Except ConfigFault Unit :=
  faultIn [] schema.entries

end ProgressSchema

end Tenancy
