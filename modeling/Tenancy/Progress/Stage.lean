import Tenancy.Text.Blank

/-!
# Stages of onboarding

An account passes through seven stages. Their order is the intended one, but nothing forces an
account to keep to it. A map from stages to values is a function, whose entries are listed in the
order of the stages.
-/

namespace Tenancy

/-- A named point in the onboarding of an account. -/
inductive Stage where
  | accountCreated
  | fetchStarted
  | fetchCompleted
  | consistencyStarted
  | consistencyCompleted
  | precomputeStarted
  | precomputeCompleted
  deriving DecidableEq, Repr, Inhabited

namespace Stage

def all : List Stage :=
  [accountCreated, fetchStarted, fetchCompleted, consistencyStarted, consistencyCompleted,
    precomputeStarted, precomputeCompleted]

/-- The name under which a stage is stored and shown. -/
def name : Stage → String
  | accountCreated => "account_created"
  | fetchStarted => "fetch_started"
  | fetchCompleted => "fetch_completed"
  | consistencyStarted => "consistency_started"
  | consistencyCompleted => "consistency_completed"
  | precomputeStarted => "precompute_started"
  | precomputeCompleted => "precompute_completed"

/-- The name of a stage in reports of what a change was. -/
def title : Stage → String
  | accountCreated => "AccountCreated"
  | fetchStarted => "FetchStarted"
  | fetchCompleted => "FetchCompleted"
  | consistencyStarted => "ConsistencyStarted"
  | consistencyCompleted => "ConsistencyCompleted"
  | precomputeStarted => "PrecomputeStarted"
  | precomputeCompleted => "PrecomputeCompleted"

/-- The stage of a name that is written exactly so. -/
def ofName? (text : String) : Option Stage :=
  all.find? fun s => s.name = text

/-- The stage that a person means: blanks around the name and the case of its letters do not
matter. -/
def read? (text : String) : Option Stage :=
  all.find? fun s => Text.eqIgnoringCase s.name.toList (Text.trim text.toList)

def index (s : Stage) : Nat :=
  all.idxOf s

theorem mem_all (s : Stage) : s ∈ all := by
  cases s <;> decide

theorem ofName?_name (s : Stage) : ofName? s.name = some s := by
  cases s <;> decide

end Stage

abbrev StageMap (α : Type) := Stage → Option α

namespace StageMap

variable {α : Type}

/-- The map without entries. -/
def empty : StageMap α :=
  fun _ => none

def insert (m : StageMap α) (s : Stage) (a : α) : StageMap α :=
  fun t => if t = s then some a else m t

/-- The entries in the order of the stages. -/
def entries (m : StageMap α) : List (Stage × α) :=
  Stage.all.filterMap fun s => (m s).map (s, ·)

/-- The map of a list of entries; of two entries for one stage the later one counts. -/
def ofList (es : List (Stage × α)) : StageMap α :=
  es.foldl (fun m e => m.insert e.1 e.2) empty

instance [DecidableEq α] : DecidableEq (StageMap α) := fun m n =>
  decidable_of_iff (∀ s ∈ Stage.all, m s = n s)
    ⟨fun h => funext fun s => h s (Stage.mem_all s), fun h _ _ => h ▸ rfl⟩

end StageMap

end Tenancy
