/-!
# Features of accounts

A feature is a name that switches something on or off for an account. The features of an account
form a set, which is listed in the order of their code points.
-/

namespace Tenancy

/-- A switch for an account. -/
structure Feature where
  name : String
  deriving DecidableEq, Inhabited

namespace Feature

/-- The account lives on an instance of its own. -/
def enterprise : Feature := ⟨"athenian.github.ghe"⟩

/-- The account is not checked for consistency. -/
def noConsistency : Feature := ⟨"athenian.github.no_consistency"⟩

/-- Check runs are dropped. -/
def noCheckRun : Feature := ⟨"athenian.github.drop_node_type.CheckRun"⟩

/-- Check suites are dropped. -/
def noCheckSuite : Feature := ⟨"athenian.github.drop_node_type.CheckSuite"⟩

/-- Statuses are dropped. -/
def noStatus : Feature := ⟨"athenian.github.drop_node_type.Status"⟩

/-- Roll-ups of checks into a status are dropped. -/
def noStatusCheckRollup : Feature := ⟨"athenian.github.drop_node_type.StatusCheckRollup"⟩

/-- Contexts of statuses are dropped. -/
def noStatusContext : Feature := ⟨"athenian.github.drop_node_type.StatusContext"⟩

/-- The features that this library knows by name. -/
def known : List Feature :=
  [enterprise, noConsistency, noCheckRun, noCheckSuite, noStatus, noStatusCheckRollup,
    noStatusContext]

end Feature

/-- The place of a name in a list of names in ascending order. -/
def insertName (name : String) : List String → List String
  | [] => [name]
  | n :: names =>
    if name < n then name :: n :: names
    else if name = n then n :: names
    else n :: insertName name names

theorem mem_insertName {name n : String} {names : List String} :
    n ∈ insertName name names ↔ n = name ∨ n ∈ names := by
  induction names with
  | nil => simp [insertName]
  | cons m names ih =>
    rw [insertName]
    split
    · simp
    · split
      · rename_i h
        subst h
        simp
      · simp only [List.mem_cons, ih]
        exact or_left_comm

theorem pairwise_insertName {name : String} {names : List String}
    (h : names.Pairwise (· < ·)) : (insertName name names).Pairwise (· < ·) := by
  induction names with
  | nil => simp [insertName]
  | cons m names ih =>
    rw [List.pairwise_cons] at h
    rw [insertName]
    split
    · rename_i hlt
      rw [List.pairwise_cons, List.pairwise_cons]
      refine ⟨fun n hn => ?_, h⟩
      rcases List.mem_cons.1 hn with rfl | hn
      · exact hlt
      · exact String.lt_trans hlt (h.1 n hn)
    · split
      · exact List.pairwise_cons.2 h
      · rename_i hlt hne
        rw [List.pairwise_cons]
        refine ⟨fun n hn => ?_, ih h.2⟩
        rcases mem_insertName.1 hn with rfl | hn
        · exact Std.lt_of_le_of_ne (Std.not_lt.1 hlt) (Ne.symm hne)
        · exact h.1 n hn

/-- A set of features, listed in ascending order. -/
structure Features where
  names : List String
  ascending : names.Pairwise (· < ·)
  deriving DecidableEq

namespace Features

/-- The set without features. -/
def empty : Features :=
  ⟨[], List.Pairwise.nil⟩

instance : Inhabited Features := ⟨empty⟩

def has (fs : Features) (f : Feature) : Bool :=
  fs.names.contains f.name

def insert (fs : Features) (f : Feature) : Features :=
  ⟨insertName f.name fs.names, pairwise_insertName fs.ascending⟩

def ofList (fs : List Feature) : Features :=
  fs.foldl insert empty

/-- The features in ascending order. -/
def toList (fs : Features) : List Feature :=
  fs.names.map Feature.mk

def merge (a b : Features) : Features :=
  b.toList.foldl insert a

def size (fs : Features) : Nat :=
  fs.names.length

end Features

end Tenancy
