import Tenancy.Progress.Schema
import Tenancy.Time.Instant

/-!
# Progress of accounts

How far an account has come: the stage that it is at, and the instants at which it entered the
stages that have a column.
-/

namespace Tenancy

/-- How far an account has come. -/
structure ProgressRecord where
  account : AccountId
  entered : StageMap Instant
  status : Stage
  deriving DecidableEq

namespace ProgressRecord

/-- The record of an account at a stage, without instants. -/
def new (account : AccountId) (status : Stage) : ProgressRecord :=
  ⟨account, StageMap.empty, status⟩

/-- The record of an account, new or known before, moved to a stage. The instant is kept if the
stage has a column. -/
def move (schema : ProgressSchema) (account : AccountId) (before : Option ProgressRecord)
    (stage : Stage) (instant : Instant) : ProgressRecord :=
  let r := { before.getD (new account stage) with status := stage }
  if (schema.column? stage).isSome then { r with entered := r.entered.insert stage instant } else r

end ProgressRecord

end Tenancy
