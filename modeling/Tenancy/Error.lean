import Tenancy.Csv.Error
import Tenancy.Json.Error
import Tenancy.Account.Key
import Tenancy.Progress.Stage

/-!
# Errors

Why an operation failed. Only `notFound` is an answer that may be remembered; every other error goes
to the caller as it is.
-/

namespace Tenancy

/-- Why a key is refused. -/
inductive KeyFault where
  /-- Neither the account number nor the installation is set. -/
  | unusable (key : InstallationKey)
  | unknownStage (text : String)
  | other (reason : String)
  deriving DecidableEq, Inhabited

def KeyFault.message : KeyFault → String
  | unusable key => "neither account id nor installation pair is set: " ++ key.text
  | unknownStage text => "unknown stage: " ++ text
  | other reason => reason

/-- Why a store failed. -/
inductive StorageFault where
  /-- A stored row does not say which stage the account is at. -/
  | noStatus (account : AccountId)
  /-- A row is stored under a key of the wrong length. -/
  | malformedProgressKey (size : Nat)
  /-- An installation is stored with something else than an account number. -/
  | malformedInstallation (key : InstallationKey)
  | other (reason : String)
  deriving DecidableEq, Inhabited

def StorageFault.message : StorageFault → String
  | noStatus account => "progress row " ++ account.text ++ " has no status"
  | malformedProgressKey size => "malformed progress key of " ++ toString size ++ " bytes"
  | malformedInstallation key => "malformed installation index for " ++ key.text
  | other reason => reason

/-- Why settings are refused. -/
inductive ConfigFault where
  | blankColumn (stage : Stage)
  | repeatedColumn (column : String)
  | noTtl
  | noEntries
  | other (reason : String)
  deriving DecidableEq, Inhabited

def ConfigFault.message : ConfigFault → String
  | blankColumn stage => "empty column name for stage " ++ stage.name
  | repeatedColumn column => "column " ++ column ++ " is mapped more than once"
  | noTtl => "resolver.ttl_secs must be positive"
  | noEntries => "resolver.max_entries must be positive when set"
  | other reason => reason

/-- Why an operation failed. -/
inductive Error where
  /-- No record matches the request. -/
  | notFound
  | invalidKey (fault : KeyFault)
  /-- The time that the caller allowed for a call is over. -/
  | deadlineExceeded (limit : Duration)
  | storage (fault : StorageFault)
  | config (fault : ConfigFault)
  | csv (error : Csv.Error)
  | json (error : Json.Error)
  /-- A file cannot be read. -/
  | io
  /-- The database cannot be opened. -/
  | database
  deriving DecidableEq, Inhabited

/-- The wording of an error. Errors of files and databases are worded by the system. -/
def Error.message : Error → Option String
  | notFound => some "record not found"
  | invalidKey fault => some ("invalid key: " ++ fault.message)
  | deadlineExceeded limit => some ("deadline of " ++ limit.text ++ " exceeded")
  | storage fault => some ("storage error: " ++ fault.message)
  | config fault => some ("configuration error: " ++ fault.message)
  | csv error => some ("CSV error: " ++ error.message)
  | json error => some ("JSON error: " ++ error.message)
  | io => none
  | database => none

end Tenancy
