import Tenancy.Account.Feature
import Tenancy.Account.Key
import Tenancy.Error

/-!
# Records of accounts

What is known about an account: its keys, the installation through which its data are fetched, where
it lives, whether it is active, and its features.
-/

namespace Tenancy

/-- What is known about an account. -/
structure AccountRecord where
  key : InstallationKey
  /-- The installation through which data are fetched, if it is not the one of the key. -/
  fetchWith : InstallId
  url : String
  name : String
  endpoint : String
  active : Bool
  suspended : Bool
  features : Features
  deriving DecidableEq, Inhabited

namespace AccountRecord

/-- The record about which nothing is known but its key. -/
def blank (key : InstallationKey) : AccountRecord :=
  ⟨key, ⟨0⟩, "", "", "", false, false, Features.empty⟩

def new (key : InstallationKey) : AccountRecord :=
  { blank key with active := true }

def accountId (r : AccountRecord) : AccountId :=
  r.key.accountId

end AccountRecord

/-- Refuses a key in which neither way to know an account is set. -/
def InstallationKey.validate (k : InstallationKey) : Except Error Unit :=
  if k.isUsable then .ok () else .error (.invalidKey (.unusable k))

end Tenancy
