import Tenancy.Text.Numeral

/-!
# Keys of accounts

An account is known by its own number or by an installation, which is the number of an application
together with the number of one installation of it. Zero stands for a number that is not set, and an
installation counts only if both of its numbers are set.
-/

namespace Tenancy

/-- The number of an account; zero if it is not set. -/
structure AccountId where
  value : Int64
  deriving DecidableEq, Inhabited

/-- The number of an application; zero if it is not set. -/
structure AppId where
  value : Int64
  deriving DecidableEq, Inhabited

/-- The number of an installation of an application; zero if it is not set. -/
structure InstallId where
  value : Int64
  deriving DecidableEq, Inhabited

def int64Text (n : Int64) : List Char :=
  Text.signedDecimal n.toInt

def AccountId.text (id : AccountId) : String :=
  String.ofList (int64Text id.value)

/-- The second way to know an account: an application and one of its installations. -/
structure InstallPair where
  app : AppId
  install : InstallId
  deriving DecidableEq, Inhabited

/-- What a request knows about an account, and what a record says about itself. -/
structure InstallationKey where
  accountId : AccountId
  appId : AppId
  installId : InstallId
  deriving DecidableEq, Inhabited

namespace InstallationKey

def unset : InstallationKey :=
  ⟨⟨0⟩, ⟨0⟩, ⟨0⟩⟩

def byAccount (id : Int64) : InstallationKey :=
  { unset with accountId := ⟨id⟩ }

def byInstallation (app install : Int64) : InstallationKey :=
  { unset with appId := ⟨app⟩, installId := ⟨install⟩ }

/-- The account number, if it is set. -/
def account? (k : InstallationKey) : Option AccountId :=
  if k.accountId.value = 0 then none else some k.accountId

/-- The installation, if both of its numbers are set. -/
def installation? (k : InstallationKey) : Option InstallPair :=
  if k.appId.value = 0 ∨ k.installId.value = 0 then none else some ⟨k.appId, k.installId⟩

/-- At least one of the two ways to know an account is set. -/
def isUsable (k : InstallationKey) : Bool :=
  k.account?.isSome || k.installation?.isSome

def text (k : InstallationKey) : String :=
  String.ofList ("account=".toList ++ int64Text k.accountId.value ++ " app=".toList ++
    int64Text k.appId.value ++ " install=".toList ++ int64Text k.installId.value)

end InstallationKey

end Tenancy
