import Tenancy.Account.Record
import Tenancy.Table
import Tenancy.Time.Instant

/-!
# The index of resolved accounts

The outcomes of lookups, found by account number and by installation. An outcome is stored under the
keys of the request and under those of the record that was found. Each of the two tables holds its
entries in the order in which they were stored last, and drops the oldest ones when it has too many.
-/

namespace Tenancy

/-- The outcome of a lookup: the record, or that there is none. -/
structure CacheEntry where
  loadedAt : Instant
  found : Option AccountRecord
  deriving DecidableEq

def CacheEntry.outcome (e : CacheEntry) : Except Error AccountRecord :=
  match e.found with
  | some r => .ok r
  | none => .error .notFound

/-- Outcomes by account number and by installation. -/
structure CacheIndex where
  byAccount : Table AccountId CacheEntry
  byInstall : Table InstallPair CacheEntry

namespace CacheIndex

/-- The index without entries. -/
def empty : CacheIndex :=
  ⟨[], []⟩

/-- The entry of a key: the one of its account number, or else the one of its installation. -/
def probe (i : CacheIndex) (k : InstallationKey) : Option CacheEntry :=
  (k.account?.bind i.byAccount.get?).or (k.installation?.bind i.byInstall.get?)

/-- The table without its oldest entries beyond a bound, and how many it lost. -/
def trim {K : Type} (bound : Option Nat) (t : Table K CacheEntry) : Table K CacheEntry × Nat :=
  match bound with
  | none => (t, 0)
  | some max => (t.drop (t.length - max), t.length - max)

/-- Stores an entry under a key, and tells how many entries were dropped. -/
def put {K : Type} [DecidableEq K] (bound : Option Nat) (t : Table K CacheEntry) (k : K)
    (e : CacheEntry) : Table K CacheEntry × Nat :=
  trim bound (t.insert k e)

/-- Stores an entry under some keys, one after another. -/
def putAll {K : Type} [DecidableEq K] (bound : Option Nat) (e : CacheEntry) :
    List K → Table K CacheEntry → Table K CacheEntry × Nat
  | [], t => (t, 0)
  | k :: ks, t =>
    let (t, dropped) := put bound t k e
    let (t, more) := putAll bound e ks t
    (t, dropped + more)

/-- The account numbers under which an outcome is stored. -/
def accountsOf (request : InstallationKey) (e : CacheEntry) : List AccountId :=
  (request.account?.toList ++ (e.found.bind fun r => r.key.account?).toList).eraseReps

/-- The installations under which an outcome is stored. -/
def installsOf (request : InstallationKey) (e : CacheEntry) : List InstallPair :=
  (request.installation?.toList ++ (e.found.bind fun r => r.key.installation?).toList).eraseReps

/-- Stores the outcome of a request, and tells how many entries were dropped. -/
def populate (bound : Option Nat) (i : CacheIndex) (request : InstallationKey) (e : CacheEntry) :
    CacheIndex × Nat :=
  let (byAccount, a) := putAll bound e (accountsOf request e) i.byAccount
  let (byInstall, b) := putAll bound e (installsOf request e) i.byInstall
  (⟨byAccount, byInstall⟩, a + b)

/-- The index without the entries of both numbers of a key. -/
def eraseKey (i : CacheIndex) (k : InstallationKey) : CacheIndex where
  byAccount := match k.account? with
    | some id => i.byAccount.erase id
    | none => i.byAccount
  byInstall := match k.installation? with
    | some pair => i.byInstall.erase pair
    | none => i.byInstall

/-- The index without the entries of a key and of the record that it finds. -/
def invalidate (i : CacheIndex) (k : InstallationKey) : CacheIndex :=
  match (i.probe k).bind CacheEntry.found with
  | some r => (i.eraseKey k).eraseKey r.key
  | none => i.eraseKey k

end CacheIndex

end Tenancy
