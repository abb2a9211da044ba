import Tenancy.Account.Record
import Tenancy.Table
import Tenancy.Time.Clock

/-!
# Stores of accounts

What a store of accounts does for its callers, and a store that holds its records in memory. It
finds a record by the account number or, if there is none, by the installation. It counts the
lookups, and it can be told to be slow and to fail.
-/

namespace Tenancy

/-- A store and the clock of those who work with it. -/
structure World (S : Type) where
  store : S
  clock : Clock

/-- A store in which accounts are looked up. A lookup begins, lasts for a while and ends with an
answer. -/
class AccountStore (S : Type) where
  /-- A lookup begins. -/
  begin : S → S
  /-- How many milliseconds a lookup takes. -/
  latency : S → Nat
  /-- A lookup ends. -/
  lookup : S → InstallationKey → Except Error AccountRecord × S

/-- A store that holds its records in memory. -/
structure AccountMemory where
  accounts : Table AccountId AccountRecord
  installations : Table InstallPair AccountId
  /-- The number of lookups that have begun. -/
  calls : Nat
  /-- The reasons for which the next lookups fail. -/
  failures : List String
  /-- How many milliseconds a lookup takes. -/
  latency : Nat

namespace AccountMemory

/-- The store without records. -/
def empty : AccountMemory :=
  ⟨[], [], 0, [], 0⟩

/-- The store with a record, which takes the place of an earlier one. -/
def insert (m : AccountMemory) (r : AccountRecord) : AccountMemory :=
  { m with
    accounts := m.accounts.insert r.accountId r
    installations := match r.key.installation? with
      | some pair => m.installations.insert pair r.accountId
      | none => m.installations }

/-- The record of an account, and the store without it. -/
def remove (m : AccountMemory) (id : AccountId) : Option AccountRecord × AccountMemory :=
  match m.accounts.get? id with
  | none => (none, m)
  | some r =>
    (some r,
      { m with
        accounts := m.accounts.erase id
        installations := match r.key.installation? with
          | some pair => m.installations.erase pair
          | none => m.installations })

def find? (m : AccountMemory) (k : InstallationKey) : Option AccountRecord :=
  (k.account?.bind m.accounts.get?).or
    ((k.installation?.bind m.installations.get?).bind m.accounts.get?)

def answer (m : AccountMemory) (k : InstallationKey) : Except Error AccountRecord := do
  k.validate
  match m.find? k with
  | some r => .ok r
  | none => .error .notFound

/-- The answer to a key, unless the lookup is to fail. -/
def lookup (m : AccountMemory) (k : InstallationKey) : Except Error AccountRecord × AccountMemory :=
  match m.failures with
  | reason :: later => (.error (.storage (.other reason)), { m with failures := later })
  | [] => (m.answer k, m)

instance : AccountStore AccountMemory where
  begin m := { m with calls := m.calls + 1 }
  latency m := m.latency
  lookup := lookup

end AccountMemory

end Tenancy
