import Tenancy.Progress.Transaction

/-!
# Storage in memory

Accounts and progress in one store that is gone when the program ends.
-/

namespace Tenancy

/-- A store of accounts and of progress in memory. -/
structure Memory where
  accounts : AccountMemory
  progress : ProgressMemory

namespace Memory

def empty (schema : ProgressSchema) : Memory :=
  ⟨.empty, .empty schema⟩

def mapAccounts (m : Memory) (f : AccountMemory → AccountMemory) : Memory :=
  { m with accounts := f m.accounts }

def mapProgress (m : Memory) (f : ProgressMemory → ProgressMemory) : Memory :=
  { m with progress := f m.progress }

/-- Lookups of accounts are those in the part that holds them. -/
instance : AccountStore Memory where
  begin m := m.mapAccounts AccountStore.begin
  latency m := AccountStore.latency m.accounts
  lookup m k :=
    let (answer, accounts) := AccountStore.lookup m.accounts k
    (answer, { m with accounts })

/-- Rows of progress are those in the part that holds them. -/
instance : RowStore Memory where
  schema m := m.progress.schema
  beginDelay m := m.progress.beginDelay
  row m := m.progress.row
  rows m := .ok m.progress.sorted
  aboutToRead m :=
    let (answer, progress) := m.progress.aboutToRead
    (answer, { m with progress })
  aboutToWrite m :=
    let (answer, progress) := m.progress.aboutToWrite
    (answer, { m with progress })
  commit m pending := { m with progress := m.progress.commit pending }

end Memory

end Tenancy
