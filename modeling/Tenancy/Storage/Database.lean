import Tenancy.Account.Json
import Tenancy.Account.Store
import Tenancy.Progress.Transaction
import Tenancy.Storage.Directory
import Tenancy.Storage.Row
import Tenancy.Text.Word

/-!
# Storage in a database

Accounts and progress in the maps of a directory. Accounts are stored as documents under their
numbers, numbers of accounts under their installations, and rows of progress under the numbers of
their accounts. A database opens only if its directory holds no further maps.
-/

namespace Tenancy

def AccountId.bytes (a : AccountId) : List UInt8 :=
  Text.wordBytes a.value

def AccountId.ofBytes? (bs : List UInt8) : Option AccountId :=
  (Text.wordOfBytes? bs).map AccountId.mk

def InstallPair.bytes (p : InstallPair) : List UInt8 :=
  Text.wordBytes p.app.value ++ Text.wordBytes p.install.value

/-- An open database, and the columns under which it stores progress. -/
structure Database where
  directory : Directory
  schema : ProgressSchema

namespace Database

def ofDirectory (d : Directory) (schema : ProgressSchema) : Except Error Database :=
  if d.further.isEmpty then .ok ⟨d, schema⟩ else .error .database

def withDirectory (b : Database) (directory : Directory) : Database :=
  { b with directory }

/-- The directory with a record, and its installation if it has one. -/
def storeAccount (d : Directory) (r : AccountRecord) : Directory :=
  let d := d.put .accounts r.accountId.bytes r.toJson.toBytes
  match r.key.installation? with
  | some pair => d.put .installations pair.bytes r.accountId.bytes
  | none => d

/-- Stores a record whose key is usable. -/
def putAccount (b : Database) (r : AccountRecord) : Except Error Unit × Database :=
  match r.key.validate with
  | .ok _ => (.ok (), b.withDirectory (storeAccount b.directory r))
  | .error e => (.error e, b)

/-- The record of an account, if there is one. -/
def account? (b : Database) (a : AccountId) : Except Error (Option AccountRecord) :=
  match b.directory.accounts.get? a.bytes with
  | some bytes => ((AccountRecord.reader.document bytes).mapError .json).map some
  | none => .ok none

/-- The account of an installation, if there is one. -/
def installed? (b : Database) (k : InstallationKey) (p : InstallPair) :
    Except Error (Option AccountId) :=
  match b.directory.installations.get? p.bytes with
  | some bytes =>
    match AccountId.ofBytes? bytes with
    | some a => .ok (some a)
    | none => .error (.storage (.malformedInstallation k))
  | none => .ok none

/-- The record that the account number of a key finds. -/
def byAccount (b : Database) (k : InstallationKey) : Except Error (Option AccountRecord) :=
  match k.account? with
  | some a => b.account? a
  | none => .ok none

def byInstallation (b : Database) (k : InstallationKey) : Except Error (Option AccountRecord) :=
  match k.installation? with
  | some p => do
    match ← b.installed? k p with
    | some a => b.account? a
    | none => return none
  | none => .ok none

def answer (b : Database) (k : InstallationKey) : Except Error AccountRecord := do
  k.validate
  match ← b.byAccount k with
  | some r => return r
  | none =>
    match ← b.byInstallation k with
    | some r => return r
    | none => .error .notFound

/-- Lookups take no time and fail only for what is stored. -/
instance : AccountStore Database where
  begin b := b
  latency _ := 0
  lookup b k := (b.answer k, b)

def row (b : Database) (a : AccountId) : Except Error ProgressRecord :=
  match b.directory.progress.get? a.bytes with
  | some bytes => ProgressRecord.ofRowBytes b.schema a bytes
  | none => .error .notFound

def rowOfEntry (b : Database) (e : List UInt8 × List UInt8) : Except Error ProgressRecord :=
  match AccountId.ofBytes? e.1 with
  | some a => ProgressRecord.ofRowBytes b.schema a e.2
  | none => .error (.storage (.malformedProgressKey e.1.length))

/-- All rows in ascending order of their accounts. The first entry that cannot be read, in the order
of the map, is the error. -/
def rows (b : Database) : Except Error (List ProgressRecord) := do
  let rs ← b.directory.progress.mapM b.rowOfEntry
  return rs.mergeSort fun r s => r.account.value ≤ s.account.value

def storeRows (schema : ProgressSchema) (d : Directory) (pending : Table AccountId ProgressRecord) :
    Directory :=
  pending.foldl (fun d e => d.put .progress e.1.bytes (e.2.rowBytes schema)) d

/-- Transactions take no time to begin and fail only for what is stored. -/
instance : RowStore Database where
  schema b := b.schema
  beginDelay _ := 0
  row := row
  rows := rows
  aboutToRead b := (.ok (), b)
  aboutToWrite b := (.ok (), b)
  commit b pending := b.withDirectory (storeRows b.schema b.directory pending)

end Database

end Tenancy
