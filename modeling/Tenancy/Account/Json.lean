import Tenancy.Account.Record
import Tenancy.Json.Typed

/-!
# Accounts as documents

The documents of account numbers, keys, features and records, and their readers. All fields of a key
may be missing, and of a record all but its key.
-/

namespace Tenancy

open Json

def AccountId.toJson (id : AccountId) : Value :=
  .ofInt64 id.value

def AccountId.reader : Reader AccountId := do
  return ⟨← Reader.int64⟩

def AppId.toJson (id : AppId) : Value :=
  .ofInt64 id.value

def AppId.reader : Reader AppId := do
  return ⟨← Reader.int64⟩

def InstallId.toJson (id : InstallId) : Value :=
  .ofInt64 id.value

def InstallId.reader : Reader InstallId := do
  return ⟨← Reader.int64⟩

def InstallPair.toJson (p : InstallPair) : Value :=
  .object [("app_id", p.app.toJson), ("install_id", p.install.toJson)]

def InstallPair.reader : Reader InstallPair :=
  Reader.record "InstallPair"
    [Reader.field "app_id" true AppId.reader fun p app => { p with app },
      Reader.field "install_id" true InstallId.reader fun p install => { p with install }]
    ⟨⟨0⟩, ⟨0⟩⟩

def InstallationKey.toJson (k : InstallationKey) : Value :=
  .object [("account_id", k.accountId.toJson), ("app_id", k.appId.toJson),
    ("install_id", k.installId.toJson)]

def InstallationKey.reader : Reader InstallationKey :=
  Reader.record "InstallationKey"
    [Reader.field "account_id" false AccountId.reader fun k accountId => { k with accountId },
      Reader.field "app_id" false AppId.reader fun k appId => { k with appId },
      Reader.field "install_id" false InstallId.reader fun k installId => { k with installId }]
    InstallationKey.unset

def Feature.toJson (f : Feature) : Value :=
  .text f.name

def Feature.reader : Reader Feature := do
  return ⟨← Reader.text⟩

def Features.toJson (fs : Features) : Value :=
  .list (fs.toList.map Feature.toJson)

def Features.reader : Reader Features := do
  return Features.ofList (← Reader.list Feature.reader)

namespace AccountRecord

def toJson (r : AccountRecord) : Value :=
  .object [("key", r.key.toJson), ("fetch_with", r.fetchWith.toJson), ("url", .text r.url),
    ("name", .text r.name), ("endpoint", .text r.endpoint), ("active", .flag r.active),
    ("suspended", .flag r.suspended), ("features", r.features.toJson)]

def fields : List (Reader.Field AccountRecord) :=
  [Reader.field "key" true InstallationKey.reader fun r key => { r with key },
    Reader.field "fetch_with" false InstallId.reader fun r fetchWith => { r with fetchWith },
    Reader.field "url" false Reader.text fun r url => { r with url },
    Reader.field "name" false Reader.text fun r name => { r with name },
    Reader.field "endpoint" false Reader.text fun r endpoint => { r with endpoint },
    Reader.field "active" false Reader.flag fun r active => { r with active },
    Reader.field "suspended" false Reader.flag fun r suspended => { r with suspended },
    Reader.field "features" false Features.reader fun r features => { r with features }]

def reader : Reader AccountRecord :=
  Reader.record "AccountRecord" fields (blank InstallationKey.unset)

end AccountRecord

end Tenancy
