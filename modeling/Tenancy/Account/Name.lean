import Tenancy.Account.Record
import Tenancy.Url.Parse

/-!
# Names of accounts

The short name of an account, taken from the address of its installation. The address of an
organization begins with `organizations` and its name; every other address belongs to a person, who
is the owner. Whatever is not on the home host has its host in front.
-/

namespace Tenancy.AccountName

/-- The host whose name is left out. -/
def homeHost : List Char :=
  "github.com".toList

def hostText (u : Url) : List Char :=
  match u.port with
  | some port => u.host ++ ':' :: Text.decimal port
  | none => u.host

/-- A text without the slashes at its end. -/
def trimSlashes (s : List Char) : List Char :=
  (s.reverse.dropWhile (· = '/')).reverse

def ofAddress (u : Url) (owner : List Char) : List Char :=
  let host := hostText u
  match u.segments with
  | first :: second :: _ =>
    if first ≠ "organizations".toList then owner
    else if host ≠ homeHost then host ++ '/' :: second
    else second
  | _ => if host ≠ homeHost then trimSlashes (host ++ '/' :: owner) else owner

/-- The name that the text of an address gives: the owner if there is no text, and nothing if the
text is no address. -/
def ofUrl (address owner : String) : String :=
  if address.isEmpty then owner
  else match Url.parse? address.toList with
    | none => ""
    | some u => String.ofList (ofAddress u owner.toList)

end Tenancy.AccountName

namespace Tenancy.AccountRecord

/-- The short name of an account: the one it has, or the one of its address. -/
def displayName (r : AccountRecord) : String :=
  if r.name.isEmpty then AccountName.ofUrl r.url "" else r.name

end Tenancy.AccountRecord
