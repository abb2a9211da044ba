import Tenancy.Service
import Tenancy.Storage.Database

/-!
# Sessions on a database

A directory whose database is opened, closed and opened again. A service that is opened starts with
a clock at the instant at which the session began, with no transactions, and with a resolver that
has resolved nothing; what it leaves is what it has stored.
-/

namespace Tenancy

/-- A directory and the service that is open on it, if any. -/
structure Session where
  /-- The columns with which the database is opened. -/
  schema : ProgressSchema
  /-- The instant at which the clock of a service starts. -/
  start : Instant
  /-- The directory as it was when the database was last closed. -/
  directory : Directory
  service : Option (Service Database)

namespace Session

def new (schema : ProgressSchema) (start : Instant) : Session :=
  ⟨schema, start, .empty, none⟩

def close (s : Session) : Session :=
  match s.service with
  | some service => { s with directory := service.world.store.directory, service := none }
  | none => s

/-- Opens the database of a session in which nothing is open. -/
def openClosed (s : Session) : Except Error Unit × Session :=
  match Database.ofDirectory s.directory s.schema with
  | .ok b => (.ok (), { s with service := some (.new b s.start .standard) })
  | .error e => (.error e, s)

/-- Closes the database and opens it with other columns. -/
def reopen (s : Session) (schema : ProgressSchema) : Except Error Unit × Session :=
  { s.close with schema }.openClosed

/-- Closes the database, changes its directory, and opens it with the same columns. -/
def edit (s : Session) (f : Directory → Directory) : Except Error Unit × Session :=
  let s := s.close
  { s with directory := f s.directory }.openClosed

/-- Opens the directory a second time while its database is open, which is refused. -/
def openAgain (s : Session) : Except Error Database :=
  match s.service with
  | some _ => .error .database
  | none => Database.ofDirectory s.directory s.schema

end Session

end Tenancy
