import Tenancy.Table

/-!
# What a database keeps

A directory holds maps from bytes to bytes, in ascending order of their keys: one for accounts, one
for installations and one for progress. It may hold further ones that are of no use here.
-/

namespace Tenancy

/-- A map from bytes to bytes in ascending order of its keys. -/
abbrev ByteMap := Table (List UInt8) (List UInt8)

def ByteMap.put (m : ByteMap) (key value : List UInt8) : ByteMap :=
  m.insertSorted (fun a b => a < b) key value

/-- The maps of a database. -/
structure Directory where
  accounts : ByteMap
  installations : ByteMap
  progress : ByteMap
  /-- The names of further maps. -/
  further : List String

namespace Directory

def empty : Directory :=
  ⟨[], [], [], []⟩

/-- The maps that every database has. -/
inductive Family where
  | accounts
  | installations
  | progress
  deriving DecidableEq

def modify (d : Directory) (f : ByteMap → ByteMap) : Family → Directory
  | .accounts => { d with accounts := f d.accounts }
  | .installations => { d with installations := f d.installations }
  | .progress => { d with progress := f d.progress }

def put (d : Directory) (family : Family) (key value : List UInt8) : Directory :=
  d.modify (fun m => m.put key value) family

/-- The directory without a key of a map. -/
def delete (d : Directory) (family : Family) (key : List UInt8) : Directory :=
  d.modify (fun m => m.erase key) family

def withFurther (d : Directory) (name : String) : Directory :=
  { d with further := d.further ++ [name] }

end Directory

end Tenancy
