import Tenancy.Storage.Directory
import Tenancy.Text.Hex
import Tenancy.Url.Address

/-!
# Directories as text

The text in which a directory outlives the program: one line for each entry, with the name of its
map, its key and its value in hexadecimal digits. The lines of further maps have their names only.
-/

namespace Tenancy.Directory

def Family.name : Family → List Char
  | accounts => "accounts".toList
  | installations => "installations".toList
  | progress => "progress".toList

def Family.ofName? (name : List Char) : Option Family :=
  [accounts, installations, progress].find? fun f => f.name = name

def entryLine (f : Family) (e : List UInt8 × List UInt8) : List Char :=
  f.name ++ ' ' :: Text.hexDigits e.1 ++ ' ' :: Text.hexDigits e.2 ++ ['\n']

def furtherLine (name : String) : List Char :=
  "further ".toList ++ name.toList ++ ['\n']

def toText (d : Directory) : String :=
  String.ofList <|
    d.accounts.flatMap (entryLine .accounts) ++
    d.installations.flatMap (entryLine .installations) ++
    d.progress.flatMap (entryLine .progress) ++
    d.further.flatMap furtherLine

def readLine? (d : Directory) (line : List Char) : Option Directory :=
  match Url.splitAt (· = ' ') line with
  | [name, key, value] => do
    return d.put (← Family.ofName? name) (← Text.ofHexDigits? key) (← Text.ofHexDigits? value)
  | [word, name] =>
    if word = "further".toList then some (d.withFurther (String.ofList name)) else none
  | _ => none

def ofText? (text : String) : Option Directory :=
  ((Url.splitAt (· = '\n') text.toList).filter fun l => !l.isEmpty).foldlM readLine? .empty

end Tenancy.Directory
