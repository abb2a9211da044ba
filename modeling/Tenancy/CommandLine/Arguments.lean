/-!
# Arguments

What the arguments of the program ask for. They are read from left to right: the first of them that
asks for help or for the version settles the matter, and so does the first one that cannot be
understood. One argument that is no option names the events; two options take a value, which stands
in the next argument or behind an equals sign. All that follows two dashes is no option.
-/

namespace Tenancy.CommandLine

/-- What a replay works on. -/
structure Options where
  /-- The path of the events. -/
  input : String
  /-- The path of the database. -/
  database : Option String
  /-- The path of the settings. -/
  config : Option String
  deriving DecidableEq, Repr

/-- What the arguments ask for. -/
inductive Invocation where
  | help
  | version
  | replay (o : Options)
  deriving DecidableEq, Repr

/-- What takes a value. -/
inductive Slot where
  | input
  | database
  | config
  deriving DecidableEq

/-- What was given so far. -/
structure Draft where
  input : Option String
  database : Option String
  config : Option String

def Draft.empty : Draft :=
  ⟨none, none, none⟩

/-- Puts a value where none was given; it may not be empty. -/
def Draft.fill (d : Draft) (value : String) : Slot → Option Draft
  | .input => if d.input.isSome ∨ value.isEmpty then none else some { d with input := some value }
  | .database =>
    if d.database.isSome ∨ value.isEmpty then none else some { d with database := some value }
  | .config =>
    if d.config.isSome ∨ value.isEmpty then none else some { d with config := some value }

/-- What was given, once nothing follows. -/
def Draft.finish (d : Draft) : Option Invocation :=
  d.input.map fun input => .replay ⟨input, d.database, d.config⟩

/-- An argument by its form. -/
inductive Form where
  | value
  | terminator
  /-- The name of an option behind two dashes, and the value behind an equals sign. -/
  | long (name : String) (value : Option String)
  /-- Letters behind one dash. -/
  | short (first : Char)

def Form.of (a : String) : Form :=
  match a.toList with
  | ['-', '-'] => .terminator
  | '-' :: '-' :: rest =>
    match rest.dropWhile (· ≠ '=') with
    | [] => .long (String.ofList rest) none
    | _ :: v => .long (String.ofList (rest.takeWhile (· ≠ '='))) (some (String.ofList v))
  | '-' :: c :: _ => .short c
  | _ => .value

def slot? : String → Option Slot
  | "db-path" => some .database
  | "config" => some .config
  | _ => none

/-- Reads arguments that are no options. -/
def readValues (d : Draft) (args : List String) : Option Invocation :=
  (args.foldlM (fun (d : Draft) a => d.fill a .input) d).bind Draft.finish

/-- Reads arguments; the value of an option must not look like an option. -/
def readFrom (d : Draft) : List String → Option Invocation
  | [] => d.finish
  | a :: rest =>
    match Form.of a with
    | .value => (d.fill a .input).bind fun d => readFrom d rest
    | .terminator => readValues d rest
    | .short 'h' => some .help
    | .short 'V' => some .version
    | .short _ => none
    | .long "help" none => some .help
    | .long "version" none => some .version
    | .long name (some value) =>
      (slot? name).bind fun s => (d.fill value s).bind fun d => readFrom d rest
    | .long name none =>
      (slot? name).bind fun s =>
        match rest with
        | [] => none
        | value :: rest =>
          match Form.of value with
          | .value => (d.fill value s).bind fun d => readFrom d rest
          | _ => none

/-- What arguments ask for, if they can be understood. -/
def Invocation.ofArguments (args : List String) : Option Invocation :=
  readFrom .empty args

end Tenancy.CommandLine
