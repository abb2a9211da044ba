/-!
# Records of comma-separated values

A table of bytes is cut into records and these into fields. A record ends with a line feed or a
carriage return, so that empty lines are no records. A field may stand between quotes, where commas
and line ends belong to it and a quote is written twice; behind the closing quote it goes on as a
bare field. A table that ends within a record ends that record.
-/

namespace Tenancy.Csv

abbrev Field := List UInt8

def comma : UInt8 := 0x2C

def quote : UInt8 := 0x22

/-- A line feed or a carriage return. -/
def isBreak (b : UInt8) : Bool :=
  b = 0x0A || b = 0x0D

/-- Where in a field the reader is. -/
inductive Within where
  /-- Before its first byte. -/
  | start
  /-- Within a field, outside of quotes. -/
  | bare
  /-- Between quotes. -/
  | quoted
  /-- Behind a quote that closes the field or is the first of two. -/
  | closed
  deriving DecidableEq

/-- Cuts the fields of one record from the front of a table and yields what is left behind the line
end. `field` holds the bytes of the field being read, the last one first. -/
def cut : Within → List UInt8 → List UInt8 → List Field × List UInt8
  | _, field, [] => ([field.reverse], [])
  | .quoted, field, b :: bs =>
    if b = quote then cut .closed field bs else cut .quoted (b :: field) bs
  | state, field, b :: bs =>
    if b = quote && state = .start then cut .quoted field bs
    else if b = quote && state = .closed then cut .quoted (b :: field) bs
    else if b = comma then
      let (fields, rest) := cut .start [] bs
      (field.reverse :: fields, rest)
    else if isBreak b then ([field.reverse], bs)
    else cut .bare (b :: field) bs

/-- The first byte of a record is cut off, and what follows it is cut further or left behind. -/
theorem length_cut_cons {bs : List UInt8}
    (h : ∀ state field, (cut state field bs).2.length ≤ bs.length) (state : Within)
    (field : List UInt8) (b : UInt8) : (cut state field (b :: bs)).2.length ≤ bs.length := by
  cases state with
  | quoted =>
    rw [cut]
    split
    · exact h .closed field
    · exact h .quoted (b :: field)
  | _ =>
    simp only [cut]
    split
    · exact h .quoted field
    split
    · exact h .quoted (b :: field)
    split
    · exact h .start []
    split
    · exact Nat.le_refl bs.length
    · exact h .bare (b :: field)

/-- Cutting a record leaves nothing that was not there. -/
theorem length_cut_le (state : Within) (field bs : List UInt8) :
    (cut state field bs).2.length ≤ bs.length := by
  induction bs generalizing state field with
  | nil => cases state <;> exact Nat.le_refl 0
  | cons b bs ih => exact Nat.le_succ_of_le (length_cut_cons ih state field b)

/-- Cutting a record takes at least one byte. -/
theorem length_cut_lt (state : Within) (field : List UInt8) (b : UInt8) (bs : List UInt8) :
    (cut state field (b :: bs)).2.length < (b :: bs).length :=
  Nat.lt_succ_of_le (length_cut_cons (fun s f => length_cut_le s f bs) state field b)

/-- A place in a table: its line from 1, and the number of bytes before it. -/
structure Place where
  line : Nat
  byte : Nat
  deriving DecidableEq, Repr, Inhabited

def Place.after (p : Place) (bs : List UInt8) : Place :=
  ⟨p.line + bs.count 0x0A, p.byte + bs.length⟩

/-- A record: the place at which the one before it ended, and its fields. -/
structure Record where
  before : Place
  fields : List Field
  deriving DecidableEq, Repr, Inhabited

def recordsFrom (place : Place) (bs : List UInt8) : List Record :=
  match _h : bs.dropWhile isBreak with
  | [] => []
  | b :: line =>
    let rest := (cut .start [] (b :: line)).2
    ⟨place, (cut .start [] (b :: line)).1⟩ ::
      recordsFrom (place.after (bs.take (bs.length - rest.length))) rest
termination_by bs.length
decreasing_by
  have hle := (List.dropWhile_suffix isBreak (l := bs)).length_le
  rw [_h] at hle
  exact Nat.lt_of_lt_of_le (length_cut_lt .start [] b line) hle

/-- The table without a byte order mark, and the place where it begins. -/
def dropMark : List UInt8 → Place × List UInt8
  | 0xEF :: 0xBB :: 0xBF :: bs => (⟨1, 3⟩, bs)
  | bs => (⟨1, 0⟩, bs)

def records (bs : List UInt8) : List Record :=
  recordsFrom (dropMark bs).1 (dropMark bs).2

def needsQuotes (f : Field) : Bool :=
  f.any fun b => b = comma || b = quote || isBreak b

def quoteField (f : Field) : List UInt8 :=
  quote :: f.flatMap (fun b => if b = quote then [quote, quote] else [b]) ++ [quote]

def writeField (f : Field) : List UInt8 :=
  if needsQuotes f then quoteField f else f

/-- A record as it is written, with its line end. A single empty field is quoted, so that its line
is not empty. -/
def writeRecord (fields : List Field) : List UInt8 :=
  if fields = [[]] then quoteField [] ++ [0x0A]
  else List.intercalate [comma] (fields.map writeField) ++ [0x0A]

def writeTable (rows : List (List Field)) : List UInt8 :=
  rows.flatMap writeRecord

end Tenancy.Csv
