import Mathlib.Data.List.Forall2
import Tenancy.Progress.Report
import Tenancy.Proofs.Csv
import Tenancy.Proofs.Numerals
import Tenancy.Proofs.Rfc3339
import Tenancy.Proofs.Utf8

/-!
# Reports that are read back

A report is read as a table of texts. Its first line names the columns of the schema in the order of
the stages, whatever characters they hold, and each line below tells the number, the status and the
instants of its record under those names.
-/

namespace Tenancy.Proofs

open Text

/-- The instant without the fraction of its second; a leap second remains one. -/
def wholeSecond (i : Instant) : Instant where
  day := i.day
  second := i.second
  nano := i.nano / 1000000000 * 1000000000
  day_mem := i.day_mem
  second_lt := i.second_lt
  nano_lt := by
    have := i.nano_lt
    omega

lemma text_wholeSecond (i : Instant) :
    Rfc3339.text (wholeSecond i) = Rfc3339.secondsText i := by
  have htime : Rfc3339.timeText (wholeSecond i) = Rfc3339.timeText i := by
    have hnano : (wholeSecond i).nano / 1000000000 = i.nano / 1000000000 :=
      Nat.mul_div_cancel _ (by decide)
    rw [Rfc3339.timeText, hnano]
    rfl
  have hfraction : Rfc3339.fractionText (wholeSecond i) = [] := by
    have hnano : (wholeSecond i).nano % 1000000000 = 0 := Nat.mul_mod_left _ _
    simp only [Rfc3339.fractionText, if_pos hnano]
  rw [Rfc3339.text, htime, hfraction, List.append_nil]
  rfl

/-- The text of a cell says an instant to the second, or is empty if there is none. -/
def Dated (text : String) : Option Instant → Prop
  | some i => text = Rfc3339.secondsText i ∧ Rfc3339.read text = .ok (wholeSecond i).written
  | none => text = ""

lemma dated_cell (r : ProgressRecord) (s : Stage) : Dated (Report.cell r s) (r.entered s) := by
  unfold Report.cell
  cases r.entered s with
  | none => rfl
  | some i =>
    constructor
    · rfl
    · have hread := read_text (wholeSecond i)
      rwa [text_wholeSecond] at hread

/-- The records of a table as texts, if all of its fields are texts. -/
def texts? (table : List UInt8) : Option (List (List String)) :=
  (Csv.records table).mapM fun r => r.fields.mapM ofUtf8?

/-- A line of a report tells a record: its number, its status and, in the columns of the schema,
the instants at which it entered their stages. -/
structure Tells (schema : ProgressSchema) (r : ProgressRecord) (cells : List String) : Prop where
  length : cells.length = schema.entries.length + 2
  account : ∃ text, cells[0]? = some text ∧ readInt64 10 text.toList = .ok r.account.value
  status : ∃ text, cells[1]? = some text ∧ Stage.parse text = .ok r.status
  entered : ∀ i s column, schema.entries[i]? = some (s, column) →
    ∃ text, cells[i + 2]? = some text ∧ Dated text (r.entered s)

lemma parse_name (s : Stage) : Stage.parse s.name = .ok s := by
  cases s <;> decide

lemma tells_line (schema : ProgressSchema) (r : ProgressRecord) :
    Tells schema r (Report.line schema r) where
  length := by simp [Report.line]
  account := by
    refine ⟨r.account.text, rfl, ?_⟩
    rw [AccountId.text, String.toList_ofList]
    exact readInt64_signedDecimal r.account.value
  status := ⟨r.status.name, rfl, parse_name r.status⟩
  entered := by
    intro i s column hi
    refine ⟨Report.cell r s, ?_, dated_cell r s⟩
    simp [Report.line, hi]

lemma map_snd_entries (schema : ProgressSchema) :
    schema.entries.map Prod.snd = Stage.all.filterMap schema.column? := by
  rw [ProgressSchema.entries, StageMap.entries, List.map_filterMap]
  congr 1
  funext s
  rw [Option.map_map]
  exact Option.map_id'

lemma mapM_map_some {α β : Type} {f : α → β} {g : β → Option α} (h : ∀ a, g (f a) = some a)
    (l : List α) : (l.map f).mapM g = some l := by
  induction l with
  | nil => rfl
  | cons a l ih =>
    rw [List.map_cons, List.mapM_cons, h, ih]
    rfl

lemma texts?_writeTable {lines : List (List String)} (hne : ∀ l ∈ lines, l ≠ [])
    (hmark : ∀ b ∈ (Csv.writeTable (lines.map fun l => l.map bytesOf)).head?, b ≠ 0xEF) :
    texts? (Csv.writeTable (lines.map fun l => l.map bytesOf)) = some lines := by
  have hfields : ∀ fields ∈ lines.map fun l => l.map bytesOf, fields ≠ [] := by
    intro fields hf
    obtain ⟨l, hl, rfl⟩ := List.mem_map.mp hf
    simpa using hne l hl
  have hcell : ∀ s : String, ofUtf8? (bytesOf s) = some s := by
    intro s
    rw [bytesOf, ofUtf8?_utf8, String.ofList_toList]
  have hrecords := fields_records hmark
  rw [fieldsOf_writeTable hfields] at hrecords
  have hrows := mapM_map_some (mapM_map_some hcell) lines
  rw [← hrecords, List.mapM_map] at hrows
  exact hrows

theorem report_read_back (schema : ProgressSchema) (rows : List ProgressRecord) :
    ∃ lines, texts? (Report.write schema rows) =
        some (("account" :: "current_status" :: Stage.all.filterMap schema.column?) :: lines) ∧
      List.Forall₂ (Tells schema) rows lines := by
  have hne : ∀ l ∈ Report.cells schema rows, l ≠ [] := by
    intro l hl
    rcases List.mem_cons.mp hl with rfl | hl
    · exact List.cons_ne_nil _ _
    · obtain ⟨r, -, rfl⟩ := List.mem_map.mp hl
      exact List.cons_ne_nil _ _
  have hmark : ∀ b ∈ (Report.write schema rows).head?, b ≠ 0xEF := by
    have hhead : (Report.write schema rows).head? = some 0x61 := rfl
    intro b hb
    rw [hhead] at hb
    cases hb
    decide
  refine ⟨rows.map (Report.line schema), ?_, ?_⟩
  · rw [← map_snd_entries]
    exact texts?_writeTable hne hmark
  · apply List.forall₂_map_right_iff.mpr
    apply List.forall₂_same.mpr
    intro r _
    exact tells_line schema r

end Tenancy.Proofs
