import Mathlib.Data.List.Forall2
import Tenancy.Progress.Event
import Tenancy.Proofs.Csv

/-!
# Lines that are read alone

A table of events is read line by line. What a line yields, an event or a fault, is what it would
yield if it stood alone below the header, whatever the lines around it hold.
-/

namespace Tenancy.Proofs

open Csv StageEvent

variable {ends : List UInt8} {lines : List (List UInt8)}

/-- The first line of a table of events. -/
def headerLine : List UInt8 :=
  Text.bytesOf "account, stage, timestamp"

/-- A table of events, in which a line end stands before every line but the first. -/
def eventTable (ends : List UInt8) (lines : List (List UInt8)) : List UInt8 :=
  headerLine ++ lines.flatMap (ends ++ ·)

/-- What a line yields, apart from the place at which it stands. -/
def outcome (item : Except Csv.Error StageEvent) : Except Fault StageEvent :=
  item.mapError Csv.Error.fault

/-- What a line is read as below the header. -/
def readAlone (line : List UInt8) : Except Fault StageEvent :=
  readLine (textsFrom 0 (headerLine.splitOn comma)).toOption (line.splitOn comma)

lemma head_lines (hends : ∀ b ∈ ends, isBreak b = true) (hne : ends ≠ [])
    (lines : List (List UInt8)) : ∀ b ∈ (lines.flatMap (ends ++ ·)).head?, isBreak b = true := by
  obtain ⟨c, cs, rfl⟩ := List.exists_cons_of_ne_nil hne
  cases lines with
  | nil =>
    intro b hb
    cases hb
  | cons line lines =>
    intro b hb
    cases hb
    exact hends c List.mem_cons_self

lemma fieldsOf_lines (hends : ∀ b ∈ ends, isBreak b = true) (hne : ends ≠ [])
    (h : ∀ line ∈ lines, Plain line) :
    fieldsOf (lines.flatMap (ends ++ ·)) =
      (lines.filter fun line => line ≠ []).map (·.splitOn comma) := by
  induction lines with
  | nil => exact fieldsOf_nil
  | cons line lines ih =>
    have hrest := ih fun l hl => h l (List.mem_cons_of_mem _ hl)
    rw [List.flatMap_cons, List.append_assoc, fieldsOf_breaks hends]
    by_cases hline : line = []
    · rw [hline, List.nil_append, hrest, List.filter_cons_of_neg (by simp)]
    · rw [fieldsOf_line hline (h line List.mem_cons_self) (head_lines hends hne lines), hrest,
        List.filter_cons_of_pos (by simpa using hline), List.map_cons]

lemma plain_headerLine : Plain headerLine := by
  decide +kernel

lemma fields_eventTable (hends : ∀ b ∈ ends, isBreak b = true) (hne : ends ≠ [])
    (h : ∀ line ∈ lines, Plain line) :
    (records (eventTable ends lines)).map Record.fields =
      headerLine.splitOn comma ::
        (lines.filter fun line => line ≠ []).map (·.splitOn comma) := by
  have hmark : ∀ b ∈ (eventTable ends lines).head?, b ≠ 0xEF := by
    have hhead : (eventTable ends lines).head? = some 0x61 := rfl
    intro b hb
    rw [hhead] at hb
    cases hb
    decide
  rw [fields_records hmark, eventTable, fieldsOf_line (by decide +kernel) plain_headerLine
    (head_lines hends hne lines), fieldsOf_lines hends hne h]

lemma map_outcome_readLines (names : Option (List String)) (n : Nat) (rs : List Record) :
    (readLines names n rs).map outcome = (rs.map Record.fields).map (readLine names) := by
  induction rs generalizing n with
  | nil => rfl
  | cons r rs ih =>
    rw [readLines, List.map_cons, ih, List.map_cons, List.map_cons]
    congr 1
    unfold outcome
    cases readLine names r.fields <;> rfl

lemma map_outcome_readAll (hends : ∀ b ∈ ends, isBreak b = true) (hne : ends ≠ [])
    (h : ∀ line ∈ lines, Plain line) :
    (readAll (eventTable ends lines)).map outcome =
      (lines.filter fun line => line ≠ []).map readAlone := by
  have hfields := fields_eventTable hends hne h
  obtain ⟨header, rows, hrecords, hheader, hrows⟩ := List.map_eq_cons_iff.mp hfields
  rw [readAll, hrecords]
  simp only
  rw [map_outcome_readLines, hrows, List.map_map, columnNames, hheader]
  rfl

lemma readAll_alone (hends : ∀ b ∈ ends, isBreak b = true) (hne : ends ≠ []) {line : List UInt8}
    (hline : line ≠ []) (h : Plain line) :
    ∃ alone, readAll (eventTable ends [line]) = [alone] ∧ readAlone line = outcome alone := by
  have hall : ∀ l ∈ [line], Plain l := by
    intro l hl
    rwa [List.mem_singleton.mp hl]
  have hmap := map_outcome_readAll hends hne hall
  rw [List.filter_cons_of_pos (by simpa using hline)] at hmap
  obtain ⟨alone, items, hitems, halone, hnil⟩ := List.map_eq_cons_iff.mp hmap
  refine ⟨alone, ?_, halone.symm⟩
  rw [hitems, List.map_eq_nil_iff.mp hnil]

/-- The items of a table of events are those of its lines that are not empty, one for each and in
their order, and each is what its line would yield alone. -/
theorem lines_read_alone (hends : ∀ b ∈ ends, isBreak b = true) (hne : ends ≠ [])
    (h : ∀ line ∈ lines, Plain line) :
    List.Forall₂
      (fun line item => ∃ alone, readAll (eventTable ends [line]) = [alone] ∧
        outcome item = outcome alone)
      (lines.filter fun line => line ≠ []) (readAll (eventTable ends lines)) := by
  have hfound : ∀ line ∈ lines.filter fun line => line ≠ [], line ≠ [] ∧ Plain line := by
    intro line hline
    obtain ⟨hmem, hline⟩ := List.mem_filter.mp hline
    exact ⟨of_decide_eq_true hline, h line hmem⟩
  have hread : List.Forall₂ (· = ·) ((lines.filter fun line => line ≠ []).map readAlone)
      ((readAll (eventTable ends lines)).map outcome) := by
    rw [List.forall₂_eq_eq_eq]
    exact (map_outcome_readAll hends hne h).symm
  rw [List.forall₂_map_left_iff, List.forall₂_map_right_iff] at hread
  apply ((List.forall₂_and_left _ _).mpr ⟨hfound, hread⟩).imp
  rintro line item ⟨⟨hline, hplain⟩, hitem⟩
  obtain ⟨alone, halone, houtcome⟩ := readAll_alone hends hne hline hplain
  exact ⟨alone, halone, hitem.symm.trans houtcome⟩

/-- An event, a stage that is not known, bytes that are no text, an empty line, a line that ends too
early, and one whose account is no number and that goes on too long. -/
def muddle : List (List UInt8) :=
  [Text.bytesOf "7, fetch_started, 2024-03-01T09:30:00Z", Text.bytesOf "7, fetching,",
    [0x37, 0x2C, 0xFF], [], Text.bytesOf "8", Text.bytesOf "seven, fetch_started, , and more"]

theorem lines_read_alone_muddle :
    (∀ b ∈ [0x0D, 0x0A], isBreak b = true) ∧ (∀ line ∈ muddle, Plain line) ∧
      List.Forall₂
        (fun line item => ∃ alone, readAll (eventTable [0x0D, 0x0A] [line]) = [alone] ∧
          outcome item = outcome alone)
        (muddle.filter fun line => line ≠ []) (readAll (eventTable [0x0D, 0x0A] muddle)) ∧
      (readAll (eventTable [0x0D, 0x0A] muddle)).length = 5 := by
  have hends : ∀ b ∈ [0x0D, 0x0A], isBreak b = true := by simp [isBreak]
  have hplain : ∀ line ∈ muddle, Plain line := by decide +kernel
  have hread := lines_read_alone hends (by decide) hplain
  exact ⟨hends, hplain, hread, hread.length_eq.symm⟩

end Tenancy.Proofs
