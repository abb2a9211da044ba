import Tenancy.Progress.Report
import Tenancy.Proofs.Columns

/-!
# Names in the first line of a report

The columns of accepted settings are all different, but nothing keeps them from the two names that
every report has in front. A column with such a name repeats it, and then its cells are not found
under it; all other cells are found under their names.
-/

namespace Tenancy.Proofs

open Table

variable {schema : ProgressSchema} {r : ProgressRecord} {s : Stage} {column : String}

/-- The names of the number and of the status of an account, which stand in front of the columns. -/
def frontNames : List String :=
  ["account", "current_status"]

lemma header_eq (schema : ProgressSchema) :
    Report.header schema = frontNames ++ schema.entries.map Prod.snd :=
  rfl

lemma nodup_header (hd : (schema.entries.map Prod.snd).Nodup) :
    (Report.header schema).Nodup ↔ ∀ name ∈ frontNames, ∀ s, schema.column? s ≠ some name := by
  have hfront : frontNames.Nodup := by decide
  rw [header_eq, List.nodup_append, and_iff_right hfront, and_iff_right hd]
  constructor
  · intro hapart name hname s hs
    exact hapart name hname name (List.mem_map_of_mem (mem_entries.mpr hs)) rfl
  · rintro hnone name hname column hcolumn rfl
    obtain ⟨⟨s, column⟩, he, rfl⟩ := List.mem_map.mp hcolumn
    exact hnone column hname s (mem_entries.mp he)

/-- The cells of the line of a record, each with its name in the first line. -/
def labelled (schema : ProgressSchema) (r : ProgressRecord) : Table String String :=
  (Report.header schema).zip (Report.line schema r)

lemma labelled_eq (schema : ProgressSchema) (r : ProgressRecord) :
    labelled schema r = ("account", r.account.text) :: ("current_status", r.status.name) ::
      schema.entries.map fun e => (e.2, Report.cell r e.1) := by
  unfold labelled Report.header Report.line
  rw [List.zip_cons_cons, List.zip_cons_cons, List.zip_map']

lemma get?_labelled (hd : (schema.entries.map Prod.snd).Nodup)
    (hs : schema.column? s = some column) (hfront : column ∉ frontNames) :
    get? (labelled schema r) column = some (Report.cell r s) := by
  have hkeys : keys (schema.entries.map fun e => (e.2, Report.cell r e.1)) =
      schema.entries.map Prod.snd := by
    rw [keys, List.map_map]
    rfl
  have hcell : get? (schema.entries.map fun e => (e.2, Report.cell r e.1)) column =
      some (Report.cell r s) := by
    apply get?_of_mem (hkeys ▸ hd)
    exact List.mem_map.mpr ⟨(s, column), mem_entries.mpr hs, rfl⟩
  have haccount : "account" ≠ column := fun h => hfront (h ▸ by decide)
  have hstatus : "current_status" ≠ column := fun h => hfront (h ▸ by decide)
  rw [labelled_eq, get?_cons, if_neg haccount, get?_cons, if_neg hstatus, hcell]

/-- The names in the first line of a report under accepted settings are all different if no stage
has a column with one of the two names in front, and only then. In every line the number and the
status are the first cells under their names, and so is the cell of each stage whose column has
another name. -/
theorem header_nodup_iff {text : String} {settings : Settings}
    (h : Settings.ofText text = .ok settings) :
    ((Report.header settings.progress).Nodup ↔
      ∀ name ∈ frontNames, ∀ s, settings.progress.column? s ≠ some name) ∧
    ∀ r : ProgressRecord,
      get? (labelled settings.progress r) "account" = some r.account.text ∧
      get? (labelled settings.progress r) "current_status" = some r.status.name ∧
      ∀ s column, settings.progress.column? s = some column → column ∉ frontNames →
        get? (labelled settings.progress r) column = some (Report.cell r s) := by
  have hd := nodup_of_validate (validate_of_ofText h)
  refine ⟨nodup_header hd, fun r => ⟨?_, ?_, fun s column hs => get?_labelled hd hs⟩⟩
  · rw [labelled_eq, get?_cons, if_pos rfl]
  · have hname : "account" ≠ "current_status" := by decide
    rw [labelled_eq, get?_cons, if_neg hname, get?_cons, if_pos rfl]

/-- Settings by which the instants of a stage stand in a column `account`. -/
def clashingText : String :=
  "\x7b\"progress\": \x7b\"fetch_started\": \"account\", \"fetch_completed\": \"done\"\x7d\x7d"

def clashing : Settings :=
  ⟨.standard, .ofList [(.fetchStarted, "account"), (.fetchCompleted, "done")]⟩

lemma ofText_clashing : Settings.ofText clashingText = .ok clashing := by
  decide +kernel

example : Report.header clashing.progress = ["account", "current_status", "account", "done"] := by
  decide

theorem header_nodup_iff_clashing :
    Settings.ofText clashingText = .ok clashing ∧ ¬ (Report.header clashing.progress).Nodup ∧
      ∀ r : ProgressRecord, get? (labelled clashing.progress r) "account" = some r.account.text ∧
        get? (labelled clashing.progress r) "done" = some (Report.cell r .fetchCompleted) := by
  obtain ⟨hnodup, hcells⟩ := header_nodup_iff ofText_clashing
  refine ⟨ofText_clashing, ?_, ?_⟩
  · intro hall
    exact hnodup.mp hall "account" (by decide) .fetchStarted rfl
  · intro r
    obtain ⟨haccount, -, hstages⟩ := hcells r
    exact ⟨haccount, hstages .fetchCompleted "done" rfl (by decide)⟩

/-- The first line of a report under accepted settings may name two columns alike. -/
theorem not_header_nodup :
    ¬ ∀ text settings, Settings.ofText text = .ok settings →
      (Report.header settings.progress).Nodup := by
  intro hall
  exact absurd (hall clashingText clashing ofText_clashing) (by decide)

end Tenancy.Proofs
