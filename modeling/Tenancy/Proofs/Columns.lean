import Tenancy.Proofs.Rows
import Tenancy.Settings

/-!
# Columns that are accepted

A schema is accepted if no column is blank and no two stages share one, and then a stage is found
under its column and nowhere else. The rows of a database are read back, but for one column that is
not refused: an instant that is stored in place of the status is not taken for a stage, and its row
can no longer be read.
-/

namespace Tenancy.Proofs

open Json Table

variable {schema : ProgressSchema} {a : AccountId} {r : ProgressRecord} {s : Stage} {column : String}
  {fault : ConfigFault}

/-- All characters of a column are blank. -/
def Blank (column : String) : Prop :=
  ∀ c ∈ column.toList, Text.isBlank c = true

lemma isEmpty_trim : (Text.trim column.toList).isEmpty = true ↔ Blank column := by
  have hend : Text.trim column.toList = [] ↔
      ∀ c ∈ Text.trimStart column.toList, Text.isBlank c = true := by
    unfold Text.trim Text.trimEnd
    rw [List.reverse_eq_nil_iff, List.dropWhile_eq_nil_iff]
    simp only [List.mem_reverse]
  rw [List.isEmpty_iff, hend]
  constructor
  · intro hall c hc
    rw [← List.takeWhile_append_dropWhile (p := Text.isBlank) (l := column.toList)] at hc
    rcases List.mem_append.mp hc with hc | hc
    · exact List.mem_takeWhile_imp hc
    · exact hall c hc
  · intro hall c hc
    exact hall c ((List.dropWhile_suffix _).subset hc)

lemma faultIn_ok {seen : List String} {es : List (Stage × String)}
    (h : ProgressSchema.faultIn seen es = .ok ()) :
    (∀ column ∈ es.map Prod.snd, ¬ Blank column) ∧ (es.map Prod.snd).Nodup ∧
      ∀ column ∈ es.map Prod.snd, column ∉ seen := by
  induction es generalizing seen with
  | nil => exact ⟨by simp, List.nodup_nil, by simp⟩
  | cons e es ih =>
    rw [ProgressSchema.faultIn] at h
    split at h
    · cases h
    · rename_i hsolid
      split at h
      · cases h
      · rename_i hnew
        obtain ⟨hsolids, hnodup, hseen⟩ := ih h
        refine ⟨?_, List.nodup_cons.mpr ⟨?_, hnodup⟩, ?_⟩
        · intro column hm
          rcases List.mem_cons.mp hm with rfl | hm
          · exact mt isEmpty_trim.mpr hsolid
          · exact hsolids column hm
        · intro hm
          exact hseen e.2 hm List.mem_cons_self
        · intro column hm
          rcases List.mem_cons.mp hm with rfl | hm
          · exact hnew
          · exact fun hs => hseen column hm (List.mem_cons_of_mem _ hs)

lemma nodup_of_validate (h : schema.validate = .ok ()) : (schema.entries.map Prod.snd).Nodup :=
  (faultIn_ok h).2.1

lemma not_blank_of_validate (h : schema.validate = .ok ()) (hs : schema.column? s = some column) :
    ¬ Blank column :=
  (faultIn_ok h).1 column (List.mem_map_of_mem (mem_entries.mpr hs))

lemma distinct_of_validate (h : schema.validate = .ok ())
    (hs : ∀ s, schema.column? s ≠ some ProgressRecord.statusColumn) : Distinct schema where
  nodup := nodup_of_validate h
  status := by
    intro hm
    obtain ⟨⟨s, column⟩, he, rfl⟩ := List.mem_map.mp hm
    exact hs s (mem_entries.mp he)

lemma validate_of_ofText {text : String} {settings : Settings}
    (h : Settings.ofText text = .ok settings) : settings.progress.validate = .ok () := by
  obtain ⟨s, -, hs⟩ := ok_of_bind h
  obtain ⟨_, hvalid, hsettings⟩ := ok_of_bind hs
  obtain ⟨_, -, hprogress⟩ := ok_of_bind (ok_of_mapError hvalid)
  rw [← Except.ok.inj hsettings]
  exact hprogress

/-- What is wrong with a schema: a stage has a blank column, or two stages share one. -/
inductive Faulty (schema : ProgressSchema) : ConfigFault → Prop where
  | blank {s : Stage} {column : String} : schema.column? s = some column → Blank column →
      Faulty schema (.blankColumn s)
  | shared {s t : Stage} {column : String} : s ≠ t → schema.column? s = some column →
      schema.column? t = some column → Faulty schema (.repeatedColumn column)

lemma nodup_stages (schema : ProgressSchema) : (schema.entries.map Prod.fst).Nodup := by
  have hall : Stage.all.Nodup := by decide
  unfold ProgressSchema.entries StageMap.entries
  rw [List.map_filterMap]
  apply hall.filterMap
  intro s t u hs ht
  obtain ⟨e, he, rfl⟩ := Option.map_eq_some_iff.mp hs
  obtain ⟨d, hd, hde⟩ := Option.map_eq_some_iff.mp ht
  obtain ⟨_, -, rfl⟩ := Option.map_eq_some_iff.mp he
  obtain ⟨_, -, rfl⟩ := Option.map_eq_some_iff.mp hd
  exact hde.symm

lemma faulty_of_faultIn {seen : List String} {es : List (Stage × String)}
    (hes : ∀ e ∈ es, schema.column? e.1 = some e.2) (hstages : (es.map Prod.fst).Nodup)
    (hseen : ∀ column ∈ seen, ∃ s, schema.column? s = some column ∧ s ∉ es.map Prod.fst)
    (h : ProgressSchema.faultIn seen es = .error fault) : Faulty schema fault := by
  -- On the columns that are left. One that stands in `seen` is that of a stage that went before.
  induction es generalizing seen with
  | nil => cases h
  | cons e es ih =>
    have he : schema.column? e.1 = some e.2 := hes e List.mem_cons_self
    obtain ⟨hlast, hstages⟩ := List.nodup_cons.mp hstages
    rw [ProgressSchema.faultIn] at h
    split at h
    · rename_i hblank
      cases h
      exact .blank he (isEmpty_trim.mp hblank)
    · split at h
      · rename_i hold
        cases h
        obtain ⟨s, hs, hother⟩ := hseen e.2 hold
        have hne : s ≠ e.1 := fun heq => hother (heq ▸ List.mem_cons_self)
        exact .shared hne hs he
      · refine ih (fun d hd => hes d (List.mem_cons_of_mem _ hd)) hstages ?_ h
        intro column hc
        rcases List.mem_cons.mp hc with rfl | hc
        · exact ⟨e.1, he, hlast⟩
        · obtain ⟨s, hs, hother⟩ := hseen column hc
          exact ⟨s, hs, fun hm => hother (List.mem_cons_of_mem _ hm)⟩

lemma faulty_of_validate (h : schema.validate = .error fault) : Faulty schema fault := by
  refine faulty_of_faultIn (fun e he => mem_entries.mp he) (nodup_stages schema) ?_ h
  intro column hc
  cases hc

/-- A schema is accepted if no column is blank and no two stages share one, and only then. In an
accepted schema a column is that of a stage if the stage is found under it, and only then. -/
theorem columns_invertible (schema : ProgressSchema) :
    (schema.validate = .ok () ↔
      (∀ s column, schema.column? s = some column → ¬ Blank column) ∧
      ∀ s t column, schema.column? s = some column → schema.column? t = some column → s = t) ∧
    (schema.validate = .ok () →
      ∀ s column, schema.column? s = some column ↔ schema.stageOf? column = some s) := by
  have hinverse : schema.validate = .ok () →
      ∀ s column, schema.column? s = some column ↔ schema.stageOf? column = some s := by
    intro hvalid s column
    exact ⟨stageOf?_of_column? (nodup_of_validate hvalid), column?_of_stageOf?⟩
  refine ⟨⟨?_, ?_⟩, hinverse⟩
  · intro hvalid
    refine ⟨fun s column => not_blank_of_validate hvalid, ?_⟩
    intro s t column hs ht
    have hstage : some s = some t :=
      ((hinverse hvalid s column).mp hs).symm.trans ((hinverse hvalid t column).mp ht)
    exact Option.some.inj hstage
  · rintro ⟨hsolid, hapart⟩
    cases hv : schema.validate with
    | ok => rfl
    | error fault =>
      cases faulty_of_validate hv with
      | blank hs hblank => exact absurd hblank (hsolid _ _ hs)
      | shared hne hs ht => exact absurd (hapart _ _ _ hs ht) hne

/-- Columns that are called as other stages are, or differ by a blank only. -/
def crossed : ProgressSchema :=
  .ofList [(.fetchStarted, "consistency_started"), (.consistencyStarted, "fetch_started"),
    (.precomputeStarted, " fetch_started")]

theorem columns_invertible_crossed :
    crossed.validate = .ok () ∧
      ∀ s column, crossed.column? s = some column ↔ crossed.stageOf? column = some s := by
  have hvalid : crossed.validate = .ok () := by decide
  exact ⟨hvalid, (columns_invertible crossed).2 hvalid⟩

/-- Two stages have one column, under which only the first is found. -/
def doubled : ProgressSchema :=
  .ofList [(.fetchStarted, "started"), (.consistencyStarted, "started")]

example : doubled.validate = .error (.repeatedColumn "started") ∧
    doubled.column? .consistencyStarted = some "started" ∧
    doubled.stageOf? "started" = some .fetchStarted := by
  decide

/-- The text of an instant is not the name of a stage, which no reader takes for an instant. -/
lemma ofName?_text (i : Instant) : Stage.ofName? (Rfc3339.text i) = none := by
  rw [Stage.ofName?, List.find?_eq_none]
  intro s _ hs
  have hname : s.name = Rfc3339.text i := by simpa using hs
  have hread := read_text i
  rw [← hname] at hread
  cases s <;> cases hread

/-- What is read for a row that is stored: its record as it is written. An instant in the column of
the status hides it. -/
def readBack (schema : ProgressSchema) (r : ProgressRecord) : Except Error ProgressRecord :=
  match (schema.stageOf? ProgressRecord.statusColumn).bind r.entered with
  | none => .ok r.written
  | some i => .error (.json
      ⟨.mismatch (.unknownVariant (Rfc3339.text i) (Stage.all.map Stage.name)), none⟩)

lemma ofRowBytes_hidden (hd : (schema.entries.map Prod.snd).Nodup) {i : Instant}
    (hi : get? (instantsOf schema r) ProgressRecord.statusColumn = some i) :
    ProgressRecord.ofRowBytes schema a (r.rowBytes schema) = .error (.json
      ⟨.mismatch (.unknownVariant (Rfc3339.text i) (Stage.all.map Stage.name)), none⟩) := by
  have hkeys : keys (r.columnEntries schema) = keys (instantsOf schema r) := by
    rw [columnEntries_eq, keys, instantValues, List.map_map]
    rfl
  have hnodup : (keys (r.columnEntries schema)).Nodup := by
    rw [hkeys]
    exact hd.sublist (keys_instantsOf schema r)
  have hmem : ProgressRecord.statusColumn ∈ keys (r.columnEntries schema) := by
    rw [hkeys]
    exact List.mem_map_of_mem (mem_of_get? hi)
  obtain ⟨columns, hread, hperm⟩ := rowReader_rowBytes schema r
  have hrow : (r.columnEntries schema).Perm columns :=
    (hperm.trans (sortEntries_cons_perm hmem hnodup)).symm
  have hstatus : get? columns ProgressRecord.statusColumn = some i.toJson := by
    rw [← get?_perm hrow hnodup, columnEntries_eq, instantValues, get?_values, hi, Option.map_some]
  have hstage : Stage.ofValue i.toJson =
      .error (.unknownVariant (Rfc3339.text i) (Stage.all.map Stage.name)) := by
    rw [Instant.toJson, Stage.ofValue, Stage.ofName, ofName?_text]
  rw [ProgressRecord.ofRowBytes, hread]
  simp only
  rw [ProgressRecord.ofRow, hstatus]
  simp only
  rw [ProgressRecord.ofColumns, hstage]
  rfl

lemma ofRowBytes_readBack (hd : (schema.entries.map Prod.snd).Nodup) (hr : Fitting schema a r) :
    ProgressRecord.ofRowBytes schema a (r.rowBytes schema) = readBack schema r := by
  unfold readBack
  rw [← get?_instantsOf hd]
  cases hi : get? (instantsOf schema r) ProgressRecord.statusColumn with
  | some i => exact ofRowBytes_hidden hd hi
  | none =>
    have hs : ProgressRecord.statusColumn ∉ keys (r.columnEntries schema) := by
      rw [columnEntries_eq, keys, instantValues, List.map_map]
      exact get?_eq_none.mp hi
    rw [ofRowBytes_rowBytes_under hd hd hs, rereadUnder_self hd hr.written]

/-- A record that fits accepted columns is read back as it is written from its row, and from a
database to which its row was committed, if it has no instant in the column of the status. If it has
one, it is the error of every reading. -/
theorem rows_read_back
    (hv : schema.validate = .ok () ∨
      ∃ text settings, Settings.ofText text = .ok settings ∧ settings.progress = schema)
    (hr : Fitting schema a r) :
    ProgressRecord.ofRowBytes schema a (r.rowBytes schema) = readBack schema r ∧
      ∀ d p, (keys p).Nodup → (a, r) ∈ p →
        Database.row ⟨Database.storeRows schema d p, schema⟩ a = readBack schema r := by
  have hvalid : schema.validate = .ok () := by
    rcases hv with hv | ⟨text, settings, htext, rfl⟩
    · exact hv
    · exact validate_of_ofText htext
  have hread := ofRowBytes_readBack (nodup_of_validate hvalid) hr
  refine ⟨hread, ?_⟩
  intro d p hp hm
  have hstored : get? (Database.storeRows schema d p).progress a.bytes =
      some (r.rowBytes schema) := by
    rw [get?_storeRows schema a hp, get?_of_mem hp hm]
    rfl
  unfold Database.row
  simp only [hstored]
  exact hread

/-- Columns that are accepted, one of which is that of the status. -/
def usurped : ProgressSchema :=
  .ofList [(.fetchStarted, "current_status"), (.consistencyStarted, "begun")]

/-- A record of an account that has entered stages. -/
def enteredRecord (stages : List Stage) : ProgressRecord :=
  ⟨⟨7⟩, StageMap.ofList (stages.map fun s => (s, .epoch)), .consistencyStarted⟩

theorem rows_read_back_usurped :
    usurped.validate = .ok () ∧
      ProgressRecord.ofRowBytes usurped ⟨7⟩
          ((enteredRecord [.consistencyStarted]).rowBytes usurped) =
        .ok (enteredRecord [.consistencyStarted]) := by
  let r := enteredRecord [.consistencyStarted]
  have hvalid : usurped.validate = .ok () := by decide
  have hfits : Fitting usurped ⟨7⟩ r := ⟨rfl, fun s => by cases s <;> decide⟩
  have hregular : r.Regular := fun s => by cases s <;> decide
  have hread : ProgressRecord.ofRowBytes usurped ⟨7⟩ (r.rowBytes usurped) = .ok r.written :=
    (rows_read_back (.inl hvalid) hfits).1
  rw [ProgressRecord.written_of_regular hregular] at hread
  exact ⟨hvalid, hread⟩

/-- A row that is stored under accepted columns is not always read back, even if its instants are
given back as they are. -/
theorem not_rows_read_back :
    ¬ ∀ (schema : ProgressSchema) (a : AccountId) (r : ProgressRecord),
      schema.validate = .ok () → Fitting schema a r → r.Regular →
      ProgressRecord.ofRowBytes schema a (r.rowBytes schema) = .ok r := by
  intro hall
  let r := enteredRecord [.fetchStarted]
  have hvalid : usurped.validate = .ok () := by decide
  have hfits : Fitting usurped ⟨7⟩ r := ⟨rfl, fun s => by cases s <;> decide⟩
  have hregular : r.Regular := fun s => by cases s <;> decide
  have hread := hall usurped ⟨7⟩ r hvalid hfits hregular
  rw [ofRowBytes_readBack (nodup_of_validate hvalid) hfits] at hread
  cases hread

end Tenancy.Proofs
