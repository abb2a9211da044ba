import Tenancy.Proofs.Accounts
import Tenancy.Proofs.Rows

/-!
# Documents of records and settings

What is kept of accounts and of their progress, and the settings, is read back from the text of its
document: every name, every number and every instant of the calendar as it is written.
-/

namespace Tenancy.Proofs

open Json Json.Reader Text

section Options

variable {α : Type} {r : Reader α} {v : Value} {a : α}

/-- A value that begins neither with white space nor like `null`. -/
def Definite (v : Value) : Prop :=
  ∃ b bs, utf8 v.write = b :: bs ∧ isSpace b = false ∧ b ≠ 0x6E

lemma definite_number {x : Number} (hx : Whole x) : Definite (.number x) := by
  obtain ⟨b, bs, hbs, hb, hspace⟩ := whole_form hx
  refine ⟨b, bs, hbs, hspace, ?_⟩
  rintro rfl
  cases hb

lemma reads_none (r : Reader α) : Reads (option r) .null none := by
  intro rest place _
  have hform : utf8 (Value.write .null) = [0x6E, 0x75, 0x6C, 0x6C] := rfl
  rw [hform, option]
  exact ⟨_, bind_of_ok (peekSolid_cons rfl)⟩

lemma reads_some (hv : Definite v) (h : Reads r v a) : Reads (option r) v (some a) := by
  intro rest place hrest
  obtain ⟨b, bs, hbs, hspace, hb⟩ := hv
  obtain ⟨place', hr⟩ := h rest place hrest
  have hnull : ¬ some b = some 0x6E := by
    intro h
    exact hb (Option.some.inj h)
  refine ⟨place', ?_⟩
  rw [option]
  rw [hbs, List.cons_append] at hr ⊢
  apply (bind_of_ok (peekSolid_cons hspace)).trans
  rw [if_neg hnull]
  exact bind_of_ok hr

end Options

section Stages

variable {α β : Type}

lemma foldl_insert_entries (m : StageMap α) (stages : List Stage) (start : StageMap α) :
    (stages.filterMap fun s => (m s).map (s, ·)).foldl (fun m e => m.insert e.1 e.2) start =
      fun s => if s ∈ stages then (m s).or (start s) else start s := by
  induction stages generalizing start with
  | nil =>
    funext s
    rw [if_neg List.not_mem_nil]
    rfl
  | cons t stages ih =>
    cases ht : m t with
    | none =>
      rw [List.filterMap_cons_none (by rw [ht]; rfl), ih]
      funext s
      by_cases hs : s = t
      · simp [hs, ht]
      · simp [hs]
    | some a =>
      rw [List.filterMap_cons_some (b := (t, a)) (by rw [ht]; rfl), List.foldl_cons, ih]
      funext s
      by_cases hs : s = t
      · simp [hs, ht, StageMap.insert]
      · simp [hs, StageMap.insert]

/-- A map from stages is made of its entries. -/
lemma ofList_entries (m : StageMap α) : StageMap.ofList m.entries = m := by
  rw [StageMap.ofList, StageMap.entries, foldl_insert_entries]
  funext s
  rw [if_pos (Stage.mem_all s), StageMap.empty, Option.or_none]

lemma ofName_name (s : Stage) : Stage.ofName s.name = .ok s := by
  rw [Stage.ofName, Stage.ofName?_name]

lemma readsKey_stage (s : Stage) : ReadsKey Stage.keyReader s.name s := by
  intro rest place
  obtain ⟨place', hname⟩ := textBody_text s.name rest place
  refine ⟨place', ?_⟩
  rw [Stage.keyReader, located, bind_of_ok hname, ofName_name]
  rfl

lemma reads_stage (s : Stage) : Reads Stage.reader s.toJson s := by
  intro rest place hrest
  have htext : Reads (textAs .variantName Stage.ofName) (.text s.name) s :=
    reads_textAs (ofName_name s)
  obtain ⟨place', hname⟩ := htext rest place hrest
  refine ⟨place', ?_⟩
  rw [write_text, utf8_writeText] at hname
  rw [Stage.toJson, write_text, utf8_writeText, Stage.reader]
  apply (bind_of_ok (peekSolid_cons rfl)).trans
  exact hname

lemma entries_map (f : α → β) (m : StageMap α) :
    StageMap.entries (fun s => (m s).map f) = m.entries.map fun e => (e.1, f e.2) := by
  unfold StageMap.entries
  rw [List.map_filterMap]
  congr 1
  funext s
  rw [Option.map_map, Option.map_map]
  rfl

lemma reads_stageMap {r : Reader β} {toValue : α → Value} {f : α → β}
    (h : ∀ a, Reads r (toValue a) (f a)) (m : StageMap α) :
    Reads (StageMap.reader r) (StageMap.toJson toValue m) fun s => (m s).map f := by
  let es := m.entries.map fun e => ((e.1.name, toValue e.2), (e.1, f e.2))
  have hes : ∀ e ∈ es, ReadsKey Stage.keyReader e.1.1 e.2.1 ∧ Reads r e.1.2 e.2.2 := by
    intro e he
    obtain ⟨⟨s, a⟩, -, rfl⟩ := List.mem_map.mp he
    exact ⟨readsKey_stage s, h a⟩
  have hvalues : es.map Prod.fst = m.entries.map fun e => (e.1.name, toValue e.2) := List.map_map
  have hentries : es.map Prod.snd = StageMap.entries fun s => (m s).map f := by
    rw [List.map_map, entries_map]
    rfl
  have hmap := (reads_map hes).map StageMap.ofList
  rw [hvalues, hentries, ofList_entries] at hmap
  exact hmap

end Stages

lemma reads_instant (i : Instant) : Reads Reader.instant i.toJson i.written := by
  apply reads_textAs
  rw [instantOf, read_text]
  rfl

lemma reads_progress (r : ProgressRecord) : Reads ProgressRecord.reader r.toJson r.written := by
  apply reads_record "ProgressRecord"
  refine .entry rfl (by decide) (((reads_int64 r.account.value).map _).map _) ?_
  refine .entry rfl (by decide) ((reads_stageMap reads_instant r.entered).map _) ?_
  refine .entry rfl (by decide) ((reads_stage r.status).map _) ?_
  exact .done rfl

lemma reads_uint64 (n : UInt64) : Reads uint64 (.number (.natural n)) n :=
  reads_number (x := .natural n) trivial rfl

lemma reads_limit (n : Option UInt64) :
    Reads (option Reader.size) (ResolverConfig.limitToJson n) n := by
  cases n with
  | none => exact reads_none Reader.size
  | some n =>
    apply reads_some (definite_number (x := .natural n) trivial)
    exact reads_number (x := .natural n) trivial rfl

lemma reads_resolverConfig (c : ResolverConfig) : Reads ResolverConfig.reader c.toJson c := by
  apply reads_record "ResolverConfig"
  refine .entry rfl (by decide) ((reads_uint64 c.ttlSecs).map _) ?_
  refine .entry rfl (by decide) ((reads_limit c.maxEntries).map _) ?_
  refine .entry rfl (by decide) ((reads_flag c.coalesce).map _) ?_
  refine .entry rfl (by decide) ((reads_uint64 c.joinTimeoutMs).map _) ?_
  exact .done rfl

lemma reads_schema (schema : ProgressSchema) :
    Reads ProgressSchema.reader schema.toJson schema := by
  have hcolumns := reads_stageMap (f := id) reads_text schema.columns
  simp only [Option.map_id_fun, id_eq] at hcolumns
  exact hcolumns.map _

lemma reads_settings (s : Settings) : Reads Settings.reader s.toJson s := by
  apply reads_record "Settings"
  refine .entry rfl (by decide) ((reads_resolverConfig s.resolver).map _) ?_
  refine .entry rfl (by decide) ((reads_schema s.progress).map _) ?_
  exact .done rfl

lemma Reads.ofText {α : Type} {r : Reader α} {v : Value} {a : α} (h : Reads r v a) :
    r.document (bytesOf v.toText) = .ok a := by
  rw [bytesOf, Value.toText, String.toList_ofList]
  exact h.document

/-- Accounts, progress and settings are read back from the texts of their documents, whatever texts,
numbers, features, stages and columns they hold. Progress is read with every instant as it is
written, which is the same progress if all leap seconds end minutes, and only then. -/
theorem documents_read_back :
    (∀ r : AccountRecord, AccountRecord.reader.document (bytesOf r.toJson.toText) = .ok r) ∧
    (∀ r : ProgressRecord,
      ProgressRecord.reader.document (bytesOf r.toJson.toText) = .ok r.written ∧
        (r.written = r ↔ r.Regular)) ∧
    ∀ s : Settings, Settings.reader.document (bytesOf s.toJson.toText) = .ok s := by
  constructor
  · intro r
    exact (reads_account r).ofText
  constructor
  · intro r
    exact ⟨(reads_progress r).ofText, ProgressRecord.written_eq_self⟩
  · intro s
    exact (reads_settings s).ofText

/-- Progress with a leap second within a minute is not read back from its text. -/
theorem not_documents_read_back :
    ¬ ∀ r : ProgressRecord,
      ProgressRecord.reader.document (bytesOf r.toJson.toText) = .ok r := by
  intro hall
  let r : ProgressRecord := ⟨⟨7⟩, StageMap.ofList [(.fetchStarted, midMinute)], .fetchStarted⟩
  have hread := hall r
  rw [(reads_progress r).ofText] at hread
  exact absurd (Except.ok.inj hread) (by decide)

end Tenancy.Proofs
