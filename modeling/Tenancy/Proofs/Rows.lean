import Mathlib.Data.List.Nodup
import Mathlib.Data.Set.List
import Tenancy.Proofs.Records
import Tenancy.Proofs.Rfc3339
import Tenancy.Proofs.Table
import Tenancy.Proofs.Transactions
import Tenancy.Storage.Database

/-!
# Rows of a database

A row that a database stores under columns that are all different is read back as the record that
it was made of, with every instant as it is written, so a database keeps the rows that are committed
to it.
-/

namespace Tenancy.ProgressRecord

variable {r : ProgressRecord}

/-- Every leap second in which an instant of the record lies ends a minute. -/
def Regular (r : ProgressRecord) : Prop :=
  ∀ s, ∀ i ∈ r.entered s, i.Regular

/-- The record with every instant as it is written. -/
def written (r : ProgressRecord) : ProgressRecord :=
  { r with entered := fun s => (r.entered s).map Instant.written }

lemma written_of_regular (h : r.Regular) : r.written = r := by
  unfold written
  congr 1
  funext s
  cases hs : r.entered s with
  | none => rfl
  | some i => rw [Option.map_some, Instant.written_of_regular (h s i hs)]

lemma regular_written (r : ProgressRecord) : r.written.Regular := by
  intro s i hi
  obtain ⟨j, -, rfl⟩ := Option.map_eq_some_iff.mp hi
  exact j.regular_written

lemma written_eq_self : r.written = r ↔ r.Regular :=
  ⟨fun h => h ▸ regular_written r, written_of_regular⟩

lemma written_written (r : ProgressRecord) : r.written.written = r.written :=
  written_of_regular (regular_written r)

lemma Regular.insert (h : r.Regular) (s : Stage) {i : Instant} (hi : i.Regular) :
    Regular { r with entered := r.entered.insert s i } := by
  intro t j hj
  by_cases hts : t = s
  · obtain rfl : i = j := by simpa [StageMap.insert, hts] using hj
    exact hi
  · refine h t j ?_
    simpa [StageMap.insert, hts] using hj

end Tenancy.ProgressRecord

namespace Tenancy.Proofs

open Json Table

section Sorted

variable {α : Type} {es t : Table String α}

lemma get?_foldl_insertSorted (h : (keys es).Nodup) (t : Table String α) (k : String) :
    get? (es.foldl (fun t e => insertSorted (fun a b => a < b) e.1 e.2 t) t) k =
      (get? es k).or (get? t k) :=
  get?_foldl (fun t k j v => get?_insertSorted _ k v t j) es t h k

lemma mem_of_mem_foldl_insertSorted {e : String × α}
    (h : e ∈ es.foldl (fun t e => insertSorted (fun a b => a < b) e.1 e.2 t) t) :
    e ∈ es ∨ e ∈ t := by
  induction es generalizing t with
  | nil => exact .inr h
  | cons d es ih =>
    rcases ih h with he | he
    · exact .inl (List.mem_cons_of_mem d he)
    · rcases mem_of_mem_insertSorted he with rfl | he
      · exact .inl List.mem_cons_self
      · exact .inr he

lemma mem_of_mem_sortEntries {e : String × α} (h : e ∈ Reader.sortEntries es) : e ∈ es :=
  (mem_of_mem_foldl_insertSorted h).resolve_right List.not_mem_nil

lemma ascending_sortEntries (es : Table String α) : Ascending (Reader.sortEntries es) := by
  have hfold : ∀ t : Table String α, Ascending t →
      Ascending (es.foldl (fun t e => insertSorted (fun a b => a < b) e.1 e.2 t) t) := by
    induction es with
    | nil => exact fun t ht => ht
    | cons e es ih => exact fun t ht => ih _ (ht.insertSorted e.1 e.2)
  exact hfold [] List.Pairwise.nil

lemma sortEntries_perm (h : (keys es).Nodup) : (Reader.sortEntries es).Perm es := by
  apply perm_of_get? (ascending_sortEntries es).nodup h
  intro k
  rw [Reader.sortEntries, get?_foldl_insertSorted h]
  exact Option.or_none

/-- An entry is lost to a later one of the same key. -/
lemma sortEntries_cons_perm {e : String × α} (he : e.1 ∈ keys es) (h : (keys es).Nodup) :
    (Reader.sortEntries (e :: es)).Perm es := by
  apply perm_of_get? (ascending_sortEntries _).nodup h
  intro k
  rw [Reader.sortEntries, List.foldl_cons, get?_foldl_insertSorted h]
  by_cases hk : k = e.1
  · obtain ⟨a, ha⟩ := Option.ne_none_iff_exists'.mp (mt get?_eq_none.mp (not_not.mpr he))
    rw [hk, ha, Option.some_or]
  · rw [insertSorted, get?_cons, if_neg (Ne.symm hk)]
    exact Option.or_none

end Sorted

section Columns

variable {schema : ProgressSchema} {s : Stage} {column : String} {r q : ProgressRecord}

/-- The columns of a database are all different, and none of them is that of the status. -/
structure Distinct (schema : ProgressSchema) : Prop where
  nodup : (schema.entries.map Prod.snd).Nodup
  status : ProgressRecord.statusColumn ∉ schema.entries.map Prod.snd

/-- A record of an account with instants for stages that have a column. -/
structure Fitting (schema : ProgressSchema) (a : AccountId) (r : ProgressRecord) : Prop where
  account : r.account = a
  entered : ∀ s, (r.entered s).isSome → (schema.column? s).isSome

lemma mem_entries : (s, column) ∈ schema.entries ↔ schema.column? s = some column := by
  unfold ProgressSchema.entries StageMap.entries ProgressSchema.column?
  rw [List.mem_filterMap]
  constructor
  · rintro ⟨t, -, ht⟩
    obtain ⟨c, hc, he⟩ := Option.map_eq_some_iff.mp ht
    obtain ⟨rfl, rfl⟩ := Prod.mk.inj he
    exact hc
  · intro h
    exact ⟨s, Stage.mem_all s, by rw [h]; rfl⟩

lemma column?_of_stageOf? (h : schema.stageOf? column = some s) :
    schema.column? s = some column := by
  obtain ⟨e, he, rfl⟩ := Option.map_eq_some_iff.mp h
  have hc : e.2 = column := by simpa using List.find?_some he
  rw [← hc]
  exact mem_entries.mp (List.mem_of_find?_eq_some he)

lemma stageOf?_of_column? (hd : (schema.entries.map Prod.snd).Nodup)
    (h : schema.column? s = some column) :
    schema.stageOf? column = some s := by
  have hmem : (s, column) ∈ schema.entries := mem_entries.mpr h
  cases hs : schema.stageOf? column with
  | none =>
    rw [ProgressSchema.stageOf?, Option.map_eq_none_iff, List.find?_eq_none] at hs
    exact absurd (hs _ hmem) (by simp)
  | some t =>
    have ht : (t, column) ∈ schema.entries := mem_entries.mpr (column?_of_stageOf? hs)
    have he : (t, column) = (s, column) := List.inj_on_of_nodup_map hd ht hmem rfl
    rw [(Prod.mk.inj he).1]

lemma ofValue_toJson (i : Instant) : Instant.ofValue i.toJson = .ok i.written := by
  rw [Instant.toJson, Instant.ofValue, Reader.instantOf, read_text]
  rfl

/-- Instants as the values of columns. -/
def instantValues (is : Table String Instant) : List (String × Value) :=
  is.map fun e => (e.1, e.2.toJson)

lemma bind_get?_cons (hd : (schema.entries.map Prod.snd).Nodup)
    (h : schema.stageOf? column ≠ some s) (i : Instant) (is : Table String Instant) :
    (schema.column? s).bind (get? ((column, i) :: is)) = (schema.column? s).bind (get? is) := by
  cases hc : schema.column? s with
  | none => rfl
  | some c =>
    have hne : column ≠ c := by
      rintro rfl
      exact h (stageOf?_of_column? hd hc)
    rw [Option.bind_some, Option.bind_some, get?_cons, if_neg hne]

/-- The columns that a schema names are read into a record, over what the record held before. -/
lemma foldlM_addColumn (hd : (schema.entries.map Prod.snd).Nodup) {is : Table String Instant}
    (his : (keys is).Nodup) (q : ProgressRecord) :
    (instantValues is).foldlM (ProgressRecord.addColumn schema) q =
      .ok { q with entered := fun s =>
        (((schema.column? s).bind (get? is)).map Instant.written).or (q.entered s) } := by
  -- On the columns that are left: each sets the instant of its own stage, which no other one sets.
  induction is generalizing q with
  | nil =>
    have hnone : ∀ s, (schema.column? s).bind (get? ([] : Table String Instant)) = none := by
      intro s
      cases schema.column? s <;> rfl
    simp only [hnone, Option.map_none, Option.none_or]
    rfl
  | cons e is ih =>
    obtain ⟨column, i⟩ := e
    rw [keys, List.map_cons, List.nodup_cons] at his
    have hcons : instantValues ((column, i) :: is) = (column, i.toJson) :: instantValues is := rfl
    rw [hcons, List.foldlM_cons, ProgressRecord.addColumn]
    cases hs : schema.stageOf? column with
    | none =>
      have hother : ∀ s, (schema.column? s).bind (get? ((column, i) :: is)) =
          (schema.column? s).bind (get? is) :=
        fun s => bind_get?_cons hd (by rw [hs]; exact Option.some_ne_none s |>.symm) i is
      simp only [hother]
      exact ih his.2 q
    | some t =>
      have hvalue : Instant.ofValue i.toJson = .ok i.written := ofValue_toJson i
      simp only [hvalue]
      refine (ih his.2 { q with entered := q.entered.insert t i.written }).trans ?_
      congr 2
      funext s
      by_cases hst : s = t
      · subst hst
        have hgone : get? is column = none := get?_eq_none.mpr his.1
        simp [column?_of_stageOf? hs, StageMap.insert, get?_cons, hgone]
      · have hother : schema.stageOf? column ≠ some s := by
          rw [hs]
          exact fun heq => hst (Option.some.inj heq).symm
        rw [bind_get?_cons hd hother]
        simp [StageMap.insert, hst]

lemma ok_of_mapError {α ε ε' : Type} {e : Except ε α} {f : ε → ε'} {a : α}
    (h : e.mapError f = .ok a) : e = .ok a := by
  cases e with
  | ok b => rw [Except.ok.inj h]
  | error m => cases h

lemma ok_of_bind {α β ε : Type} {x : Except ε α} {f : α → Except ε β} {b : β}
    (h : (x >>= f) = .ok b) : ∃ a, x = .ok a ∧ f a = .ok b := by
  cases x with
  | error e => cases h
  | ok a => exact ⟨a, rfl, h⟩

lemma regular_of_ofValue {v : Value} {i : Instant} (h : Instant.ofValue v = .ok i) :
    i.Regular := by
  cases v with
  | text text => exact regular_of_read (ok_of_mapError h)
  | _ => cases h

lemma of_ofRowBytes {P : ProgressRecord → Prop} {a : AccountId} {bs : List UInt8}
    (hnew : ∀ s, P (.new a s))
    (hinsert : ∀ q s i, (schema.column? s).isSome → i.Regular → P q →
      P { q with entered := q.entered.insert s i })
    (h : ProgressRecord.ofRowBytes schema a bs = .ok r) : P r := by
  have hcolumns : ∀ (cs : List (String × Value)) q q',
      cs.foldlM (ProgressRecord.addColumn schema) q = .ok q' → P q → P q' := by
    intro cs
    induction cs with
    | nil =>
      intro q q' hcs hq
      rwa [← Except.ok.inj hcs]
    | cons e cs ih =>
      intro q q' hcs hq
      rw [List.foldlM_cons] at hcs
      obtain ⟨p, hadd, hcs⟩ := ok_of_bind hcs
      refine ih p q' hcs ?_
      unfold ProgressRecord.addColumn at hadd
      split at hadd
      · rename_i s hs
        obtain ⟨i, hi, hp⟩ := ok_of_bind hadd
        rw [← Except.ok.inj hp]
        have hcolumn : (schema.column? s).isSome := by
          rw [column?_of_stageOf? hs]
          rfl
        exact hinsert q s i hcolumn (regular_of_ofValue hi) hq
      · rwa [← Except.ok.inj hadd]
  unfold ProgressRecord.ofRowBytes at h
  split at h
  · unfold ProgressRecord.ofRow at h
    split at h
    · cases h
    · unfold ProgressRecord.ofColumns at h
      obtain ⟨stage, -, h⟩ := ok_of_bind (ok_of_mapError h)
      exact hcolumns _ _ _ h (hnew stage)
  · cases h

lemma fitting_of_row {a : AccountId} {bs : List UInt8}
    (h : ProgressRecord.ofRowBytes schema a bs = .ok r) : Fitting schema a r := by
  refine of_ofRowBytes ?_ ?_ h
  · intro s
    exact ⟨rfl, by simp [ProgressRecord.new, StageMap.empty]⟩
  · intro q s i hs _ hq
    refine ⟨hq.account, ?_⟩
    intro t ht
    by_cases hts : t = s
    · rwa [hts]
    · refine hq.entered t ?_
      simpa [StageMap.insert, hts] using ht

lemma regular_of_row {a : AccountId} {bs : List UInt8}
    (h : ProgressRecord.ofRowBytes schema a bs = .ok r) : r.Regular := by
  refine of_ofRowBytes ?_ ?_ h
  · intro s t i hi
    cases hi
  · exact fun q s i _ hi hq => hq.insert s hi

/-- A record that fits still does when it is moved, since an instant needs a column. -/
lemma fitting_move {a : AccountId} {before : Option ProgressRecord} {instant : Instant}
    (h : ∀ r ∈ before, Fitting schema a r) : Fitting schema a (.move schema a before s instant) := by
  have hbefore : Fitting schema a (before.getD (.new a s)) := by
    cases before with
    | none => exact ⟨rfl, by simp [ProgressRecord.new, StageMap.empty]⟩
    | some r => exact h r rfl
  unfold ProgressRecord.move
  simp only
  split
  · rename_i hc
    refine ⟨hbefore.account, ?_⟩
    intro t ht
    by_cases hts : t = s
    · rwa [hts]
    · refine hbefore.entered t ?_
      simpa [StageMap.insert, hts] using ht
  · exact ⟨hbefore.account, hbefore.entered⟩

/-- A record that fits and is written as it is. -/
structure Lasting (schema : ProgressSchema) (a : AccountId) (r : ProgressRecord) : Prop
    extends Fitting schema a r where
  regular : r.Regular

lemma lasting_move {a : AccountId} {before : Option ProgressRecord} {instant : Instant}
    (h : ∀ r ∈ before, Lasting schema a r) (hi : instant.Regular) :
    Lasting schema a (.move schema a before s instant) where
  toFitting := fitting_move fun r hr => (h r hr).toFitting
  regular := by
    have hbefore : (before.getD (.new a s)).Regular := by
      cases before with
      | none => exact fun t i hi => nomatch hi
      | some r => exact (h r rfl).regular
    unfold ProgressRecord.move
    dsimp only
    split
    · exact hbefore.insert s hi
    · exact hbefore

end Columns

section RoundTrip

variable {schema schema' : ProgressSchema} {r : ProgressRecord} {a : AccountId} {column : String}

/-- The instants of a record in the columns of a schema. -/
def instantsOf (schema : ProgressSchema) (r : ProgressRecord) : Table String Instant :=
  schema.entries.filterMap fun e => (r.entered e.1).map fun i => (e.2, i)

lemma columnEntries_eq (schema : ProgressSchema) (r : ProgressRecord) :
    r.columnEntries schema = instantValues (instantsOf schema r) := by
  unfold ProgressRecord.columnEntries instantValues instantsOf
  rw [List.map_filterMap]
  congr 1
  funext e
  cases r.entered e.1 <;> rfl

lemma keys_instantsOf (schema : ProgressSchema) (r : ProgressRecord) :
    (keys (instantsOf schema r)).Sublist (schema.entries.map Prod.snd) := by
  unfold instantsOf
  induction schema.entries with
  | nil => exact .slnil
  | cons e es ih =>
    cases hr : r.entered e.1 with
    | none =>
      rw [List.filterMap_cons_none (by rw [hr]; rfl), List.map_cons]
      exact ih.cons e.2
    | some i =>
      rw [List.filterMap_cons_some (by rw [hr]; rfl), List.map_cons]
      exact ih.cons_cons e.2

lemma mem_instantsOf {i : Instant} :
    (column, i) ∈ instantsOf schema r ↔
      ∃ s, schema.column? s = some column ∧ r.entered s = some i := by
  unfold instantsOf
  rw [List.mem_filterMap]
  constructor
  · rintro ⟨⟨s, c⟩, hm, he⟩
    obtain ⟨j, hj, heq⟩ := Option.map_eq_some_iff.mp he
    obtain ⟨rfl, rfl⟩ := Prod.mk.inj heq
    exact ⟨s, mem_entries.mp hm, hj⟩
  · rintro ⟨s, hs, hi⟩
    exact ⟨(s, column), mem_entries.mpr hs, by rw [hi]; rfl⟩

lemma get?_instantsOf (hd : (schema.entries.map Prod.snd).Nodup) (column : String) :
    get? (instantsOf schema r) column = (schema.stageOf? column).bind r.entered := by
  have hnodup : (keys (instantsOf schema r)).Nodup := hd.sublist (keys_instantsOf schema r)
  apply Option.ext
  intro i
  rw [← mem_iff_get? hnodup (e := (column, i)), mem_instantsOf, Option.bind_eq_some_iff]
  constructor
  · rintro ⟨s, hs, hi⟩
    exact ⟨s, stageOf?_of_column? hd hs, hi⟩
  · rintro ⟨s, hs, hi⟩
    exact ⟨s, column?_of_stageOf? hs, hi⟩

/-- The entries of a row before they are put in order. -/
def rowEntries (schema : ProgressSchema) (r : ProgressRecord) : List (String × Value) :=
  (ProgressRecord.statusColumn, r.status.toJson) :: r.columnEntries schema

lemma exists_values {α : Type} {f : α → Value} {es : List (String × Value)}
    (h : ∀ e ∈ es, ∃ a, e.2 = f a) : ∃ as : Table String α, es = as.map fun e => (e.1, f e.2) := by
  have hrange : es ∈ Set.range (List.map fun d : String × α => (d.1, f d.2)) := by
    rw [Set.range_list_map]
    intro e he
    obtain ⟨a, ha⟩ := h e he
    exact ⟨(e.1, a), Prod.ext rfl ha.symm⟩
  obtain ⟨as, has⟩ := hrange
  exact ⟨as, has.symm⟩

lemma get?_values {α : Type} (f : α → Value) (as : Table String α) (k : String) :
    get? (as.map fun e => (e.1, f e.2)) k = (get? as k).map f :=
  get?_map Function.injective_id f as k

lemma exists_instant_of_mem {e : String × Value} (h : e ∈ r.columnEntries schema) :
    ∃ i : Instant, e.2 = i.toJson := by
  rw [columnEntries_eq] at h
  obtain ⟨d, -, rfl⟩ := List.mem_map.mp h
  exact ⟨d.2, rfl⟩

lemma rowReader_rowBytes (schema : ProgressSchema) (r : ProgressRecord) :
    ∃ columns, ProgressRecord.rowReader.document (r.rowBytes schema) = .ok columns ∧
      columns.Perm (Reader.sortEntries (rowEntries schema r)) := by
  have htext : ∀ e ∈ Reader.sortEntries (rowEntries schema r), ∃ s, e.2 = .text s := by
    intro e he
    rcases List.mem_cons.mp (mem_of_mem_sortEntries he) with rfl | hm
    · exact ⟨_, rfl⟩
    · obtain ⟨i, hi⟩ := exists_instant_of_mem hm
      exact ⟨_, hi⟩
  refine ⟨Reader.sortEntries (Reader.sortEntries (rowEntries schema r)), ?_, ?_⟩
  · exact ((reads_texts (Reader.depthLimit - 1) htext).map Reader.sortEntries).document
  · exact sortEntries_perm (ascending_sortEntries _).nodup

/-- A record whose row was written under one schema, as it is read under another one. -/
def rereadUnder (schema schema' : ProgressSchema) (a : AccountId) (r : ProgressRecord) :
    ProgressRecord where
  account := a
  entered s := (schema'.column? s).bind fun column => (schema.stageOf? column).bind r.entered
  status := r.status

lemma map_written_of_map_toJson {x y : Option Instant}
    (h : x.map Instant.toJson = y.map Instant.toJson) :
    x.map Instant.written = y.map Instant.written := by
  cases x with
  | none =>
    cases y with
    | none => rfl
    | some j => cases h
  | some i =>
    cases y with
    | none => cases h
    | some j =>
      have hvalue := congrArg Instant.ofValue (Option.some.inj h)
      rw [ofValue_toJson, ofValue_toJson] at hvalue
      exact congrArg some (Except.ok.inj hvalue)

/-- The columns of a row are read in whatever order they are. -/
lemma ofColumns_instants (hd : (schema.entries.map Prod.snd).Nodup)
    (hd' : (schema'.entries.map Prod.snd).Nodup) {cs : List (String × Value)}
    (h : cs.Perm (r.columnEntries schema)) :
    ProgressRecord.ofColumns schema' a r.status.toJson cs =
      .ok (rereadUnder schema schema' a r.written) := by
  have hkeys : keys (r.columnEntries schema) = keys (instantsOf schema r) := by
    rw [columnEntries_eq, keys, instantValues, List.map_map]
    rfl
  have hnodup : (keys cs).Nodup := by
    rw [(keys_perm h).nodup_iff, hkeys]
    exact hd.sublist (keys_instantsOf schema r)
  obtain ⟨is, rfl⟩ : ∃ is, cs = instantValues is :=
    exists_values fun e he => exists_instant_of_mem (h.mem_iff.mp he)
  have his : (keys is).Nodup := by
    rw [keys, instantValues, List.map_map] at hnodup
    exact hnodup
  have hget : ∀ column, (get? is column).map Instant.written =
      (schema.stageOf? column).bind r.written.entered := by
    intro column
    have hvalues : (get? is column).map Instant.toJson =
        (get? (instantsOf schema r) column).map Instant.toJson := by
      rw [← get?_values, ← get?_values]
      rw [columnEntries_eq] at h
      exact get?_perm h hnodup column
    rw [map_written_of_map_toJson hvalues, get?_instantsOf hd, Option.map_bind]
    rfl
  have hstage : Stage.ofValue r.status.toJson = .ok r.status := by
    rw [Stage.toJson, Stage.ofValue, Stage.ofName, Stage.ofName?_name]
  rw [ProgressRecord.ofColumns, hstage]
  refine (foldlM_addColumn hd' his _).trans ?_
  congr 2
  funext s
  rw [Option.map_bind, show Option.map Instant.written ∘ get? is = _ from funext hget]
  exact Option.or_none

/-- A row is read as far as the columns with which it was written are still there, unless one of
them takes the place of the status. -/
theorem ofRowBytes_rowBytes_under (hd : (schema.entries.map Prod.snd).Nodup)
    (hd' : (schema'.entries.map Prod.snd).Nodup)
    (hs : ProgressRecord.statusColumn ∉ keys (r.columnEntries schema)) :
    ProgressRecord.ofRowBytes schema' a (r.rowBytes schema) =
      .ok (rereadUnder schema schema' a r.written) := by
  have hkeys : (keys (rowEntries schema r)).Nodup := by
    rw [rowEntries, keys, List.map_cons, List.nodup_cons]
    refine ⟨hs, ?_⟩
    rw [columnEntries_eq, instantValues, List.map_map]
    exact hd.sublist (keys_instantsOf schema r)
  obtain ⟨columns, hread, hperm⟩ := rowReader_rowBytes schema r
  have hrow : columns.Perm (rowEntries schema r) := hperm.trans (sortEntries_perm hkeys)
  have hnodup : (keys columns).Nodup := (keys_perm hrow).nodup_iff.mpr hkeys
  have hstatus : get? columns ProgressRecord.statusColumn = some r.status.toJson :=
    get?_of_mem hnodup (hrow.mem_iff.mpr List.mem_cons_self)
  have hrest : (erase columns ProgressRecord.statusColumn).Perm (r.columnEntries schema) := by
    have herase : erase (rowEntries schema r) ProgressRecord.statusColumn =
        r.columnEntries schema := by
      rw [rowEntries, erase, List.filter_cons_of_neg (by simp)]
      exact erase_of_notMem hs
    rw [← herase]
    exact hrow.filter _
  rw [ProgressRecord.ofRowBytes, hread]
  simp only
  rw [ProgressRecord.ofRow, hstatus]
  simp only
  rw [ofColumns_instants hd hd' hrest]
  rfl

lemma rereadUnder_self (hd : (schema.entries.map Prod.snd).Nodup) (hr : Fitting schema a r) :
    rereadUnder schema schema a r = r := by
  obtain ⟨account, entered, status⟩ := r
  have haccount : account = a := hr.account
  unfold rereadUnder
  rw [haccount]
  congr 1
  funext s
  cases hc : schema.column? s with
  | none =>
    have hnone : entered s = none := by
      by_contra hne
      have hcolumn := hr.entered s (Option.isSome_iff_ne_none.mpr hne)
      rw [hc] at hcolumn
      cases hcolumn
    rw [hnone]
    rfl
  | some column => rw [Option.bind_some, stageOf?_of_column? hd hc, Option.bind_some]

lemma Distinct.status_notMem (hd : Distinct schema) (r : ProgressRecord) :
    ProgressRecord.statusColumn ∉ keys (r.columnEntries schema) := by
  rw [columnEntries_eq, keys, instantValues, List.map_map]
  exact fun hm => hd.status ((keys_instantsOf schema r).subset hm)

lemma Fitting.written (h : Fitting schema a r) : Fitting schema a r.written where
  account := h.account
  entered s hs := by
    refine h.entered s ?_
    rwa [ProgressRecord.written, Option.isSome_map] at hs

/-- A row is read back as the record that it was made of, as it is written. -/
theorem ofRowBytes_rowBytes (hd : Distinct schema) (hr : Fitting schema a r) :
    ProgressRecord.ofRowBytes schema a (r.rowBytes schema) = .ok r.written := by
  rw [ofRowBytes_rowBytes_under hd.nodup hd.nodup (hd.status_notMem r),
    rereadUnder_self hd.nodup hr.written]

end RoundTrip

lemma wordBytes_injective : Function.Injective Text.wordBytes := by
  intro m n h
  have hword := congrArg Text.wordOfBytes? h
  rw [Text.wordOfBytes?_wordBytes, Text.wordOfBytes?_wordBytes] at hword
  exact Option.some.inj hword

lemma bytes_injective : Function.Injective AccountId.bytes :=
  fun _ _ h => congrArg AccountId.mk (wordBytes_injective h)

lemma ofBytes?_bytes (a : AccountId) : AccountId.ofBytes? a.bytes = some a := by
  rw [AccountId.ofBytes?, AccountId.bytes, Text.wordOfBytes?_wordBytes, Option.map_some]

lemma get?_storeRows (schema : ProgressSchema) (a : AccountId) {p : Table AccountId ProgressRecord}
    (hp : (keys p).Nodup) (d : Directory) :
    get? (Database.storeRows schema d p).progress a.bytes =
      ((get? p a).map fun r => r.rowBytes schema).or (get? d.progress a.bytes) := by
  induction p generalizing d with
  | nil => rfl
  | cons e p ih =>
    rw [keys, List.map_cons, List.nodup_cons] at hp
    have hput : get? (d.put .progress e.1.bytes (e.2.rowBytes schema)).progress a.bytes =
        if a.bytes = e.1.bytes then some (e.2.rowBytes schema) else get? d.progress a.bytes :=
      get?_insertSorted _ _ _ _ _
    have hstep : Database.storeRows schema d (e :: p) =
        Database.storeRows schema (d.put .progress e.1.bytes (e.2.rowBytes schema)) p := rfl
    rw [hstep, ih hp.2, hput, get?_cons]
    by_cases ha : e.1 = a
    · subst ha
      rw [if_pos rfl, if_pos rfl, get?_eq_none.mpr hp.1]
      rfl
    · have hne : a.bytes ≠ e.1.bytes := fun hb => ha (bytes_injective hb).symm
      rw [if_neg ha, if_neg hne]

lemma exists_rowBytes {b : Database} {a : AccountId} {r : ProgressRecord}
    (h : RowStore.row b a = .ok r) :
    ∃ bs, ProgressRecord.ofRowBytes b.schema a bs = .ok r := by
  change Database.row b a = .ok r at h
  unfold Database.row at h
  split at h
  · exact ⟨_, h⟩
  · cases h

/-- A database keeps rows as they are written under columns that are all different. -/
instance : RowKeeper Database where
  Sound := Distinct
  Fits := Fitting
  kept := ProgressRecord.written
  schema_commit _ _ := rfl
  ready_commit _ _ _ := ⟨rfl, rfl⟩
  fits_row s a r h := by
    obtain ⟨bs, hbs⟩ := exists_rowBytes h
    exact fitting_of_row hbs
  kept_row s a r h := by
    obtain ⟨bs, hbs⟩ := exists_rowBytes h
    exact ProgressRecord.written_of_regular (regular_of_row hbs)
  fits_move _ _ _ _ _ h := fitting_move h
  row_commit s p hd hp hfits := by
    funext a
    change Database.row (s.withDirectory (Database.storeRows s.schema s.directory p)) a =
      (overlay (Database.row s) p a).map ProgressRecord.written
    have hstored := get?_storeRows s.schema a hp s.directory
    cases hpa : get? p a with
    | none =>
      rw [overlay_of_notMem (get?_eq_none.mp hpa)]
      rw [hpa] at hstored
      have hsame : Database.row (s.withDirectory (Database.storeRows s.schema s.directory p)) a =
          Database.row s a := by
        unfold Database.row
        simp only [Database.withDirectory]
        rw [hstored]
        rfl
      rw [hsame]
      cases hr : Database.row s a with
      | error e => rfl
      | ok r =>
        obtain ⟨bs, hbs⟩ := exists_rowBytes hr
        rw [Except.map, ProgressRecord.written_of_regular (regular_of_row hbs)]
    | some r =>
      rw [hpa] at hstored
      have hread := ofRowBytes_rowBytes hd (hfits a r (mem_of_get? hpa))
      unfold Database.row overlay
      simp only [Database.withDirectory, hpa]
      rw [hstored]
      exact hread

end Tenancy.Proofs
