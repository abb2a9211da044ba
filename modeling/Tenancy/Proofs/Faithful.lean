import Tenancy.Proofs.Undisturbed
import Tenancy.Storage.Memory

/-!
# Stores that are faithful

A store in memory to which only rows that last were committed, and a database whose progress was
written under its own columns, keep what is committed to them and list all of it in one order.
-/

namespace Tenancy.Proofs

open Table

section Listings

variable {rows : Rows} {rs rs' : List ProgressRecord}

/-- All rows, each of them once, in ascending order of their accounts. -/
structure Listing (rows : Rows) (rs : List ProgressRecord) : Prop where
  ascending : rs.Pairwise fun r s => r.account.value < s.account.value
  mem : ∀ r, r ∈ rs ↔ rows r.account = .ok r

section Ascending

variable {α : Type} {l l' : List α}

lemma nodup_of_ascending (f : α → AccountId)
    (h : l.Pairwise fun x y => (f x).value < (f y).value) : l.Nodup := by
  refine h.imp ?_
  rintro x _ hlt rfl
  exact Int64.lt_irrefl hlt

/-- What belongs to different accounts can be listed in ascending order of these in one way only. -/
lemma eq_of_ascending (f : α → AccountId)
    (h : l.Pairwise fun x y => (f x).value < (f y).value)
    (h' : l'.Pairwise fun x y => (f x).value < (f y).value) (hmem : ∀ x, x ∈ l ↔ x ∈ l') :
    l = l' := by
  have hperm : l.Perm l' :=
    (List.perm_ext_iff_of_nodup (nodup_of_ascending f h) (nodup_of_ascending f h')).mpr hmem
  refine hperm.eq_of_pairwise ?_ h h'
  intro x y _ _ hxy hyx
  exact absurd hyx (Std.not_lt.mpr (Std.le_of_lt hxy))

/-- What belongs to different accounts is sorted into ascending order of these. -/
lemma ascending_mergeSort (f : α → AccountId) (h : (l.map f).Nodup) :
    (l.mergeSort fun x y => (f x).value ≤ (f y).value).Pairwise
      fun x y => (f x).value < (f y).value := by
  let le : α → α → Bool := fun x y => (f x).value ≤ (f y).value
  have hle : (l.mergeSort le).Pairwise fun x y => le x y = true := by
    refine List.pairwise_mergeSort ?_ ?_ l
    · intro x y z hxy hyz
      exact decide_eq_true (Int64.le_trans (of_decide_eq_true hxy) (of_decide_eq_true hyz))
    · intro x y
      simpa [le] using Int64.le_total (f x).value (f y).value
  have hne : (l.mergeSort le).Pairwise fun x y => f x ≠ f y :=
    List.pairwise_map.mp (((List.mergeSort_perm l le).map _).nodup_iff.mpr h)
  refine hle.imp₂ ?_ hne
  intro x y hxy hneq
  refine Std.lt_of_le_of_ne (of_decide_eq_true hxy) ?_
  intro hvalue
  exact hneq (congrArg AccountId.mk hvalue)

end Ascending

/-- Rows can be listed in one way only. -/
theorem Listing.unique (h : Listing rows rs) (h' : Listing rows rs') : rs = rs' :=
  eq_of_ascending ProgressRecord.account h.ascending h'.ascending
    fun r => (h.mem r).trans (h'.mem r).symm

/-- Rows that stand in a table of their own. -/
def rowsOf (p : Table AccountId ProgressRecord) : Rows :=
  overlay (fun _ => .error .notFound) p

lemma rowsOf_eq_ok {p : Table AccountId ProgressRecord} {a : AccountId} {r : ProgressRecord} :
    rowsOf p a = .ok r ↔ get? p a = some r := by
  unfold rowsOf overlay
  cases get? p a <;> simp

lemma listing_rowsOf {schema : ProgressSchema} {p : Table AccountId ProgressRecord}
    (h : Stocked (Fitting schema) p) :
    Listing (rowsOf p)
      ((p.map (·.2)).mergeSort fun r s => r.account.value ≤ s.account.value) where
  ascending := by
    refine ascending_mergeSort ProgressRecord.account ?_
    have hkeys : (p.map (·.2)).map ProgressRecord.account = keys p := by
      rw [keys, List.map_map]
      exact List.map_congr_left fun e he => (h.fits e.1 e.2 he).account
    rw [hkeys]
    exact h.nodup
  mem r := by
    rw [List.mem_mergeSort, rowsOf_eq_ok, ← mem_iff_get? h.nodup (e := (r.account, r)), List.mem_map]
    constructor
    · rintro ⟨⟨a, r⟩, he, rfl⟩
      rwa [← (h.fits a r he).account] at he
    · exact fun he => ⟨_, he, rfl⟩

end Listings

/-- Stores of one kind, as long as they are sound, keep the rows that are committed to them. -/
structure Faithful {S : Type} [RowStore S] (sound : S → Prop) : Prop where
  swift : ∀ s, sound s → Swift s
  fits : ∀ s a r, sound s → RowStore.row s a = .ok r → Lasting (RowStore.schema s) a r
  listed : ∀ s, sound s → ∃ rs, RowStore.rows s = .ok rs ∧ Listing (RowStore.row s) rs
  commit : ∀ s p, sound s → Stocked (Lasting (RowStore.schema s)) p → sound (RowStore.commit s p)
  schema_commit : ∀ s p, sound s → RowStore.schema (RowStore.commit s p) = RowStore.schema s
  row_commit : ∀ s p, sound s → Stocked (Lasting (RowStore.schema s)) p →
    RowStore.row (RowStore.commit s p) = overlay (RowStore.row s) p

/-- A store in memory that is told neither to fail nor to wait, and holds rows that last. -/
structure SoundMemory (m : Memory) : Prop where
  ready : Unfailing m.progress
  prompt : m.progress.beginDelay = 0
  stocked : Stocked (Lasting m.progress.schema) m.progress.rows

lemma soundMemory_empty (schema : ProgressSchema) : SoundMemory (.empty schema) where
  ready := ⟨rfl, rfl⟩
  prompt := rfl
  stocked := stocked_nil

lemma unfailing_of_progress {m : Memory} (h : Unfailing m.progress) : Unfailing m where
  read := by
    have hread : m.progress.aboutToRead = (.ok (), m.progress) := h.read
    change (m.progress.aboutToRead.1, { m with progress := m.progress.aboutToRead.2 }) = _
    rw [hread]
  write := by
    have hwrite : m.progress.aboutToWrite = (.ok (), m.progress) := h.write
    change (m.progress.aboutToWrite.1, { m with progress := m.progress.aboutToWrite.2 }) = _
    rw [hwrite]

lemma Stocked.foldl_insert {fits : AccountId → ProgressRecord → Prop}
    {p q : Table AccountId ProgressRecord} (h : Stocked fits q) (hp : ∀ a r, (a, r) ∈ p → fits a r) :
    Stocked fits (p.foldl (fun t e => Table.insert t e.1 e.2) q) := by
  induction p generalizing q with
  | nil => exact h
  | cons e p ih =>
    refine ih (h.insert (hp e.1 e.2 List.mem_cons_self)) ?_
    exact fun a r hm => hp a r (List.mem_cons_of_mem e hm)

lemma row_memory (m : Memory) : RowStore.row m = rowsOf m.progress.rows := by
  funext a
  change ProgressMemory.row m.progress a = _
  unfold ProgressMemory.row rowsOf overlay
  cases get? m.progress.rows a <;> rfl

theorem faithful_memory : Faithful SoundMemory where
  swift _ h := ⟨unfailing_of_progress h.ready, h.prompt⟩
  fits m a r h hr := by
    rw [row_memory, rowsOf_eq_ok] at hr
    exact h.stocked.fits a r (mem_of_get? hr)
  listed m h := by
    refine ⟨m.progress.sorted, rfl, ?_⟩
    rw [row_memory]
    exact listing_rowsOf (h.stocked.mono fun _ _ => Lasting.toFitting)
  commit m p h hp :=
    ⟨RowKeeper.ready_commit m.progress p h.ready, h.prompt, h.stocked.foldl_insert hp.fits⟩
  schema_commit _ _ _ := rfl
  row_commit m p _ hp :=
    row_commit_kept (s := m.progress) trivial (hp.mono fun _ _ _ => trivial) fun _ _ _ => rfl

/-- A row and its account as a database keeps them. -/
def storedRow (schema : ProgressSchema) (e : AccountId × ProgressRecord) :
    List UInt8 × List UInt8 :=
  (e.1.bytes, e.2.rowBytes schema)

/-- A database whose progress was written under its own columns. -/
structure SoundDatabase (b : Database) : Prop where
  distinct : Distinct b.schema
  further : b.directory.further = []
  ascending : Ascending b.directory.progress
  written : ∀ e ∈ b.directory.progress, ∃ a r, Lasting b.schema a r ∧ e = storedRow b.schema (a, r)

lemma soundDatabase_empty {schema : ProgressSchema} (h : Distinct schema) :
    SoundDatabase ⟨.empty, schema⟩ where
  distinct := h
  further := rfl
  ascending := List.Pairwise.nil
  written _ he := nomatch he

section Database

variable {b : Database} {schema : ProgressSchema} {p : Table AccountId ProgressRecord}

lemma exists_storedRows {m : ByteMap}
    (h : ∀ e ∈ m, ∃ a r, Lasting schema a r ∧ e = storedRow schema (a, r)) :
    ∃ p : Table AccountId ProgressRecord, m = p.map (storedRow schema) ∧
      ∀ a r, (a, r) ∈ p → Lasting schema a r := by
  let Fits := {e : AccountId × ProgressRecord // Lasting schema e.1 e.2}
  have hrange : m ∈ Set.range (List.map fun e : Fits => storedRow schema e.1) := by
    rw [Set.range_list_map]
    intro e he
    obtain ⟨a, r, hr, rfl⟩ := h e he
    exact ⟨⟨(a, r), hr⟩, rfl⟩
  obtain ⟨es, rfl⟩ := hrange
  refine ⟨es.map Subtype.val, by rw [List.map_map]; rfl, ?_⟩
  intro a r hm
  obtain ⟨e, -, he⟩ := List.mem_map.mp hm
  have hfits : Lasting schema e.1.1 e.1.2 := e.2
  rwa [he] at hfits

/-- The progress of a sound database is that of a table of rows. -/
lemma SoundDatabase.exists_rows (h : SoundDatabase b) :
    ∃ p, Stocked (Lasting b.schema) p ∧ b.directory.progress = p.map (storedRow b.schema) := by
  obtain ⟨p, hm, hp⟩ := exists_storedRows h.written
  refine ⟨p, ⟨?_, hp⟩, hm⟩
  have hkeys : (keys p).map AccountId.bytes = keys b.directory.progress := by
    rw [hm, keys, keys, List.map_map, List.map_map]
    rfl
  refine .of_map AccountId.bytes ?_
  rw [hkeys]
  exact h.ascending.nodup

lemma ofRowBytes_of_lasting (hd : Distinct schema) {a : AccountId} {r : ProgressRecord}
    (hr : Lasting schema a r) : ProgressRecord.ofRowBytes schema a (r.rowBytes schema) = .ok r := by
  rw [ofRowBytes_rowBytes hd hr.toFitting, ProgressRecord.written_of_regular hr.regular]

lemma row_storedRows (hd : Distinct b.schema) (hp : Stocked (Lasting b.schema) p)
    (hm : b.directory.progress = p.map (storedRow b.schema)) : RowStore.row b = rowsOf p := by
  funext a
  have hget : get? b.directory.progress a.bytes =
      (get? p a).map fun r => r.rowBytes b.schema := by
    rw [hm]
    exact get?_map bytes_injective _ p a
  change Database.row b a = _
  unfold Database.row rowsOf overlay
  rw [hget]
  cases hr : get? p a with
  | none => rfl
  | some r => exact ofRowBytes_of_lasting hd (hp.fits a r (mem_of_get? hr))

lemma mapM_storedRows (hd : Distinct b.schema)
    (hp : ∀ a r, (a, r) ∈ p → Lasting b.schema a r) :
    (p.map (storedRow b.schema)).mapM b.rowOfEntry = .ok (p.map (·.2)) := by
  induction p with
  | nil => rfl
  | cons e p ih =>
    obtain ⟨a, r⟩ := e
    have hrow : b.rowOfEntry (storedRow b.schema (a, r)) = .ok r := by
      unfold Database.rowOfEntry storedRow
      simp only [ofBytes?_bytes]
      exact ofRowBytes_of_lasting hd (hp a r List.mem_cons_self)
    rw [List.map_cons, List.mapM_cons, hrow, ih fun a' r' hm => hp a' r' (List.mem_cons_of_mem _ hm)]
    rfl

lemma SoundDatabase.put (h : SoundDatabase b) {a : AccountId} {r : ProgressRecord}
    (hr : Lasting b.schema a r) :
    SoundDatabase (b.withDirectory (b.directory.put .progress a.bytes (r.rowBytes b.schema))) where
  distinct := h.distinct
  further := h.further
  ascending := h.ascending.insertSorted _ _
  written e he := by
    rcases mem_of_mem_insertSorted he with rfl | he
    · exact ⟨a, r, hr, rfl⟩
    · exact h.written e he

lemma SoundDatabase.commit (h : SoundDatabase b) (hp : ∀ a r, (a, r) ∈ p → Lasting b.schema a r) :
    SoundDatabase (RowStore.commit b p) := by
  induction p generalizing b with
  | nil => exact h
  | cons e p ih =>
    refine ih (h.put (hp e.1 e.2 List.mem_cons_self)) ?_
    exact fun a r hm => hp a r (List.mem_cons_of_mem e hm)

end Database

theorem faithful_database : Faithful SoundDatabase where
  swift _ _ := ⟨⟨rfl, rfl⟩, rfl⟩
  fits b a r _ hr := by
    obtain ⟨bs, hbs⟩ := exists_rowBytes hr
    exact ⟨fitting_of_row hbs, regular_of_row hbs⟩
  listed b h := by
    obtain ⟨p, hp, hm⟩ := h.exists_rows
    rw [row_storedRows h.distinct hp hm]
    refine ⟨_, ?_, listing_rowsOf (hp.mono fun _ _ => Lasting.toFitting)⟩
    change Database.rows b = _
    unfold Database.rows
    rw [hm, mapM_storedRows h.distinct hp.fits]
    rfl
  commit _ _ h hp := h.commit hp.fits
  schema_commit _ _ _ := rfl
  row_commit b p h hp :=
    row_commit_kept (s := b) h.distinct (hp.mono fun _ _ => Lasting.toFitting) fun a r hm =>
      ProgressRecord.written_of_regular (hp.fits a r hm).regular

end Tenancy.Proofs
