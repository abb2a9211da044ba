import Mathlib.Data.List.Nodup
import Mathlib.Logic.Function.Basic
import Tenancy.Table

/-!
# Keys of tables

In a table each key stands at most once. What a table holds after a list of entries was written into
it then depends on that list as on a table.
-/

namespace Tenancy.Proofs

open Table

variable {K V : Type} [DecidableEq K]

/-- The keys of a table in the order of its entries. -/
def keys (t : Table K V) : List K :=
  t.map Prod.fst

lemma get?_eq_none {t : Table K V} {k : K} : get? t k = none ↔ k ∉ keys t := by
  induction t with
  | nil => simp [get?, keys]
  | cons e t ih =>
    rw [get?_cons]
    by_cases h : e.1 = k
    · simp [h, keys]
    · simpa [h, keys, Ne.symm h] using ih

lemma mem_of_get? {t : Table K V} {k : K} {v : V} (h : get? t k = some v) : (k, v) ∈ t := by
  induction t with
  | nil => simp [get?] at h
  | cons e t ih =>
    rw [get?_cons] at h
    split at h
    · rename_i hk
      obtain ⟨j, w⟩ := e
      simp only [Option.some.injEq] at h
      exact List.mem_cons.mpr (.inl (by rw [← h, ← hk]))
    · exact List.mem_cons_of_mem _ (ih h)

lemma get?_of_mem {t : Table K V} (hn : (keys t).Nodup) {k : K} {v : V} (h : (k, v) ∈ t) :
    get? t k = some v := by
  induction t with
  | nil => cases h
  | cons e t ih =>
    rw [keys, List.map_cons, List.nodup_cons] at hn
    rw [get?_cons]
    rcases List.mem_cons.mp h with h | h
    · rw [← h, if_pos rfl]
    · have hk : e.1 ≠ k := by
        rintro rfl
        exact hn.1 (List.mem_map.mpr ⟨_, h, rfl⟩)
      rw [if_neg hk, ih hn.2 h]

lemma mem_erase {t : Table K V} {k : K} {e : K × V} :
    e ∈ Table.erase t k ↔ e ∈ t ∧ e.1 ≠ k := by
  rw [Table.erase, List.mem_filter, decide_eq_true_eq]

lemma mem_of_mem_erase {t : Table K V} {k : K} {e : K × V} (h : e ∈ Table.erase t k) : e ∈ t :=
  (mem_erase.mp h).1

lemma erase_of_notMem {t : Table K V} {k : K} (h : k ∉ keys t) : Table.erase t k = t := by
  rw [Table.erase, List.filter_eq_self]
  intro e he
  rw [decide_eq_true_eq]
  rintro rfl
  exact h (List.mem_map_of_mem he)

lemma nodup_keys_erase {t : Table K V} (h : (keys t).Nodup) (k : K) : (keys (erase t k)).Nodup :=
  h.sublist (List.filter_sublist.map Prod.fst)

lemma notMem_keys_erase (t : Table K V) (k : K) : k ∉ keys (erase t k) := by
  rw [← get?_eq_none, get?_erase, if_pos rfl]

lemma nodup_keys_insert {t : Table K V} (h : (keys t).Nodup) (k : K) (v : V) :
    (keys (Table.insert t k v)).Nodup := by
  rw [Table.insert, keys, List.map_append, List.nodup_append]
  refine ⟨nodup_keys_erase h k, by simp, ?_⟩
  intro a ha b hb hab
  rw [List.map_singleton, List.mem_singleton] at hb
  rw [hab, hb] at ha
  exact notMem_keys_erase t k ha

lemma get?_foldl {f : Table K V → K → V → Table K V}
    (hf : ∀ t k j v, get? (f t k v) j = if j = k then some v else get? t j) (p t : Table K V)
    (h : (keys p).Nodup) (k : K) :
    get? (p.foldl (fun t e => f t e.1 e.2) t) k = (get? p k).or (get? t k) := by
  induction p generalizing t with
  | nil => simp [get?]
  | cons e p ih =>
    rw [keys, List.map_cons, List.nodup_cons] at h
    rw [List.foldl_cons, ih _ h.2, hf, get?_cons]
    by_cases hk : k = e.1
    · subst hk
      have hp : get? p e.1 = none := get?_eq_none.mpr h.1
      simp [hp]
    · simp [hk, Ne.symm hk]

lemma get?_foldl_insert (p t : Table K V) (h : (keys p).Nodup) (k : K) :
    get? (p.foldl (fun t e => Table.insert t e.1 e.2) t) k = (get? p k).or (get? t k) :=
  get?_foldl get?_insert p t h k

lemma get?_map {J W : Type} [DecidableEq J] {f : K → J} (hf : Function.Injective f) (g : V → W)
    (t : Table K V) (k : K) :
    get? (t.map fun e => (f e.1, g e.2)) (f k) = (get? t k).map g := by
  induction t with
  | nil => rfl
  | cons e t ih =>
    rw [List.map_cons, get?_cons, get?_cons, ih]
    by_cases he : e.1 = k
    · rw [if_pos he, if_pos (congrArg f he), Option.map_some]
    · rw [if_neg he, if_neg (hf.ne he)]

lemma get?_insertSorted (lt : K → K → Bool) (k : K) (v : V) (t : Table K V) (j : K) :
    get? (insertSorted lt k v t) j = if j = k then some v else get? t j := by
  have hcons : ∀ t' : Table K V, get? ((k, v) :: t') j = if j = k then some v else get? t' j := by
    intro t'
    rw [get?_cons]
    exact if_congr eq_comm rfl rfl
  induction t with
  | nil => exact hcons []
  | cons e t ih =>
    rw [insertSorted]
    split
    · rename_i hk
      rw [hcons, get?_cons, ← hk]
      by_cases hj : j = k
      · rw [if_pos hj, if_pos hj]
      · rw [if_neg hj, if_neg hj, if_neg (Ne.symm hj)]
    · rename_i hk
      split
      · exact hcons _
      · rw [get?_cons, get?_cons, ih]
        by_cases hj : j = k
        · rw [if_pos hj, if_pos hj, hj, if_neg (Ne.symm hk)]
        · rw [if_neg hj, if_neg hj]

lemma erase_insertSorted (lt : K → K → Bool) (k : K) (v : V) (t : Table K V) :
    Table.erase (insertSorted lt k v t) k = Table.erase t k := by
  have hcons : ∀ (w : V) (t' : Table K V), Table.erase ((k, w) :: t') k = Table.erase t' k := by
    intro w t'
    exact List.filter_cons_of_neg (by simp)
  induction t with
  | nil => exact hcons v []
  | cons e t ih =>
    rw [insertSorted]
    split
    · rename_i hk
      obtain ⟨j, w⟩ := e
      obtain rfl : k = j := hk
      rw [hcons, hcons]
    · rename_i hk
      split
      · exact hcons v _
      · have hkept : ∀ t' : Table K V, Table.erase (e :: t') k = e :: Table.erase t' k := by
          intro t'
          exact List.filter_cons_of_pos (by simpa using Ne.symm hk)
        rw [hkept, hkept, ih]

lemma get?_filterMap {f : K × V → Option (K × V)} (hf : ∀ e e', f e = some e' → e'.1 = e.1)
    {t : Table K V} (hn : (keys t).Nodup) (k : K) :
    get? (t.filterMap f) k = (get? t k).bind fun v => (f (k, v)).map Prod.snd := by
  induction t with
  | nil => simp [get?]
  | cons e t ih =>
    rw [keys, List.map_cons, List.nodup_cons] at hn
    obtain ⟨j, v⟩ := e
    rw [get?_cons]
    cases he : f (j, v) with
    | none =>
      rw [List.filterMap_cons_none he, ih hn.2]
      by_cases hj : j = k
      · subst hj
        have ht : get? t j = none := get?_eq_none.mpr hn.1
        simp [ht, he]
      · simp [hj]
    | some e' =>
      have h1 : e'.1 = j := hf _ _ he
      rw [List.filterMap_cons_some he, get?_cons, h1, ih hn.2]
      by_cases hj : j = k
      · subst hj
        simp [he]
      · simp [hj]

omit [DecidableEq K] in
lemma nodup_keys_filterMap {f : K × V → Option (K × V)} (hf : ∀ e e', f e = some e' → e'.1 = e.1)
    {t : Table K V} (hn : (keys t).Nodup) : (keys (t.filterMap f)).Nodup := by
  induction t with
  | nil => exact hn
  | cons e t ih =>
    rw [keys, List.map_cons, List.nodup_cons] at hn
    cases he : f e with
    | none => rw [List.filterMap_cons_none he]; exact ih hn.2
    | some e' =>
      rw [List.filterMap_cons_some he, keys, List.map_cons, List.nodup_cons]
      refine ⟨?_, ih hn.2⟩
      rw [hf _ _ he]
      intro hm
      obtain ⟨x, hx, hxe⟩ := List.mem_map.mp hm
      obtain ⟨y, hy, hyx⟩ := List.mem_filterMap.mp hx
      exact hn.1 (List.mem_map.mpr ⟨y, hy, by rw [← hf _ _ hyx, hxe]⟩)

lemma mem_iff_get? {t : Table K V} (hn : (keys t).Nodup) {e : K × V} :
    e ∈ t ↔ get? t e.1 = some e.2 :=
  ⟨get?_of_mem hn, mem_of_get?⟩

/-- Tables that hold the same under each key differ only in the order of their entries. -/
lemma perm_of_get? {t t' : Table K V} (hn : (keys t).Nodup) (hn' : (keys t').Nodup)
    (h : ∀ k, get? t k = get? t' k) : t.Perm t' := by
  rw [List.perm_ext_iff_of_nodup (.of_map _ hn) (.of_map _ hn')]
  intro e
  rw [mem_iff_get? hn, mem_iff_get? hn', h]

omit [DecidableEq K] in
lemma keys_perm {t t' : Table K V} (h : t.Perm t') : (keys t).Perm (keys t') :=
  h.map Prod.fst

lemma get?_perm {t t' : Table K V} (h : t.Perm t') (hn : (keys t).Nodup) (k : K) :
    get? t k = get? t' k := by
  have hn' : (keys t').Nodup := (keys_perm h).nodup_iff.mp hn
  apply Option.ext
  intro v
  exact (mem_iff_get? hn (e := (k, v))).symm.trans (h.mem_iff.trans (mem_iff_get? hn'))

lemma mem_of_mem_insertSorted {lt : K → K → Bool} {k : K} {v : V} {t : Table K V} {e : K × V}
    (h : e ∈ insertSorted lt k v t) : e = (k, v) ∨ e ∈ t := by
  induction t with
  | nil => exact .inl (List.mem_singleton.mp h)
  | cons d t ih =>
    rw [insertSorted] at h
    split at h
    · exact (List.mem_cons.mp h).imp_right (List.mem_cons_of_mem d)
    · split at h
      · exact List.mem_cons.mp h
      · rcases List.mem_cons.mp h with rfl | h
        · exact .inr List.mem_cons_self
        · exact (ih h).imp_right (List.mem_cons_of_mem d)

section Ascending

variable [LT K] [DecidableLT K] [LE K] [Std.IsLinearOrder K] [Std.LawfulOrderLT K]

/-- The keys of a table ascend. -/
def Ascending (t : Table K V) : Prop :=
  (keys t).Pairwise (· < ·)

omit [DecidableEq K] [DecidableLT K] [Std.IsLinearOrder K] in
lemma Ascending.nodup {t : Table K V} (h : Ascending t) : (keys t).Nodup := by
  refine List.Pairwise.imp ?_ h
  rintro a b hab rfl
  exact Std.lt_irrefl hab

lemma Ascending.insertSorted {t : Table K V} (h : Ascending t) (k : K) (v : V) :
    Ascending (insertSorted (fun a b => a < b) k v t) := by
  induction t with
  | nil => exact List.pairwise_singleton _ k
  | cons e t ih =>
    obtain ⟨hfirst, hrest⟩ := List.pairwise_cons.mp h
    rw [Table.insertSorted]
    split
    · rename_i hk
      refine List.pairwise_cons.mpr ⟨?_, hrest⟩
      rwa [hk]
    · rename_i hne
      split
      · rename_i hlt
        rw [decide_eq_true_eq] at hlt
        refine List.pairwise_cons.mpr ⟨?_, h⟩
        intro j hj
        rcases List.mem_cons.mp hj with rfl | hj
        · exact hlt
        · exact Std.lt_trans hlt (hfirst j hj)
      · rename_i hnot
        rw [decide_eq_true_eq, Std.not_lt] at hnot
        refine List.pairwise_cons.mpr ⟨?_, ih hrest⟩
        intro j hj
        obtain ⟨d, hd, rfl⟩ := List.mem_map.mp hj
        rcases mem_of_mem_insertSorted hd with rfl | hd
        · exact Std.lt_of_le_of_ne hnot (Ne.symm hne)
        · exact hfirst _ (List.mem_map_of_mem hd)

end Ascending

end Tenancy.Proofs
