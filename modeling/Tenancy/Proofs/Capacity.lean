import Mathlib.Data.List.Dedup
import Mathlib.Data.List.DropRight
import Tenancy.Proofs.Evictions

/-!
# How many entries an index keeps

A table that was filled by storing entries one after another holds those of the keys that were
stored last, as many as its bound allows, in the order in which they were stored last. Every key
that was not there when an entry was stored under it is still there, or its entry was counted as one
that got lost. The same account can be given of the index of a resolver at any time, if the entries
that were dropped by invalidations are counted too.
-/

namespace Tenancy.Proofs

open Resolver CacheIndex Table

section Puts

variable {K : Type} [DecidableEq K] {t : Table K CacheEntry} {bound : Option Nat}
  {k : K} {e : CacheEntry}

/-- Stores entries one after another, and tells how many entries were dropped. -/
def putEach (bound : Option Nat) :
    List (K × CacheEntry) → Table K CacheEntry → Table K CacheEntry × Nat
  | [], t => (t, 0)
  | (k, e) :: ps, t =>
    let (t, dropped) := put bound t k e
    let (t, more) := putEach bound ps t
    (t, dropped + more)

/-- How many of the entries that are stored one after another come under a key that the table does
not have at that time. -/
def introduced (bound : Option Nat) : List (K × CacheEntry) → Table K CacheEntry → Nat
  | [], _ => 0
  | (k, e) :: ps, t =>
    (if k ∈ keys t then 0 else 1) + introduced bound ps (put bound t k e).1

/-- The last elements of a list, as many as a bound allows. -/
def recent {α : Type} (bound : Option Nat) (l : List α) : List α :=
  match bound with
  | none => l
  | some max => l.rtake max

/-- The entries after which none is stored under the same key. -/
def lastPuts : List (K × CacheEntry) → Table K CacheEntry
  | [] => []
  | p :: ps => if p.1 ∈ keys ps then lastPuts ps else p :: lastPuts ps

lemma recent_some {α : Type} (max : Nat) (l : List α) : recent (some max) l = l.rtake max :=
  rfl

lemma recent_nil {α : Type} (bound : Option Nat) : recent bound ([] : List α) = [] := by
  cases bound with
  | none => rfl
  | some max => rw [recent_some, List.rtake_nil]

omit [DecidableEq K] in
lemma trim_eq_recent (bound : Option Nat) (t : Table K CacheEntry) :
    (trim bound t).1 = recent bound t := by
  cases bound <;> rfl

omit [DecidableEq K] in
lemma keys_recent (bound : Option Nat) (t : Table K CacheEntry) :
    keys (recent bound t) = recent bound (keys t) := by
  cases bound with
  | none => rfl
  | some max =>
    rw [recent_some, recent_some, List.rtake, List.rtake, keys, keys, List.map_drop,
      List.length_map]

lemma length_recent {α : Type} (bound : Option Nat) (l : List α) :
    (recent bound l).length = bound.elim l.length fun max => min max l.length := by
  cases bound with
  | none => rfl
  | some max =>
    rw [recent_some, List.rtake, List.length_drop, Option.elim_some]
    omega

lemma keys_lastPuts (ps : List (K × CacheEntry)) : keys (lastPuts ps) = (keys ps).dedup := by
  induction ps with
  | nil => rfl
  | cons p ps ih =>
    rw [lastPuts]
    by_cases hp : p.1 ∈ keys ps
    · rw [if_pos hp, ih]
      exact (List.dedup_cons_of_mem hp).symm
    · rw [if_neg hp]
      exact (congrArg (p.1 :: ·) ih).trans (List.dedup_cons_of_notMem hp).symm

lemma split_of_mem_lastPuts {p : K × CacheEntry} {ps : List (K × CacheEntry)}
    (h : p ∈ lastPuts ps) : ∃ before after, ps = before ++ p :: after ∧ p.1 ∉ keys after := by
  induction ps with
  | nil => cases h
  | cons q ps ih =>
    have hlater : p ∈ lastPuts ps →
        ∃ before after, q :: ps = before ++ p :: after ∧ p.1 ∉ keys after := by
      intro hp
      obtain ⟨before, after, rfl, hafter⟩ := ih hp
      exact ⟨q :: before, after, rfl, hafter⟩
    rw [lastPuts] at h
    split at h
    · exact hlater h
    · rename_i hq
      rcases List.mem_cons.mp h with rfl | h
      · exact ⟨[], ps, rfl, hq⟩
      · exact hlater h

lemma lastPuts_concat (ps : List (K × CacheEntry)) (k : K) (e : CacheEntry) :
    lastPuts (ps ++ [(k, e)]) = (lastPuts ps).insert k e := by
  induction ps with
  | nil => rfl
  | cons p ps ih =>
    have hkeys : p.1 ∈ keys (ps ++ [(k, e)]) ↔ p.1 ∈ keys ps ∨ p.1 = k := by
      rw [keys, List.map_append, List.mem_append]
      exact or_congr_right List.mem_singleton
    rw [List.cons_append, lastPuts, lastPuts, ih]
    by_cases hp : p.1 ∈ keys ps
    · rw [if_pos (hkeys.mpr (.inl hp)), if_pos hp]
    · rw [if_neg hp]
      by_cases hk : p.1 = k
      · rw [if_pos (hkeys.mpr (.inr hk)), Table.insert, Table.insert, Table.erase, Table.erase,
          List.filter_cons_of_neg (by simpa using hk)]
      · rw [if_neg (by rw [hkeys]; exact not_or.mpr ⟨hp, hk⟩), Table.insert, Table.insert,
          Table.erase, Table.erase, List.filter_cons_of_pos (by simpa using hk), List.cons_append]

lemma length_erase (h : (keys t).Nodup) (k : K) :
    (t.erase k).length + (if k ∈ keys t then 1 else 0) = t.length := by
  induction t with
  | nil => rfl
  | cons p t ih =>
    obtain ⟨hp, ht⟩ := List.nodup_cons.mp h
    by_cases hk : p.1 = k
    · have hhas : k ∈ keys (p :: t) := hk ▸ List.mem_cons_self
      have hnot : k ∉ keys t := hk ▸ hp
      rw [if_pos hhas, Table.erase, List.filter_cons_of_neg (by simpa using hk), List.length_cons]
      exact congrArg (fun t => List.length t + 1) (erase_of_notMem hnot)
    · have hhas : k ∈ keys (p :: t) ↔ k ∈ keys t :=
        List.mem_cons.trans (or_iff_right (Ne.symm hk))
      rw [if_congr hhas rfl rfl, Table.erase, List.filter_cons_of_pos (by simpa using hk),
        List.length_cons, List.length_cons, ← ih ht, Nat.add_right_comm]
      rfl

lemma rtake_append_of_le_length {α : Type} {l l' : List α} {n : Nat} (h : n ≤ l'.length) :
    (l ++ l').rtake n = l'.rtake n := by
  rw [List.rtake, List.rtake, List.length_append, Nat.add_sub_assoc h, List.drop_append]
  simp

/-- What a table has lost before an entry is stored would get lost then. -/
lemma recent_insert_recent (h : (keys t).Nodup) (bound : Option Nat) (k : K) (e : CacheEntry) :
    recent bound (Table.insert (recent bound t) k e) = recent bound (t.insert k e) := by
  match bound with
  | none => rfl
  | some 0 => simp only [recent_some, List.rtake_zero]
  | some (n + 1) =>
    rw [recent_some, recent_some, recent_some, Table.insert, Table.insert, List.rtake_concat_succ,
      List.rtake_concat_succ]
    congr 1
    by_cases hlong : n + 1 ≤ t.length
    · have hsplit : t = t.take (t.length - (n + 1)) ++ t.rtake (n + 1) :=
        (List.take_append_drop _ t).symm
      have hlast : (keys (t.rtake (n + 1))).Nodup :=
        h.sublist ((List.drop_sublist _ t).map Prod.fst)
      have hlength : (t.rtake (n + 1)).length = n + 1 :=
        (length_recent (some (n + 1)) t).trans (Nat.min_eq_left hlong)
      have herase := length_erase hlast k
      have henough : n ≤ (Table.erase (t.rtake (n + 1)) k).length := by
        split at herase <;> omega
      conv_rhs => rw [hsplit, Table.erase, List.filter_append]
      exact (rtake_append_of_le_length henough).symm
    · have hall : t.rtake (n + 1) = t := by
        rw [List.rtake, Nat.sub_eq_zero_of_le (Nat.le_of_not_le hlong), List.drop_zero]
      rw [hall]

lemma putEach_concat (bound : Option Nat) (ps : List (K × CacheEntry)) (k : K) (e : CacheEntry)
    (t : Table K CacheEntry) :
    (putEach bound (ps ++ [(k, e)]) t).1 = (put bound (putEach bound ps t).1 k e).1 := by
  induction ps generalizing t with
  | nil => rfl
  | cons p ps ih => exact ih (put bound t p.1 p.2).1

/-- A table that was empty holds the last entries that were stored, one for each key. -/
lemma putEach_nil_eq (bound : Option Nat) (ps : List (K × CacheEntry)) :
    (putEach bound ps []).1 = recent bound (lastPuts ps) := by
  induction ps using List.reverseRecOn with
  | nil => exact (recent_nil bound).symm
  | append_singleton ps p ih =>
    have hnodup : (keys (lastPuts ps)).Nodup := by
      rw [keys_lastPuts]
      exact List.nodup_dedup _
    rw [putEach_concat, put, trim_eq_recent, ih, recent_insert_recent hnodup, lastPuts_concat]

lemma recent_sublist {α : Type} (bound : Option Nat) (l : List α) :
    (recent bound l).Sublist l := by
  cases bound with
  | none => exact List.Sublist.refl l
  | some max => exact List.drop_sublist _ l

/-- No key stands twice in a table, and the table has no more entries than a bound allows. -/
structure Within (bound : Option Nat) (t : Table K CacheEntry) : Prop where
  nodup : (keys t).Nodup
  length : ∀ max, bound = some max → t.length ≤ max

omit [DecidableEq K] in
lemma Within.sublist {t' : Table K CacheEntry} (h : Within bound t) (hs : t'.Sublist t) :
    Within bound t' :=
  ⟨h.nodup.sublist (hs.map Prod.fst), fun max hmax => hs.length_le.trans (h.length max hmax)⟩

omit [DecidableEq K] in
lemma within_nil : Within bound ([] : Table K CacheEntry) :=
  ⟨List.nodup_nil, fun _ _ => Nat.zero_le _⟩

lemma within_put (h : (keys t).Nodup) (bound : Option Nat) (k : K) (e : CacheEntry) :
    Within bound (put bound t k e).1 := by
  rw [put, trim_eq_recent]
  refine ⟨(nodup_keys_insert h k e).sublist ((recent_sublist bound _).map Prod.fst), ?_⟩
  rintro max rfl
  rw [length_recent]
  exact Nat.min_le_left _ _

lemma Within.putEach (h : Within bound t) (ps : List (K × CacheEntry)) :
    Within bound (putEach bound ps t).1 := by
  induction ps generalizing t with
  | nil => exact h
  | cons p ps ih => exact ih (within_put h.nodup bound p.1 p.2)

lemma length_put (h : (keys t).Nodup) (bound : Option Nat) (k : K) (e : CacheEntry) :
    (put bound t k e).2 + (put bound t k e).1.length =
      t.length + if k ∈ keys t then 0 else 1 := by
  have hsplit : (put bound t k e).2 + (put bound t k e).1.length = (t.insert k e).length := by
    rw [← take_trim bound (t.insert k e), List.length_append, length_take_trim]
    rfl
  have herase := length_erase h k
  rw [hsplit, Table.insert, List.length_append, List.length_singleton]
  split at herase
  · rename_i hk
    rw [if_pos hk, herase, Nat.add_zero]
  · rename_i hk
    rw [if_neg hk, ← herase, Nat.add_zero]

/-- Each entry that is stored under a new key gets lost and is counted, or there is one entry more
in the end. -/
lemma length_putEach (h : (keys t).Nodup) (bound : Option Nat) (ps : List (K × CacheEntry)) :
    (putEach bound ps t).2 + (putEach bound ps t).1.length =
      t.length + introduced bound ps t := by
  induction ps generalizing t with
  | nil => exact Nat.zero_add _
  | cons p ps ih =>
    obtain ⟨k, e⟩ := p
    have hput := length_put h bound k e
    have hrest := ih (within_put h bound k e).nodup
    rw [introduced, ← Nat.add_assoc, ← hput, Nat.add_assoc, ← hrest, ← Nat.add_assoc]
    rfl

/-- What entries that are stored one after another leave in a table that was empty: those of the
keys that were stored last, each of which stands where it was stored last and with the entry of that
time; all others were counted. -/
structure KeepsRecent (bound : Option Nat) (ps : List (K × CacheEntry)) (t : Table K CacheEntry)
    (dropped : Nat) : Prop where
  order : keys t = recent bound (keys ps).dedup
  number : t.length = bound.elim (keys ps).dedup.length fun max => min max (keys ps).dedup.length
  entry : ∀ p ∈ t, ∃ before after, ps = before ++ p :: after ∧ p.1 ∉ keys after
  counted : dropped + t.length = introduced bound ps []

lemma putAll_eq_putEach (bound : Option Nat) (e : CacheEntry) (ks : List K)
    (t : Table K CacheEntry) : putAll bound e ks t = putEach bound (ks.map fun k => (k, e)) t := by
  induction ks generalizing t with
  | nil => rfl
  | cons k ks ih =>
    rw [putAll, List.map_cons, putEach]
    simp only [ih]

/-- How many entries of a table another one does not have. -/
def missing (t t' : Table K CacheEntry) : Nat :=
  t.countP fun p => p ∉ t'

lemma length_filter_add_missing (f : K × CacheEntry → Bool) (t : Table K CacheEntry) :
    (t.filter f).length + missing t (t.filter f) = t.length := by
  have hmissing : missing t (t.filter f) = t.countP fun p => ¬ f p = true := by
    apply List.countP_congr
    intro p hp
    simp [List.mem_filter, hp]
  rw [hmissing, ← List.countP_eq_length_filter]
  exact (List.length_eq_countP_add_countP f).symm

end Puts

section Index

variable {i : CacheIndex} {bound : Option Nat}

/-- How many entries an index has. -/
def size (i : CacheIndex) : Nat :=
  i.byAccount.length + i.byInstall.length

/-- How many of the numbers under which the outcome of a request is stored are new to the table in
which it is stored under them. -/
def introducedBy (bound : Option Nat) (i : CacheIndex) (request : InstallationKey)
    (e : CacheEntry) : Nat :=
  introduced bound ((accountsOf request e).map fun a => (a, e)) i.byAccount +
    introduced bound ((installsOf request e).map fun p => (p, e)) i.byInstall

/-- How many entries are dropped when a key is invalidated. -/
def invalidatedBy (i : CacheIndex) (k : InstallationKey) : Nat :=
  missing i.byAccount (i.invalidate k).byAccount + missing i.byInstall (i.invalidate k).byInstall

/-- Both tables of an index are within a bound. -/
structure Bounded (bound : Option Nat) (i : CacheIndex) : Prop where
  byAccount : Within bound i.byAccount
  byInstall : Within bound i.byInstall

lemma Bounded.populate (h : Bounded bound i) (request : InstallationKey) (e : CacheEntry) :
    Bounded bound (i.populate bound request e).1 := by
  constructor
  · change Within bound (putAll bound e (accountsOf request e) i.byAccount).1
    rw [putAll_eq_putEach]
    exact h.byAccount.putEach _
  · change Within bound (putAll bound e (installsOf request e) i.byInstall).1
    rw [putAll_eq_putEach]
    exact h.byInstall.putEach _

lemma size_populate (h : Bounded bound i) (request : InstallationKey) (e : CacheEntry) :
    (i.populate bound request e).2 + size (i.populate bound request e).1 =
      size i + introducedBy bound i request e := by
  have haccount := length_putEach h.byAccount.nodup bound
    ((accountsOf request e).map fun a => (a, e))
  have hinstall := length_putEach h.byInstall.nodup bound
    ((installsOf request e).map fun p => (p, e))
  rw [← putAll_eq_putEach] at haccount hinstall
  have hpopulate : i.populate bound request e =
      (⟨(putAll bound e (accountsOf request e) i.byAccount).1,
        (putAll bound e (installsOf request e) i.byInstall).1⟩,
      (putAll bound e (accountsOf request e) i.byAccount).2 +
        (putAll bound e (installsOf request e) i.byInstall).2) := rfl
  rw [hpopulate, size, size, introducedBy, Nat.add_add_add_comm, haccount, hinstall,
    Nat.add_add_add_comm]

/-- The tables of an index without some of their entries. -/
def Thinned (i j : CacheIndex) : Prop :=
  (∃ f, j.byAccount = i.byAccount.filter f) ∧ ∃ f, j.byInstall = i.byInstall.filter f

lemma Thinned.trans {j l : CacheIndex} (h : Thinned i j) (h' : Thinned j l) : Thinned i l := by
  obtain ⟨⟨f, hf⟩, g, hg⟩ := h
  obtain ⟨⟨f', hf'⟩, g', hg'⟩ := h'
  refine ⟨⟨fun p => f' p && f p, ?_⟩, fun p => g' p && g p, ?_⟩
  · rw [hf', hf, List.filter_filter]
  · rw [hg', hg, List.filter_filter]

lemma thinned_eraseKey (i : CacheIndex) (k : InstallationKey) : Thinned i (i.eraseKey k) := by
  constructor
  · unfold CacheIndex.eraseKey
    cases k.account? with
    | none => exact ⟨fun _ => true, (List.filter_eq_self.mpr fun _ _ => rfl).symm⟩
    | some id => exact ⟨_, rfl⟩
  · unfold CacheIndex.eraseKey
    cases k.installation? with
    | none => exact ⟨fun _ => true, (List.filter_eq_self.mpr fun _ _ => rfl).symm⟩
    | some pair => exact ⟨_, rfl⟩

lemma thinned_invalidate (i : CacheIndex) (k : InstallationKey) : Thinned i (i.invalidate k) := by
  unfold CacheIndex.invalidate
  split
  · exact (thinned_eraseKey i k).trans (thinned_eraseKey _ _)
  · exact thinned_eraseKey i k

lemma Bounded.invalidate (h : Bounded bound i) (k : InstallationKey) :
    Bounded bound (i.invalidate k) := by
  obtain ⟨⟨f, hf⟩, g, hg⟩ := thinned_invalidate i k
  constructor
  · rw [hf]
    exact h.byAccount.sublist List.filter_sublist
  · rw [hg]
    exact h.byInstall.sublist List.filter_sublist

lemma size_invalidate (i : CacheIndex) (k : InstallationKey) :
    size (i.invalidate k) + invalidatedBy i k = size i := by
  obtain ⟨⟨f, hf⟩, g, hg⟩ := thinned_invalidate i k
  unfold size invalidatedBy
  rw [hf, hg, Nat.add_add_add_comm, length_filter_add_missing, length_filter_add_missing]

end Index

section Requests

variable {S : Type} [AccountStore S] {config : ResolverConfig} {s : Nat → RequestRun S}
  {n a b : Nat}

lemma Requests.bounded (h : Requests config s) (n : Nat) :
    Bounded (config.maxEntries.map UInt64.toNat) (s n).shared.2.index := by
  induction n with
  | zero =>
    rw [h.new]
    exact ⟨within_nil, within_nil⟩
  | succ n ih =>
    cases h.indexMoment n with
    | rests index _ => rwa [index]
    | invalidates k resolver =>
      rw [resolver]
      exact ih.invalidate k
    | stores i c u e takes stores =>
      rw [takes.shared, stores.index, (h.settings n).2]
      exact ih.populate c.key e

/-- How many numbers have been introduced into the tables of the index, and how many entries have
been dropped by invalidations, up to a moment. -/
inductive Tallied (s : Nat → RequestRun S) : Nat → Nat → Nat → Prop where
  | start : Tallied s 0 0 0
  | rests {n a b : Nat} : Tallied s n a b →
      (s (n + 1)).shared.2.index = (s n).shared.2.index →
      (∀ i c u e, Takes Resolver.machine (s n) (s (n + 1)) i c u →
        ¬ Stores (s n).now (s n).shared.1 (s n).shared.2 c u e) →
      Tallied s (n + 1) a b
  | invalidates {n a b : Nat} {k : InstallationKey} : Tallied s n a b →
      (s (n + 1)).shared.2 = (s n).shared.2.invalidate k →
      Tallied s (n + 1) a (b + invalidatedBy (s n).shared.2.index k)
  | stores {n a b i : Nat} {c u e} : Tallied s n a b →
      Takes Resolver.machine (s n) (s (n + 1)) i c u →
      Stores (s n).now (s n).shared.1 (s n).shared.2 c u e →
      Tallied s (n + 1)
        (a + introducedBy (s n).shared.2.maxEntries (s n).shared.2.index c.key e) b

lemma Requests.tallied (h : Requests config s) (n : Nat) : ∃ a b, Tallied s n a b := by
  induction n with
  | zero => exact ⟨0, 0, .start⟩
  | succ n ih =>
    obtain ⟨a, b, ht⟩ := ih
    by_cases hstores : ∃ i c u e, Takes Resolver.machine (s n) (s (n + 1)) i c u ∧
        Stores (s n).now (s n).shared.1 (s n).shared.2 c u e
    · obtain ⟨i, c, u, e, htakes, hstores⟩ := hstores
      exact ⟨_, _, ht.stores htakes hstores⟩
    · cases h.indexMoment n with
      | rests index _ =>
        refine ⟨a, b, ht.rests index ?_⟩
        intro i c u e htakes hs
        exact hstores ⟨i, c, u, e, htakes, hs⟩
      | invalidates k resolver => exact ⟨_, _, ht.invalidates resolver⟩
      | stores i c u e takes stores => exact absurd ⟨i, c, u, e, takes, stores⟩ hstores

/-- Every number that was introduced is there, or its entry was invalidated or got lost. -/
lemma Tallied.reckoned (ht : Tallied s n a b) (h : Requests config s) :
    (s n).shared.2.evictions + b + size (s n).shared.2.index = a := by
  induction ht with
  | start =>
    rw [h.new]
    rfl
  | @rests n a b _ hindex hnot ih =>
    have hcount : (s (n + 1)).shared.2.evictions = (s n).shared.2.evictions := by
      cases h.indexMoment n with
      | rests _ evictions => exact evictions
      | invalidates k resolver =>
        rw [resolver]
        rfl
      | stores i c u e takes stores => exact absurd stores (hnot i c u e takes)
    rw [hindex, hcount, ih]
  | @invalidates n a b k _ hs ih =>
    have hsize := size_invalidate (s n).shared.2.index k
    rw [hs]
    change (s n).shared.2.evictions + (b + invalidatedBy (s n).shared.2.index k) +
      size ((s n).shared.2.index.invalidate k) = a
    omega
  | @stores n a b i c u e _ htakes hstores ih =>
    have hbounded := h.bounded n
    rw [← (h.settings n).2] at hbounded
    have hsize := size_populate hbounded c.key e
    rw [htakes.shared, hstores.index, hstores.evictions]
    omega

/-- What holds of the index of a resolver at any time: neither table has too many entries, and the
entries that got lost are those under the numbers that were introduced, without the ones that were
invalidated and the ones that are there. -/
structure Reckoned (config : ResolverConfig) (s : Nat → RequestRun S) (n : Nat) : Prop where
  byAccount : ∀ max, config.maxEntries = some max →
    (s n).shared.2.index.byAccount.length ≤ max.toNat
  byInstall : ∀ max, config.maxEntries = some max →
    (s n).shared.2.index.byInstall.length ≤ max.toNat
  tallied : ∃ a b, Tallied s n a b
  evictions : ∀ a b, Tallied s n a b → (s n).shared.2.evictions + b +
    ((s n).shared.2.index.byAccount.length + (s n).shared.2.index.byInstall.length) = a

end Requests

/-- Entries that are stored one after another in an empty table leave those of the keys that were
stored last, in this order and each with its last entry, and every key that was not there when an
entry was stored under it is still there, or an entry was counted that got lost. So the tables of a
resolver never have too many entries, and what it has counted makes up for the numbers that were
introduced into its index and were neither invalidated nor are there. -/
theorem index_keeps_recent :
    (∀ (K : Type) [DecidableEq K] (bound : Option Nat) (ps : List (K × CacheEntry)),
      KeepsRecent bound ps (putEach bound ps []).1 (putEach bound ps []).2) ∧
    ∀ (S : Type) [AccountStore S] (config : ResolverConfig) (s : Nat → RequestRun S),
      Requests config s → ∀ n, Reckoned config s n := by
  constructor
  · intro K _ bound ps
    have horder : keys (putEach bound ps []).1 = recent bound (keys ps).dedup := by
      rw [putEach_nil_eq, keys_recent, keys_lastPuts]
    have hempty : (keys ([] : Table K CacheEntry)).Nodup := List.nodup_nil
    refine ⟨horder, ?_, ?_, ?_⟩
    · rw [← length_recent, ← horder, keys, List.length_map]
    · intro p hp
      rw [putEach_nil_eq] at hp
      exact split_of_mem_lastPuts ((recent_sublist bound _).mem hp)
    · rw [length_putEach hempty, List.length_nil, Nat.zero_add]
  · intro S _ config s h n
    have hbounded := h.bounded n
    refine ⟨?_, ?_, h.tallied n, fun a b ht => ht.reckoned h⟩
    · intro max hmax
      exact hbounded.byAccount.length max.toNat (by rw [hmax, Option.map_some])
    · intro max hmax
      exact hbounded.byInstall.length max.toNat (by rw [hmax, Option.map_some])

def standardOne : ResolverConfig :=
  { ResolverConfig.standard with maxEntries := some 1 }

/-- Three accounts that do not exist are looked up, one after another, and the second one is
invalidated before the third one is looked up. -/
def squeeze : Nat → RequestRun AccountMemory :=
  play Resolver.machine ⟨0, (⟨AccountMemory.empty, ⟨.epoch⟩⟩, .new standardOne), [],
    [⟨0, none, .planned (.new .plain (.byAccount 7))⟩,
      ⟨0, none, .planned (.new .plain (.byAccount 8))⟩,
      ⟨0, none, .planned (.new .plain (.byAccount 9))⟩]⟩
    [.event (.start 0), .event (.step 0), .event (.step 0), .event (.start 1), .event (.step 1),
      .event (.step 1), invalidateKey (.byAccount 8), .event (.start 2), .event (.step 2),
      .event (.step 2)]

lemma requests_squeeze : Requests standardOne squeeze where
  chronicle := chronicle_play _ _ (by simp)
  new := rfl
  fresh := unstarted_of_jobs (by simp [squeeze, Resolver.Call.new])

def repeated : List (Nat × CacheEntry) :=
  [(1, ⟨.epoch, none⟩), (2, ⟨.epoch, none⟩), (1, ⟨minuteLater, none⟩), (3, ⟨minuteLater, none⟩)]

/-- Of three keys a table that keeps two loses the one that was not stored again. Of three numbers
that are introduced into an index one gets lost, one is invalidated and one is there. -/
theorem index_keeps_recent_squeeze :
    keys (putEach (some 2) repeated []).1 = [1, 3] ∧ (putEach (some 2) repeated []).2 + 2 = 3 ∧
      ∃ a b, Tallied squeeze 10 a b ∧ 1 + b + (1 + 0) = a := by
  obtain ⟨hputs, hruns⟩ := index_keeps_recent
  have hkept := hputs Nat (some 2) repeated
  have hreckoned := hruns AccountMemory standardOne squeeze requests_squeeze 10
  have hcount : (squeeze 10).shared.2.evictions = 1 := rfl
  have haccount : (squeeze 10).shared.2.index.byAccount.length = 1 := rfl
  have hinstall : (squeeze 10).shared.2.index.byInstall.length = 0 := rfl
  have hnumber : (putEach (some 2) repeated []).1.length = 2 := hkept.number.trans (by decide)
  obtain ⟨a, b, htallied⟩ := hreckoned.tallied
  have hevicted := hreckoned.evictions a b htallied
  rw [hcount, haccount, hinstall] at hevicted
  refine ⟨hkept.order.trans (by decide), ?_, a, b, htallied, hevicted⟩
  rw [← hnumber]
  exact hkept.counted.trans (by decide)

end Tenancy.Proofs
