import Mathlib.Data.List.Basic
import Tenancy.Proofs.Table
import Tenancy.Resolver.Index

/-!
# Entries of the index

Where the entries of an index come from. Nothing stands in it but what was put there, under a key
of a request or of the record that it found; entries only get lost.
-/

namespace Tenancy.Proofs

open CacheIndex Table

section Put

variable {K : Type} {t : Table K CacheEntry} {bound : Option Nat} {e : CacheEntry}
  {p : K × CacheEntry}

lemma mem_of_mem_trim (h : p ∈ (trim bound t).1) : p ∈ t := by
  unfold trim at h
  split at h
  · exact h
  · exact List.mem_of_mem_drop h

variable [DecidableEq K]

lemma mem_of_mem_put {k : K} (h : p ∈ (put bound t k e).1) : p ∈ t ∨ p = (k, e) := by
  have hp := mem_of_mem_trim h
  rw [Table.insert, List.mem_append, List.mem_singleton] at hp
  exact hp.imp_left mem_of_mem_erase

lemma mem_of_mem_putAll {ks : List K} (h : p ∈ (putAll bound e ks t).1) :
    p ∈ t ∨ p.1 ∈ ks ∧ p.2 = e := by
  induction ks generalizing t with
  | nil => exact .inl h
  | cons k ks ih =>
    rw [putAll] at h
    rcases ih h with hp | ⟨hk, he⟩
    · rcases mem_of_mem_put hp with hp | rfl
      · exact .inl hp
      · exact .inr ⟨List.mem_cons_self, rfl⟩
    · exact .inr ⟨List.mem_cons_of_mem _ hk, he⟩

lemma get?_putAll {ks : List K} (k : K) :
    get? (putAll none e ks t).1 k = if k ∈ ks then some e else get? t k := by
  induction ks generalizing t with
  | nil => simp [putAll]
  | cons j ks ih =>
    rw [putAll]
    simp only [ih, put, trim, get?_insert, List.mem_cons]
    by_cases hk : k ∈ ks
    · simp [hk]
    · simp [hk]

end Put

lemma mem_eraseReps_toList {α : Type} [DecidableEq α] {a : α} {o p : Option α} :
    a ∈ (o.toList ++ p.toList).eraseReps ↔ o = some a ∨ p = some a := by
  cases o with
  | none =>
    cases p with
    | none => simp [List.eraseReps, List.eraseRepsBy]
    | some c => simp [List.eraseReps, List.eraseRepsBy, List.eraseRepsBy.loop, eq_comm]
  | some b =>
    cases p with
    | none => simp [List.eraseReps, List.eraseRepsBy, List.eraseRepsBy.loop, eq_comm]
    | some c =>
      by_cases h : b = c
      · simp [List.eraseReps, List.eraseRepsBy, List.eraseRepsBy.loop, h, eq_comm]
      · have hb : (b == c) = false := by simpa using h
        simp [List.eraseReps, List.eraseRepsBy, List.eraseRepsBy.loop, hb, eq_comm]

/-- A number by which a key knows an account. -/
inductive Way where
  | account (id : AccountId)
  | install (pair : InstallPair)
  deriving DecidableEq

/-- The numbers that are set in a key. -/
def waysOf (k : InstallationKey) : List Way :=
  k.account?.toList.map .account ++ k.installation?.toList.map .install

lemma account_mem_waysOf {k : InstallationKey} {a : AccountId} :
    .account a ∈ waysOf k ↔ k.account? = some a := by
  simp [waysOf]

lemma install_mem_waysOf {k : InstallationKey} {p : InstallPair} :
    .install p ∈ waysOf k ↔ k.installation? = some p := by
  simp [waysOf]

lemma isUsable_of_mem_waysOf {k : InstallationKey} {a : Way} (h : a ∈ waysOf k) :
    k.isUsable = true := by
  unfold InstallationKey.isUsable
  cases a with
  | account id => rw [account_mem_waysOf.mp h, Option.isSome_some, Bool.true_or]
  | install p => rw [install_mem_waysOf.mp h, Option.isSome_some, Bool.or_true]

/-- The numbers under which an entry is stored for a request: those of the request and those of the
record that was found. -/
def storedUnder (request : InstallationKey) (found : Option AccountRecord) : List Way :=
  waysOf request ++ found.toList.flatMap fun r => waysOf r.key

lemma mem_storedUnder {request : InstallationKey} {found : Option AccountRecord} {a : Way} :
    a ∈ storedUnder request found ↔
      a ∈ waysOf request ∨ ∃ r, found = some r ∧ a ∈ waysOf r.key := by
  simp [storedUnder]

section Entries

variable {i : CacheIndex} {k request : InstallationKey} {e : CacheEntry} {bound : Option Nat}
  {P Q : Way → CacheEntry → Prop}

lemma mem_accountsOf {a : AccountId} :
    a ∈ accountsOf request e ↔ .account a ∈ storedUnder request e.found := by
  rw [accountsOf, mem_eraseReps_toList, Option.bind_eq_some_iff, mem_storedUnder]
  simp only [account_mem_waysOf]

lemma mem_installsOf {p : InstallPair} :
    p ∈ installsOf request e ↔ .install p ∈ storedUnder request e.found := by
  rw [installsOf, mem_eraseReps_toList, Option.bind_eq_some_iff, mem_storedUnder]
  simp only [install_mem_waysOf]

/-- Every entry of an index has a property together with the number that it stands under. -/
structure Described (P : Way → CacheEntry → Prop) (i : CacheIndex) : Prop where
  byAccount : ∀ a e, (a, e) ∈ i.byAccount → P (.account a) e
  byInstall : ∀ p e, (p, e) ∈ i.byInstall → P (.install p) e

lemma described_empty : Described P CacheIndex.empty where
  byAccount a e h := by cases h
  byInstall p e h := by cases h

lemma Described.mono (h : Described P i) (hP : ∀ a e, P a e → Q a e) : Described Q i where
  byAccount a e ha := hP _ e (h.byAccount a e ha)
  byInstall p e hp := hP _ e (h.byInstall p e hp)

lemma Described.populate (h : Described P i) (hP : ∀ a ∈ storedUnder request e.found, P a e) :
    Described P (i.populate bound request e).1 where
  byAccount a e' ha := by
    rcases mem_of_mem_putAll ha with ha | ⟨ha, rfl⟩
    · exact h.byAccount a e' ha
    · exact hP _ (mem_accountsOf.mp ha)
  byInstall p e' hp := by
    rcases mem_of_mem_putAll hp with hp | ⟨hp, rfl⟩
    · exact h.byInstall p e' hp
    · exact hP _ (mem_installsOf.mp hp)

lemma Described.eraseKey (h : Described P i) (k : InstallationKey) :
    Described P (i.eraseKey k) where
  byAccount a e ha := by
    unfold CacheIndex.eraseKey at ha
    split at ha
    · exact h.byAccount a e (mem_of_mem_erase ha)
    · exact h.byAccount a e ha
  byInstall p e hp := by
    unfold CacheIndex.eraseKey at hp
    simp only at hp
    split at hp
    · exact h.byInstall p e (mem_of_mem_erase hp)
    · exact h.byInstall p e hp

lemma Described.invalidate (h : Described P i) (k : InstallationKey) :
    Described P (i.invalidate k) := by
  unfold CacheIndex.invalidate
  split
  · exact (h.eraseKey k).eraseKey _
  · exact h.eraseKey k

lemma Described.probe (h : Described P i) (hp : i.probe k = some e) : ∃ a ∈ waysOf k, P a e := by
  rw [CacheIndex.probe, Option.or_eq_some_iff] at hp
  rcases hp with hp | ⟨-, hp⟩
  · obtain ⟨a, ha, he⟩ := Option.bind_eq_some_iff.mp hp
    exact ⟨.account a, account_mem_waysOf.mpr ha, h.byAccount a e (mem_of_get? he)⟩
  · obtain ⟨p, hp, he⟩ := Option.bind_eq_some_iff.mp hp
    exact ⟨.install p, install_mem_waysOf.mpr hp, h.byInstall p e (mem_of_get? he)⟩

/-- The only entry of an index answers every key that has one of the numbers that it is stored
under. -/
lemma probe_populate_empty {a : Way} (ha : a ∈ waysOf k) (he : a ∈ storedUnder request e.found) :
    (CacheIndex.empty.populate none request e).1.probe k = some e := by
  have haccount : ∀ id, get? (CacheIndex.empty.populate none request e).1.byAccount id =
      if id ∈ accountsOf request e then some e else none := fun id => get?_putAll id
  have hinstall : ∀ p, get? (CacheIndex.empty.populate none request e).1.byInstall p =
      if p ∈ installsOf request e then some e else none := fun p => get?_putAll p
  unfold CacheIndex.probe
  cases a with
  | account id =>
    rw [account_mem_waysOf] at ha
    rw [ha, Option.bind_some, haccount, if_pos (mem_accountsOf.mpr he)]
    rfl
  | install p =>
    rw [install_mem_waysOf] at ha
    rw [ha, Option.bind_some, hinstall, if_pos (mem_installsOf.mpr he)]
    cases k.account? with
    | none => rfl
    | some id =>
      rw [Option.bind_some, haccount]
      split <;> rfl

end Entries

end Tenancy.Proofs
