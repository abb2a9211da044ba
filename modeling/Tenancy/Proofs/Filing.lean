import Mathlib.Data.List.Induction
import Tenancy.Proofs.Accounts
import Tenancy.Proofs.Invalidation
import Tenancy.Proofs.Provenance

/-!
# Records under two keys

A store files a record under its number, and the number under the installation of the record. A
record that takes the place of another one leaves the installation of that one filed, and a record
that is taken out takes its installation with it, whoever has it by then. So a key finds a record
with one of its numbers, or one that took the place of the last record with its installation. And
when an account is taken out, another one is hidden from a key only if both had the installation of
the key.
-/

namespace Tenancy.Proofs

open Table

/-- What is done to the records of a store in memory. -/
inductive Filing where
  | insert (r : AccountRecord)
  | remove (id : AccountId)

def Filing.apply (m : AccountMemory) : Filing → AccountMemory
  | .insert r => m.insert r
  | .remove id => (m.remove id).2

/-- The store in memory that was empty at first. -/
def storeOf (fs : List Filing) : AccountMemory :=
  fs.foldl Filing.apply .empty

/-- The database that was empty at first, into which records were put. -/
def databaseOf (schema : ProgressSchema) (rs : List AccountRecord) : Database :=
  rs.foldl (fun b r => (b.putAccount r).2) ⟨.empty, schema⟩

/-- The records that a database does not refuse. -/
def puts (rs : List AccountRecord) : List Filing :=
  (rs.filter fun r => r.key.isUsable).map .insert

/-- The last one of the records with a property that were inserted. -/
def LastInsert (P : AccountRecord → Prop) (fs : List Filing) (r : AccountRecord) : Prop :=
  ∃ before after, fs = before ++ .insert r :: after ∧ P r ∧ ∀ x, .insert x ∈ after → ¬ P x

section LastInsert

variable {P : AccountRecord → Prop} {fs : List Filing} {f : Filing} {r x : AccountRecord}

lemma LastInsert.mem (h : LastInsert P fs r) : .insert r ∈ fs ∧ P r := by
  obtain ⟨before, after, rfl, hr, -⟩ := h
  exact ⟨by simp, hr⟩

lemma lastInsert_concat :
    LastInsert P (fs ++ [f]) r ↔
      (f = .insert r ∧ P r) ∨ (LastInsert P fs r ∧ ∀ x, f = .insert x → ¬ P x) := by
  constructor
  · rintro ⟨before, after, hfs, hr, hlater⟩
    rcases List.eq_nil_or_concat after with rfl | ⟨after, g, rfl⟩
    · obtain ⟨rfl, hf⟩ := List.append_inj' hfs rfl
      exact .inl ⟨by simpa using hf, hr⟩
    · have hsplit : fs ++ [f] = (before ++ .insert r :: after) ++ [g] := by
        rw [hfs]
        simp
      obtain ⟨rfl, hf⟩ := List.append_inj' hsplit rfl
      obtain rfl : f = g := by simpa using hf
      refine .inr ⟨⟨before, after, rfl, hr, fun x hx => hlater x (by simp [hx])⟩, ?_⟩
      rintro x rfl
      exact hlater x (by simp)
  · rintro (⟨rfl, hr⟩ | ⟨⟨before, after, rfl, hr, hlater⟩, hf⟩)
    · exact ⟨fs, [], rfl, hr, by simp⟩
    · refine ⟨before, after ++ [f], by simp, hr, ?_⟩
      intro x hx
      rcases List.mem_append.mp hx with hx | hx
      · exact hlater x hx
      · exact hf x (List.mem_singleton.mp hx).symm

lemma lastInsert_insert :
    LastInsert P (fs ++ [.insert x]) r ↔ x = r ∧ P r ∨ LastInsert P fs r ∧ ¬ P x := by
  simp [lastInsert_concat]

lemma lastInsert_remove {id : AccountId} :
    LastInsert P (fs ++ [.remove id]) r ↔ LastInsert P fs r := by
  simp [lastInsert_concat]

end LastInsert

/-- The last record with a number, and the last one with an installation. -/
abbrev LastWith (fs : List Filing) : Way → AccountRecord → Prop
  | .account a => LastInsert (fun r => r.accountId = a) fs
  | .install p => LastInsert (fun r => r.key.installation? = some p) fs

/-- A store holds only records that were the last ones with their number, and files an installation
under the number of the last record that had it. -/
structure Indexed (fs : List Filing) (m : AccountMemory) : Prop where
  account : ∀ {a r}, m.accounts.get? a = some r → LastWith fs (.account a) r
  installation : ∀ {p a}, m.installations.get? p = some a →
    ∃ old, LastWith fs (.install p) old ∧ old.accountId = a
  sound : m.failures = []

section Indexed

variable {fs : List Filing} {m : AccountMemory} {r : AccountRecord}

lemma Indexed.insert (h : Indexed fs m) (x : AccountRecord) :
    Indexed (fs ++ [.insert x]) (m.insert x) where
  account {a r} hr := by
    rw [get?_accounts_insert] at hr
    rw [LastWith, lastInsert_insert]
    split at hr
    · rename_i ha
      obtain rfl := Option.some.inj hr
      exact .inl ⟨rfl, ha.symm⟩
    · rename_i ha
      exact .inr ⟨h.account hr, Ne.symm ha⟩
  installation {p a} hp := by
    rw [get?_installations_insert] at hp
    split at hp
    · rename_i hx
      exact ⟨x, lastInsert_insert.mpr (.inl ⟨rfl, hx⟩), Option.some.inj hp⟩
    · rename_i hx
      obtain ⟨old, hold, ha⟩ := h.installation hp
      exact ⟨old, lastInsert_insert.mpr (.inr ⟨hold, hx⟩), ha⟩
  sound := h.sound

lemma Indexed.remove (h : Indexed fs m) (id : AccountId) :
    Indexed (fs ++ [.remove id]) (m.remove id).2 where
  account {a r} hr := by
    rw [get?_accounts_remove] at hr
    split at hr
    · cases hr
    · exact lastInsert_remove.mpr (h.account hr)
  installation {p a} hp := by
    rw [get?_installations_remove] at hp
    split at hp
    · cases hp
    · obtain ⟨old, hold, ha⟩ := h.installation hp
      exact ⟨old, lastInsert_remove.mpr hold, ha⟩
  sound := by
    unfold AccountMemory.remove
    split <;> exact h.sound

lemma indexed_storeOf (fs : List Filing) : Indexed fs (storeOf fs) := by
  induction fs using List.reverseRecOn with
  | nil => exact ⟨fun h => (by cases h), fun h => (by cases h), rfl⟩
  | append_singleton fs f ih =>
    rw [storeOf, List.foldl_append]
    cases f with
    | insert r => exact ih.insert r
    | remove id => exact ih.remove id

/-- The last record with the installation of a key gave way, under its number, to one that does not
have the installation. -/
def Displaced (fs : List Filing) (k : InstallationKey) (r : AccountRecord) : Prop :=
  ∃ p old, k.installation? = some p ∧ LastWith fs (.install p) old ∧
    LastWith fs (.account old.accountId) r ∧ r.key.installation? ≠ some p

instance (j k : InstallationKey) : Decidable (Shares j k) :=
  inferInstanceAs (Decidable (∃ a ∈ waysOf j, a ∈ waysOf k))

/-- What a store finds for a key: a record under the number of the key, or one under the number of
the last record that had the installation of the key. -/
lemma Indexed.find? (h : Indexed fs m) {k : InstallationKey} (hr : m.find? k = some r) :
    Shares k r.key ∨ Displaced fs k r := by
  rcases Option.or_eq_some_iff.mp hr with hr | ⟨-, hr⟩
  · obtain ⟨a, ha, hr⟩ := Option.bind_eq_some_iff.mp hr
    obtain ⟨-, rfl⟩ := (h.account hr).mem
    have hset : r.key.accountId.value ≠ 0 := value_ne_zero_of_account? ha
    have hown : r.key.account? = some r.accountId := by
      rw [InstallationKey.account?, if_neg hset]
      rfl
    exact .inl ⟨.account r.accountId, account_mem_waysOf.mpr ha, account_mem_waysOf.mpr hown⟩
  · obtain ⟨a, ha, hr⟩ := Option.bind_eq_some_iff.mp hr
    obtain ⟨p, hp, ha⟩ := Option.bind_eq_some_iff.mp ha
    obtain ⟨old, hold, rfl⟩ := h.installation ha
    by_cases hown : r.key.installation? = some p
    · exact .inl ⟨.install p, install_mem_waysOf.mpr hp, install_mem_waysOf.mpr hown⟩
    · exact .inr ⟨p, old, hp, hold, h.account hr, hown⟩

lemma lookup_storeOf (fs : List Filing) (k : InstallationKey) :
    (AccountStore.lookup (storeOf fs) k).1 = (storeOf fs).answer k := by
  change (AccountMemory.lookup (storeOf fs) k).1 = _
  unfold AccountMemory.lookup
  rw [(indexed_storeOf fs).sound]

end Indexed

section Puts

variable (schema : ProgressSchema) {rs : List AccountRecord} {r : AccountRecord}

lemma puts_concat (rs : List AccountRecord) (r : AccountRecord) :
    puts (rs ++ [r]) = if r.key.isUsable then puts rs ++ [.insert r] else puts rs := by
  unfold puts
  rw [List.filter_append, List.map_append]
  by_cases hr : r.key.isUsable = true
  · rw [if_pos hr, List.filter_singleton, hr]
    rfl
  · rw [if_neg hr, List.filter_singleton, Bool.eq_false_iff.mpr hr]
    simp

/-- A database holds what a store in memory holds into which the same records are put, but for those
that the database refuses. -/
lemma mirrors_databaseOf (rs : List AccountRecord) :
    Mirrors (storeOf (puts rs)) (databaseOf schema rs).directory := by
  induction rs using List.reverseRecOn with
  | nil => exact mirrors_empty
  | append_singleton rs r ih =>
    rw [puts_concat, databaseOf, List.foldl_append]
    change Mirrors _ ((databaseOf schema rs).putAccount r).2.directory
    unfold Database.putAccount InstallationKey.validate
    by_cases hr : r.key.isUsable = true
    · rw [if_pos hr, if_pos hr, storeOf, List.foldl_append]
      exact ih.insert r
    · rw [if_neg hr, if_neg hr]
      exact ih

lemma lookup_databaseOf (rs : List AccountRecord) (k : InstallationKey) :
    (AccountStore.lookup (databaseOf schema rs) k).1 =
      (AccountStore.lookup (storeOf (puts rs)) k).1 := by
  rw [lookup_storeOf]
  exact (mirrors_databaseOf schema rs).answer k

lemma get?_puts (rs : List AccountRecord) :
    (∀ a r, LastWith (puts rs) (.account a) r → (storeOf (puts rs)).accounts.get? a = some r) ∧
    ∀ p old, LastWith (puts rs) (.install p) old →
      (storeOf (puts rs)).installations.get? p = some old.accountId := by
  induction rs using List.reverseRecOn with
  | nil =>
    have hnone : ∀ P r, ¬ LastInsert P (puts []) r := fun P r h => by cases h.mem.1
    exact ⟨fun a r h => absurd h (hnone _ r), fun p old h => absurd h (hnone _ old)⟩
  | append_singleton rs x ih =>
    rw [puts_concat]
    split
    · rw [storeOf, List.foldl_append]
      constructor
      · intro a r hlast
        change ((storeOf (puts rs)).insert x).accounts.get? a = _
        rw [get?_accounts_insert]
        rcases lastInsert_insert.mp hlast with ⟨rfl, ha⟩ | ⟨hlast, ha⟩
        · rw [if_pos ha.symm]
        · rw [if_neg (Ne.symm ha), ih.1 a r hlast]
      · intro p old hlast
        change ((storeOf (puts rs)).insert x).installations.get? p = _
        rw [get?_installations_insert]
        rcases lastInsert_insert.mp hlast with ⟨rfl, hp⟩ | ⟨hlast, hp⟩
        · rw [if_pos hp]
        · rw [if_neg hp, ih.2 p old hlast]
    · exact ih

/-- A record that displaced the last one with the installation of a key is what the key finds. -/
lemma Displaced.found {k : InstallationKey} (h : Displaced (puts rs) k r) (hk : k.account? = none) :
    (AccountStore.lookup (storeOf (puts rs)) k).1 = .ok r ∧ ¬ Shares k r.key := by
  obtain ⟨p, old, hp, hold, hr, hown⟩ := h
  have husable : k.isUsable = true := isUsable_of_mem_waysOf (install_mem_waysOf.mpr hp)
  have hfind : (storeOf (puts rs)).find? k = some r := by
    unfold AccountMemory.find?
    rw [hk, hp, Option.bind_none, Option.none_or, Option.bind_some, (get?_puts rs).2 p old hold,
      Option.bind_some, (get?_puts rs).1 _ r hr]
  refine ⟨?_, ?_⟩
  · rw [lookup_storeOf, answer_usable husable .epoch, hfind]
    rfl
  · rintro ⟨way, hway, hshared⟩
    cases way with
    | account a => simp [account_mem_waysOf, hk] at hway
    | install q =>
      rw [install_mem_waysOf, hp, Option.some.injEq] at hway
      rw [install_mem_waysOf, ← hway] at hshared
      exact hown hshared

end Puts

/-- A record that is found for a key has one of the numbers of the key, or it took the place of the
last record that had the installation of the key. As long as no record was taken out, such a record
is what the installation finds, both in memory and in a database. -/
theorem lookup_shares (schema : ProgressSchema) :
    (∀ fs k r, (AccountStore.lookup (storeOf fs) k).1 = .ok r →
      Shares k r.key ∨ Displaced fs k r) ∧
    (∀ rs k r, (AccountStore.lookup (databaseOf schema rs) k).1 = .ok r →
      Shares k r.key ∨ Displaced (puts rs) k r) ∧
    ∀ rs k r, k.account? = none → Displaced (puts rs) k r →
      (AccountStore.lookup (storeOf (puts rs)) k).1 = .ok r ∧
        (AccountStore.lookup (databaseOf schema rs) k).1 = .ok r ∧ ¬ Shares k r.key := by
  have hmemory : ∀ fs k r, (AccountStore.lookup (storeOf fs) k).1 = .ok r →
      Shares k r.key ∨ Displaced fs k r := by
    intro fs k r hr
    rw [lookup_storeOf] at hr
    exact (indexed_storeOf fs).find? (find?_of_answer hr)
  refine ⟨hmemory, ?_, ?_⟩
  · intro rs k r hr
    rw [lookup_databaseOf] at hr
    exact hmemory (puts rs) k r hr
  · intro rs k r hk hdisplaced
    obtain ⟨hfound, hnot⟩ := hdisplaced.found hk
    exact ⟨hfound, by rw [lookup_databaseOf, hfound], hnot⟩

def movedRecord : AccountRecord :=
  .new ⟨⟨7⟩, ⟨3⟩, ⟨4⟩⟩

def unnumberedPair : List AccountRecord :=
  [.new (.byInstallation 1 2), .new (.byInstallation 3 4)]

/-- An account moves to another installation, and is still found for the one that it had. Of two
accounts without numbers the second one is found for the installation of the first one. -/
theorem lookup_shares_moved :
    Displaced [.insert pairedRecord, .insert movedRecord] (.byInstallation 1 2) movedRecord ∧
      (AccountStore.lookup (databaseOf .current unnumberedPair) (.byInstallation 1 2)).1 =
        .ok (.new (.byInstallation 3 4)) ∧
      Displaced (puts unnumberedPair) (.byInstallation 1 2) (.new (.byInstallation 3 4)) := by
  obtain ⟨hmemory, hdatabase, hexact⟩ := lookup_shares .current
  have hmoved := hmemory [.insert pairedRecord, .insert movedRecord] (.byInstallation 1 2)
    movedRecord (by decide)
  have hlater : ∀ x, .insert x ∈ [Filing.insert (.new (.byInstallation 3 4))] →
      x.key.installation? ≠ some ⟨⟨1⟩, ⟨2⟩⟩ := by
    intro x hx
    rw [Filing.insert.inj (List.mem_singleton.mp hx)]
    decide
  have hlast : Displaced (puts unnumberedPair) (.byInstallation 1 2) (.new (.byInstallation 3 4)) :=
    ⟨⟨⟨1⟩, ⟨2⟩⟩, .new (.byInstallation 1 2), rfl, ⟨[], [_], rfl, rfl, hlater⟩,
      ⟨[_], [], rfl, rfl, by simp⟩, by decide⟩
  obtain ⟨-, hfound, hnot⟩ := hexact unnumberedPair _ _ rfl hlast
  exact ⟨hmoved.resolve_left (by decide), hfound,
    (hdatabase unnumberedPair _ _ hfound).resolve_left hnot⟩

theorem not_lookup_shares :
    ¬ (∀ fs : List Filing, (∀ x, .insert x ∈ fs → x.key.isUsable = true) →
      ∀ k r, (AccountStore.lookup (storeOf fs) k).1 = .ok r → Shares k r.key) ∧
    ¬ ∀ (schema : ProgressSchema) (rs : List AccountRecord), (∀ x ∈ rs, x.key.isUsable = true) →
      ∀ k r, (AccountStore.lookup (databaseOf schema rs) k).1 = .ok r → Shares k r.key := by
  constructor
  · intro hall
    have hvalid : ∀ x, .insert x ∈ [Filing.insert pairedRecord, .insert movedRecord] →
        x.key.isUsable = true := by
      intro x hx
      simp only [List.mem_cons, Filing.insert.injEq, List.not_mem_nil, or_false] at hx
      rcases hx with rfl | rfl <;> rfl
    have hshares := hall _ hvalid (.byInstallation 1 2) movedRecord (by decide)
    exact absurd hshares (by decide)
  · intro hall
    have hshares := hall .current [pairedRecord, movedRecord] (by decide) (.byInstallation 1 2)
      movedRecord (by rw [lookup_databaseOf]; decide)
    exact absurd hshares (by decide)

section Removal

variable {m : AccountMemory} {fs : List Filing} {k : InstallationKey} {r : AccountRecord}
  {a : AccountId}

/-- Nothing stands under the number of a key, and an account has a record with its installation. -/
def Overlaps (m : AccountMemory) (k : InstallationKey) (a : AccountId) : Prop :=
  k.account?.bind m.accounts.get? = none ∧
    ∃ p, k.installation? = some p ∧ (m.accounts.get? a).bind (·.key.installation?) = some p

/-- An account has a record with the installation of a key, and the last record that had this
installation is one of another account. -/
def Overtaken (fs : List Filing) (k : InstallationKey) (a b : AccountId) : Prop :=
  ∃ p x y, k.installation? = some p ∧ LastWith fs (.account a) x ∧ x.key.installation? = some p ∧
    LastWith fs (.install p) y ∧ y.accountId = b

lemma find?_remove (hm : Filed m) (hr : m.find? k = some r) (ha : r.accountId ≠ a) :
    (m.remove a).2.find? k = some r ∧ ¬ Overlaps m k a ∨
      (m.remove a).2.find? k = none ∧ Overlaps m k a ∧
        k.installation?.bind m.installations.get? = some r.accountId := by
  have hstays : ∀ b, m.accounts.get? b = some r → (m.remove a).2.accounts.get? b = some r := by
    intro b hb
    rw [get?_accounts_remove, if_neg (hm b r hb ▸ ha), hb]
  rcases Option.or_eq_some_iff.mp hr with hnumber | ⟨hnumber, hinstall⟩
  · obtain ⟨b, hb, hget⟩ := Option.bind_eq_some_iff.mp hnumber
    left
    constructor
    · rw [AccountMemory.find?, hb, Option.bind_some, hstays b hget, Option.some_or]
    · rintro ⟨hnone, -⟩
      cases hnumber.symm.trans hnone
  · obtain ⟨b, hb, hget⟩ := Option.bind_eq_some_iff.mp hinstall
    obtain ⟨p, hp, hfiled⟩ := Option.bind_eq_some_iff.mp hb
    have hnone : k.account?.bind (m.remove a).2.accounts.get? = none := by
      rw [Option.bind_eq_none_iff] at hnumber ⊢
      intro c hc
      rw [get?_accounts_remove, hnumber c hc, ite_self]
    have hfind : (m.remove a).2.find? k = ((m.remove a).2.installations.get? p).bind
        (m.remove a).2.accounts.get? := by
      rw [AccountMemory.find?, hnone, hp, Option.none_or, Option.bind_some]
    rw [hfind, get?_installations_remove]
    by_cases hown : (m.accounts.get? a).bind (·.key.installation?) = some p
    · right
      rw [if_pos hown, hm b r hget]
      exact ⟨rfl, ⟨hnumber, p, hp, hown⟩, hb⟩
    · left
      rw [if_neg hown, hfiled, Option.bind_some]
      refine ⟨hstays b hget, ?_⟩
      rintro ⟨-, q, hq, hq'⟩
      rw [hp] at hq
      exact hown (hq.symm ▸ hq')

/-- When an account is taken out, a key that found the record of another account finds it still,
unless nothing stands under the number of the key and both accounts had its installation, the other
one after the one that is taken out. Then the key finds nothing. -/
theorem remove_keeps (h : (AccountStore.lookup (storeOf fs) k).1 = .ok r) (ha : r.accountId ≠ a) :
    let after := (AccountStore.lookup (storeOf (fs ++ [.remove a])) k).1
    (after = .ok r ∧ ¬ Overlaps (storeOf fs) k a) ∨
      (after = .error .notFound ∧ Overlaps (storeOf fs) k a ∧ Overtaken fs k a r.accountId) := by
  intro after
  have hindexed := indexed_storeOf fs
  have hfiled : Filed (storeOf fs) := fun id x hx => (hindexed.account hx).mem.2
  rw [lookup_storeOf] at h
  have husable : k.isUsable = true := by
    by_contra hnot
    rw [AccountMemory.answer, InstallationKey.validate, if_neg hnot] at h
    cases h
  have hafter : after = CacheEntry.outcome ⟨.epoch, ((storeOf fs).remove a).2.find? k⟩ := by
    change (AccountStore.lookup (storeOf (fs ++ [.remove a])) k).1 = _
    rw [lookup_storeOf, answer_usable husable .epoch, storeOf, List.foldl_append]
    rfl
  rcases find?_remove hfiled (find?_of_answer h) ha with ⟨hfind, hnot⟩ | ⟨hfind, hoverlaps, hr⟩
  · rw [hafter, hfind]
    exact .inl ⟨rfl, hnot⟩
  · rw [hafter, hfind]
    refine .inr ⟨rfl, hoverlaps, ?_⟩
    obtain ⟨-, p, hp, hown⟩ := hoverlaps
    obtain ⟨x, hx, hxp⟩ := Option.bind_eq_some_iff.mp hown
    rw [hp, Option.bind_some] at hr
    obtain ⟨y, hy, hyr⟩ := hindexed.installation hr
    exact ⟨p, x, y, hp, hindexed.account hx, hxp, hy, hyr⟩

end Removal

def siblingRecord : AccountRecord :=
  .new ⟨⟨8⟩, ⟨1⟩, ⟨2⟩⟩

/-- Two accounts have had one installation. When the first one is taken out, the second one is not
found for the installation any more, but it is found for its number. -/
theorem remove_keeps_sibling :
    let fs : List Filing := [.insert pairedRecord, .insert siblingRecord]
    Overtaken fs (.byInstallation 1 2) ⟨7⟩ ⟨8⟩ ∧
      (AccountStore.lookup (storeOf (fs ++ [.remove ⟨7⟩])) (.byAccount 8)).1 =
        .ok siblingRecord := by
  intro fs
  have hpair : (AccountStore.lookup (storeOf fs) (.byInstallation 1 2)).1 = .ok siblingRecord := by
    decide
  have hnumber : (AccountStore.lookup (storeOf fs) (.byAccount 8)).1 = .ok siblingRecord := by
    decide
  constructor
  · rcases remove_keeps hpair (a := ⟨7⟩) (by decide) with ⟨hfound, -⟩ | ⟨-, -, hovertaken⟩
    · exact absurd hfound (by decide)
    · exact hovertaken
  · rcases remove_keeps hnumber (a := ⟨7⟩) (by decide) with ⟨hfound, -⟩ | ⟨-, ⟨hnone, -⟩, -⟩
    · exact hfound
    · exact absurd hnone (by decide)

theorem not_remove_keeps :
    ¬ ∀ fs a k r, (AccountStore.lookup (storeOf fs) k).1 = .ok r → r.accountId ≠ a →
      (AccountStore.lookup (storeOf (fs ++ [.remove a])) k).1 = .ok r := by
  intro hall
  have hkept := hall [.insert pairedRecord, .insert siblingRecord] ⟨7⟩ (.byInstallation 1 2)
    siblingRecord (by decide) (by decide)
  exact absurd hkept (by decide)

end Tenancy.Proofs
