import Tenancy.Proofs.Evictions

/-!
# What an invalidation leaves

When a key is invalidated, the entries under its numbers are dropped, and those under the numbers of
the record that answers it. An entry with a record of the same account stays if it stands under
another number. Then it was stored for a request that named the account by a number which is not its
own, or its record is another one, with an installation that the answer does not have.
-/

namespace Tenancy.Proofs

open Function Resolver CacheIndex Table

section Index

variable {i : CacheIndex} {k : InstallationKey} {e x : CacheEntry} {a : Way}

lemma entered_eraseKey : Entered (i.eraseKey k) a x ↔ Entered i a x ∧ a ∉ waysOf k := by
  cases a with
  | account id =>
    rw [account_mem_waysOf]
    change (id, x) ∈ (i.eraseKey k).byAccount ↔ (id, x) ∈ i.byAccount ∧ _
    unfold CacheIndex.eraseKey
    cases k.account? with
    | none => simp
    | some b => simp [mem_erase, eq_comm]
  | install p =>
    rw [install_mem_waysOf]
    change (p, x) ∈ (i.eraseKey k).byInstall ↔ (p, x) ∈ i.byInstall ∧ _
    unfold CacheIndex.eraseKey
    cases k.installation? with
    | none => simp
    | some q => simp [mem_erase, eq_comm]

/-- Exactly the entries under numbers of the key and of the record that answers it are dropped. -/
lemma entered_invalidate {r : AccountRecord} (hp : i.probe k = some e) (hr : e.found = some r) :
    Entered (i.invalidate k) a x ↔ Entered i a x ∧ a ∉ waysOf k ∧ a ∉ waysOf r.key := by
  unfold CacheIndex.invalidate
  rw [hp, Option.bind_some, hr]
  simp only [entered_eraseKey, and_assoc]

lemma entered_of_probe (h : i.probe k = some e) : ∃ a ∈ waysOf k, Entered i a e :=
  Described.probe (P := Entered i) ⟨fun _ _ h => h, fun _ _ h => h⟩ h

lemma Described.of_entered {P : Way → CacheEntry → Prop} (h : Described P i) (hx : Entered i a x) :
    P a x := by
  cases a with
  | account id => exact h.byAccount id x hx
  | install p => exact h.byInstall p x hx

end Index

section Requests

variable {S : Type} [AccountStore S] {config : ResolverConfig} {s : Nat → RequestRun S} {n : Nat}

/-- An entry was looked up for a key with a number that its record does not have. -/
def Stray (s : Nat → RequestRun S) (n : Nat) (a : Way) (x : CacheEntry)
    (r : AccountRecord) : Prop :=
  (∃ m < n, ∃ j, Returns s m j x ∧ a ∈ waysOf j) ∧ a ∉ waysOf r.key

/-- A number is an installation that the one record has and the other does not. -/
def Former (a : Way) (r' r : AccountRecord) : Prop :=
  ∃ p, a = .install p ∧ r'.key.installation? = some p ∧ r.key.installation? ≠ some p

/-- An entry with a record of the same account as another record, but under no number of this one,
is a stray, or it stands under a former installation. -/
lemma Traced.remnant {a : Way} {x : CacheEntry} {r r' : AccountRecord} (h : Traced s n a x)
    (hr' : x.found = some r') (hsame : r'.accountId = r.accountId) (hnot : a ∉ waysOf r.key) :
    Stray s n a x r' ∨ Former a r' r := by
  obtain ⟨m, hm, j, hreturns, hstored⟩ := h
  by_cases hown : a ∈ waysOf r'.key
  · right
    cases a with
    | account id =>
      have hnumber : r.key.account? = r'.key.account? := by
        rw [InstallationKey.account?, InstallationKey.account?,
          show r.key.accountId = r'.key.accountId from hsame.symm]
      rw [account_mem_waysOf, ← hnumber] at hown
      exact absurd (account_mem_waysOf.mpr hown) hnot
    | install p =>
      exact ⟨p, rfl, install_mem_waysOf.mp hown, fun hp => hnot (install_mem_waysOf.mpr hp)⟩
  · left
    refine ⟨⟨m, hm, j, hreturns, ?_⟩, hown⟩
    rcases mem_storedUnder.mp hstored with hj | ⟨r'', hr'', ha⟩
    · exact hj
    · rw [hr', Option.some.injEq] at hr''
      exact absurd (hr'' ▸ ha) hown

/-- When a key is invalidated that a record answers, exactly the entries under the numbers of the
key and of the record are dropped. If another entry has a record of the same account, it was looked
up for a key with a number that this record does not have, or it stands under an installation of its
record that is not the one of the answer. Only keys with such a number are answered with it from
then on. -/
theorem invalidate_leaves (h : Requests config s) (n : Nat) {k : InstallationKey} {e : CacheEntry}
    {r : AccountRecord} (hp : (s n).shared.2.index.probe k = some e) (hr : e.found = some r) :
    let i := (s n).shared.2.index
    (∀ a x, Entered (i.invalidate k) a x ↔ Entered i a x ∧ a ∉ waysOf k ∧ a ∉ waysOf r.key) ∧
    (∀ a x r', Entered (i.invalidate k) a x → x.found = some r' → r'.accountId = r.accountId →
      Stray s n a x r' ∨ Former a r' r) ∧
    ∀ j now x left r', ((s n).shared.2.invalidate k).fresh? now j = some (x, left) →
      x.found = some r' → r'.accountId = r.accountId →
      ∃ a ∈ waysOf j, Stray s n a x r' ∨ Former a r' r := by
  intro i
  have hdropped : ∀ a x, Entered (i.invalidate k) a x ↔
      Entered i a x ∧ a ∉ waysOf k ∧ a ∉ waysOf r.key := fun a x => entered_invalidate hp hr
  have hleft : ∀ a x r', Entered (i.invalidate k) a x → x.found = some r' →
      r'.accountId = r.accountId → Stray s n a x r' ∨ Former a r' r := by
    intro a x r' hx hr' hsame
    obtain ⟨hentered, -, hnot⟩ := (hdropped a x).mp hx
    exact ((h.traced n).of_entered hentered).remnant hr' hsame hnot
  refine ⟨hdropped, hleft, ?_⟩
  intro j now x left r' hfresh hr' hsame
  obtain ⟨a, ha, hx⟩ := entered_of_probe (probe_of_fresh? hfresh)
  exact ⟨a, ha, hleft a x r' hx hr' hsame⟩

end Requests

/-- The record of an account that has moved to another installation. -/
def relocatedRecord : AccountRecord :=
  .new ⟨⟨9⟩, ⟨5⟩, ⟨6⟩⟩

/-- An account is looked up by its installation, with the number of another account. Then it moves
to another installation and is looked up by that one. -/
def relocation : Nat → RequestRun AccountMemory :=
  play Resolver.machine ⟨0, (⟨AccountMemory.empty.insert strayRecord, ⟨.epoch⟩⟩, .new .standard),
    [], [⟨0, none, .planned (.new .plain strayKey)⟩,
      ⟨0, none, .planned (.new .plain (.byInstallation 5 6))⟩]⟩
    [.event (.start 0), .event (.step 0), .event (.step 0), replaceWith relocatedRecord,
      .event (.start 1), .event (.step 1), .event (.step 1)]

/-- An account is looked up that is not there. Then another one is put into the store and looked up
by its installation. -/
def foundation : Nat → RequestRun AccountMemory :=
  play Resolver.machine ⟨0, (⟨.empty, ⟨.epoch⟩⟩, .new .standard), [],
    [⟨0, none, .planned (.new .plain (.byAccount 7))⟩,
      ⟨0, none, .planned (.new .plain (.byInstallation 3 4))⟩]⟩
    [.event (.start 0), .event (.step 0), .event (.step 0), replaceWith strayRecord,
      .event (.start 1), .event (.step 1), .event (.step 1)]

lemma requests_relocation : Requests .standard relocation where
  chronicle := chronicle_play _ _ (by simp)
  new := rfl
  fresh := unstarted_of_jobs (by simp [relocation, Resolver.Call.new])

lemma requests_foundation : Requests .standard foundation where
  chronicle := chronicle_play _ _ (by simp)
  new := rfl
  fresh := unstarted_of_jobs (by simp [foundation, Resolver.Call.new])

/-- The account is invalidated after it has moved. What it was before still stands under the number
of the other account and under the installation that it had. -/
theorem invalidate_leaves_relocation :
    let old : CacheEntry := ⟨.epoch, some strayRecord⟩
    Stray relocation 7 (.account ⟨7⟩) old strayRecord ∧
      Former (.install ⟨⟨3⟩, ⟨4⟩⟩) strayRecord relocatedRecord ∧
      ∀ x, ¬ Entered ((relocation 7).shared.2.index.invalidate (.byAccount 9))
        (.install ⟨⟨5⟩, ⟨6⟩⟩) x := by
  intro old
  obtain ⟨hdropped, hleft, -⟩ := invalidate_leaves requests_relocation 7 (k := .byAccount 9)
    (e := ⟨.epoch, some relocatedRecord⟩) (r := relocatedRecord) rfl rfl
  refine ⟨?_, ?_, ?_⟩
  · have hentered : Entered ((relocation 7).shared.2.index.invalidate (.byAccount 9)) (.account ⟨7⟩)
        old := List.mem_singleton_self _
    rcases hleft _ _ strayRecord hentered rfl rfl with hstray | ⟨p, hp, -⟩
    · exact hstray
    · cases hp
  · have hentered : Entered ((relocation 7).shared.2.index.invalidate (.byAccount 9))
        (.install ⟨⟨3⟩, ⟨4⟩⟩) old := List.mem_singleton_self _
    rcases hleft _ _ strayRecord hentered rfl rfl with ⟨-, hnot⟩ | hformer
    · exact absurd (by decide) hnot
    · exact hformer
  · intro x hx
    exact ((hdropped _ x).mp hx).2.2 (by decide)

/-- An account may be answered from the index after it was invalidated. If the key that is
invalidated names two accounts, even the entry under the own number of the second one may stay. -/
theorem not_invalidate_complete :
    (¬ ∀ (config : ResolverConfig) (s : Nat → RequestRun AccountMemory) (n : Nat)
      (k : InstallationKey) (a : Way) (e : CacheEntry) (r : AccountRecord), Requests config s →
      (∀ i c, standing (s n) i ≠ some (.running c)) → a ∈ waysOf k →
      Entered (s n).shared.2.index a e → e.found = some r →
      ∀ j now x left r', ((s n).shared.2.invalidate k).fresh? now j = some (x, left) →
        x.found = some r' → r'.accountId ≠ r.accountId) ∧
    ¬ ∀ (config : ResolverConfig) (s : Nat → RequestRun AccountMemory) (n : Nat)
      (k : InstallationKey) (a : Way) (e : CacheEntry) (r : AccountRecord), Requests config s →
      (∀ i c, standing (s n) i ≠ some (.running c)) → a ∈ waysOf k →
      Entered (s n).shared.2.index a e → e.found = some r →
      ∀ b x r', Entered ((s n).shared.2.index.invalidate k) b x → x.found = some r' →
        r'.accountId = r.accountId → Stray s n b x r' ∨ Former b r' r := by
  have hidle : ∀ i c, standing (relocation 7) i ≠ some (.running c) ∧
      standing (foundation 7) i ≠ some (.running c) := by
    intro i c
    match i with
    | 0 | 1 => exact ⟨fun hi => (by cases hi), fun hi => (by cases hi)⟩
    | i + 2 => exact ⟨fun hi => (by cases hi), fun hi => (by cases hi)⟩
  constructor
  · intro hall
    have hfresh : ((relocation 7).shared.2.invalidate (.byAccount 9)).fresh? .epoch (.byAccount 7) =
        some (⟨.epoch, some strayRecord⟩, ⟨600000000000⟩) := rfl
    have hentered : Entered (relocation 7).shared.2.index (.account ⟨9⟩)
        ⟨.epoch, some relocatedRecord⟩ := List.mem_cons_of_mem _ (List.mem_singleton_self _)
    exact hall .standard relocation 7 (.byAccount 9) (.account ⟨9⟩) ⟨.epoch, some relocatedRecord⟩
      relocatedRecord requests_relocation (fun i c => (hidle i c).1) (by decide) hentered rfl
      _ _ _ _ strayRecord hfresh rfl rfl
  · intro hall
    have hentered : Entered ((foundation 7).shared.2.index.invalidate strayKey) (.account ⟨9⟩)
        ⟨.epoch, some strayRecord⟩ := List.mem_singleton_self _
    rcases hall .standard foundation 7 strayKey (.install ⟨⟨3⟩, ⟨4⟩⟩) ⟨.epoch, some strayRecord⟩
      strayRecord requests_foundation (fun i c => (hidle i c).2) (by decide)
      (List.mem_singleton_self _) rfl _ _ strayRecord hentered rfl rfl with ⟨-, hnot⟩ | ⟨p, hp, -⟩
    · exact absurd (by decide) hnot
    · cases hp

end Tenancy.Proofs
