import Tenancy.Proofs.Misses

/-!
# Where entries come from

Requests store what they look up and what they see others look up, under the numbers of their own
keys and of the records that were found, while entries are dropped and invalidated and the clock
moves either way. Through all of this an entry stays what the store answered to one lookup, with the
time at which that lookup ended. What does not come from a lookup leaves the index as it is.
-/

namespace Tenancy.Proofs

open Function Resolver Coalescer Table

variable {S : Type} [AccountStore S] {config : ResolverConfig} {s : Nat → RequestRun S} {n i : Nat}

/-- A lookup for a key ends at a moment: the request that made it takes its turn, and an entry holds
the answer of the store and the time of the clock. -/
def Returns (s : Nat → RequestRun S) (m : Nat) (k : InstallationKey) (e : CacheEntry) : Prop :=
  ∃ j c u, Takes Resolver.machine (s m) (s (m + 1)) j c u ∧ c.key = k ∧
    Fetches (s m).now (s m).shared.1 c e

/-- An entry was looked up before a moment, and it is stored under a number of that lookup. -/
def Traced (s : Nat → RequestRun S) (n : Nat) (a : Way) (e : CacheEntry) : Prop :=
  ∃ m < n, ∃ k, Returns s m k e ∧ a ∈ storedUnder k e.found

/-- A request has run no lookup and has waited for none. -/
def Unhindered (s : Nat → RequestRun S) (i n : Nat) : Prop :=
  ∀ m < n, ∀ c, standing (s m) i = some (.running c) → c.phase = .arriving

lemma Traced.succ {a : Way} {e : CacheEntry} (h : Traced s n a e) : Traced s (n + 1) a e := by
  obtain ⟨m, hm, hk⟩ := h
  exact ⟨m, Nat.lt_succ_of_lt hm, hk⟩

lemma Requests.seen (h : Requests config s) {c : Resolver.Call} {flight due : Nat} {e : CacheEntry}
    (hi : standing (s n) i = some (.running c)) (hc : c.phase = .joining flight due)
    (hv : Resolver.sight (s n).shared.2 c flight = .value e) : ∃ m < n, Returns s m c.key e := by
  have hflights : Airspace (fun n k _ e => Returns s n k e) (fun n => flightsOf (s n).shared)
      (fun n => aboard viewRequest (standing (s n))) :=
    h.airspace_of fun n j c u hu _ e hfetch => ⟨j, c, u, hu, rfl, hfetch⟩
  have haboard : aboard viewRequest (standing (s n)) i = some (c.key, .joining flight due) :=
    aboard_eq_some.mpr ⟨c, hi, by rw [viewRequest, hc]⟩
  obtain ⟨m, hm, hreturns, -⟩ := hflights.received haboard (published_of_sight _ hv)
  exact ⟨m, hm, hreturns⟩

/-- An entry that a request stores was looked up at this moment, or the request has seen it. -/
lemma Requests.traced_populate (h : Requests config s) {c : Resolver.Call} {u : CallTurn S}
    {e : CacheEntry} (hold : Described (Traced s (n + 1)) (s n).shared.2.index)
    (hu : Takes Resolver.machine (s n) (s (n + 1)) i c u)
    (he : Stores (s n).now (s n).shared.1 (s n).shared.2 c u e) :
    Described (Traced s (n + 1)) u.shared.2.index := by
  have hreturns : ∃ m < n + 1, Returns s m c.key e := by
    rcases he.origin with ⟨flight, due, hc, hv⟩ | hfetch
    · obtain ⟨m, hm, hreturns⟩ := h.seen hu.before hc hv
      exact ⟨m, Nat.lt_succ_of_lt hm, hreturns⟩
    · exact ⟨n, Nat.lt_succ_self n, i, c, u, hu, rfl, hfetch⟩
  obtain ⟨m, hm, hreturns⟩ := hreturns
  rw [he.index]
  apply hold.populate
  intro a ha
  exact ⟨m, hm, c.key, hreturns, ha⟩

lemma Requests.traced (h : Requests config s) (n : Nat) :
    Described (Traced s n) (s n).shared.2.index := by
  induction n with
  | zero =>
    rw [h.new]
    exact described_empty
  | succ n ih =>
    have hold : Described (Traced s (n + 1)) (s n).shared.2.index := ih.mono fun _ _ => Traced.succ
    cases h.indexMoment n with
    | rests index _ => rwa [index]
    | invalidates k resolver =>
      rw [resolver]
      exact hold.invalidate k
    | stores j c u e takes stores =>
      rw [takes.shared]
      exact h.traced_populate hold takes stores

lemma value_ne_zero_of_account? {k : InstallationKey} {id : AccountId} (h : k.account? = some id) :
    id.value ≠ 0 := by
  unfold InstallationKey.account? at h
  split at h
  · cases h
  · rename_i hset
    rwa [← Option.some.inj h]

lemma values_ne_zero_of_installation? {k : InstallationKey} {p : InstallPair}
    (h : k.installation? = some p) : p.app.value ≠ 0 ∧ p.install.value ≠ 0 := by
  unfold InstallationKey.installation? at h
  split at h
  · cases h
  · rename_i hset
    rw [← Option.some.inj h]
    exact not_or.mp hset

lemma RequestTurn.settings {now : Nat} {w : World S} {r : Resolver} {c : Resolver.Call}
    {u : CallTurn S} (h : RequestTurn now w r c u) :
    u.shared.2.ttl = r.ttl ∧ u.shared.2.maxEntries = r.maxEntries := by
  cases h with
  | @settle flight => cases flight <;> exact ⟨rfl, rfl⟩
  | @fail flight => cases flight <;> exact ⟨rfl, rfl⟩
  | late =>
    obtain ⟨co, hco⟩ := abandon_eq r c
    rw [hco]
    exact ⟨rfl, rfl⟩
  | _ => exact ⟨rfl, rfl⟩

lemma Requests.settings (h : Requests config s) (n : Nat) :
    (s n).shared.2.ttl = .ofDuration config.ttl ∧
      (s n).shared.2.maxEntries = config.maxEntries.map UInt64.toNat := by
  induction n with
  | zero =>
    rw [h.new]
    exact ⟨rfl, rfl⟩
  | succ n ih =>
    cases (h.chronicle n).passage with
    | pass _ shared _ => rwa [shared]
    | change _ shared _ =>
      rcases shared with hs | ⟨k, hs⟩
      · rwa [hs]
      · rw [hs]
        exact ih
    | start j c _ _ shared _ => rwa [shared]
    | turn j c u takes =>
      obtain ⟨httl, hmax⟩ := (requestTurn_of_takes takes).settings
      rwa [takes.shared, httl, hmax]
    | drop j c _ _ shared _ =>
      obtain ⟨co, hco⟩ := abandon_eq (s n).shared.2 c
      have hdrop : (s (n + 1)).shared.2 = { (s n).shared.2 with coalescer := co } := by
        rw [shared]
        exact hco
      rw [hdrop]
      exact ih

/-- A request that neither ran nor awaited a lookup was answered at once, from the index unless its
key names nothing. -/
lemma Requests.answered_at_once (h : Requests config s) {c : Resolver.Call}
    {a : Except Error AccountRecord} {time : Nat}
    (hn : standing (s n) i = some (.ended c a time)) (hfree : Unhindered s i n) :
    ∃ m < n, standing (s m) i = some (.running c) ∧ time = (s m).now ∧
      (c.key.isUsable = false ∧ a = .error .notFound ∨ ∃ e left,
        (s m).shared.2.fresh? (s m).shared.1.clock.now c.key = some (e, left) ∧
          a = e.outcome) := by
  obtain ⟨m, hm, u, hu, hend, htime⟩ := h.chronicle.ended h.fresh hn
  have harriving : c.phase = .arriving := hfree m hm c hu.before
  refine ⟨m, hm, hu.before, htime, ?_⟩
  cases requestTurn_of_takes hu with
  | refuse _ hk => exact .inl ⟨hk, (Next.ended.inj hend).symm⟩
  | @hit e left _ _ hf => exact .inr ⟨e, left, hf, (Next.ended.inj hend).symm⟩
  | load => cases hend
  | join => cases hend
  | lead => cases hend
  | fallBack => cases hend
  | receive hc => cases harriving.symm.trans hc
  | settle hc => cases harriving.symm.trans hc
  | fail hc => cases harriving.symm.trans hc
  | late hwaits =>
    unfold Resolver.step at hwaits
    rw [harriving] at hwaits
    cases hwaits

/-- Every entry of a resolver stands under a number that is set, and it is what the store answered
to a lookup for a key with that number, or with a record that has it, at the time that it bears. A
request that runs no lookup and awaits none is answered only with an entry that is younger than the
time of trust when the request reads the clock. -/
theorem entries_traced (h : Requests config s) (n : Nat) :
    (∀ id e, (id, e) ∈ (s n).shared.2.index.byAccount → id.value ≠ 0 ∧
      ∃ m < n, ∃ k, Returns s m k e ∧
        (k.account? = some id ∨ ∃ r, e.found = some r ∧ r.key.account? = some id)) ∧
    (∀ p e, (p, e) ∈ (s n).shared.2.index.byInstall → (p.app.value ≠ 0 ∧ p.install.value ≠ 0) ∧
      ∃ m < n, ∃ k, Returns s m k e ∧
        (k.installation? = some p ∨ ∃ r, e.found = some r ∧ r.key.installation? = some p)) ∧
    ∀ i c a time, standing (s n) i = some (.ended c a time) → Unhindered s i n →
      ∃ m < n, standing (s m) i = some (.running c) ∧ time = (s m).now ∧
        (c.key.isUsable = false ∧ a = .error .notFound ∨
          ∃ e, (s m).shared.2.index.probe c.key = some e ∧ a = e.outcome ∧
            ((s m).shared.1.clock.now - e.loadedAt : Span) < .ofDuration config.ttl) := by
  have htraced := h.traced n
  refine ⟨?_, ?_, ?_⟩
  · intro id e he
    obtain ⟨m, hm, k, hreturns, hstored⟩ := htraced.byAccount id e he
    rw [mem_storedUnder] at hstored
    simp only [account_mem_waysOf] at hstored
    refine ⟨?_, m, hm, k, hreturns, hstored⟩
    rcases hstored with hk | ⟨r, -, hr⟩
    · exact value_ne_zero_of_account? hk
    · exact value_ne_zero_of_account? hr
  · intro p e he
    obtain ⟨m, hm, k, hreturns, hstored⟩ := htraced.byInstall p e he
    rw [mem_storedUnder] at hstored
    simp only [install_mem_waysOf] at hstored
    refine ⟨?_, m, hm, k, hreturns, hstored⟩
    rcases hstored with hk | ⟨r, -, hr⟩
    · exact values_ne_zero_of_installation? hk
    · exact values_ne_zero_of_installation? hr
  · intro i c a time hend hfree
    obtain ⟨m, hm, hi, htime, hanswer⟩ := h.answered_at_once hend hfree
    refine ⟨m, hm, hi, htime, hanswer.imp_right ?_⟩
    rintro ⟨e, left, hf, ha⟩
    obtain ⟨hprobe, hage⟩ := trusted_of_fresh? hf
    rw [(h.settings m).1] at hage
    exact ⟨e, hprobe, ha, hage⟩

def pairedRecord : AccountRecord :=
  AccountRecord.new ⟨⟨7⟩, ⟨1⟩, ⟨2⟩⟩

/-- Two requests share a lookup. What the first one stores is invalidated and the clock goes on for
a minute before the second one stores it again, and a third request finds it. -/
def detourDeeds : List (Deed (World AccountMemory × Resolver)) :=
  [replaceWith pairedRecord, .event (.start 0), .event (.step 0), .event (.start 1),
    .event (.step 1), .pass 10, .event (.step 0), invalidateKey (.byAccount 7),
    .change fun s => ({ s.1 with clock := s.1.clock.advance ⟨60000000000⟩ }, s.2),
    .event (.step 1), .event (.start 2), .event (.step 2)]

theorem entries_traced_detour :
    (∃ m < 12, ∃ k, Returns (errand detourDeeds) m k ⟨.epoch, some pairedRecord⟩ ∧
      (k.installation? = some ⟨⟨1⟩, ⟨2⟩⟩ ∨
        ∃ r, some pairedRecord = some r ∧ r.key.installation? = some ⟨⟨1⟩, ⟨2⟩⟩)) ∧
    ∃ m < 12, ∃ e, (errand detourDeeds m).shared.2.index.probe (.byAccount 7) = some e ∧
      .ok pairedRecord = e.outcome ∧
      ((errand detourDeeds m).shared.1.clock.now - e.loadedAt : Span) <
        .ofDuration ResolverConfig.standard.ttl := by
  have hrequests : Requests .standard (errand detourDeeds) :=
    ⟨chronicle_play _ _ (by simp [detourDeeds, Meddled]), rfl, unstarted_errand _⟩
  have hend : standing (errand detourDeeds 12) 2 =
      some (.ended (.new .plain (.byAccount 7)) (.ok pairedRecord) 10) := rfl
  have hquiet : ∀ m < 12, ((errand detourDeeds m).running? 2).all (·.phase = .arriving) = true := by
    decide
  have hfree : Unhindered (errand detourDeeds) 2 12 := by
    intro m hm c hc
    have hphase := hquiet m hm
    rwa [running?_eq_some.mpr hc, Option.all_some, decide_eq_true_eq] at hphase
  obtain ⟨-, hinstall, hanswered⟩ := entries_traced hrequests 12
  obtain ⟨m, hm, -, -, ⟨hnothing, -⟩ | hfresh⟩ := hanswered 2 _ _ 10 hend hfree
  · cases hnothing
  · exact ⟨(hinstall ⟨⟨1⟩, ⟨2⟩⟩ ⟨.epoch, some pairedRecord⟩ (by decide)).2, m, hm, hfresh⟩

end Tenancy.Proofs
