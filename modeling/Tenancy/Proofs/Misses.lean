import Tenancy.Proofs.Requests

/-!
# Requests that find no entry

A request that is not answered from the index gets what the tables of the store hold for its key at
some moment while the request runs, also when another request has looked it up: whoever joins a
flight does so before the answer of the store is there.
-/

namespace Tenancy.Proofs

open Function Resolver Coalescer Table

/-- What the tables of a store hold for a key. -/
def present (m : AccountMemory) (k : InstallationKey) : Except Error AccountRecord :=
  match m.find? k with
  | some r => .ok r
  | none => .error .notFound

lemma present_unusable (m : AccountMemory) {k : InstallationKey} (h : k.isUsable = false) :
    present m k = .error .notFound := by
  unfold InstallationKey.isUsable at h
  rw [Bool.or_eq_false_iff, Option.isSome_eq_false_iff, Option.isSome_eq_false_iff,
    Option.isNone_iff_eq_none, Option.isNone_iff_eq_none] at h
  unfold present AccountMemory.find?
  rw [h.1, h.2]
  rfl

lemma found_eq_of_outcome {e e' : CacheEntry} (h : e.outcome = e'.outcome) :
    e.found = e'.found := by
  obtain ⟨t, found⟩ := e
  obtain ⟨t', found'⟩ := e'
  cases found with
  | none =>
    cases found' with
    | none => rfl
    | some r' => cases h
  | some r =>
    cases found' with
    | none => cases h
    | some r' => exact congrArg some (Except.ok.inj h)

lemma found_of_answeredWith {w : World AccountMemory} {k : InstallationKey} {e : CacheEntry}
    (h : AnsweredWith w k e) : e.found = w.store.find? k := by
  change (AccountMemory.lookup w.store k).1 = e.outcome at h
  unfold AccountMemory.lookup at h
  cases hf : w.store.failures with
  | cons reason later =>
    rw [hf] at h
    obtain ⟨t, found⟩ := e
    cases found <;> cases h
  | nil =>
    rw [hf] at h
    change w.store.answer k = e.outcome at h
    cases hu : k.isUsable with
    | true => exact (found_eq_of_outcome ((answer_usable hu e.loadedAt).symm.trans h)).symm
    | false =>
      unfold AccountMemory.answer InstallationKey.validate at h
      rw [hu] at h
      obtain ⟨t, found⟩ := e
      cases found <;> cases h

lemma outcome_eq_present {w : World AccountMemory} {k : InstallationKey} {e : CacheEntry}
    (h : AnsweredWith w k e) : e.outcome = present w.store k := by
  have hf := found_of_answeredWith h
  unfold CacheEntry.outcome present
  cases hs : w.store.find? k <;> rw [hf, hs]

section Chronicles

variable {S : Type} [AccountStore S] {config : ResolverConfig} {s : Nat → RequestRun S} {n i : Nat}

/-- A request arrives and is answered with an entry of the index that is trusted. -/
def Hits (s : Nat → RequestRun S) (i n : Nat) : Prop :=
  ∃ c e left u, Takes Resolver.machine (s n) (s (n + 1)) i c u ∧ c.phase = .arriving ∧
    (s n).shared.2.fresh? (s n).shared.1.clock.now c.key = some (e, left)

/-- A request for a key is on its way. -/
def Runs (r : RequestRun S) (i : Nat) (k : InstallationKey) : Prop :=
  ∃ c, standing r i = some (.running c) ∧ c.key = k

/-- A request that waits for a flight sees a value only if the store gave it for the key of the
request while the request was waiting. -/
lemma Requests.received (h : Requests config s) {c : Resolver.Call} {flight due : Nat}
    {e : CacheEntry} (hi : standing (s n) i = some (.running c))
    (hc : c.phase = .joining flight due)
    (hv : Resolver.sight (s n).shared.2 c flight = .value e) :
    ∃ m < n, AnsweredWith (s m).shared.1 c.key e ∧
      (∀ l, m ≤ l → l ≤ n → ∃ c', standing (s l) i = some (.running c') ∧ c'.key = c.key ∧
        c'.phase = .joining flight due) ∧
      ∀ l, m < l → l ≤ n → (flightsOf (s l).shared).published.get? flight = some e := by
  have haboard : aboard viewRequest (standing (s n)) i = some (c.key, .joining flight due) :=
    aboard_eq_some.mpr ⟨c, hi, by rw [viewRequest, hc]⟩
  have hpublished := published_of_sight (s n).shared.1 hv
  obtain ⟨m, hm, hanswer, hwaits, hthere⟩ := h.airspace.received haboard hpublished
  refine ⟨m, hm, hanswer, ?_, hthere⟩
  intro l hml hln
  obtain ⟨c', hc', hview⟩ := aboard_eq_some.mp (hwaits l hml hln)
  rw [viewRequest, Option.some.injEq, Prod.mk.injEq] at hview
  exact ⟨c', hc', hview⟩

/-- How a request got an outcome: its key names nothing, it found an entry, or the store gave the
outcome for its key while the request was on its way. -/
lemma Requests.outcome (h : Requests config s) {c : Resolver.Call} {a : Except Error AccountRecord}
    {time : Nat} (hn : standing (s n) i = some (.ended c a time))
    (ha : (∃ r, a = .ok r) ∨ a = .error .notFound) :
    ∃ m < n, Runs (s m) i c.key ∧ (c.key.isUsable = false ∧ a = .error .notFound ∨
      (∃ e left, Hits s i m ∧ a = e.outcome ∧
        (s m).shared.2.fresh? (s m).shared.1.clock.now c.key = some (e, left)) ∨
      ∃ e, AnsweredWith (s m).shared.1 c.key e ∧ a = e.outcome) := by
  obtain ⟨l, hl, u, hu, hend, -⟩ := h.chronicle.ended h.fresh hn
  have hruns : Runs (s l) i c.key := ⟨c, hu.before, rfl⟩
  cases requestTurn_of_takes hu with
  | refuse hc hk => exact ⟨l, hl, hruns, .inl ⟨hk, (Next.ended.inj hend).symm⟩⟩
  | @hit e left hc hk hf =>
    exact ⟨l, hl, hruns, .inr (.inl ⟨e, left, ⟨c, e, left, _, hu, hc, hf⟩,
      (Next.ended.inj hend).symm, hf⟩)⟩
  | receive hc hv =>
    obtain ⟨m, hm, hanswer, hwaits, -⟩ := h.received hu.before hc hv
    obtain ⟨c', hc', hk, -⟩ := hwaits m (Nat.le_refl m) hm.le
    exact ⟨m, hm.trans hl, ⟨c', hc', hk⟩, .inr (.inr ⟨_, hanswer, (Next.ended.inj hend).symm⟩)⟩
  | settle hc _ hanswer =>
    exact ⟨l, hl, hruns, .inr (.inr ⟨_, hanswer, (Next.ended.inj hend).symm⟩)⟩
  | fail _ _ _ hne =>
    rw [← Next.ended.inj hend] at ha
    rcases ha with ⟨r, hr⟩ | hr
    · cases hr
    · exact absurd (Except.error.inj hr) hne
  | late =>
    rw [← Next.ended.inj hend] at ha
    rcases ha with ⟨r, hr⟩ | hr <;> cases hr
  | load => cases hend
  | join => cases hend
  | lead => cases hend
  | fallBack => cases hend

lemma Requests.asked (h : Requests config s) {c : Resolver.Call} {a : Except Error AccountRecord}
    {time : Nat} (hn : standing (s n) i = some (.ended c a time)) :
    ∃ c₀, standing (s 0) i = some (.planned c₀) ∧ c₀.key = c.key := by
  obtain ⟨c₀, hc, -, hk⟩ := h.chronicle.origin Resolver.Call.key h.fresh
    (fun hu hn => (framed_turn (hu.does.imp_right And.right)).key _ hn) hn
  exact ⟨c₀, hc, hk.symm⟩

end Chronicles

/-- A request that does not find an entry that is trusted gets what the tables of the store hold for
its key at a moment while it is on its way. -/
theorem miss_present {config : ResolverConfig} {s : Nat → RequestRun AccountMemory}
    (h : Requests config s) {n i : Nat} {c : Resolver.Call} {a : Except Error AccountRecord}
    {time : Nat} (hn : standing (s n) i = some (.ended c a time))
    (ha : (∃ r, a = .ok r) ∨ a = .error .notFound) (hmiss : ∀ m < n, ¬ Hits s i m) :
    (∃ c₀, standing (s 0) i = some (.planned c₀) ∧ c₀.key = c.key) ∧
      ∃ m < n, Runs (s m) i c.key ∧ a = present (s m).shared.1.store c.key := by
  refine ⟨h.asked hn, ?_⟩
  obtain ⟨m, hm, hruns, ⟨hk, hnot⟩ | ⟨-, -, hhit, -⟩ | ⟨e, he, houtcome⟩⟩ := h.outcome hn ha
  · exact ⟨m, hm, hruns, by rw [hnot, present_unusable _ hk]⟩
  · exact absurd hhit (hmiss m hm)
  · exact ⟨m, hm, hruns, by rw [houtcome, outcome_eq_present he]⟩

def oldRecord : AccountRecord :=
  { AccountRecord.new (.byAccount 7) with name := "old" }

def newRecord : AccountRecord :=
  { AccountRecord.new (.byAccount 7) with name := "new" }

/-- Three requests for one account, which takes ten milliseconds to look up, and what is done while
they are on their way. -/
def errand (ds : List (Deed (World AccountMemory × Resolver))) : Nat → RequestRun AccountMemory :=
  play Resolver.machine ⟨0, (⟨{ AccountMemory.empty.insert oldRecord with latency := 10 },
    ⟨default⟩⟩, .new .standard), [], [⟨0, none, .planned (.new .plain (.byAccount 7))⟩,
      ⟨0, none, .planned (.new .plain (.byAccount 7))⟩,
      ⟨0, none, .planned (.new .plain (.byAccount 7))⟩]⟩ ds

lemma unstarted_errand (ds : List (Deed (World AccountMemory × Resolver))) :
    Unstarted (fun c => c.phase = .arriving) (standing (errand ds 0)) := by
  apply unstarted_of_jobs
  simp [errand, Resolver.Call.new]

def replaceWith (record : AccountRecord) : Deed (World AccountMemory × Resolver) :=
  .change fun s => (⟨s.1.store.insert record, s.1.clock⟩, s.2)

def invalidateKey (k : InstallationKey) : Deed (World AccountMemory × Resolver) :=
  .change fun s => (s.1, s.2.invalidate k)

@[simp]
lemma allowed_replaceWith (record : AccountRecord) : (replaceWith record).Allowed Meddled :=
  fun _ => .inl rfl

@[simp]
lemma allowed_invalidateKey (k : InstallationKey) : (invalidateKey k).Allowed Meddled :=
  fun _ => .inr ⟨k, rfl⟩

/-- A request looks the account up and another one joins it. The account is replaced and invalidated
before the second one is told what the first one has found, and then a third one is made. -/
def handoffDeeds : List (Deed (World AccountMemory × Resolver)) :=
  [.event (.start 0), .event (.step 0), .event (.start 1), .event (.step 1), .pass 10,
    .event (.step 0), replaceWith newRecord, invalidateKey (.byAccount 7), .event (.step 1),
    .event (.start 2), .event (.step 2)]

def handoff : Nat → RequestRun AccountMemory :=
  errand handoffDeeds

lemma requests_handoff : Requests .standard handoff where
  chronicle := chronicle_play _ _ (by simp [handoffDeeds])
  new := rfl
  fresh := unstarted_errand handoffDeeds

theorem miss_present_handoff :
    ∃ m < 9, Runs (handoff m) 1 (.byAccount 7) ∧
      .ok oldRecord = present (handoff m).shared.1.store (.byAccount 7) := by
  have hend : standing (handoff 9) 1 = some (.ended _ (.ok oldRecord) 10) := rfl
  have hquiet : ∀ m < 9, ((handoff m).running? 1).all (fun c => c.phase ≠ .arriving ∨
      (handoff m).shared.2.fresh? (handoff m).shared.1.clock.now c.key = none) = true := by
    decide
  refine (miss_present requests_handoff hend (.inl ⟨_, rfl⟩) ?_).2
  rintro m hm ⟨c, e, left, u, hu, hc, hf⟩
  have hm' := hquiet m hm
  rw [running?_eq_some.mpr hu.before, Option.all_some, decide_eq_true_eq, hf] at hm'
  rcases hm' with hne | hnone
  · exact hne hc
  · cases hnone

end Tenancy.Proofs
