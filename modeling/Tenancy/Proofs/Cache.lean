import Mathlib.Data.List.Basic
import Tenancy.Proofs.History
import Tenancy.Proofs.Index
import Tenancy.Resolver.Basic

/-!
# Transparency of the resolver

Keys that are resolved one after another while the store stays as it is. An outcome is stored under
each number of its request and of the record that it found, and it answers every later key with one
of these numbers. So a key gets the answer of the store, unless a key with another answer was
resolved before and is stored under one of its numbers.
-/

namespace Tenancy.Proofs

open Resolver

/-- The numbers under which the outcome of a key is stored. -/
def aliases (m : AccountMemory) (k : InstallationKey) : List Way :=
  storedUnder k (m.find? k)

/-- Whatever key was resolved before and is stored under a number of a key has the same answer. -/
def Agrees (m : AccountMemory) (past : List InstallationKey) (k : InstallationKey) : Prop :=
  ∀ j ∈ past, (∃ a ∈ waysOf k, a ∈ aliases m j) → m.answer j = m.answer k

instance (m : AccountMemory) (past : List InstallationKey) (k : InstallationKey) :
    Decidable (Agrees m past k) :=
  inferInstanceAs (Decidable (∀ j ∈ past, (∃ a ∈ waysOf k, a ∈ aliases m j) →
    m.answer j = m.answer k))

/-- No flight is under way. -/
def Idle (r : Resolver) : Prop :=
  ∀ co, r.coalescer = some co → co.inflight = []

lemma answer_usable {m : AccountMemory} {k : InstallationKey} (h : k.isUsable = true) (t : Instant) :
    m.answer k = CacheEntry.outcome ⟨t, m.find? k⟩ := by
  unfold AccountMemory.answer InstallationKey.validate CacheEntry.outcome
  rw [if_pos h]
  cases m.find? k <;> rfl

lemma find?_of_answer {m : AccountMemory} {k : InstallationKey} {a : AccountRecord}
    (h : m.answer k = .ok a) : m.find? k = some a := by
  by_cases hu : k.isUsable = true
  · rw [answer_usable hu .epoch, CacheEntry.outcome] at h
    split at h
    · rename_i found hf
      rw [← Except.ok.inj h]
      exact hf
    · cases h
  · unfold AccountMemory.answer InstallationKey.validate at h
    rw [if_neg hu] at h
    cases h

variable {w : World AccountMemory} {r : Resolver} {request : Request} {k : InstallationKey}
  {now : Nat}

lemma trusted_of_fresh? {instant : Instant} {e : CacheEntry} {left : Span}
    (h : r.fresh? instant k = some (e, left)) :
    r.index.probe k = some e ∧ (instant - e.loadedAt : Span) < r.ttl := by
  unfold Resolver.fresh? at h
  obtain ⟨e', hp, hf⟩ := Option.bind_eq_some_iff.mp h
  simp only at hf
  split at hf
  · rename_i hage
    have he : e' = e := congrArg Prod.fst (Option.some.inj hf)
    rw [he] at hp hage
    exact ⟨hp, hage⟩
  · cases hf

lemma probe_of_fresh? {instant : Instant} {e : CacheEntry} {left : Span}
    (h : r.fresh? instant k = some (e, left)) : r.index.probe k = some e :=
  (trusted_of_fresh? h).1

lemma alone_hit {S : Type} [AccountStore S] {w : World S} {e : CacheEntry} {left : Span}
    (hu : k.isUsable = true) (hf : r.fresh? w.clock.now k = some (e, left)) (request : Request)
    (now : Nat) :
    ∃ said, machine.alone now (w, r) (.new request k) =
      some ⟨now, (w, { r with hits := r.hits + 1 }), said, e.outcome⟩ := by
  have hstep : machine.step now (w, r) (Call.new request k) = some (arrive now w r (.new request k)) :=
    rfl
  unfold arrive at hstep
  rw [if_neg (by simpa [Call.new] using hu)] at hstep
  simp only [Call.new, hf] at hstep
  exact ⟨_, aloneFrom_ended hstep⟩

/-- The entry with which a lookup at an instant ends. -/
def entryAt (w : World AccountMemory) (k : InstallationKey) : CacheEntry :=
  ⟨w.clock.now, w.store.find? k⟩

lemma endLoad_quiet {c : Call} (hu : c.key.isUsable = true) (hw : w.store.failures = [])
    (flight : Option Nat) :
    ∃ said, endLoad w r c flight = ⟨(w, (publish r c flight (entryAt w c.key)).populate c.key
      (entryAt w c.key)), said, .ended (w.store.answer c.key)⟩ := by
  have hlookup : AccountStore.lookup w.store c.key = (w.store.answer c.key, w.store) := by
    change AccountMemory.lookup w.store c.key = _
    unfold AccountMemory.lookup
    rw [hw]
  have hanswer := answer_usable (m := w.store) hu w.clock.now
  unfold endLoad entryAt
  rw [hlookup, hanswer]
  unfold CacheEntry.outcome
  cases w.store.find? c.key with
  | none => exact ⟨_, rfl⟩
  | some found => exact ⟨_, rfl⟩

lemma alone_load {c : Call} {flight : Option Nat} {due fuel : Nat} {said : List Notice}
    (hu : c.key.isUsable = true) (hw : w.store.failures = []) (hp : c.phase = .loading flight due)
    (hd : c.deadline = none) (hn : now ≤ due) :
    ∃ said', machine.aloneFrom (fuel + 2) now (w, r) said c =
      some ⟨due, (w, (publish r c flight (entryAt w c.key)).populate c.key (entryAt w c.key)), said',
        w.store.answer c.key⟩ := by
  obtain ⟨new, hend⟩ := endLoad_quiet (r := r) hu hw flight
  have hstep : ∀ t, machine.step t (w, r) c =
      if t < due then none else some (endLoad w r c flight) := by
    intro t
    simp only [machine, Resolver.step, hp]
  have hdone : machine.step due (w, r) c = some ⟨(w, (publish r c flight
      (entryAt w c.key)).populate c.key (entryAt w c.key)), new, .ended (w.store.answer c.key)⟩ := by
    rw [hstep, if_neg (Nat.lt_irrefl due), hend]
  by_cases hlt : now < due
  · have hwait : machine.step now (w, r) c = none := by
      rw [hstep, if_pos hlt]
    have hexpire : machine.expire now (w, r) c = none := by
      simp only [machine, Resolver.expire, hp, hd]
    have htimer : (machine (S := AccountMemory)).nextTimer now c = some due := by
      simp [Machine.nextTimer, machine, timers, hp, hd, hlt]
    rw [aloneFrom_waits hwait hexpire htimer, aloneFrom_ended hdone]
    exact ⟨_, rfl⟩
  · have hdue : now = due := Nat.le_antisymm hn (Nat.le_of_not_lt hlt)
    rw [hdue, aloneFrom_ended hdone]
    exact ⟨_, rfl⟩

lemma alone_begin {r' : Resolver} {flight : Option Nat} (hu : k.isUsable = true)
    (hw : w.store.failures = []) (hstep : machine.step now (w, r) (.new request k) =
      some (beginLoad now w r' (.new request k) flight)) :
    ∃ c f, c.key = k ∧ machine.alone now (w, r) (.new request k) = some f ∧
      f.result = w.store.answer k ∧ f.shared.1.store = { w.store with calls := w.store.calls + 1 } ∧
      f.shared.2 = (publish { r' with storeCalls := r'.storeCalls + 1 } c flight
        (entryAt w k)).populate k (entryAt w k) := by
  let w' : World AccountMemory := { w with store := { w.store with calls := w.store.calls + 1 } }
  let c : Call := { Call.new request k with phase := .loading flight (now + w.store.latency) }
  let r₁ : Resolver := { r' with storeCalls := r'.storeCalls + 1 }
  have hload : ∃ said, machine.aloneFrom 15 now (w', r₁) [] c = some ⟨now + w.store.latency,
      (w', (publish r₁ c flight (entryAt w k)).populate k (entryAt w k)), said, w.store.answer k⟩ :=
    alone_load (w := w') hu hw rfl rfl (Nat.le_add_right now w.store.latency)
  obtain ⟨said, hload⟩ := hload
  have halone : machine.alone now (w, r) (.new request k) = _ :=
    (aloneFrom_running hstep).trans hload
  exact ⟨c, _, rfl, halone, rfl, rfl, rfl⟩

/-- What a resolver keeps of its settings, and that no flight is under way. -/
structure Settled (r r' : Resolver) : Prop where
  ttl : r'.ttl = r.ttl
  maxEntries : r'.maxEntries = r.maxEntries
  idle : Idle r'

lemma alone_miss (hu : k.isUsable = true) (hw : w.store.failures = [])
    (ht : request.timeout = none) (hr : Idle r) (hf : r.fresh? w.clock.now k = none) (now : Nat) :
    ∃ f, machine.alone now (w, r) (.new request k) = some f ∧ f.result = w.store.answer k ∧
      f.shared.1.store = { w.store with calls := w.store.calls + 1 } ∧ Settled r f.shared.2 ∧
      f.shared.2.index = (r.index.populate r.maxEntries k (entryAt w k)).1 := by
  have hstep : machine.step now (w, r) (Call.new request k) = some (miss now w r (.new request k)) := by
    have harrive : arrive now w r (.new request k) = miss now w r (.new request k) := by
      unfold arrive
      rw [if_neg (by simpa [Call.new] using hu)]
      simp only [Call.new, hf]
    rw [← harrive]
    rfl
  unfold miss at hstep
  simp only [Call.new, ht, Option.map_none] at hstep
  cases hco : r.coalescer with
  | none =>
    simp only [hco] at hstep
    obtain ⟨c, f, hk, ha, hres, hs, hr'⟩ := alone_begin hu hw hstep
    refine ⟨f, ha, hres, hs, ?_, ?_⟩
    · rw [hr']
      refine ⟨rfl, rfl, ?_⟩
      intro co h
      simp [Resolver.populate, publish] at h
    · rw [hr']
      rfl
  | some co =>
    have hidle : co.inflight.get? k = none := by
      rw [hr co hco]
      rfl
    simp only [hco, hidle] at hstep
    obtain ⟨c, f, hk, ha, hres, hs, hr'⟩ := alone_begin hu hw hstep
    refine ⟨f, ha, hres, hs, ?_, ?_⟩
    · rw [hr']
      refine ⟨rfl, rfl, ?_⟩
      intro co' h
      have hland : ((co.lead k).publish c.key co.nextFlight (entryAt w k)).inflight = [] := by
        simp [Coalescer.publish, Coalescer.land, Coalescer.lead, hr co hco, hk, Table.insert,
          Table.erase]
      rw [← hland]
      simp only [Resolver.populate, publish, mapCoalescer, Option.map_some, Option.some.injEq] at h
      rw [← h]
    · rw [hr']
      rfl

/-- A key that is resolved at a time, when the clock shows an instant. -/
structure Visit where
  time : Nat
  clock : Clock
  request : Request
  key : InstallationKey

/-- Resolves keys one after another, each to its end. -/
def resolveEach (w : World AccountMemory) (r : Resolver) :
    List Visit → Option (List (Except Error AccountRecord))
  | [] => some []
  | v :: vs => do
    let first ← machine.alone v.time ({ w with clock := v.clock }, r) (.new v.request v.key)
    let later ← resolveEach first.shared.1 first.shared.2 vs
    return first.result :: later

/-- A store without failures to come that holds what another one holds. -/
structure SameContent (m m' : AccountMemory) : Prop where
  accounts : m'.accounts = m.accounts
  installations : m'.installations = m.installations
  failures : m'.failures = []

lemma SameContent.find? {m m' : AccountMemory} (h : SameContent m m') (k : InstallationKey) :
    m'.find? k = m.find? k := by
  unfold AccountMemory.find?
  rw [h.accounts, h.installations]

lemma SameContent.answer {m m' : AccountMemory} (h : SameContent m m') (k : InstallationKey) :
    m'.answer k = m.answer k := by
  unfold AccountMemory.answer
  rw [h.find?]

/-- The entry was stored under a number as the outcome of a key that was resolved before. -/
def Stored (m : AccountMemory) (past : List InstallationKey) (a : Way) (e : CacheEntry) : Prop :=
  ∃ j ∈ past, j.isUsable = true ∧ a ∈ aliases m j ∧ e.found = m.find? j

lemma Stored.concat {m : AccountMemory} {past : List InstallationKey} {a : Way} {e : CacheEntry}
    (h : Stored m past a e) (k : InstallationKey) : Stored m (past ++ [k]) a e := by
  obtain ⟨j, hj, hu⟩ := h
  exact ⟨j, List.mem_append_left _ hj, hu⟩

lemma stored_populate {m : AccountMemory} {past : List InstallationKey} {i : CacheIndex}
    {e : CacheEntry} (h : Described (Stored m past) i) (hu : k.isUsable = true)
    (he : e.found = m.find? k) (bound : Option Nat) :
    Described (Stored m (past ++ [k])) (i.populate bound k e).1 := by
  have hlast : k ∈ past ++ [k] := List.mem_append_right _ (List.mem_singleton_self k)
  apply (h.mono fun a e hs => hs.concat k).populate
  intro a ha
  rw [he] at ha
  exact ⟨k, hlast, hu, ha, he⟩

/-- An entry that answers a key is the outcome of a key that is stored under one of its numbers. -/
lemma stored_probe {m : AccountMemory} {past : List InstallationKey} {i : CacheIndex}
    {e : CacheEntry} (h : Described (Stored m past) i) (hp : i.probe k = some e) :
    ∃ j ∈ past, (∃ a ∈ waysOf k, a ∈ aliases m j) ∧ e.outcome = m.answer j := by
  obtain ⟨a, ha, j, hj, hu, haj, he⟩ := h.probe hp
  refine ⟨j, hj, ⟨a, ha, haj⟩, ?_⟩
  rw [answer_usable hu e.loadedAt, ← he]

/-- A key that is resolved gets the answer of the store, or that of an earlier key that is stored
under one of its numbers. -/
lemma alone_explained {m : AccountMemory} {past : List InstallationKey}
    (hm : SameContent m w.store) (hr : Idle r) (hi : Described (Stored m past) r.index)
    (hu : k.isUsable = true) (ht : request.timeout = none) (now : Nat) :
    ∃ f, machine.alone now (w, r) (.new request k) = some f ∧ SameContent m f.shared.1.store ∧
      Idle f.shared.2 ∧ Described (Stored m (past ++ [k])) f.shared.2.index ∧
      (f.result = m.answer k ∨
        ∃ j ∈ past, (∃ a ∈ waysOf k, a ∈ aliases m j) ∧ f.result = m.answer j) := by
  cases hf : r.fresh? w.clock.now k with
  | none =>
    obtain ⟨f, ha, hres, hs, hset, hidx⟩ := alone_miss hu hm.failures ht hr hf now
    refine ⟨f, ha, ?_, hset.idle, ?_, .inl ?_⟩
    · rw [hs]
      exact ⟨hm.accounts, hm.installations, hm.failures⟩
    · rw [hidx]
      exact stored_populate hi hu (hm.find? k) _
    · rw [hres, hm.answer]
  | some hit =>
    obtain ⟨e, left⟩ := hit
    obtain ⟨said, ha⟩ := alone_hit hu hf request now
    refine ⟨_, ha, hm, hr, ?_, .inr ?_⟩
    · exact hi.mono fun a e hs => hs.concat k
    · exact stored_probe hi (probe_of_fresh? hf)

lemma idle_new (c : ResolverConfig) : Idle (.new c) := by
  intro co h
  unfold Resolver.new at h
  simp only at h
  split at h
  · rw [← Option.some.inj h]
    rfl
  · cases h

lemma resolveEach_agrees {m : AccountMemory} (past : List InstallationKey) (vs : List Visit)
    (hm : SameContent m w.store) (hr : Idle r) (hi : Described (Stored m past) r.index)
    (hvs : ∀ v ∈ vs, v.key.isUsable = true ∧ v.request.timeout = none) :
    ∃ answers, resolveEach w r vs = some answers ∧ answers.length = vs.length ∧
      ∀ n v, vs[n]? = some v → Agrees m (past ++ (vs.take n).map Visit.key) v.key →
        answers[n]? = some (m.answer v.key) := by
  induction vs generalizing past w r with
  | nil => exact ⟨[], rfl, rfl, by simp⟩
  | cons v vs ih =>
    obtain ⟨hu, ht⟩ := hvs v List.mem_cons_self
    obtain ⟨f, ha, hm', hr', hi', hres⟩ :=
      alone_explained (w := { w with clock := v.clock }) hm hr hi hu ht v.time
    obtain ⟨later, hl, hlen, hlater⟩ := ih _ hm' hr' hi' fun v' hv => hvs v' (List.mem_cons_of_mem _ hv)
    refine ⟨f.result :: later, ?_, by rw [List.length_cons, List.length_cons, hlen], ?_⟩
    · rw [resolveEach, ha]
      simp only [Option.bind_eq_bind, Option.bind_some]
      rw [hl]
      rfl
    · intro n v' hv hag
      cases n with
      | zero =>
        rw [List.getElem?_cons_zero, Option.some.injEq] at hv
        rw [List.getElem?_cons_zero, ← hv]
        rcases hres with hres | ⟨j, hj, hshare, hres⟩
        · rw [hres]
        · rw [hv] at hshare
          have hj' : j ∈ past ++ ((v :: vs).take 0).map Visit.key := List.mem_append_left _ hj
          rw [hres, hag j hj' hshare, hv]
      | succ n =>
        rw [List.getElem?_cons_succ] at hv ⊢
        apply hlater n v' hv
        rw [List.append_assoc]
        exact hag

lemma sub_self_nanos (i : Instant) : (i - i : Span).nanos = 0 := by
  change (Instant.sub i i).nanos = 0
  unfold Instant.sub
  simp

lemma ttl_pos {c : ResolverConfig} (hc : c.ttlSecs ≠ 0) : 0 < (Span.ofDuration c.ttl).nanos := by
  have hn : 0 < c.ttlSecs.toNat := by
    rw [Nat.pos_iff_ne_zero]
    intro h
    exact hc (UInt64.toNat_inj.mp h)
  unfold Span.ofDuration
  split
  · change (0 : Int) < ((c.ttlSecs.toNat * 1000000000 + 0 : Nat) : Int)
    omega
  · decide

lemma fresh_of_young {e : CacheEntry} {instant : Instant} (h : r.index.probe k = some e)
    (hage : (instant - e.loadedAt : Span) < r.ttl) :
    ∃ left, r.fresh? instant k = some (e, left) := by
  unfold Resolver.fresh?
  rw [h]
  simp only [Option.bind_eq_bind, Option.bind_some]
  rw [if_pos hage]
  exact ⟨_, rfl⟩

lemma fresh_of_probe {e : CacheEntry} (h : r.index.probe k = some e)
    (ht : 0 < r.ttl.nanos) : ∃ left, r.fresh? e.loadedAt k = some (e, left) := by
  apply fresh_of_young h
  change (e.loadedAt - e.loadedAt : Span).nanos < r.ttl.nanos
  rwa [sub_self_nanos]

/-- A key that is stored under a number of a later key answers it as well. -/
lemma resolveEach_shared {m : AccountMemory} {c : ResolverConfig} {clock : Clock} {v v' : Visit}
    (hm : m.failures = []) (hc : c.ttlSecs ≠ 0) (hmax : c.maxEntries = none)
    (hv : v.key.isUsable = true ∧ v.request.timeout = none) (hu : v'.key.isUsable = true)
    (hclock : v'.clock = v.clock) (hshare : ∃ a ∈ waysOf v'.key, a ∈ aliases m v.key) :
    resolveEach ⟨m, clock⟩ (.new c) [v, v'] = some [m.answer v.key, m.answer v.key] := by
  obtain ⟨a, ha, haj⟩ := hshare
  let w₀ : World AccountMemory := ⟨m, v.clock⟩
  have hfirst : (Resolver.new c).fresh? w₀.clock.now v.key = none := by
    have hnone : CacheIndex.empty.probe v.key = none := by
      unfold CacheIndex.probe
      cases v.key.account? <;> cases v.key.installation? <;> rfl
    unfold Resolver.fresh?
    rw [show (Resolver.new c).index = CacheIndex.empty from rfl, hnone]
    rfl
  obtain ⟨f, hf, hres, hstore, hset, hidx⟩ :=
    alone_miss (w := w₀) hv.1 hm hv.2 (idle_new c) hfirst v.time
  have hbound : (Resolver.new c).maxEntries = none := by
    simp [Resolver.new, hmax]
  have hprobe : f.shared.2.index.probe v'.key = some (entryAt w₀ v.key) := by
    rw [hidx, hbound]
    exact probe_populate_empty ha haj
  have htrust : 0 < f.shared.2.ttl.nanos := by
    rw [hset.ttl]
    exact ttl_pos hc
  obtain ⟨left, hfresh⟩ := fresh_of_probe hprobe htrust
  let w₁ : World AccountMemory := { f.shared.1 with clock := v'.clock }
  have hnow : (entryAt w₀ v.key).loadedAt = w₁.clock.now := by
    change v.clock.now = v'.clock.now
    rw [hclock]
  rw [hnow] at hfresh
  obtain ⟨said, hsecond⟩ := alone_hit (w := w₁) hu hfresh v'.request v'.time
  have hanswer : (entryAt w₀ v.key).outcome = m.answer v.key := (answer_usable hv.1 _).symm
  rw [resolveEach, hf]
  simp only [Option.bind_eq_bind, Option.bind_some]
  rw [resolveEach, hsecond]
  simp only [Option.bind_eq_bind, Option.bind_some]
  rw [resolveEach]
  simp only [Option.bind_some, hres, hanswer]
  rfl

/-- A key that is resolved after others gets the answer of the store if each of them that is stored
under one of its numbers has that answer too; and after a key of which this is not true it gets the
answer to that one, as long as the outcome is trusted and kept. -/
theorem resolver_transparent {m : AccountMemory} (hm : m.failures = []) :
    (∀ (c : ResolverConfig) (clock : Clock) (vs : List Visit),
      (∀ v ∈ vs, v.key.isUsable = true ∧ v.request.timeout = none) →
      ∃ answers, resolveEach ⟨m, clock⟩ (.new c) vs = some answers ∧ answers.length = vs.length ∧
        ∀ n v, vs[n]? = some v → Agrees m ((vs.take n).map Visit.key) v.key →
          answers[n]? = some (m.answer v.key)) ∧
    ∀ (c : ResolverConfig) (clock : Clock) (v v' : Visit), c.ttlSecs ≠ 0 → c.maxEntries = none →
      v.key.isUsable = true ∧ v.request.timeout = none → v'.key.isUsable = true →
      v'.clock = v.clock → ¬ Agrees m [v.key] v'.key →
      resolveEach ⟨m, clock⟩ (.new c) [v, v'] = some [m.answer v.key, m.answer v.key] ∧
        m.answer v.key ≠ m.answer v'.key := by
  constructor
  · intro c clock vs hvs
    have hresolve := resolveEach_agrees (m := m) (w := ⟨m, clock⟩) [] vs ⟨rfl, rfl, hm⟩
      (idle_new c) described_empty hvs
    simpa only [List.nil_append] using hresolve
  · intro c clock v v' hc hmax hv hu hclock hag
    unfold Agrees at hag
    push Not at hag
    obtain ⟨j, hj, hshare, hne⟩ := hag
    rw [List.mem_singleton.mp hj] at hshare hne
    exact ⟨resolveEach_shared hm hc hmax hv hu hclock hshare, hne⟩

/-- The record of an account with an installation, and a key with that installation but with the
number of another account. -/
def strayRecord : AccountRecord :=
  .new ⟨⟨9⟩, ⟨3⟩, ⟨4⟩⟩

def strayKey : InstallationKey :=
  ⟨⟨7⟩, ⟨3⟩, ⟨4⟩⟩

/-- The installation and the number of the account agree, and the stray key disturbs its number. -/
theorem resolver_transparent_stray :
    let m := AccountMemory.empty.insert strayRecord
    let visit k : Visit := ⟨0, default, .plain, k⟩
    (∃ answers, resolveEach ⟨m, default⟩ (.new .standard)
        [visit (.byInstallation 3 4), visit (.byAccount 9)] = some answers ∧
      answers[1]? = some (.ok strayRecord)) ∧
    resolveEach ⟨m, default⟩ (.new .standard) [visit strayKey, visit (.byAccount 7)] =
      some [.ok strayRecord, .ok strayRecord] := by
  intro m visit
  obtain ⟨hagrees, hshared⟩ := resolver_transparent (m := m) rfl
  constructor
  · obtain ⟨answers, ha, -, hn⟩ :=
      hagrees .standard default [visit (.byInstallation 3 4), visit (.byAccount 9)] (by decide)
    exact ⟨answers, ha, hn 1 _ rfl (by decide)⟩
  · exact (hshared .standard default (visit strayKey) (visit (.byAccount 7)) (by decide) rfl (by decide)
      (by decide) rfl (by decide)).1

/-- The outcome of a key with two numbers answers a key with one of them, which names no account. -/
theorem not_resolver_transparent :
    ¬ ∀ (rs : List AccountRecord) (c : ResolverConfig) (vs : List Visit),
      (∀ v ∈ vs, v.key.isUsable = true ∧ v.request.timeout = none) →
      resolveEach ⟨rs.foldl AccountMemory.insert .empty, default⟩ (.new c) vs =
        some (vs.map fun v => (rs.foldl AccountMemory.insert .empty).answer v.key) := by
  intro h
  have hstray := h [strayRecord] .standard [⟨0, default, .plain, strayKey⟩,
    ⟨0, default, .plain, .byAccount 7⟩] (by decide)
  exact absurd hstray (by decide)

end Tenancy.Proofs
