import Tenancy.Proofs.Flights
import Tenancy.Proofs.Tenants

/-!
# Turns of requests

What a request does in a turn, one case for each way in which it can go on or end, and what this
means for the flights of the resolver: requests lead and join them as any other calls do, and what a
leader publishes is the answer that the store has just given. At each moment the index stays as it
is, or a key is invalidated, or one request stores its outcome.
-/

namespace Tenancy.Proofs

open Function Resolver Coalescer Table

variable {S : Type}

/-- A resolver, a store and its clock, and the requests that are made. -/
abbrev RequestRun (S : Type) :=
  Run (World S × Resolver) Resolver.Call (Except Error AccountRecord)

/-- A request that has found no entry, whose time limit begins. -/
def missed (now : Nat) (c : Resolver.Call) : Resolver.Call :=
  { c with deadline := c.request.timeout.map fun t => now + Request.limitMillis t }

/-- A request was counted as one that found no entry. -/
def countMiss (r : Resolver) : Resolver :=
  { r with misses := r.misses + 1 }

variable [AccountStore S]

/-- A store answers a key with the outcome of an entry. -/
def AnsweredWith (w : World S) (k : InstallationKey) (e : CacheEntry) : Prop :=
  (AccountStore.lookup w.store k).1 = e.outcome

/-- The store answers the lookup of a request at its end, and an entry holds the answer and the time
of the clock. -/
structure Fetches (now : Nat) (w : World S) (c : Resolver.Call) (e : CacheEntry) : Prop where
  due : ∃ flight due, c.phase = .loading flight due ∧ due ≤ now
  answer : AnsweredWith w c.key e
  time : e.loadedAt = w.clock.now

/-- What a turn of a request does. -/
inductive RequestTurn (now : Nat) (w : World S) (r : Resolver) (c : Resolver.Call) :
    CallTurn S → Prop where
  | refuse : c.phase = .arriving → c.key.isUsable = false →
      RequestTurn now w r c ⟨(w, r), [], .ended (.error .notFound)⟩
  | hit {e left} : c.phase = .arriving → c.key.isUsable = true →
      r.fresh? w.clock.now c.key = some (e, left) →
      RequestTurn now w r c ⟨(w, { r with hits := r.hits + 1 }),
        [report c "using cached account" [("expires_in", left.text)]], .ended e.outcome⟩
  | load : c.phase = .arriving → c.key.isUsable = true →
      r.fresh? w.clock.now c.key = none → r.coalescer = none →
      RequestTurn now w r c (beginLoad now w (countMiss r) (missed now c) none)
  | join {co flight} : c.phase = .arriving → c.key.isUsable = true →
      r.fresh? w.clock.now c.key = none → r.coalescer = some co →
      co.inflight.get? c.key = some flight →
      RequestTurn now w r c ⟨(w, countMiss r), [], .running { missed now c with
        phase := .joining flight (now + Request.limitMillis co.joinTimeout) }⟩
  | lead {co} : c.phase = .arriving → c.key.isUsable = true →
      r.fresh? w.clock.now c.key = none → r.coalescer = some co →
      co.inflight.get? c.key = none →
      RequestTurn now w r c (beginLoad now w { countMiss r with coalescer := some (co.lead c.key) }
        (missed now c) (some co.nextFlight))
  | receive {flight due e} : c.phase = .joining flight due →
      Resolver.sight r c flight = .value e →
      RequestTurn now w r c (Resolver.settle w (r.mapCoalescer countJoined) c e [])
  | fallBack {flight due} : c.phase = .joining flight due →
      (Resolver.sight r c flight = .lost ∨ Resolver.sight r c flight = .waiting ∧ due ≤ now) →
      RequestTurn now w r c (Resolver.fallBack now w r c)
  | settle {flight due found notices} : c.phase = .loading flight due → due ≤ now →
      AnsweredWith w c.key ⟨w.clock.now, found⟩ →
      RequestTurn now w r c (Resolver.settle
        { w with store := (AccountStore.lookup w.store c.key).2 }
        (Resolver.publish r c flight ⟨w.clock.now, found⟩) c ⟨w.clock.now, found⟩ notices)
  | fail {flight due error} : c.phase = .loading flight due → due ≤ now →
      (AccountStore.lookup w.store c.key).1 = .error error → error ≠ .notFound →
      RequestTurn now w r c ⟨({ w with store := (AccountStore.lookup w.store c.key).2 },
        Resolver.land r c flight), [], .ended (.error error)⟩
  | late {deadline limit} : Resolver.step now w r c = none → c.deadline = some deadline →
      c.request.timeout = some limit → deadline ≤ now →
      RequestTurn now w r c
        ⟨(w, Resolver.abandon r c), [], .ended (.error (.deadlineExceeded limit))⟩

section Turns

variable {now : Nat} {w : World S} {r : Resolver} {c : Resolver.Call} {u : CallTurn S}

lemma requestTurn_miss (hp : c.phase = .arriving) (hu : c.key.isUsable = true)
    (hf : r.fresh? w.clock.now c.key = none) : RequestTurn now w r c (miss now w r c) := by
  obtain ⟨ttl, maxEntries, index, coalescer, hits, misses, storeCalls, evictions⟩ := r
  cases coalescer with
  | none => exact .load hp hu hf rfl
  | some co =>
    unfold miss
    simp only
    cases hk : co.inflight.get? c.key with
    | some flight => exact .join hp hu hf rfl hk
    | none => exact .lead hp hu hf rfl hk

lemma requestTurn_arrive (hp : c.phase = .arriving) :
    RequestTurn now w r c (arrive now w r c) := by
  unfold arrive
  cases hu : c.key.isUsable with
  | false =>
    rw [if_pos (by simp)]
    exact .refuse hp hu
  | true =>
    rw [if_neg (by simp)]
    cases hf : r.fresh? w.clock.now c.key with
    | some found => exact .hit hp hu hf
    | none => exact requestTurn_miss hp hu hf

lemma requestTurn_endLoad {flight : Option Nat} {due : Nat} (hp : c.phase = .loading flight due)
    (hdue : due ≤ now) : RequestTurn now w r c (endLoad w r c flight) := by
  unfold endLoad
  simp only
  split
  · rename_i found hf
    exact .settle hp hdue hf
  · rename_i hf
    exact .settle hp hdue hf
  · rename_i error hne hf
    exact .fail hp hdue hf hne

lemma requestTurn_of_step (h : Resolver.step now w r c = some u) : RequestTurn now w r c u := by
  unfold Resolver.step at h
  cases hp : c.phase with
  | arriving =>
    rw [hp] at h
    rw [← Option.some.inj h]
    exact requestTurn_arrive hp
  | joining flight due =>
    rw [hp] at h
    simp only at h
    split at h
    · rename_i e hs
      rw [← Option.some.inj h]
      exact .receive hp hs
    · rename_i hs
      rw [← Option.some.inj h]
      exact .fallBack hp (.inl hs)
    · cases h
  | loading flight due =>
    rw [hp] at h
    simp only at h
    split at h
    · cases h
    · rename_i hdue
      rw [← Option.some.inj h]
      exact requestTurn_endLoad hp (Nat.le_of_not_lt hdue)

lemma requestTurn_of_expire (hn : Resolver.step now w r c = none)
    (h : Resolver.expire now w r c = some u) : RequestTurn now w r c u := by
  have hlate : ∀ {deadline limit}, c.deadline = some deadline → c.request.timeout = some limit →
      (if deadline ≤ now then some (⟨(w, Resolver.abandon r c), [],
        .ended (.error (.deadlineExceeded limit))⟩ : CallTurn S) else none) = some u →
      RequestTurn now w r c u := by
    intro deadline limit hd ht h
    split at h
    · rename_i hle
      rw [← Option.some.inj h]
      exact .late hn hd ht hle
    · cases h
  unfold Resolver.expire at h
  simp only at h
  split at h
  · rename_i flight due hp
    split at h
    · rename_i hdue
      have hwaiting : Resolver.sight r c flight = .waiting := by
        unfold Resolver.step at hn
        rw [hp] at hn
        simp only at hn
        split at hn
        · cases hn
        · cases hn
        · assumption
      rw [← Option.some.inj h]
      exact .fallBack hp (.inr ⟨hwaiting, hdue⟩)
    · split at h
      · exact hlate ‹_› ‹_› h
      · cases h
  · split at h
    · exact hlate ‹_› ‹_› h
    · cases h

lemma requestTurn_of_takes {r t : RequestRun S} {i : Nat} (h : Takes Resolver.machine r t i c u) :
    RequestTurn r.now r.shared.1 r.shared.2 c u := by
  rcases h.does with hs | ⟨hn, he⟩
  · exact requestTurn_of_step hs
  · exact requestTurn_of_expire hn he

/-- A turn of a request ends with an outcome and stores it: one that the request sees while it
waits, or one that the store gives. The entries that get lost are counted. -/
structure Stores (now : Nat) (w : World S) (r : Resolver) (c : Resolver.Call) (u : CallTurn S)
    (e : CacheEntry) : Prop where
  index : u.shared.2.index = (r.index.populate r.maxEntries c.key e).1
  evictions : u.shared.2.evictions =
    r.evictions + (r.index.populate r.maxEntries c.key e).2
  answer : u.next = .ended e.outcome
  origin : (∃ flight due, c.phase = .joining flight due ∧ Resolver.sight r c flight = .value e) ∨
    Fetches now w c e

lemma RequestTurn.index (h : RequestTurn now w r c u) :
    u.shared.2.index = r.index ∧ u.shared.2.evictions = r.evictions ∨
      ∃ e, Stores now w r c u e := by
  cases h with
  | receive hc hv => exact .inr ⟨_, rfl, rfl, rfl, .inl ⟨_, _, hc, hv⟩⟩
  | @settle flight due found _ hc hdue hl =>
    have hfetch : Fetches now w c ⟨w.clock.now, found⟩ := ⟨⟨_, _, hc, hdue⟩, hl, rfl⟩
    cases flight <;> exact .inr ⟨⟨w.clock.now, found⟩, rfl, rfl, rfl, .inr hfetch⟩
  | @fail flight due error => cases flight <;> exact .inl ⟨rfl, rfl⟩
  | late =>
    obtain ⟨co, hco⟩ := abandon_eq r c
    exact .inl (by rw [hco]; exact ⟨rfl, rfl⟩)
  | _ => exact .inl ⟨rfl, rfl⟩

lemma RequestTurn.clock (h : RequestTurn now w r c u) : u.shared.1.clock = w.clock := by
  cases h <;> rfl

/-- The flights of a resolver; without a coalescer there are none. -/
def flightsOf (s : World S × Resolver) : Coalescer InstallationKey CacheEntry :=
  s.2.coalescer.getD (.new ⟨0⟩)

def viewRequest (c : Resolver.Call) : Option (InstallationKey × Phase) :=
  some (c.key, c.phase)

omit [AccountStore S] in
lemma sameFlights_map (w w' : World S) (r : Resolver)
    {f : Coalescer InstallationKey CacheEntry → Coalescer InstallationKey CacheEntry}
    (hf : ∀ co, SameFlights co (f co)) :
    SameFlights (flightsOf (w, r)) (flightsOf (w', r.mapCoalescer f)) := by
  unfold flightsOf Resolver.mapCoalescer
  cases r.coalescer with
  | none => exact .refl _
  | some co => exact hf co

omit [AccountStore S] in
/-- A request that ends without an outcome takes its flight with it. -/
lemma flightTurn_abandon (news : Nat → CacheEntry → Prop) (w w' : World S) (r : Resolver)
    (c : Resolver.Call) :
    FlightTurn news c.key (flightsOf (w, r)) c.phase (flightsOf (w', Resolver.abandon r c))
      none := by
  unfold Resolver.abandon
  cases c.phase with
  | arriving => exact .leave rfl (.refl _)
  | joining flight due => exact .leave rfl (.refl _)
  | loading flight due =>
    cases flight with
    | none => exact .leave rfl (.refl _)
    | some flight =>
      refine .land ?_
      unfold flightsOf Resolver.land Resolver.mapCoalescer
      cases r.coalescer with
      | none => exact ⟨rfl, rfl, rfl⟩
      | some co => exact .refl _

omit [AccountStore S] in
lemma flightsOf_eq {w : World S} {co : Coalescer InstallationKey CacheEntry}
    (h : r.coalescer = some co) : flightsOf (w, r) = co := by
  unfold flightsOf
  rw [h]
  rfl

omit [AccountStore S] in
lemma flightTurn_publish {news : Nat → CacheEntry → Prop} (w w' : World S) {flight : Option Nat}
    {due : Nat} {e : CacheEntry} (hnews : ∀ f, news f e)
    (hled : ∀ f, flight = some f → (c.key, f) ∈ (flightsOf (w, r)).inflight) :
    FlightTurn news c.key (flightsOf (w, r)) (.loading flight due)
      (flightsOf (w', Resolver.publish r c flight e)) none := by
  cases flight with
  | none => exact .leave rfl (.refl _)
  | some f =>
    refine .publish (hnews f) ?_
    have hin := hled f rfl
    unfold flightsOf Resolver.publish Resolver.mapCoalescer at *
    cases hco : r.coalescer with
    | none =>
      rw [hco] at hin
      cases hin
    | some co => exact .refl _

omit [AccountStore S] in
lemma published_of_sight (w : World S) {flight : Nat} {e : CacheEntry}
    (h : Resolver.sight r c flight = .value e) :
    (flightsOf (w, r)).published.get? flight = some e := by
  unfold Resolver.sight at h
  cases hco : r.coalescer with
  | none =>
    rw [hco] at h
    cases h
  | some co =>
    rw [hco] at h
    rw [flightsOf_eq hco]
    exact published_of_value h

lemma flies_request {r t : RequestRun S} {i : Nat} {u : CallTurn S}
    {news : InstallationKey → Nat → CacheEntry → Prop}
    (hp : Piloted (flightsOf r.shared) (aboard viewRequest (standing r)))
    (h : Takes Resolver.machine r t i c u)
    (hnews : ∀ flight e, Fetches r.now r.shared.1 c e → news c.key flight e) :
    Flies news viewRequest (flightsOf r.shared) c (flightsOf u.shared)
      (Stand.after r.now c u.next) := by
  have haboard : aboard viewRequest (standing r) i = some (c.key, c.phase) :=
    aboard_eq_some.mpr ⟨c, h.before, rfl⟩
  have hturn := requestTurn_of_takes h
  obtain ⟨now, ⟨w, q⟩, notices, jobs⟩ := r
  unfold Flies
  simp only [viewRequest]
  cases hturn with
  | refuse hc =>
    refine ⟨none, ?_, rfl⟩
    rw [hc]
    exact .leave rfl (.refl _)
  | hit hc =>
    refine ⟨none, ?_, rfl⟩
    rw [hc]
    exact .leave rfl (.refl _)
  | load hc =>
    refine ⟨some (.loading none _), ?_, rfl⟩
    rw [hc]
    exact .load rfl (.refl _)
  | @join co flight hc _ _ hco hk =>
    refine ⟨some (.joining flight _), ?_, rfl⟩
    rw [hc]
    exact .join (by rwa [flightsOf_eq hco]) (.refl _)
  | @lead co hc _ _ hco hk =>
    refine ⟨some (.loading (some co.nextFlight) _), ?_, rfl⟩
    rw [hc, flightsOf_eq hco]
    exact .lead hk (.refl _)
  | receive hc =>
    refine ⟨none, ?_, rfl⟩
    rw [hc]
    exact .leave rfl (sameFlights_map w w q fun _ => ⟨rfl, rfl, rfl⟩)
  | fallBack hc =>
    refine ⟨some (.loading none _), ?_, rfl⟩
    rw [hc]
    exact .load rfl (sameFlights_map w w q fun _ => ⟨rfl, rfl, rfl⟩)
  | @settle flight due found _ hc hdue hl =>
    refine ⟨none, ?_, rfl⟩
    have hfetch : Fetches now w c ⟨w.clock.now, found⟩ := ⟨⟨_, _, hc, hdue⟩, hl, rfl⟩
    rw [hc] at haboard ⊢
    refine flightTurn_publish w w (fun f => hnews f _ hfetch) ?_
    intro f hf
    exact hp.leads i c.key _ f haboard hf
  | fail hc =>
    refine ⟨none, ?_, rfl⟩
    have hend := flightTurn_abandon (news c.key) w w q c
    unfold Resolver.abandon at hend
    rw [hc] at hend ⊢
    exact hend
  | late => exact ⟨none, flightTurn_abandon _ w w q c, rfl⟩

end Turns

/-- The course of requests to a new resolver, none of which has begun at first, while the store and
the clock change and keys are invalidated. -/
structure Requests (config : ResolverConfig) (s : Nat → RequestRun S) : Prop where
  chronicle : Chronicle Resolver.machine Meddled s
  new : (s 0).shared.2 = .new config
  fresh : Unstarted (fun c => c.phase = .arriving) (standing (s 0))

variable {config : ResolverConfig} {s : Nat → RequestRun S} {n i : Nat}

/-- The flights of requests, and whatever is told of the entries that lookups give. -/
lemma Requests.airspace_of (h : Requests config s)
    {news : Nat → InstallationKey → Nat → CacheEntry → Prop}
    (hnews : ∀ n i c u, Takes Resolver.machine (s n) (s (n + 1)) i c u →
      ∀ flight e, Fetches (s n).now (s n).shared.1 c e → news n c.key flight e) :
    Airspace news (fun n => flightsOf (s n).shared)
      (fun n => aboard viewRequest (standing (s n))) := by
  have hgrounded := aboard_unstarted h.fresh viewRequest
  constructor
  case first =>
    rw [hgrounded]
    have hnew : ∃ wait, flightsOf (s 0).shared = .new wait := by
      unfold flightsOf
      rw [h.new]
      unfold Resolver.new
      cases config.coalesce with
      | true => exact ⟨_, rfl⟩
      | false => exact ⟨_, rfl⟩
    obtain ⟨wait, hw⟩ := hnew
    rw [hw]
    exact piloted_new wait
  case grounded => exact hgrounded
  case next =>
    intro n hp
    refine traffic_of_passage flightsOf (h.chronicle n).passage ?_ ?_ ?_ ?_
    · rintro ⟨w, r⟩ hs
      have hco : r.coalescer = (s n).shared.2.coalescer := by
        rcases hs with hs | ⟨k, hs⟩
        · rw [← hs]
        · rw [show r = _ from hs]
          rfl
      unfold flightsOf
      rw [hco]
      exact .refl _
    · intro i c hc
      have hfresh := h.chronicle.planned h.fresh n i c hc
      exact .inr ⟨c.key, by rw [viewRequest, hfresh]⟩
    · exact fun i c u hu => flies_request hp hu (hnews n i c u hu)
    · exact fun i c _ => ⟨none, flightTurn_abandon _ _ _ _ c, rfl⟩

lemma Requests.airspace (h : Requests config s) :
    Airspace (fun n k _ e => AnsweredWith (s n).shared.1 k e) (fun n => flightsOf (s n).shared)
      (fun n => aboard viewRequest (standing (s n))) :=
  h.airspace_of fun _ _ _ _ _ _ _ hl => hl.answer

/-- What becomes of the index at a moment: it stays as it is, a key is invalidated, or a request
stores its outcome. -/
inductive IndexMoment (s : Nat → RequestRun S) (n : Nat) : Prop where
  | rests (index : (s (n + 1)).shared.2.index = (s n).shared.2.index)
      (evictions : (s (n + 1)).shared.2.evictions = (s n).shared.2.evictions)
  | invalidates (k : InstallationKey)
      (resolver : (s (n + 1)).shared.2 = (s n).shared.2.invalidate k)
  | stores (i : Nat) (c : Resolver.Call) (u : CallTurn S) (e : CacheEntry)
      (takes : Takes Resolver.machine (s n) (s (n + 1)) i c u)
      (stores : Stores (s n).now (s n).shared.1 (s n).shared.2 c u e)

lemma Requests.indexMoment (h : Requests config s) (n : Nat) : IndexMoment s n := by
  have hsame : (s (n + 1)).shared.2 = (s n).shared.2 → IndexMoment s n := by
    intro hs
    exact .rests (congrArg Resolver.index hs) (congrArg Resolver.evictions hs)
  cases (h.chronicle n).passage with
  | pass _ shared _ => exact hsame (congrArg Prod.snd shared)
  | start _ _ _ _ shared _ => exact hsame (congrArg Prod.snd shared)
  | change _ shared _ =>
    rcases shared with hs | ⟨k, hs⟩
    · exact hsame hs
    · exact .invalidates k hs
  | turn j c u takes =>
    rcases (requestTurn_of_takes takes).index with ⟨hindex, hcount⟩ | ⟨e, hstores⟩
    · rw [← takes.shared] at hindex hcount
      exact .rests hindex hcount
    · exact .stores j c u e takes hstores
  | drop j c _ _ shared _ =>
    obtain ⟨co, hco⟩ := abandon_eq (s n).shared.2 c
    have hdrop : (s (n + 1)).shared.2 = { (s n).shared.2 with coalescer := co } := by
      rw [shared]
      exact hco
    exact .rests (by rw [hdrop]) (by rw [hdrop])

end Tenancy.Proofs
