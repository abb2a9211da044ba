import Tenancy.Proofs.Invalidation

/-!
# The counters of a resolver

A request is counted as a hit or a miss in its first turn, and one that misses is counted once more
when it is known how it gets its outcome: as the leader of a flight, from the flight of another
request, or alone after all. It may be dropped, or run out of time, at every moment in between. The
counters are therefore compared with how many calls stand where: each turn moves one call, and it
changes the counters by as much.
-/

namespace Tenancy.Proofs

open Function Resolver Coalescer

section Calls

variable {σ κ ρ : Type} {r t : Run σ κ ρ} {i : Nat} {x y : Stand κ ρ}

/-- How many calls of a run stand at a place. -/
def howMany (p : Stand κ ρ → Bool) (r : Run σ κ ρ) : Nat :=
  r.jobs.countP fun j => p j.stand

lemma howMany_eq (p : Stand κ ρ → Bool) (r : Run σ κ ρ) :
    howMany p r = (r.jobs.map Job.stand).countP p := by
  rw [List.countP_map]
  rfl

lemma getElem?_stands (r : Run σ κ ρ) (i : Nat) :
    (r.jobs.map Job.stand)[i]? = standing r i :=
  List.getElem?_map ..

lemma howMany_congr (h : standing t = standing r) (p : Stand κ ρ → Bool) :
    howMany p t = howMany p r := by
  rw [howMany_eq, howMany_eq]
  congr 1
  apply List.ext_getElem?
  intro i
  rw [getElem?_stands, getElem?_stands, h]

lemma howMany_update (hx : standing r i = some x)
    (h : standing t = update (standing r) i (some y)) (p : Stand κ ρ → Bool) :
    howMany p t + (p x).toNat = howMany p r + (p y).toNat := by
  rw [← getElem?_stands] at hx
  obtain ⟨hi, hx⟩ := List.getElem?_eq_some_iff.mp hx
  have hset : t.jobs.map Job.stand = (r.jobs.map Job.stand).set i y := by
    apply List.ext_getElem?
    intro j
    rw [getElem?_stands, h, List.getElem?_set, getElem?_stands]
    by_cases hj : i = j
    · rw [if_pos hj, if_pos hi, ← hj, update_self]
    · rw [if_neg hj, update_of_ne (Ne.symm hj)]
  have hpos : (p x).toNat ≤ (r.jobs.map Job.stand).countP p := by
    cases hpx : p x with
    | false => exact Nat.zero_le _
    | true => exact List.countP_pos_iff.mpr ⟨x, hx ▸ List.getElem_mem hi, hpx⟩
  have hbool : ∀ b : Bool, (if b = true then 1 else 0) = b.toNat := by decide
  rw [howMany_eq, howMany_eq, hset, List.countP_set hi, hx, hbool, hbool]
  omega

end Calls

/-- A request, as far as it has come. -/
abbrev RequestStand :=
  Stand Resolver.Call (Except Error AccountRecord)

/-- A request waits for a flight, as it was when it was last left. -/
@[simp]
def isJoining (c : Resolver.Call) : Bool :=
  match c.phase with
  | .joining _ _ => true
  | _ => false

/-- A request for a usable key that has had its first turn. -/
@[simp]
def hasAsked (x : RequestStand) : Bool :=
  (callOf x).key.isUsable &&
    match x with
    | .planned _ => false
    | .running c => c.phase ≠ .arriving
    | .ended _ _ _ => true
    | .dropped c _ => c.phase ≠ .arriving

/-- A request that waits for a flight. -/
@[simp]
def isWaiting : RequestStand → Bool
  | .running c => isJoining c
  | _ => false

/-- The time of a request was over. -/
def ranOut : Except Error AccountRecord → Bool
  | .error (.deadlineExceeded _) => true
  | _ => false

/-- A request that was dropped while it waited for a flight, by its owner or by its deadline. -/
@[simp]
def gaveUp : RequestStand → Bool
  | .dropped c _ => isJoining c
  | .ended c a _ => isJoining c && ranOut a
  | _ => false

@[simp]
lemma ranOut_outcome (e : CacheEntry) : ranOut e.outcome = false := by
  unfold CacheEntry.outcome
  split <;> rfl

/-- The counters of a resolver and of its store, and how many requests have asked, wait, and were
dropped while they waited. -/
structure Balanced (coalesce : Bool) (s : World AccountMemory × Resolver)
    (asked waiting dropped : Nat) : Prop where
  requests : s.2.hits + s.2.misses = asked
  coalescing : s.2.coalescer.isSome = coalesce
  shared : ∀ co, s.2.coalescer = some co →
    s.2.misses = co.leaders + co.joined + co.fallbacks + waiting + dropped ∧
      s.2.storeCalls = co.leaders + co.fallbacks
  direct : s.2.coalescer = none → s.2.storeCalls = s.2.misses ∧ waiting = 0
  calls : s.2.storeCalls = s.1.store.calls

/-- Two resolvers have counted the same. -/
structure SameCounts (r r' : Resolver) : Prop where
  hits : r'.hits = r.hits
  misses : r'.misses = r.misses
  storeCalls : r'.storeCalls = r.storeCalls
  coalescer : r'.coalescer = r.coalescer ∨ ∃ co co', r.coalescer = some co ∧
    r'.coalescer = some co' ∧ co'.leaders = co.leaders ∧ co'.joined = co.joined ∧
      co'.fallbacks = co.fallbacks

section Counts

variable {r r' : Resolver} {c : Resolver.Call} {w w' : World AccountMemory} {coalesce : Bool}
  {a b d a' b' d' now time : Nat} {u : CallTurn AccountMemory}

lemma SameCounts.refl (r : Resolver) : SameCounts r r :=
  ⟨rfl, rfl, rfl, .inl rfl⟩

lemma SameCounts.populate (h : SameCounts r r') (k : InstallationKey) (e : CacheEntry) :
    SameCounts r (r'.populate k e) :=
  ⟨h.hits, h.misses, h.storeCalls, h.coalescer⟩

lemma sameCounts_map
    {f : Coalescer InstallationKey CacheEntry → Coalescer InstallationKey CacheEntry}
    (hf : ∀ co, (f co).leaders = co.leaders ∧ (f co).joined = co.joined ∧
      (f co).fallbacks = co.fallbacks) : SameCounts r (r.mapCoalescer f) := by
  refine ⟨rfl, rfl, rfl, ?_⟩
  unfold mapCoalescer
  cases hco : r.coalescer with
  | none => exact .inl rfl
  | some co => exact .inr ⟨co, f co, rfl, rfl, hf co⟩

lemma sameCounts_publish (r : Resolver) (c : Resolver.Call) (flight : Option Nat) (e : CacheEntry) :
    SameCounts r (publish r c flight e) := by
  cases flight with
  | none => exact .refl r
  | some f => exact sameCounts_map fun co => ⟨rfl, rfl, rfl⟩

lemma sameCounts_land (r : Resolver) (c : Resolver.Call) (flight : Option Nat) :
    SameCounts r (land r c flight) := by
  cases flight with
  | none => exact .refl r
  | some f => exact sameCounts_map fun co => ⟨rfl, rfl, rfl⟩

lemma sameCounts_abandon (r : Resolver) (c : Resolver.Call) : SameCounts r (abandon r c) := by
  unfold abandon
  split
  · exact sameCounts_land r c _
  · exact .refl r

lemma Balanced.same (h : Balanced coalesce (w, r) a b d) (hr : SameCounts r r')
    (hw : w'.store.calls = w.store.calls) : Balanced coalesce (w', r') a b d := by
  obtain ⟨hits, misses, storeCalls, hco | ⟨co, co', hco, hco', hl, hj, hf⟩⟩ := hr
  · constructor
    case requests => simpa only [hits, misses] using h.requests
    case coalescing => simpa only [hco] using h.coalescing
    case shared => simpa only [hco, misses, storeCalls] using h.shared
    case direct => simpa only [hco, misses, storeCalls] using h.direct
    case calls => simpa only [hw, storeCalls] using h.calls
  · constructor
    case requests => simpa only [hits, misses] using h.requests
    case coalescing => simpa only [hco, hco', Option.isSome_some] using h.coalescing
    case shared =>
      intro co'' hsome
      rw [hco', Option.some.injEq] at hsome
      subst hsome
      simpa only [misses, storeCalls, hl, hj, hf] using h.shared co hco
    case direct =>
      intro hnone
      rw [hco'] at hnone
      cases hnone
    case calls => simpa only [hw, storeCalls] using h.calls

lemma calls_lookup (m : AccountMemory) (k : InstallationKey) : (m.lookup k).2.calls = m.calls := by
  unfold AccountMemory.lookup
  split <;> rfl

lemma Balanced.leave {s : World AccountMemory × Resolver} {b' d' j : Nat}
    (h : Balanced coalesce s a b d) (hb : b' + j = b) (hd : d' = d + j) :
    Balanced coalesce s a b' d' where
  requests := h.requests
  coalescing := h.coalescing
  shared co hco := by
    obtain ⟨hmisses, hlookups⟩ := h.shared co hco
    exact ⟨by omega, hlookups⟩
  direct hco := by
    obtain ⟨hlookups, hnone⟩ := h.direct hco
    exact ⟨hlookups, by omega⟩
  calls := h.calls

lemma Balanced.shares (h : Balanced coalesce (w, r) a b d)
    {co : Coalescer InstallationKey CacheEntry} (hco : r.coalescer = some co) :
    coalesce = true ∧ r.misses = co.leaders + co.joined + co.fallbacks + b + d ∧
      r.storeCalls = co.leaders + co.fallbacks := by
  refine ⟨?_, h.shared co hco⟩
  rw [← h.coalescing, hco]
  rfl

lemma Balanced.loadsAlone (h : Balanced coalesce (w, r) a b d) (hco : r.coalescer = none) :
    coalesce = false ∧ r.storeCalls = r.misses ∧ b = 0 := by
  refine ⟨?_, h.direct hco⟩
  rw [← h.coalescing, hco]
  rfl

lemma Balanced.of_shared {co : Coalescer InstallationKey CacheEntry} (hco : r.coalescer = some co)
    (hrequests : r.hits + r.misses = a)
    (hmisses : r.misses = co.leaders + co.joined + co.fallbacks + b + d)
    (hlookups : r.storeCalls = co.leaders + co.fallbacks)
    (hcalls : r.storeCalls = w.store.calls) : Balanced true (w, r) a b d where
  requests := hrequests
  coalescing := Option.isSome_iff_exists.mpr ⟨co, hco⟩
  shared co' hco' := by
    rw [show r.coalescer = some co' from hco', Option.some.injEq] at hco
    rw [hco]
    exact ⟨hmisses, hlookups⟩
  direct hnone := by
    rw [show r.coalescer = none from hnone] at hco
    cases hco
  calls := hcalls

lemma Balanced.of_direct (hco : r.coalescer = none) (hrequests : r.hits + r.misses = a)
    (hlookups : r.storeCalls = r.misses) (hcalls : r.storeCalls = w.store.calls) :
    Balanced false (w, r) a 0 d where
  requests := hrequests
  coalescing := Option.isSome_eq_false_iff.mpr (Option.isNone_iff_eq_none.mpr hco)
  shared co' hco' := by
    rw [show r.coalescer = some co' from hco'] at hco
    cases hco
  direct _ := ⟨hlookups, rfl⟩
  calls := hcalls

lemma Balanced.hit (h : Balanced coalesce (w, r) a b d) :
    Balanced coalesce (w, { r with hits := r.hits + 1 }) (a + 1) b d where
  requests := by
    have hrequests : r.hits + r.misses = a := h.requests
    change r.hits + 1 + r.misses = a + 1
    omega
  coalescing := h.coalescing
  shared := h.shared
  direct := h.direct
  calls := h.calls

lemma Balanced.loadAlone (h : Balanced coalesce (w, r) a b d) (hco : r.coalescer = none)
    (now : Nat) (c : Resolver.Call) :
    Balanced coalesce (beginLoad now w (countMiss r) c none).shared (a + 1) b d := by
  obtain ⟨rfl, hlookups, rfl⟩ := h.loadsAlone hco
  exact .of_direct hco (congrArg (· + 1) h.requests) (congrArg (· + 1) hlookups)
    (congrArg (· + 1) h.calls)

lemma Balanced.join (h : Balanced coalesce (w, r) a b d)
    {co : Coalescer InstallationKey CacheEntry} (hco : r.coalescer = some co) :
    Balanced coalesce (w, countMiss r) (a + 1) (b + 1) d := by
  obtain ⟨rfl, hmisses, hlookups⟩ := h.shares hco
  refine .of_shared hco (congrArg (· + 1) h.requests) ?_ hlookups h.calls
  change r.misses + 1 = co.leaders + co.joined + co.fallbacks + (b + 1) + d
  omega

lemma Balanced.lead (h : Balanced coalesce (w, r) a b d)
    {co : Coalescer InstallationKey CacheEntry} (hco : r.coalescer = some co) (now : Nat)
    (c c' : Resolver.Call) (flight : Option Nat) :
    Balanced coalesce (beginLoad now w { countMiss r with coalescer := some (co.lead c.key) } c'
      flight).shared (a + 1) b d := by
  obtain ⟨rfl, hmisses, hlookups⟩ := h.shares hco
  refine .of_shared rfl (congrArg (· + 1) h.requests) ?_ ?_ (congrArg (· + 1) h.calls)
  · change r.misses + 1 = co.leaders + 1 + co.joined + co.fallbacks + b + d
    omega
  · change r.storeCalls + 1 = co.leaders + 1 + co.fallbacks
    omega

/-- Whoever waits, waits for a flight of a coalescer. -/
lemma Balanced.exists_coalescer (h : Balanced coalesce (w, r) a (b + 1) d) :
    ∃ co, r.coalescer = some co := by
  cases hco : r.coalescer with
  | none => exact absurd (h.loadsAlone hco).2.2 (Nat.succ_ne_zero b)
  | some co => exact ⟨co, rfl⟩

lemma Balanced.receive (h : Balanced coalesce (w, r) a (b + 1) d) :
    Balanced coalesce (w, r.mapCoalescer countJoined) a b d := by
  obtain ⟨co, hco⟩ := h.exists_coalescer
  obtain ⟨rfl, hmisses, hlookups⟩ := h.shares hco
  refine .of_shared (congrArg (Option.map countJoined) hco) h.requests ?_ hlookups h.calls
  change r.misses = co.leaders + (co.joined + 1) + co.fallbacks + b + d
  omega

lemma Balanced.fallBack (h : Balanced coalesce (w, r) a (b + 1) d) (now : Nat)
    (c : Resolver.Call) : Balanced coalesce (Resolver.fallBack now w r c).shared a b d := by
  obtain ⟨co, hco⟩ := h.exists_coalescer
  obtain ⟨rfl, hmisses, hlookups⟩ := h.shares hco
  refine .of_shared (congrArg (Option.map countFallback) hco) h.requests ?_ ?_
    (congrArg (· + 1) h.calls)
  · change r.misses = co.leaders + co.joined + (co.fallbacks + 1) + b + d
    omega
  · change r.storeCalls + 1 = co.leaders + (co.fallbacks + 1)
    omega

/-- A request has moved from one place to another one, and the numbers of those that have asked,
wait and were dropped while they waited have changed accordingly. -/
structure Moved (x y : RequestStand) (a b d a' b' d' : Nat) : Prop where
  asked : a' + (hasAsked x).toNat = a + (hasAsked y).toNat
  waiting : b' + (isWaiting x).toNat = b + (isWaiting y).toNat
  dropped : d' + (gaveUp x).toNat = d + (gaveUp y).toNat

lemma hasAsked_after (hu : RequestTurn now w r c u) :
    hasAsked (Stand.after time c u.next) = c.key.isUsable := by
  cases hu <;> simp [Stand.after, callOf, beginLoad, Resolver.fallBack, Resolver.settle, missed]

lemma isWaiting_after (hu : RequestTurn now w r c u) (hc : c.phase ≠ .arriving) :
    isWaiting (Stand.after time c u.next) = false := by
  cases hu with
  | join harriving => exact absurd harriving hc
  | _ => rfl

lemma gaveUp_after (hc : isJoining c = false)
    (next : Next Resolver.Call (Except Error AccountRecord)) :
    gaveUp (Stand.after time c next) = false := by
  cases next with
  | running c' => rfl
  | ended answer => rw [Stand.after, gaveUp, hc, Bool.false_and]

/-- The three numbers after a turn, by the phase in which it found the request. -/
lemma RequestTurn.counts (hu : RequestTurn now w r c u)
    (hm : Moved (.running c) (Stand.after time c u.next) a b d a' b' d') :
    match c.phase with
    | .arriving => a' = a + c.key.isUsable.toNat ∧
        b' = b + (isWaiting (Stand.after time c u.next)).toNat ∧ d' = d
    | .joining _ _ => a' = a ∧ b' + 1 = b ∧ d' = d + (gaveUp (Stand.after time c u.next)).toNat
    | .loading _ _ => a' = a ∧ b' = b ∧ d' = d := by
  obtain ⟨hasked, hwaiting, hdropped⟩ := hm
  rw [hasAsked_after hu] at hasked
  cases hc : c.phase with
  | arriving =>
    have hstays : isJoining c = false := by rw [isJoining, hc]
    rw [gaveUp_after hstays] at hdropped
    rw [isWaiting, hstays] at hwaiting
    exact ⟨by simpa [callOf, hc] using hasked, hwaiting, hdropped⟩
  | joining flight due =>
    rw [isWaiting_after hu (by simp [hc]), isWaiting, isJoining, hc] at hwaiting
    exact ⟨by simpa [callOf, hc] using hasked, hwaiting, hdropped⟩
  | loading flight due =>
    have hstays : isJoining c = false := by rw [isJoining, hc]
    rw [gaveUp_after hstays] at hdropped
    rw [isWaiting_after hu (by simp [hc]), isWaiting, hstays] at hwaiting
    exact ⟨by simpa [callOf, hc] using hasked, hwaiting, hdropped⟩

lemma Balanced.arrives (h : Balanced coalesce (w, r) a b d) (hu : RequestTurn now w r c u)
    (hc : c.phase = .arriving) : Balanced coalesce u.shared (a + c.key.isUsable.toNat)
      (b + (isWaiting (Stand.after time c u.next)).toNat) d := by
  cases hu with
  | refuse _ hk =>
    rw [hk]
    exact h
  | hit _ hk =>
    rw [hk]
    exact h.hit
  | load _ hk _ hco =>
    rw [hk]
    exact h.loadAlone hco now _
  | join _ hk _ hco =>
    rw [hk]
    exact h.join hco
  | lead _ hk _ hco =>
    rw [hk]
    exact h.lead hco now c _ _
  | late hn =>
    rw [Resolver.step, hc] at hn
    cases hn
  | receive hp | fallBack hp | settle hp | fail hp => cases hc.symm.trans hp

lemma Balanced.waited (h : Balanced coalesce (w, r) a (b + 1) d) (hu : RequestTurn now w r c u)
    {flight due : Nat} (hc : c.phase = .joining flight due) :
    Balanced coalesce u.shared a b (d + (gaveUp (Stand.after time c u.next)).toNat) := by
  cases hu with
  | receive =>
    rw [Resolver.settle, Stand.after, gaveUp, ranOut_outcome, Bool.and_false]
    exact h.receive.same ((SameCounts.refl _).populate _ _) rfl
  | fallBack => exact h.fallBack now c
  | late =>
    rw [Stand.after, gaveUp, isJoining, hc]
    exact (h.same (sameCounts_abandon r c) rfl).leave rfl rfl
  | refuse hp | hit hp | load hp | join hp | lead hp | settle hp | fail hp =>
    cases hc.symm.trans hp

lemma Balanced.loaded (h : Balanced coalesce (w, r) a b d) (hu : RequestTurn now w r c u)
    {flight : Option Nat} {due : Nat} (hc : c.phase = .loading flight due) :
    Balanced coalesce u.shared a b d := by
  cases hu with
  | settle => exact h.same ((sameCounts_publish r c _ _).populate _ _) (calls_lookup _ _)
  | fail => exact h.same (sameCounts_land r c _) (calls_lookup _ _)
  | late => exact h.same (sameCounts_abandon r c) rfl
  | refuse hp | hit hp | load hp | join hp | lead hp | receive hp | fallBack hp =>
    cases hc.symm.trans hp

lemma Balanced.turn (h : Balanced coalesce (w, r) a b d) (hu : RequestTurn now w r c u)
    (hm : Moved (.running c) (Stand.after time c u.next) a b d a' b' d') :
    Balanced coalesce u.shared a' b' d' := by
  have hcounts := hu.counts hm
  cases hc : c.phase with
  | arriving =>
    rw [hc] at hcounts
    obtain ⟨rfl, rfl, rfl⟩ := hcounts
    exact h.arrives hu hc
  | joining flight due =>
    rw [hc] at hcounts
    obtain ⟨rfl, rfl, rfl⟩ := hcounts
    exact h.waited hu hc
  | loading flight due =>
    rw [hc] at hcounts
    obtain ⟨rfl, rfl, rfl⟩ := hcounts
    exact h.loaded hu hc

end Counts

/-- The course of requests to a new resolver over a store in memory that is asked by nobody else,
none of which has begun at first. -/
structure Solitary (config : ResolverConfig) (s : Nat → RequestRun AccountMemory) : Prop where
  chronicle : Chronicle Resolver.machine Upkeep s
  new : (s 0).shared.2 = .new config
  fresh : Unstarted (fun c => c.phase = .arriving) (standing (s 0))
  unasked : (s 0).shared.1.store.calls = 0

section Courses

variable {config : ResolverConfig} {s : Nat → RequestRun AccountMemory}

lemma balanced_upkeep {coalesce : Bool} {t t' : World AccountMemory × Resolver} {a b d : Nat}
    (h : Balanced coalesce t a b d) (ht : Upkeep t t') : Balanced coalesce t' a b d := by
  cases ht with
  | remove id =>
    refine h.same (.refl _) ?_
    unfold AccountMemory.remove
    split <;> rfl
  | invalidate k => exact h.same ⟨rfl, rfl, rfl, .inl rfl⟩ rfl
  | _ => exact h.same (.refl _) rfl

lemma howMany_unstarted (h : Unstarted (fun c => c.phase = .arriving) (standing (s 0)))
    {p : RequestStand → Bool} (hp : ∀ c, p (.planned c) = false) : howMany p (s 0) = 0 := by
  refine List.countP_eq_zero.mpr fun j hj => ?_
  obtain ⟨i, hi⟩ := List.mem_iff_getElem?.mp hj
  obtain ⟨c, hc, -⟩ := h i j.stand (by rw [standing, hi]; rfl)
  rw [hc, hp c]
  exact Bool.false_ne_true

lemma balanced_new {t : World AccountMemory × Resolver} (hr : t.2 = .new config)
    (ht : t.1.store.calls = 0) : Balanced config.coalesce t 0 0 0 := by
  obtain ⟨w, r⟩ := t
  obtain rfl : r = .new config := hr
  cases hc : config.coalesce with
  | true =>
    have hco : (Resolver.new config).coalescer = some (.new config.joinTimeout) := if_pos hc
    exact .of_shared hco rfl rfl rfl ht.symm
  | false =>
    have hco : (Resolver.new config).coalescer = none := if_neg (hc ▸ Bool.false_ne_true)
    exact .of_direct hco rfl rfl ht.symm

/-- At every moment the requests for usable keys that have had their first turn are as many as the
hits and the misses; with a coalescer the misses are the leaders, the requests that got the value of
another one or fell back, those that wait, and those that were dropped while they waited, and the
lookups are those of the leaders and of the requests that fell back; without one every miss is a
lookup. The store has counted as many lookups as the resolver. -/
theorem counters_balanced (h : Solitary config s) (n : Nat) :
    Balanced config.coalesce (s n).shared (howMany hasAsked (s n)) (howMany isWaiting (s n))
      (howMany gaveUp (s n)) := by
  induction n with
  | zero =>
    rw [howMany_unstarted h.fresh fun c => by simp, howMany_unstarted h.fresh fun c => rfl,
      howMany_unstarted h.fresh fun c => rfl]
    exact balanced_new h.new h.unasked
  | succ n ih =>
    cases (h.chronicle n).passage with
    | pass _ shared jobs =>
      rw [howMany_congr jobs, howMany_congr jobs, howMany_congr jobs, shared]
      exact ih
    | change _ shared jobs =>
      rw [howMany_congr jobs, howMany_congr jobs, howMany_congr jobs]
      exact balanced_upkeep ih shared
    | start i c before _ shared jobs =>
      have hfresh : c.phase = .arriving := h.chronicle.planned h.fresh n i c before
      have hstays : ∀ p : RequestStand → Bool, p (.running c) = p (.planned c) →
          howMany p (s (n + 1)) = howMany p (s n) := by
        intro p hp
        have hmoved := howMany_update before jobs p
        rw [hp] at hmoved
        exact Nat.add_right_cancel hmoved
      rw [shared, hstays _ (by simp [hfresh]), hstays _ (by simp [hfresh]), hstays _ (by simp)]
      exact ih
    | turn i c u takes =>
      rw [takes.shared]
      exact ih.turn (requestTurn_of_takes takes)
        ⟨howMany_update takes.before takes.jobs _, howMany_update takes.before takes.jobs _,
          howMany_update takes.before takes.jobs _⟩
    | drop i c before _ shared jobs =>
      have ha := howMany_update before jobs hasAsked
      rw [shared, Nat.add_right_cancel (ha : _ = _ + (hasAsked (.running c)).toNat)]
      exact (ih.same (sameCounts_abandon _ c) rfl).leave (howMany_update before jobs isWaiting)
        (howMany_update before jobs gaveUp)

end Courses

/-- Requests for one account, one of them without time and one for a key that names nothing, and two
for another account. -/
def crowd : List (Job Resolver.Call (Except Error AccountRecord)) :=
  [⟨0, none, .planned (.new .plain (.byAccount 7))⟩,
    ⟨0, none, .planned (.new .plain (.byAccount 7))⟩,
    ⟨0, none, .planned (.new { Request.plain with timeout := some ⟨0⟩ } (.byAccount 7))⟩,
    ⟨0, none, .planned (.new .plain (.byAccount 7))⟩,
    ⟨0, none, .planned (.new .plain .unset)⟩,
    ⟨0, none, .planned (.new .plain (.byAccount 7))⟩,
    ⟨0, none, .planned (.new .plain (.byAccount 7))⟩,
    ⟨0, none, .planned (.new .plain (.byAccount 8))⟩,
    ⟨0, none, .planned (.new .plain (.byAccount 8))⟩]

/-- The first request leads and four join it: one has no time, one is dropped, one gets the value
and one is left waiting, and a later one finds the entry. The leader for the other account is
dropped, and the request that has joined it falls back. -/
def rushDeeds : List (Deed (World AccountMemory × Resolver)) :=
  [.event (.start 0), .event (.step 0), .event (.start 1), .event (.step 1), .event (.start 2),
    .event (.step 2), .event (.expire 2), .event (.start 3), .event (.step 3), .event (.drop 3),
    .event (.start 4), .event (.step 4), .event (.start 5), .event (.step 5), .pass 10,
    .event (.step 0), .event (.step 1), .event (.start 6), .event (.step 6), .event (.start 7),
    .event (.step 7), .event (.start 8), .event (.step 8), .event (.drop 7), .event (.step 8)]

def rush : Nat → RequestRun AccountMemory :=
  play Resolver.machine ⟨0, (⟨{ AccountMemory.empty.insert oldRecord with latency := 10 },
    ⟨default⟩⟩, .new .standard), [], crowd⟩ rushDeeds

lemma solitary_rush : Solitary .standard rush where
  chronicle := chronicle_play _ _ (by simp [rushDeeds])
  new := rfl
  fresh := unstarted_of_jobs (by simp [rush, crowd, Resolver.Call.new])
  unasked := rfl

theorem counters_balanced_rush :
    Balanced true (rush 25).shared 8 1 2 ∧ (rush 25).shared.2.hits = 1 ∧
      (rush 25).shared.2.storeCalls = 3 :=
  ⟨counters_balanced solitary_rush 25, rfl, rfl⟩

end Tenancy.Proofs
