import Mathlib.Data.List.Nodup
import Mathlib.Data.List.Perm.Basic
import Tenancy.Proofs.Flights

/-!
# Leaders of flights

Calls of one coalescer, interleaved in any way, dropped anywhere and however long their loads take.
The keys in flight are at every moment those of the unfinished calls that lead, one for each key, so
nothing is in flight once every call has ended.
-/

namespace Tenancy.Proofs

open Function Coalescer Table

variable {K V E : Type}

/-- A coalescer with its calls. -/
abbrev SharedRun (K V E : Type) :=
  Run (Coalescer K V) (Coalescer.Call K V E) (Coalescer.Answer V E)

/-- Nothing has been done about a call. -/
def Fresh : Coalescer.Call K V E → Prop
  | .load l => l.phase = .arriving
  | .sample => True

def viewLoad : Coalescer.Call K V E → Option (K × Phase)
  | .load l => some (l.key, l.phase)
  | .sample => none

/-- A call leads a flight of a key. -/
def Leads (r : SharedRun K V E) (i : Nat) (k : K) (flight : Nat) : Prop :=
  ∃ l due, standing r i = some (.running (.load l)) ∧ l.key = k ∧
    l.phase = .loading (some flight) due

/-- A call that leads a flight of a key ends with a value. -/
def Delivers (r t : SharedRun K V E) (k : K) (flight : Nat) (v : V) : Prop :=
  ∃ j l due, standing r j = some (.running (.load l)) ∧ l.key = k ∧
    l.phase = .loading (some flight) due ∧
    standing t j = some (.ended (.load l) (.executed v) r.now)

variable [DecidableEq K]

/-- What a turn of a load does. -/
inductive LoadTurn (now : Nat) (c : Coalescer K V) (l : Load K V E) :
    Turn (Coalescer K V) (Coalescer.Call K V E) (Coalescer.Answer V E) → Prop where
  | lead : l.phase = .arriving → c.inflight.get? l.key = none →
      LoadTurn now c l (goOn (c.lead l.key) l (.loading (some c.nextFlight) (now + l.duration)))
  | join {flight} : l.phase = .arriving → c.inflight.get? l.key = some flight →
      LoadTurn now c l (goOn c l (.joining flight (now + Request.limitMillis c.joinTimeout)))
  | receive {flight due v} : l.phase = .joining flight due → c.published.get? flight = some v →
      LoadTurn now c l (stop c.countJoined (.joined v))
  | fallBack {flight due} : l.phase = .joining flight due →
      (c.sight l.key flight = .lost ∨ c.sight l.key flight = .waiting ∧ due ≤ now) →
      LoadTurn now c l (fallBack now c l)
  | publish {flight due v} : l.phase = .loading (some flight) due → due ≤ now →
      l.outcome = .ok v → LoadTurn now c l (stop (c.publish l.key flight v) (.executed v))
  | land {flight due e} : l.phase = .loading (some flight) due → due ≤ now →
      l.outcome = .error e → LoadTurn now c l (stop (c.land l.key) (.failed e))
  | execute {due v} : l.phase = .loading none due → due ≤ now → l.outcome = .ok v →
      LoadTurn now c l (stop c (.executed v))
  | fail {due e} : l.phase = .loading none due → due ≤ now → l.outcome = .error e →
      LoadTurn now c l (stop c (.failed e))

variable {now : Nat} {c : Coalescer K V} {l : Load K V E}
  {u : Turn (Coalescer K V) (Coalescer.Call K V E) (Coalescer.Answer V E)}

lemma loadTurn_of_step (h : stepLoad now c l = some u) : LoadTurn now c l u := by
  unfold stepLoad at h
  cases hp : l.phase with
  | arriving =>
    rw [hp] at h
    simp only at h
    cases hf : c.inflight.get? l.key with
    | some flight =>
      rw [hf] at h
      rw [← Option.some.inj h]
      exact .join hp hf
    | none =>
      rw [hf] at h
      rw [← Option.some.inj h]
      exact .lead hp hf
  | joining flight due =>
    rw [hp] at h
    simp only at h
    split at h
    · rename_i v hs
      rw [← Option.some.inj h]
      exact .receive hp (published_of_value hs)
    · rename_i hs
      rw [← Option.some.inj h]
      exact .fallBack hp (.inl hs)
    · cases h
  | loading flight due =>
    rw [hp] at h
    simp only at h
    split at h
    · cases h
    · rename_i hdue
      have hdue := Nat.le_of_not_lt hdue
      split at h
      · rename_i hout
        rw [← Option.some.inj h]
        exact .publish hp hdue hout
      · rename_i hout
        rw [← Option.some.inj h]
        exact .execute hp hdue hout
      · rename_i hout
        rw [← Option.some.inj h]
        exact .land hp hdue hout
      · rename_i hout
        rw [← Option.some.inj h]
        exact .fail hp hdue hout

lemma loadTurn_of_expire (hn : stepLoad now c l = none)
    (h : Coalescer.expire now c (.load l) = some u) : LoadTurn now c l u := by
  unfold Coalescer.expire at h
  simp only at h
  split at h
  · rename_i flight due hp
    split at h
    · rename_i hdue
      have hwaiting : c.sight l.key flight = .waiting := by
        unfold stepLoad at hn
        rw [hp] at hn
        simp only at hn
        split at hn
        · cases hn
        · cases hn
        · assumption
      rw [← Option.some.inj h]
      exact .fallBack hp (.inr ⟨hwaiting, hdue⟩)
    · cases h
  · cases h

/-- A call that waits for a flight takes its value or begins its own load. -/
lemma LoadTurn.of_joining (h : LoadTurn now c l u) {flight due : Nat}
    (hp : l.phase = .joining flight due) :
    (∃ v, c.published.get? flight = some v ∧ u = stop c.countJoined (.joined v)) ∨
      u = Coalescer.fallBack now c l := by
  cases h with
  | receive hp' hv =>
    rw [hp] at hp'
    cases hp'
    exact .inl ⟨_, hv, rfl⟩
  | fallBack => exact .inr rfl
  | lead hp' => simp [hp] at hp'
  | join hp' => simp [hp] at hp'
  | publish hp' => simp [hp] at hp'
  | land hp' => simp [hp] at hp'
  | execute hp' => simp [hp] at hp'
  | fail hp' => simp [hp] at hp'

lemma loadTurn_of_takes {r t : SharedRun K V E} {i : Nat} (h : Takes machine r t i (.load l) u) :
    LoadTurn r.now r.shared l u := by
  rcases h.does with hs | ⟨hn, he⟩
  · exact loadTurn_of_step hs
  · exact loadTurn_of_expire hn he

lemma stop_of_sample {r t : SharedRun K V E} {i : Nat} (h : Takes machine r t i .sample u) :
    u = stop r.shared (.counted r.shared.inflight.length r.shared.leaders r.shared.joined
      r.shared.fallbacks) := by
  rcases h.does with hs | ⟨-, he⟩
  · exact (Option.some.inj hs).symm
  · cases he

omit [DecidableEq K] in
lemma sameFlights_countJoined (c : Coalescer K V) : SameFlights c c.countJoined :=
  ⟨rfl, rfl, rfl⟩

omit [DecidableEq K] in
lemma sameFlights_countFallback (c : Coalescer K V) : SameFlights c c.countFallback :=
  ⟨rfl, rfl, rfl⟩

lemma flies_turn {r t : SharedRun K V E} {i : Nat} {k : Coalescer.Call K V E}
    (h : Takes machine r t i k u) :
    Flies (Delivers r t) viewLoad r.shared k u.shared (Stand.after r.now k u.next) := by
  cases k with
  | sample =>
    rw [stop_of_sample h]
    exact ⟨.refl _, rfl⟩
  | load l =>
    have hafter : standing t i = some (Stand.after r.now (.load l) u.next) := by
      rw [h.jobs, update_self]
    cases loadTurn_of_takes h with
    | lead hp hk =>
      refine ⟨some (.loading (some r.shared.nextFlight) (r.now + l.duration)), ?_, rfl⟩
      rw [hp]
      exact .lead hk (.refl _)
    | @join flight hp hk =>
      refine ⟨some (.joining flight (r.now + Request.limitMillis r.shared.joinTimeout)), ?_, rfl⟩
      rw [hp]
      exact .join hk (.refl _)
    | receive hp _ =>
      refine ⟨none, ?_, rfl⟩
      rw [hp]
      exact .leave rfl (sameFlights_countJoined _)
    | fallBack hp _ =>
      refine ⟨some (.loading none (r.now + l.duration)), ?_, rfl⟩
      rw [hp]
      exact .load rfl (sameFlights_countFallback _)
    | publish hp _ =>
      refine ⟨none, ?_, rfl⟩
      rw [hp]
      exact .publish ⟨i, l, _, h.before, rfl, hp, hafter⟩ (.refl _)
    | land hp _ =>
      refine ⟨none, ?_, rfl⟩
      rw [hp]
      exact .land (.refl _)
    | execute hp _ =>
      refine ⟨none, ?_, rfl⟩
      rw [hp]
      exact .leave rfl (.refl _)
    | fail hp _ =>
      refine ⟨none, ?_, rfl⟩
      rw [hp]
      exact .leave rfl (.refl _)

lemma flies_drop {news : K → Nat → V → Prop} (c : Coalescer K V) (k : Coalescer.Call K V E)
    (time : Nat) :
    Flies news viewLoad c k (Coalescer.drop c k)
      (.dropped k time : Stand (Coalescer.Call K V E) (Coalescer.Answer V E)) := by
  cases k with
  | sample => exact ⟨.refl _, rfl⟩
  | load l =>
    obtain ⟨key, duration, outcome, phase⟩ := l
    refine ⟨none, ?_, rfl⟩
    cases phase with
    | arriving => exact .leave rfl (.refl _)
    | joining flight due => exact .leave rfl (.refl _)
    | loading flight due =>
      cases flight with
      | none => exact .leave rfl (.refl _)
      | some flight => exact .land (.refl _)

/-- The course of calls of a new coalescer, none of which has begun at first. -/
structure LoadCourse (wait : Duration) (s : Nat → SharedRun K V E) : Prop where
  chronicle : Chronicle machine Untouched s
  new : (s 0).shared = .new wait
  fresh : Unstarted Fresh (standing (s 0))

section Course

variable {wait : Duration} {s : Nat → SharedRun K V E} {i j n : Nat}

lemma LoadCourse.airspace (h : LoadCourse wait s) :
    Airspace (fun n => Delivers (s n) (s (n + 1))) (fun n => (s n).shared)
      (fun n => aboard viewLoad (standing (s n))) := by
  have hgrounded := aboard_unstarted h.fresh viewLoad
  constructor
  case first =>
    rw [hgrounded, h.new]
    exact piloted_new wait
  case grounded => exact hgrounded
  case next =>
    intro n _
    refine traffic_of_passage id (h.chronicle n).passage ?_ ?_ ?_ ?_
    · rintro _ rfl
      exact .refl _
    · intro i k hk
      have hfresh := h.chronicle.planned h.fresh n i k hk
      cases k with
      | sample => exact .inl rfl
      | load l => exact .inr ⟨l.key, by rw [viewLoad, show l.phase = .arriving from hfresh]⟩
    · exact fun i k u hu => flies_turn hu
    · exact fun i k _ => flies_drop _ k _

omit [DecidableEq K] in
lemma leads_iff {r : SharedRun K V E} {k : K} {flight : Nat} :
    Leads r i k flight ↔
      ∃ p, aboard viewLoad (standing r) i = some (k, p) ∧ ledFlight p = some flight := by
  constructor
  · rintro ⟨l, due, hi, rfl, hp⟩
    exact ⟨l.phase, aboard_eq_some.mpr ⟨_, hi, rfl⟩, by rw [hp]; rfl⟩
  · rintro ⟨p, hi, hp⟩
    obtain ⟨c, hc, hv⟩ := aboard_eq_some.mp hi
    cases c with
    | sample => cases hv
    | load l =>
      cases hv
      cases hl : l.phase with
      | arriving =>
        rw [hl] at hp
        cases hp
      | joining =>
        rw [hl] at hp
        cases hp
      | loading f due =>
        rw [hl] at hp
        cases hp
        exact ⟨l, due, hc, rfl, hl⟩

lemma LoadCourse.one_leader (h : LoadCourse wait s) {m q flight : Nat} {k k' : K}
    (hi : Leads (s m) i k flight) (hj : Leads (s q) j k' flight) : i = j := by
  obtain ⟨p, hg, hp⟩ := leads_iff.mp hi
  obtain ⟨p', hg', hp'⟩ := leads_iff.mp hj
  rcases Nat.le_total m q with hmq | hqm
  · exact h.airspace.same_leader hg hp hmq hg' hp'
  · exact (h.airspace.same_leader hg' hp' hqm hg hp).symm

/-- The key whose flight the call of a job leads. -/
def ledKey? (t : Job (Coalescer.Call K V E) (Coalescer.Answer V E)) : Option K :=
  match t.stand with
  | .running (.load l) => (ledFlight l.phase).map fun _ => l.key
  | _ => none

/-- The number of unfinished calls that lead a flight. -/
def leading (r : SharedRun K V E) : Nat :=
  r.jobs.countP fun t => (ledKey? t).isSome

omit [DecidableEq K] in
lemma ledKey?_eq_some {r : SharedRun K V E} {k : K} :
    (∃ t, r.jobs[i]? = some t ∧ ledKey? t = some k) ↔ ∃ flight, Leads r i k flight := by
  constructor
  · rintro ⟨t, ht, hk⟩
    unfold ledKey? at hk
    split at hk
    · rename_i l hs
      obtain ⟨flight, hp, rfl⟩ := Option.map_eq_some_iff.mp hk
      refine ⟨flight, leads_iff.mpr ⟨l.phase, aboard_eq_some.mpr ⟨.load l, ?_, rfl⟩, hp⟩⟩
      simp [standing, ht, hs]
    · cases hk
  · rintro ⟨flight, l, due, hi, rfl, hp⟩
    obtain ⟨t, ht, hs⟩ := Option.map_eq_some_iff.mp hi
    exact ⟨t, ht, by simp [ledKey?, hs, hp, ledFlight]⟩

/-- The flights under way are those that unfinished calls lead, and no two of these have the same
key. -/
structure Led (r : SharedRun K V E) : Prop where
  led : ∀ k flight, r.shared.inflight.get? k = some flight ↔ ∃ i, Leads r i k flight
  one : ∀ i j k flight flight', Leads r i k flight → Leads r j k flight' → i = j
  counted : r.shared.inflight.length = leading r
  idle : (∀ i k, standing r i ≠ some (.running k)) → r.shared.inflight = []

section Led

variable {r : SharedRun K V E}

lemma get?_inflight (h : Piloted r.shared (aboard viewLoad (standing r))) (k : K) (flight : Nat) :
    r.shared.inflight.get? k = some flight ↔ ∃ i, Leads r i k flight := by
  constructor
  · intro hk
    obtain ⟨i, p, hi, hp⟩ := h.led k flight (mem_of_get? hk)
    exact ⟨i, leads_iff.mpr ⟨p, hi, hp⟩⟩
  · rintro ⟨i, hi⟩
    obtain ⟨p, hi, hp⟩ := leads_iff.mp hi
    exact get?_of_mem h.nodup (h.leads i k p flight hi hp)

lemma leads_unique (h : Piloted r.shared (aboard viewLoad (standing r))) {k : K}
    {flight flight' : Nat} (hi : Leads r i k flight) (hj : Leads r j k flight') : i = j := by
  obtain ⟨p, hi, hp⟩ := leads_iff.mp hi
  obtain ⟨q, hj, hq⟩ := leads_iff.mp hj
  exact h.leader_unique hi hj hp hq

lemma perm_ledKeys (h : Piloted r.shared (aboard viewLoad (standing r))) :
    (keys r.shared.inflight).Perm (r.jobs.filterMap ledKey?) := by
  rw [List.perm_ext_iff_of_nodup h.nodup]
  · intro k
    rw [List.mem_filterMap]
    constructor
    · intro hk
      obtain ⟨⟨_, flight⟩, hf, rfl⟩ := List.mem_map.mp hk
      obtain ⟨i, hi⟩ := (get?_inflight h _ flight).mp (get?_of_mem h.nodup hf)
      obtain ⟨t, ht, hk⟩ := ledKey?_eq_some.mpr ⟨flight, hi⟩
      exact ⟨t, List.mem_of_getElem? ht, hk⟩
    · rintro ⟨t, ht, hk⟩
      obtain ⟨i, hi⟩ := List.getElem?_of_mem ht
      obtain ⟨flight, hl⟩ := ledKey?_eq_some.mp ⟨t, hi, hk⟩
      exact List.mem_map_of_mem (mem_of_get? ((get?_inflight h k flight).mpr ⟨i, hl⟩))
  · rw [List.Nodup, List.pairwise_filterMap, List.pairwise_iff_getElem]
    rintro i j hi hj hij k hk k' hk' rfl
    obtain ⟨flight, hl⟩ := ledKey?_eq_some.mp ⟨_, List.getElem?_eq_getElem hi, hk⟩
    obtain ⟨flight', hl'⟩ := ledKey?_eq_some.mp ⟨_, List.getElem?_eq_getElem hj, hk'⟩
    exact Nat.ne_of_lt hij (leads_unique h hl hl')

lemma led_of_piloted (h : Piloted r.shared (aboard viewLoad (standing r))) : Led r where
  led := get?_inflight h
  one i j k flight flight' := leads_unique h
  counted := by
    rw [leading, ← List.length_filterMap_eq_countP, ← (perm_ledKeys h).length_eq, keys,
      List.length_map]
  idle hover := by
    rw [List.eq_nil_iff_forall_not_mem]
    rintro ⟨k, flight⟩ hk
    obtain ⟨i, l, due, hi, -⟩ := (get?_inflight h k flight).mp (get?_of_mem h.nodup hk)
    exact hover i _ hi

end Led

/-- The flights under way are at every moment those that unfinished calls lead, one for each key,
and a call that samples their number is told how many calls lead. -/
theorem flights_led (h : LoadCourse wait s) (n : Nat) :
    Led (s n) ∧ ∀ i a time, standing (s n) i = some (.ended .sample a time) →
      ∃ m < n, time = (s m).now ∧
        ∃ led joined lost, a = .counted (leading (s m)) led joined lost := by
  have hled := fun n => led_of_piloted (h.airspace.piloted n)
  refine ⟨hled n, ?_⟩
  intro i a time hi
  obtain ⟨m, hm, u, hu, ha, ht⟩ := h.chronicle.ended h.fresh hi
  refine ⟨m, hm, ht, (s m).shared.leaders, (s m).shared.joined, (s m).shared.fallbacks, ?_⟩
  rw [stop_of_sample hu] at ha
  rw [← (hled m).counted]
  exact (Next.ended.inj ha).symm

end Course

/-- Two keys are loaded by two calls each. The leader of the first one succeeds and the leader of
the second one fails, while a fifth call samples the number of flights. -/
def convoyDeeds : List (Deed (Coalescer Nat Nat)) :=
  [.event (.start 0), .event (.step 0), .event (.start 1), .event (.step 1), .event (.start 2),
    .event (.step 2), .event (.start 3), .event (.step 3), .event (.start 4), .event (.step 4),
    .pass 4, .event (.step 2), .event (.step 3), .pass 10, .event (.step 0), .event (.step 1)]

def convoy : Nat → SharedRun Nat Nat String :=
  play machine ⟨0, .new (.ofMillis 20), [],
    [⟨0, none, .planned (.load ⟨1, 10, .ok 5, .arriving⟩)⟩,
      ⟨0, none, .planned (.load ⟨1, 3, .ok 6, .arriving⟩)⟩,
      ⟨0, none, .planned (.load ⟨2, 4, .error "no answer", .arriving⟩)⟩,
      ⟨0, none, .planned (.load ⟨2, 8, .ok 7, .arriving⟩)⟩,
      ⟨0, none, .planned .sample⟩]⟩ convoyDeeds

lemma course_convoy : LoadCourse (.ofMillis 20) convoy where
  chronicle := chronicle_play _ _ (by simp [convoyDeeds])
  new := rfl
  fresh := unstarted_of_jobs (by simp [convoy, Fresh])

theorem flights_led_convoy :
    (convoy 9).shared.inflight.length = 2 ∧ ∃ m < 10, leading (convoy m) = 2 := by
  obtain ⟨m, hm, -, led, joined, lost, hs⟩ :=
    (flights_led course_convoy 10).2 4 (.counted 2 2 0 0) 0 rfl
  exact ⟨(flights_led course_convoy 9).1.counted, m, hm, (Answer.counted.inj hs).1.symm⟩

end Tenancy.Proofs
