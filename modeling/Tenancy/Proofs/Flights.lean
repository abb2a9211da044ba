import Mathlib.Logic.Function.Basic
import Mathlib.Order.Monotone.Basic
import Tenancy.Proofs.Chronicle
import Tenancy.Proofs.Table
import Tenancy.Resolver.Coalescer

/-!
# Flights and those aboard

Calls that share their loads are of several kinds, but all of them do the same few things with the
flights: they lead one, join one, publish a value, land or load on their own. From these few things
follows all that is known of flights: each flight under way has one leader, with the key under which
it is under way, and a value that a waiting call sees was published for its key while it waited.
-/

namespace Tenancy.Proofs

open Function Coalescer Table

variable {K V κ ρ : Type}

/-- Two coalescers have the same flights. -/
structure SameFlights (c c' : Coalescer K V) : Prop where
  inflight : c'.inflight = c.inflight
  published : c'.published = c.published
  nextFlight : c'.nextFlight = c.nextFlight

lemma SameFlights.refl (c : Coalescer K V) : SameFlights c c :=
  ⟨rfl, rfl, rfl⟩

/-- The flight that a call leads. -/
def ledFlight : Phase → Option Nat
  | .loading flight _ => flight
  | _ => none

/-- The key and the phase of each call that is under way. -/
abbrev Aboard (K : Type) := Nat → Option (K × Phase)

def aboard (view : κ → Option (K × Phase)) (f : Standing κ ρ) : Aboard K :=
  fun i => match f i with
    | some (.running k) => view k
    | _ => none

/-- The key and the phase of a call after a turn. -/
def viewAfter (view : κ → Option (K × Phase)) : Stand κ ρ → Option (K × Phase)
  | .running k => view k
  | _ => none

lemma aboard_update (view : κ → Option (K × Phase)) (f : Standing κ ρ) (i : Nat) (x : Stand κ ρ) :
    aboard view (update f i (some x)) = update (aboard view f) i (viewAfter view x) := by
  funext j
  by_cases hj : j = i
  · subst hj
    simp only [aboard, update_self]
    cases x <;> rfl
  · simp [aboard, update_of_ne hj]

lemma aboard_eq_some {view : κ → Option (K × Phase)} {f : Standing κ ρ} {i : Nat} {x : K × Phase} :
    aboard view f i = some x ↔ ∃ k, f i = some (.running k) ∧ view k = some x := by
  unfold aboard
  cases f i with
  | none => simp
  | some s => cases s <;> simp

lemma aboard_unstarted {new : κ → Prop} {f : Standing κ ρ} (h : Unstarted new f)
    (view : κ → Option (K × Phase)) : aboard view f = fun _ => none := by
  funext i
  unfold aboard
  cases hi : f i with
  | none => rfl
  | some x =>
    obtain ⟨k, rfl, -⟩ := h i x hi
    rfl

variable [DecidableEq K]

/-- What a call of a key does with the flights in a turn, with the flights and its own phase before
and after it. A value is published only if `news` tells it. -/
inductive FlightTurn (news : Nat → V → Prop) (k : K) (c : Coalescer K V) :
    Phase → Coalescer K V → Option Phase → Prop where
  | lead {c' due} : c.inflight.get? k = none → SameFlights (c.lead k) c' →
      FlightTurn news k c .arriving c' (some (.loading (some c.nextFlight) due))
  | join {c' flight due} : c.inflight.get? k = some flight → SameFlights c c' →
      FlightTurn news k c .arriving c' (some (.joining flight due))
  | publish {c' flight due v} : news flight v → SameFlights (c.publish k flight v) c' →
      FlightTurn news k c (.loading (some flight) due) c' none
  | land {c' flight due} : SameFlights (c.land k) c' →
      FlightTurn news k c (.loading (some flight) due) c' none
  | load {c' p due} : ledFlight p = none → SameFlights c c' →
      FlightTurn news k c p c' (some (.loading none due))
  | leave {c' p} : ledFlight p = none → SameFlights c c' → FlightTurn news k c p c' none

/-- What becomes of the flights and of those aboard at a moment. -/
inductive Traffic (news : K → Nat → V → Prop) (c : Coalescer K V) (g : Aboard K)
    (c' : Coalescer K V) (g' : Aboard K) : Prop where
  | none (flights : SameFlights c c') (calls : g' = g)
  | arrive (i : Nat) (k : K) (before : g i = none) (flights : SameFlights c c')
      (calls : g' = update g i (some (k, .arriving)))
  | turn (i : Nat) (k : K) (p : Phase) (q : Option Phase) (before : g i = some (k, p))
      (flights : FlightTurn (news k) k c p c' q) (calls : g' = update g i (q.map fun p => (k, p)))

/-- What a call does with the flights on its way to where it stands next. -/
def Flies (news : K → Nat → V → Prop) (view : κ → Option (K × Phase)) (c : Coalescer K V) (k : κ)
    (c' : Coalescer K V) (x : Stand κ ρ) : Prop :=
  match view k with
  | none => SameFlights c c' ∧ viewAfter view x = none
  | some (key, p) => ∃ q, FlightTurn (news key) key c p c' q ∧
      viewAfter view x = q.map fun p => (key, p)

section Flies

variable {σ : Type} {m : Machine σ κ ρ} {outside : σ → σ → Prop} {r t : Run σ κ ρ}
  {news : K → Nat → V → Prop} {view : κ → Option (K × Phase)} {co : σ → Coalescer K V}

lemma Flies.traffic {c c' : Coalescer K V} {f : Standing κ ρ} {i : Nat} {k : κ} {x : Stand κ ρ}
    (h : Flies news view c k c' x) (hi : f i = some (.running k)) :
    Traffic news c (aboard view f) c' (aboard view (update f i (some x))) := by
  rw [aboard_update]
  have hview : aboard view f i = view k := by
    unfold aboard
    rw [hi]
  unfold Flies at h
  cases hv : view k with
  | none =>
    rw [hv] at h
    refine .none h.1 ?_
    rw [h.2, ← hv, ← hview, update_eq_self]
  | some v =>
    rw [hv] at h
    obtain ⟨key, p⟩ := v
    obtain ⟨q, hq, hx⟩ := h
    exact .turn i key p q (hview.trans hv) hq (by rw [hx])

variable (co) in
/-- The traffic of calls that start by arriving and do nothing but fly. -/
lemma traffic_of_passage (h : Passage m outside r t)
    (hchange : ∀ s, outside r.shared s → SameFlights (co r.shared) (co s))
    (hstart : ∀ i k, standing r i = some (.planned k) →
      view k = none ∨ ∃ key, view k = some (key, .arriving))
    (hturn : ∀ i k u, Takes m r t i k u →
      Flies news view (co r.shared) k (co u.shared) (Stand.after r.now k u.next))
    (hdrop : ∀ i k, standing r i = some (.running k) →
      Flies news view (co r.shared) k (co (m.drop r.shared k)) (.dropped k r.now : Stand κ ρ)) :
    Traffic news (co r.shared) (aboard view (standing r)) (co t.shared)
      (aboard view (standing t)) := by
  cases h with
  | pass _ shared jobs => exact .none (shared ▸ .refl _) (by rw [jobs])
  | change _ shared jobs => exact .none (hchange _ shared) (by rw [jobs])
  | start i k before _ shared jobs =>
    have hnone : aboard view (standing r) i = none := by
      unfold aboard
      rw [before]
    rw [jobs, aboard_update]
    rcases hstart i k before with hk | ⟨key, hk⟩
    · refine .none (shared ▸ .refl _) ?_
      change update (aboard view (standing r)) i (view k) = _
      rw [hk, ← hnone, update_eq_self]
    · refine .arrive i key hnone (shared ▸ .refl _) ?_
      change update (aboard view (standing r)) i (view k) = _
      rw [hk]
  | turn i k u takes =>
    rw [takes.shared, takes.jobs]
    exact (hturn i k u takes).traffic takes.before
  | drop i k before _ shared jobs =>
    rw [shared, jobs]
    exact (hdrop i k before).traffic before

end Flies

/-- Each flight under way has one leader and one key, and a flight with a value has landed. -/
structure Piloted (c : Coalescer K V) (g : Aboard K) : Prop where
  nodup : (keys c.inflight).Nodup
  numbered : ∀ k n, (k, n) ∈ c.inflight → n < c.nextFlight
  led : ∀ k n, (k, n) ∈ c.inflight → ∃ i p, g i = some (k, p) ∧ ledFlight p = some n
  leads : ∀ i k p n, g i = some (k, p) → ledFlight p = some n → (k, n) ∈ c.inflight
  one : ∀ i j k l p q n, g i = some (k, p) → g j = some (l, q) → ledFlight p = some n →
    ledFlight q = some n → i = j
  landed : ∀ n v, (n, v) ∈ c.published → n < c.nextFlight ∧ ∀ k, (k, n) ∉ c.inflight
  joined : ∀ i k n due, g i = some (k, .joining n due) →
    n < c.nextFlight ∧ ∀ l, (l, n) ∈ c.inflight → l = k

section Piloted

variable {c c' : Coalescer K V} {g : Aboard K} {i n due : Nat} {k : K}

omit [DecidableEq K] in
lemma piloted_new (wait : Duration) : Piloted (.new wait : Coalescer K V) fun _ => none where
  nodup := List.nodup_nil
  numbered k n h := by cases h
  led k n h := by cases h
  leads i k p n h := by cases h
  one i j k l p q n h := by cases h
  landed n v h := by cases h
  joined i k n due h := by cases h

omit [DecidableEq K] in
lemma Piloted.same (h : Piloted c g) (hs : SameFlights c c') : Piloted c' g := by
  obtain ⟨hi, hp, hn⟩ := hs
  constructor
  case nodup => exact hi ▸ h.nodup
  case numbered => exact hi ▸ hn ▸ h.numbered
  case led => exact hi ▸ h.led
  case leads => exact hi ▸ h.leads
  case one => exact h.one
  case landed => exact hp ▸ hi ▸ hn ▸ h.landed
  case joined => exact hi ▸ hn ▸ h.joined

lemma update_eq_some {α : Type} {f : Nat → Option α} {x : Option α} {y : α} {j : Nat} :
    update f i x j = some y ↔ j = i ∧ x = some y ∨ j ≠ i ∧ f j = some y := by
  by_cases hji : j = i
  · simp [hji]
  · simp [hji]

lemma Piloted.leader_unique (h : Piloted c g) {j : Nat} {p q : Phase} {m : Nat}
    (hi : g i = some (k, p)) (hj : g j = some (k, q)) (hp : ledFlight p = some n)
    (hq : ledFlight q = some m) : i = j := by
  have hn := get?_of_mem h.nodup (h.leads i k p n hi hp)
  have hm := get?_of_mem h.nodup (h.leads j k q m hj hq)
  rw [hn, Option.some.injEq] at hm
  exact h.one i j k k p q n hi hj hp (hm ▸ hq)

omit [DecidableEq K] in
lemma Piloted.led_lt (h : Piloted c g) {p : Phase} (hi : g i = some (k, p))
    (hp : ledFlight p = some n) : n < c.nextFlight :=
  h.numbered k n (h.leads i k p n hi hp)

omit [DecidableEq K] in
/-- A call that leads no flight takes a phase in which it leads none. -/
lemma Piloted.board (h : Piloted c g) (hi : ∀ k p, g i = some (k, p) → ledFlight p = none)
    {x : Option (K × Phase)} (hx : ∀ k p, x = some (k, p) → ledFlight p = none)
    (hj : ∀ k n due, x = some (k, .joining n due) →
      n < c.nextFlight ∧ ∀ l, (l, n) ∈ c.inflight → l = k) : Piloted c (update g i x) := by
  have hother : ∀ {a k p n}, update g i x a = some (k, p) → ledFlight p = some n →
      g a = some (k, p) := by
    intro a k p n ha hp
    rcases update_eq_some.mp ha with ⟨-, hself⟩ | ⟨-, ha⟩
    · rw [hx k p hself] at hp
      cases hp
    · exact ha
  constructor
  case nodup => exact h.nodup
  case numbered => exact h.numbered
  case led =>
    intro k n hk
    obtain ⟨j, p, hj, hp⟩ := h.led k n hk
    refine ⟨j, p, update_eq_some.mpr (.inr ⟨?_, hj⟩), hp⟩
    rintro rfl
    rw [hi k p hj] at hp
    cases hp
  case leads => exact fun j k p n hj hp => h.leads j k p n (hother hj hp) hp
  case one =>
    exact fun a b k l p q n ha hb hp hq => h.one a b k l p q n (hother ha hp) (hother hb hq) hp hq
  case landed => exact h.landed
  case joined =>
    intro j k n due hj'
    rcases update_eq_some.mp hj' with ⟨-, hself⟩ | ⟨-, hj'⟩
    · exact hj k n due hself
    · exact h.joined j k n due hj'

lemma mem_inflight_lead (hk : c.inflight.get? k = none) (l : K) (n : Nat) :
    (l, n) ∈ (c.lead k).inflight ↔ (l, n) ∈ c.inflight ∨ l = k ∧ n = c.nextFlight := by
  rw [Coalescer.lead, Table.insert, erase_of_notMem (get?_eq_none.mp hk), List.mem_append,
    List.mem_singleton, Prod.mk.injEq]

omit [DecidableEq K] in
/-- The new leader leads the new flight, and everyone else leads and joins what they did. -/
lemma boarded_cases {j l : Nat} {k' : K} {p : Phase}
    (h : update g i (some (k, .loading (some l) due)) j = some (k', p)) :
    j = i ∧ k' = k ∧ p = .loading (some l) due ∨ j ≠ i ∧ g j = some (k', p) := by
  rcases update_eq_some.mp h with ⟨rfl, hself⟩ | hother
  · cases hself
    exact .inl ⟨rfl, rfl, rfl⟩
  · exact .inr hother

lemma Piloted.led_lead (h : Piloted c g) (hi : g i = none) (hk : c.inflight.get? k = none) {l : K}
    (hl : (l, n) ∈ (c.lead k).inflight) :
    ∃ j p, update g i (some (k, .loading (some c.nextFlight) due)) j = some (l, p) ∧
      ledFlight p = some n := by
  rcases (mem_inflight_lead hk l n).mp hl with hl | ⟨rfl, rfl⟩
  · obtain ⟨j, p, hj, hp⟩ := h.led l n hl
    refine ⟨j, p, update_eq_some.mpr (.inr ⟨?_, hj⟩), hp⟩
    rintro rfl
    rw [hi] at hj
    cases hj
  · exact ⟨i, _, update_self .., rfl⟩

lemma Piloted.leads_lead (h : Piloted c g) (hk : c.inflight.get? k = none) {j : Nat} {l : K}
    {p : Phase} (hj : update g i (some (k, .loading (some c.nextFlight) due)) j = some (l, p))
    (hp : ledFlight p = some n) : (l, n) ∈ (c.lead k).inflight := by
  rcases boarded_cases hj with ⟨-, rfl, rfl⟩ | ⟨-, hj⟩
  · exact (mem_inflight_lead hk l n).mpr (.inr ⟨rfl, (Option.some.inj hp).symm⟩)
  · exact (mem_inflight_lead hk l n).mpr (.inl (h.leads j l p n hj hp))

omit [DecidableEq K] in
lemma Piloted.one_lead (h : Piloted c g) {a b : Nat} {k' l : K} {p q : Phase}
    (ha : update g i (some (k, .loading (some c.nextFlight) due)) a = some (k', p))
    (hb : update g i (some (k, .loading (some c.nextFlight) due)) b = some (l, q))
    (hp : ledFlight p = some n) (hq : ledFlight q = some n) : a = b := by
  rcases boarded_cases ha with ⟨hai, -, rfl⟩ | ⟨-, hga⟩
  · rcases boarded_cases hb with ⟨hbi, -, -⟩ | ⟨-, hgb⟩
    · rw [hai, hbi]
    · exact absurd (Option.some.inj hp) (Nat.ne_of_gt (h.led_lt hgb hq))
  · rcases boarded_cases hb with ⟨-, -, rfl⟩ | ⟨-, hgb⟩
    · exact absurd (Option.some.inj hq) (Nat.ne_of_gt (h.led_lt hga hp))
    · exact h.one a b k' l p q n hga hgb hp hq

/-- The flight of a number that has been given out is not the new one. -/
lemma mem_inflight_of_lt (hk : c.inflight.get? k = none) (hn : n < c.nextFlight) {l : K}
    (hl : (l, n) ∈ (c.lead k).inflight) : (l, n) ∈ c.inflight := by
  rcases (mem_inflight_lead hk l n).mp hl with hl | ⟨-, rfl⟩
  · exact hl
  · exact absurd hn (Nat.lt_irrefl _)

lemma Piloted.lead (h : Piloted c g) (hi : g i = none) (hk : c.inflight.get? k = none) :
    Piloted (c.lead k) (update g i (some (k, .loading (some c.nextFlight) due))) where
  nodup := nodup_keys_insert h.nodup k c.nextFlight
  numbered l n hl := by
    rcases (mem_inflight_lead hk l n).mp hl with hl | ⟨-, rfl⟩
    · exact Nat.lt_succ_of_lt (h.numbered l n hl)
    · exact Nat.lt_succ_self c.nextFlight
  led l n hl := h.led_lead hi hk hl
  leads j l p n hj hp := h.leads_lead hk hj hp
  one a b k' l p q n ha hb hp hq := h.one_lead ha hb hp hq
  landed n v hv := by
    obtain ⟨hn, hland⟩ := h.landed n v hv
    exact ⟨Nat.lt_succ_of_lt hn, fun l hl => hland l (mem_inflight_of_lt hk hn hl)⟩
  joined j l n due' hj := by
    rcases boarded_cases hj with ⟨-, -, hp⟩ | ⟨-, hj⟩
    · cases hp
    · obtain ⟨hn, hl⟩ := h.joined j l n due' hj
      exact ⟨Nat.lt_succ_of_lt hn, fun l' hl' => hl l' (mem_inflight_of_lt hk hn hl')⟩

lemma Piloted.land (h : Piloted c g) (hi : g i = some (k, .loading (some n) due)) :
    Piloted (c.land k) (update g i none) := by
  have hother : ∀ {a x}, update g i none a = some x → a ≠ i ∧ g a = some x := by
    intro a x ha
    exact (update_eq_some.mp ha).resolve_left (by simp)
  constructor
  case nodup => exact nodup_keys_erase h.nodup k
  case numbered => exact fun l m hl => h.numbered l m (mem_of_mem_erase hl)
  case led =>
    intro l m hl
    obtain ⟨hl, hlk⟩ := mem_erase.mp hl
    obtain ⟨j, p, hj, hp⟩ := h.led l m hl
    have hji : j ≠ i := by
      rintro rfl
      rw [hi, Option.some.injEq, Prod.mk.injEq] at hj
      exact hlk hj.1.symm
    exact ⟨j, p, by rw [update_of_ne hji, hj], hp⟩
  case leads =>
    intro j l p m hj hp
    obtain ⟨hji, hj⟩ := hother hj
    have hlk : l ≠ k := by
      rintro rfl
      exact hji (h.leader_unique hj hi hp rfl)
    exact mem_erase.mpr ⟨h.leads j l p m hj hp, hlk⟩
  case one =>
    intro a b k' l p q m ha hb hp hq
    exact h.one a b k' l p q m (hother ha).2 (hother hb).2 hp hq
  case landed =>
    intro m v hv
    obtain ⟨hm, hland⟩ := h.landed m v hv
    exact ⟨hm, fun l hl => hland l (mem_of_mem_erase hl)⟩
  case joined =>
    intro j l m due' hj
    obtain ⟨hm, hl⟩ := h.joined j l m due' (hother hj).2
    exact ⟨hm, fun l' hl' => hl l' (mem_of_mem_erase hl')⟩

lemma Piloted.publish (h : Piloted c g) (hi : g i = some (k, .loading (some n) due)) (v : V) :
    Piloted (c.publish k n v) (update g i none) := by
  have hland := h.land hi
  have hn : (k, n) ∈ c.inflight := h.leads i k _ n hi rfl
  constructor
  case nodup => exact hland.nodup
  case numbered => exact hland.numbered
  case led => exact hland.led
  case leads => exact hland.leads
  case one => exact hland.one
  case joined => exact hland.joined
  case landed =>
    intro m w hw
    rcases List.mem_append.mp hw with hw | hw
    · exact hland.landed m w (mem_of_mem_erase hw)
    · rw [List.mem_singleton, Prod.mk.injEq] at hw
      rw [hw.1]
      refine ⟨h.numbered k n hn, ?_⟩
      intro l hl
      -- another key of this flight would have its leader, who is the one that publishes
      obtain ⟨j, p, hj, hp⟩ := hland.led l n hl
      by_cases hji : j = i
      · rw [hji, update_self] at hj
        cases hj
      · rw [update_of_ne hji] at hj
        exact hji (h.one j i l k p _ n hj hi hp rfl)

lemma Piloted.turn (h : Piloted c g) {news : Nat → V → Prop} {p : Phase} {q : Option Phase}
    (hi : g i = some (k, p)) (ht : FlightTurn news k c p c' q) :
    Piloted c' (update g i (q.map fun p => (k, p))) := by
  have hgone : ledFlight p = none → ∀ l p', g i = some (l, p') → ledFlight p' = none := by
    intro hp l p' hl
    rw [hi, Option.some.injEq, Prod.mk.injEq] at hl
    rwa [← hl.2]
  cases ht with
  | @lead _ due hk hs =>
    have hnone : Piloted c (update g i none) := h.board (hgone rfl) (by simp) (by simp)
    have hled : Piloted (c.lead k) (update (update g i none) i
        (some (k, .loading (some c.nextFlight) due))) := hnone.lead (update_self ..) hk
    rw [update_idem] at hled
    exact hled.same hs
  | @join _ flight due hk hs =>
    refine (h.board (hgone rfl) ?_ ?_).same hs
    · intro l p' hl
      cases hl
      rfl
    · intro l m due' hl
      cases hl
      have hn := mem_of_get? hk
      refine ⟨h.numbered k flight hn, ?_⟩
      intro l hl
      obtain ⟨j, p, hj, hp⟩ := h.led l flight hl
      obtain ⟨j', p', hj', hp'⟩ := h.led k flight hn
      have hjj : j = j' := h.one j j' l k p p' flight hj hj' hp hp'
      rw [hjj, hj', Option.some.injEq, Prod.mk.injEq] at hj
      exact hj.1.symm
  | publish _ hs => exact (h.publish hi _).same hs
  | land hs => exact (h.land hi).same hs
  | load hp hs =>
    refine (h.board (hgone hp) ?_ ?_).same hs
    · intro l p' hl
      cases hl
      rfl
    · intro l m due' hl
      cases hl
  | leave hp hs => exact (h.board (hgone hp) (by simp) (by simp)).same hs

lemma Piloted.traffic (h : Piloted c g) {news : K → Nat → V → Prop} {g' : Aboard K}
    (ht : Traffic news c g c' g') : Piloted c' g' := by
  cases ht with
  | none hs hg => exact hg ▸ h.same hs
  | arrive i k hi hs hg =>
    rw [hg]
    refine (h.board ?_ ?_ ?_).same hs
    · simp [hi]
    · intro l p hl
      cases hl
      rfl
    · intro l n due hl
      cases hl
  | turn i k p q hi ht hg => exact hg ▸ h.turn hi ht

end Piloted

lemma published_of_value {c : Coalescer K V} {k : K} {flight : Nat} {v : V}
    (h : c.sight k flight = .value v) :
    c.published.get? flight = some v := by
  unfold Coalescer.sight at h
  split at h
  · rename_i v' hv
    rw [hv, Sight.value.inj h]
  · split at h <;> cases h

/-- The flights and those aboard at one moment after another. -/
structure Airspace (news : Nat → K → Nat → V → Prop) (c : Nat → Coalescer K V)
    (g : Nat → Aboard K) : Prop where
  first : Piloted (c 0) (g 0)
  grounded : g 0 = fun _ => none
  next : ∀ n, Piloted (c n) (g n) → Traffic (news n) (c n) (g n) (c (n + 1)) (g (n + 1))

section Airspace

variable {news : Nat → K → Nat → V → Prop} {c : Nat → Coalescer K V} {g : Nat → Aboard K} {n : Nat}

lemma Airspace.piloted (h : Airspace news c g) (n : Nat) : Piloted (c n) (g n) := by
  induction n with
  | zero => exact h.first
  | succ n ih => exact ih.traffic (h.next n ih)

lemma Airspace.traffic (h : Airspace news c g) (n : Nat) :
    Traffic (news n) (c n) (g n) (c (n + 1)) (g (n + 1)) :=
  h.next n (h.piloted n)

lemma Airspace.monotone_nextFlight (h : Airspace news c g) :
    Monotone fun n => (c n).nextFlight := by
  apply monotone_nat_of_le_succ
  intro n
  cases h.traffic n with
  | none hs _ => exact hs.nextFlight.ge
  | arrive _ _ _ hs _ => exact hs.nextFlight.ge
  | turn _ _ _ _ _ ht _ =>
    cases ht with
    | lead _ hs => exact (Nat.le_succ _).trans hs.nextFlight.ge
    | join _ hs => exact hs.nextFlight.ge
    | publish _ hs => exact hs.nextFlight.ge
    | land hs => exact hs.nextFlight.ge
    | load _ hs => exact hs.nextFlight.ge
    | leave _ hs => exact hs.nextFlight.ge

lemma Airspace.stays (h : Airspace news c g) {m flight : Nat}
    (hm : ((c m).published.get? flight).isSome) (hmn : m ≤ n) :
    ((c n).published.get? flight).isSome := by
  induction n, hmn using Nat.le_induction with
  | base => exact hm
  | succ n _ ih =>
    cases h.traffic n with
    | none hs _ => rwa [hs.published]
    | arrive _ _ _ hs _ => rwa [hs.published]
    | turn _ _ _ _ _ ht _ =>
      cases ht with
      | lead _ hs => rwa [hs.published]
      | join _ hs => rwa [hs.published]
      | @publish _ flight' _ v _ hs =>
        have hput : (c (n + 1)).published.get? flight =
            if flight = flight' then some v else (c n).published.get? flight := by
          rw [hs.published]
          exact get?_insert _ flight' flight v
        rw [hput]
        split
        · rfl
        · exact ih
      | land hs => rwa [hs.published]
      | load _ hs => rwa [hs.published]
      | leave _ hs => rwa [hs.published]

lemma Airspace.same_leader (h : Airspace news c g) {m i j flight : Nat} {k l : K} {p q : Phase}
    (hi : g m i = some (k, p)) (hp : ledFlight p = some flight) (hmn : m ≤ n)
    (hj : g n j = some (l, q)) (hq : ledFlight q = some flight) : i = j := by
  induction n, hmn using Nat.le_induction with
  | base => exact (h.piloted m).one i j k l p q flight hi hj hp hq
  | succ n hmn ih =>
    have hold : flight < (c n).nextFlight :=
      Nat.lt_of_lt_of_le ((h.piloted m).numbered k flight ((h.piloted m).leads i k p flight hi hp))
        (h.monotone_nextFlight hmn)
    cases h.traffic n with
    | none _ hg => exact ih (hg ▸ hj)
    | arrive j' l' _ _ hg =>
      rw [hg] at hj
      by_cases hjj : j = j'
      · rw [hjj, update_self] at hj
        cases hj
        cases hq
      · rw [update_of_ne hjj] at hj
        exact ih hj
    | turn j' l' p' q' _ ht hg =>
      rw [hg] at hj
      by_cases hjj : j = j'
      · rw [hjj, update_self] at hj
        cases ht with
        | lead =>
          cases hj
          exact absurd (Option.some.inj hq) (Nat.ne_of_gt hold)
        | join =>
          cases hj
          cases hq
        | publish => cases hj
        | land => cases hj
        | load =>
          cases hj
          cases hq
        | leave => cases hj
      · rw [update_of_ne hjj] at hj
        exact ih hj

/-- A call that sees a value while it waits saw it already a moment ago, or the value is published
for its key at this moment. -/
lemma Airspace.seen (h : Airspace news c g) {i : Nat} {k : K} {flight due : Nat} {v : V}
    (hi : g (n + 1) i = some (k, .joining flight due))
    (hv : (c (n + 1)).published.get? flight = some v) :
    g n i = some (k, .joining flight due) ∧
      ((c n).published.get? flight = some v ∨ news n k flight v) := by
  have hp := h.piloted n
  cases h.traffic n with
  | none hs hg => exact ⟨hg ▸ hi, .inl (hs.published ▸ hv)⟩
  | arrive j l hj hs hg =>
    rw [hg] at hi
    by_cases hij : i = j
    · rw [hij, update_self] at hi
      cases hi
    · rw [update_of_ne hij] at hi
      exact ⟨hi, .inl (hs.published ▸ hv)⟩
  | turn j l p q hj ht hg =>
    rw [hg] at hi
    by_cases hij : i = j
    · subst hij
      rw [update_self] at hi
      cases ht with
      | join hk hs =>
        cases hi
        have hin := mem_of_get? hk
        rw [hs.published] at hv
        exact absurd hin ((hp.landed _ v (mem_of_get? hv)).2 _)
      | _ => cases hi
    · rw [update_of_ne hij] at hi
      refine ⟨hi, ?_⟩
      cases ht with
      | lead hk hs => exact .inl (hs.published ▸ hv)
      | join hk hs => exact .inl (hs.published ▸ hv)
      | @publish _ flight' due' w hw hs =>
        have hin : (l, flight') ∈ (c n).inflight := hp.leads j l _ flight' hj rfl
        have hput : (c (n + 1)).published.get? flight =
            if flight = flight' then some w else (c n).published.get? flight := by
          rw [hs.published]
          exact get?_insert _ flight' flight w
        rw [hput] at hv
        split at hv
        · rename_i hf
          subst hf
          have hl : l = k := (hp.joined i k flight due hi).2 l hin
          rw [← Option.some.inj hv, ← hl]
          exact .inr hw
        · exact .inl hv
      | land hs => exact .inl (hs.published ▸ hv)
      | load hp hs => exact .inl (hs.published ▸ hv)
      | leave hp hs => exact .inl (hs.published ▸ hv)

/-- A value that a call sees while it waits was published for its key while it waited, and has been
there since. -/
theorem Airspace.received (h : Airspace news c g) {i : Nat} {k : K} {flight due : Nat} {v : V}
    (hi : g n i = some (k, .joining flight due)) (hv : (c n).published.get? flight = some v) :
    ∃ m < n, news m k flight v ∧ (∀ l, m ≤ l → l ≤ n → g l i = some (k, .joining flight due)) ∧
      ∀ l, m < l → l ≤ n → (c l).published.get? flight = some v := by
  induction n with
  | zero =>
    rw [h.grounded] at hi
    cases hi
  | succ n ih =>
    obtain ⟨hi', hv' | hnews⟩ := h.seen hi hv
    · obtain ⟨m, hm, hnews, hwaits, hthere⟩ := ih hi' hv'
      refine ⟨m, Nat.lt_succ_of_lt hm, hnews, ?_, ?_⟩
      · intro l hml hln
        rcases Nat.le_succ_iff.mp hln with hln | rfl
        · exact hwaits l hml hln
        · exact hi
      · intro l hml hln
        rcases Nat.le_succ_iff.mp hln with hln | rfl
        · exact hthere l hml hln
        · exact hv
    · refine ⟨n, Nat.lt_succ_self n, hnews, ?_, ?_⟩
      · intro l hnl hln
        rcases Nat.le_succ_iff.mp hln with hln | rfl
        · exact Nat.le_antisymm hln hnl ▸ hi'
        · exact hi
      · intro l hnl hln
        exact Nat.le_antisymm hln hnl ▸ hv

end Airspace

end Tenancy.Proofs
