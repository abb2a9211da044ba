import Tenancy.Proofs.Instants

/-!
# Clocks that are moved forward

A clock that is moved forward stops at the last instant of the calendar, and a duration that is too
long for a span counts as the longest span, which is beyond that instant wherever the clock stands.
So it does not matter where the time is cut: the clock shows its start and all of the time together,
or the last instant.
-/

namespace Tenancy.Proofs

variable {i j : Instant} {m n : Int}

/-- An instant outside leap seconds, by the nanoseconds since 1970 began. -/
structure IsAt (i : Instant) (n : Int) : Prop where
  nano_lt : i.nano < 1000000000
  nanos : i.nanosSinceEpoch = n

/-- The last nanosecond of the calendar. -/
def lastNanos : Int :=
  Instant.last.nanosSinceEpoch

lemma lastNanos_eq : lastNanos = (95026236 * 86400 + 86399) * 1000000000 + 999999999 :=
  rfl

lemma IsAt.parts (h : IsAt i n) : (i.day * 86400 + i.second) * 1000000000 + i.nano = n :=
  h.nanos

lemma IsAt.unique (hi : IsAt i n) (hj : IsAt j n) : i = j := by
  apply le_antisymm
  · rw [instant_le_iff_nanos hi.nano_lt hj.nano_lt, hi.nanos, hj.nanos]
  · rw [instant_le_iff_nanos hj.nano_lt hi.nano_lt, hi.nanos, hj.nanos]

lemma IsAt.le_iff (hi : IsAt i m) (hj : IsAt j n) : i ≤ j ↔ m ≤ n := by
  rw [instant_le_iff_nanos hi.nano_lt hj.nano_lt, hi.nanos, hj.nanos]

lemma isAt_last : IsAt .last lastNanos :=
  ⟨by decide, rfl⟩

lemma IsAt.le_last (h : IsAt i n) : n ≤ lastNanos :=
  (h.le_iff isAt_last).mp (instant_le_last h.nano_lt)

lemma add?_eq (h : IsAt i n) (nanos : Nat) :
    i.add? nanos =
      Instant.ofParts? (i.day + ((i.second * 1000000000 + i.nano + nanos) / 86400000000000 : Nat))
        ((i.second * 1000000000 + i.nano + nanos) / 1000000000 % 86400)
        ((i.second * 1000000000 + i.nano + nanos) % 1000000000) := by
  have hnano := h.nano_lt
  unfold Instant.add?
  rw [if_neg (by omega), if_neg (by omega)]
  simp only [Nat.div_div_eq_div_mul]

lemma add?_of_le (h : IsAt i n) {nanos : Nat} (hle : n + nanos ≤ lastNanos) :
    ∃ j, i.add? nanos = some j ∧ IsAt j (n + nanos) := by
  have hnano := h.nano_lt
  have hday := i.day_mem
  have hn := h.parts
  rw [lastNanos_eq] at hle
  rw [add?_eq h, Instant.ofParts?, dif_pos (by omega)]
  refine ⟨_, rfl, Nat.mod_lt _ (by decide), ?_⟩
  unfold Instant.nanosSinceEpoch
  dsimp only
  omega

lemma add?_of_lt (h : IsAt i n) {nanos : Nat} (hlt : lastNanos < n + nanos) :
    i.add? nanos = none := by
  have hn := h.parts
  rw [lastNanos_eq] at hlt
  rw [add?_eq h, Instant.ofParts?, dif_neg]
  rintro ⟨⟨-, hday⟩, -⟩
  omega

lemma nanos_longest : Span.longest.nanos = 0x7FFFFFFFFFFFFFFF * 1000000 :=
  rfl

/-- From wherever in the calendar, the longest span leads beyond its end. -/
lemma lastNanos_lt_add_longest (h : IsAt i n) : lastNanos < n + Span.longest.nanos := by
  have hday := i.day_mem
  have hn := h.parts
  rw [lastNanos_eq, nanos_longest]
  omega

lemma advance_of_le (h : IsAt i n) {d : Duration} (hle : n + d.nanos ≤ lastNanos) :
    IsAt (i.advance d) (n + d.nanos) := by
  have hlongest := lastNanos_lt_add_longest h
  obtain ⟨j, hadd, hj⟩ := add?_of_le h hle
  rwa [Instant.advance, Span.ofDuration, if_pos (by omega), Int.toNat_natCast, hadd]

lemma advance_of_lt (h : IsAt i n) {d : Duration} (hlt : lastNanos < n + d.nanos) :
    i.advance d = .last := by
  have hlongest := lastNanos_lt_add_longest h
  have hspan : lastNanos < n + ((Span.ofDuration d).nanos.toNat : Int) := by
    unfold Span.ofDuration
    split
    · rwa [Int.toNat_natCast]
    · omega
  rw [Instant.advance, add?_of_lt h hspan]
  rfl

/-- One step forward: the sum, unless the calendar ends before. -/
lemma IsAt.advance (h : IsAt i n) (d : Duration) :
    IsAt (i.advance d) (min (n + d.nanos) lastNanos) := by
  by_cases hle : n + d.nanos ≤ lastNanos
  · rw [min_eq_left hle]
    exact advance_of_le h hle
  · have hlt := lt_of_not_ge hle
    rw [min_eq_right hlt.le, advance_of_lt h hlt]
    exact isAt_last

/-- All of the time of some durations, in nanoseconds. -/
def totalNanos : List Duration → Nat
  | [] => 0
  | d :: ds => d.nanos + totalNanos ds

lemma totalNanos_append (front back : List Duration) :
    totalNanos (front ++ back) = totalNanos front + totalNanos back := by
  induction front with
  | nil => exact (Nat.zero_add _).symm
  | cons d front ih => rw [List.cons_append, totalNanos, totalNanos, ih, Nat.add_assoc]

variable {c : Clock} {start : Int}

lemma IsAt.foldl_advance (h : IsAt c.now start) (ds : List Duration) :
    IsAt (ds.foldl Clock.advance c).now (min (start + totalNanos ds) lastNanos) := by
  induction ds generalizing c start with
  | nil =>
    have htotal : start + totalNanos [] = start := Int.add_zero start
    rw [htotal, min_eq_left h.le_last]
    exact h
  | cons d ds ih =>
    have hrest := ih (c := c.advance d) (h.advance d)
    have htotal : min (min (start + d.nanos) lastNanos + totalNanos ds) lastNanos =
        min (start + totalNanos (d :: ds)) lastNanos := by
      rw [totalNanos]
      omega
    rwa [htotal] at hrest

/-- A clock that is moved forward by some durations shows its start and all of the time together, or
the last instant if the calendar ends before. It never goes back on the way, and it shows the same
however the same time is cut into durations. -/
theorem now_foldl_advance (h : IsAt c.now start) (ds : List Duration) :
    IsAt (ds.foldl Clock.advance c).now (min (start + totalNanos ds) Instant.last.nanosSinceEpoch) ∧
      (∀ front, front <+: ds → (front.foldl Clock.advance c).now ≤ (ds.foldl Clock.advance c).now) ∧
      ∀ es, totalNanos es = totalNanos ds →
        es.foldl Clock.advance c = ds.foldl Clock.advance c := by
  have hds := h.foldl_advance ds
  refine ⟨hds, ?_, ?_⟩
  · rintro front ⟨back, rfl⟩
    rw [(h.foldl_advance front).le_iff hds]
    rw [totalNanos_append]
    omega
  · intro es hes
    have hnow := h.foldl_advance es
    rw [hes] at hnow
    exact congrArg Clock.mk (hnow.unique hds)

/-- The longest duration with a number of seconds of 64 bits. -/
def endless : Duration :=
  .ofParts 0xFFFFFFFFFFFFFFFF 999999999

theorem now_foldl_advance_endless :
    IsAt (Clock.mk .epoch).now 0 ∧
      ([.ofSecs 90, endless].foldl Clock.advance ⟨.epoch⟩).now = .last ∧
      ([.ofSecs 90].foldl Clock.advance ⟨.epoch⟩).now ≤ Instant.last ∧
      [endless, .ofSecs 90].foldl Clock.advance ⟨.epoch⟩ = ⟨.last⟩ := by
  have hstart : IsAt (Clock.mk .epoch).now 0 := ⟨by decide, by decide⟩
  obtain ⟨hends, hback, hcut⟩ := now_foldl_advance hstart [.ofSecs 90, endless]
  have htotal : min (0 + (totalNanos [.ofSecs 90, endless] : Int)) Instant.last.nanosSinceEpoch =
      lastNanos := by
    decide
  rw [htotal] at hends
  have hlast := hends.unique isAt_last
  have hfront := hback [.ofSecs 90] ⟨[endless], rfl⟩
  have hswapped := hcut [endless, .ofSecs 90] (by decide)
  rw [hlast] at hfront
  exact ⟨hstart, hlast, hfront, hswapped.trans (congrArg Clock.mk hlast)⟩

end Tenancy.Proofs
