import Tenancy.Proofs.Clocks
import Tenancy.Proofs.Convergence

/-!
# Entries on time

Whether an entry is trusted is decided by a difference of two instants and a time of trust that may
have been cut down to the longest span. Neither spoils the decision: instants lie so close together
that their difference is a span, and closer than the longest one. The span that is left of the trust
is exact as well, until it grows beyond the longest one, which takes a clock that was set back.
-/

namespace Tenancy.Proofs

open Resolver

variable {i j : Instant} {m n : Int}

lemma nanos_sub (hi : IsAt i m) (hj : IsAt j n) : (i - j : Span).nanos = m - n := by
  have hnano := hi.nano_lt
  have hnano' := hj.nano_lt
  rw [← hi.nanos, ← hj.nanos]
  change (Instant.sub i j).nanos = _
  unfold Instant.sub Instant.nanosSinceEpoch
  dsimp only
  split_ifs <;> omega

lemma inRange_sub (i j : Instant) : (i - j : Span).InRange := by
  refine ⟨?_, (span_lt_longest i j).le⟩
  have hday := i.day_mem
  have hday' := j.day_mem
  have hsecond := j.second_lt
  have hnano := j.nano_lt
  rw [nanos_longest]
  change _ ≤ (Instant.sub i j).nanos
  unfold Instant.sub
  dsimp only
  split_ifs <;> omega

lemma ofDuration_le (d : Duration) : (Span.ofDuration d).nanos ≤ d.nanos := by
  unfold Span.ofDuration
  split
  · exact le_rfl
  · omega

lemma ofDuration_mem (d : Duration) :
    0 ≤ (Span.ofDuration d).nanos ∧ (Span.ofDuration d).nanos ≤ Span.longest.nanos := by
  unfold Span.ofDuration
  split
  · rename_i hle
    exact ⟨Int.natCast_nonneg _, hle⟩
  · decide

lemma lt_ofDuration_iff {d : Duration} :
    (i - j : Span) < .ofDuration d ↔ (i - j : Span).nanos < d.nanos :=
  ⟨fun h => lt_of_lt_of_le h (ofDuration_le d), lt_ofDuration⟩

lemma lt_ttl_iff (config : ResolverConfig) (hi : IsAt i m) (hj : IsAt j n) :
    (i - j : Span) < .ofDuration config.ttl ↔ m - n < config.ttlSecs.toNat * 1000000000 := by
  have hsecs : (config.ttl.nanos : Int) = config.ttlSecs.toNat * 1000000000 := by
    change ((config.ttlSecs.toNat * 1000000000 + 0 : Nat) : Int) = _
    omega
  rw [lt_ofDuration_iff, nanos_sub hi hj, hsecs]

/-- What is left of a time of trust is no span perhaps, but a number of seconds of 64 bits. -/
lemma natAbs_left_lt (d : Duration) {age : Span} (hage : age.InRange) :
    ((Span.ofDuration d).nanos - age.nanos).natAbs < 0x8000000000000000 * 1000000000 := by
  obtain ⟨hlow, hhigh⟩ := hage
  have htrust := ofDuration_mem d
  rw [nanos_longest] at hlow hhigh htrust
  omega

lemma nanos_left {a b : Span} (h : b < a) :
    ((a.sub? b).getD .longest).nanos = min (a.nanos - b.nanos) Span.longest.nanos := by
  have hpos : b.nanos < a.nanos := h
  have hlongest : 0 < Span.longest.nanos := by decide
  unfold Span.sub?
  dsimp only
  split
  · rename_i hrange
    exact (min_eq_left hrange.2).symm
  · rename_i hrange
    have hlow : -Span.longest.nanos ≤ a.nanos - b.nanos := by omega
    have hhigh : ¬ a.nanos - b.nanos ≤ Span.longest.nanos := fun hle => hrange ⟨hlow, hle⟩
    exact (min_eq_right (lt_of_not_ge hhigh).le).symm

section Requests

variable {S : Type} [AccountStore S] {config : ResolverConfig} {s : Nat → RequestRun S} {t : Nat}
  {w : World S} {r : Resolver} {c : Resolver.Call} {e : CacheEntry} {now loaded : Int}

/-- The turn of a request that is answered with an entry, which is trusted for a while longer. -/
def answerFrom (w : World S) (r : Resolver) (c : Resolver.Call) (e : CacheEntry) (left : Span) :
    CallTurn S :=
  ⟨(w, { r with hits := r.hits + 1 }),
    [report c "using cached account" [("expires_in", left.text)]], .ended e.outcome⟩

lemma fresh?_of_probe {instant : Instant} {k : InstallationKey}
    (he : r.index.probe k = some e) :
    r.fresh? instant k = if (instant - e.loadedAt : Span) < r.ttl then
      some (e, (r.ttl.sub? (instant - e.loadedAt)).getD .longest) else none := by
  unfold Resolver.fresh?
  rw [he]
  rfl

lemma hits_miss (t : Nat) (w : World S) (r : Resolver) (c : Resolver.Call) :
    (miss t w r c).shared.2.hits = r.hits := by
  unfold miss
  dsimp only
  split
  · rfl
  · split <;> rfl

lemma step_of_probe (hc : c.phase = .arriving) (hk : c.key.isUsable = true)
    (he : r.index.probe c.key = some e) :
    Resolver.step t w r c =
      some (if (w.clock.now - e.loadedAt : Span) < r.ttl then
        answerFrom w r c e ((r.ttl.sub? (w.clock.now - e.loadedAt)).getD .longest)
      else miss t w r c) := by
  unfold Resolver.step
  rw [hc]
  dsimp only
  unfold arrive
  rw [if_neg (by simpa using hk), fresh?_of_probe he]
  by_cases hage : (w.clock.now - e.loadedAt : Span) < r.ttl
  · rw [if_pos hage, if_pos hage]
    rfl
  · rw [if_neg hage, if_neg hage]

/-- A request that finds an entry is answered with it exactly if the time from the lookup until now
is less than the configured time of trust, however long that is and however far the clock was set
forward or back. No difference that is taken on the way is too large for a span or for seconds of 64
bits, but for the trust that is left, which counts as the longest span then. -/
theorem hit_exactly (h : Requests config s) {k : Nat} (hc : c.phase = .arriving)
    (hk : c.key.isUsable = true) (he : (s k).shared.2.index.probe c.key = some e)
    (hnow : IsAt (s k).shared.1.clock.now now) (hloaded : IsAt e.loadedAt loaded) :
    let w := (s k).shared.1
    let r := (s k).shared.2
    let age : Span := w.clock.now - e.loadedAt
    let trust := (Span.ofDuration config.ttl).nanos
    (age.nanos = now - loaded ∧ age.InRange ∧
      (trust - age.nanos).natAbs < 0x8000000000000000 * 1000000000) ∧
    (now - loaded < config.ttlSecs.toNat * 1000000000 →
      ∃ left : Span, Resolver.step t w r c = some (answerFrom w r c e left) ∧ 0 < left.nanos ∧
        left.nanos = min (trust - (now - loaded)) Span.longest.nanos) ∧
    (config.ttlSecs.toNat * 1000000000 ≤ now - loaded →
      Resolver.step t w r c = some (miss t w r c) ∧ (miss t w r c).shared.2.hits = r.hits) := by
  intro w r age trust
  have hage : age.nanos = now - loaded := nanos_sub hnow hloaded
  have hrange : age.InRange := inRange_sub _ _
  have httl : r.ttl = .ofDuration config.ttl := (h.settings k).1
  have hstep := step_of_probe (t := t) (w := w) hc hk he
  have hfresh : age < r.ttl ↔ now - loaded < config.ttlSecs.toNat * 1000000000 := by
    rw [httl]
    exact lt_ttl_iff config hnow hloaded
  refine ⟨⟨hage, hrange, natAbs_left_lt config.ttl hrange⟩, ?_, ?_⟩
  · intro hyoung
    have hlt : age < r.ttl := hfresh.mpr hyoung
    have hleft := nanos_left hlt
    have htrust : r.ttl.nanos = trust := congrArg Span.nanos httl
    rw [htrust, hage] at hleft
    have hpos : now - loaded < trust := by
      rw [← htrust, ← hage]
      exact hlt
    refine ⟨(r.ttl.sub? age).getD .longest, ?_, ?_, hleft⟩
    · rw [hstep, if_pos hlt]
    · rw [hleft]
      exact lt_min (by omega) (by decide)
  · intro hold
    have hlt : ¬ age < r.ttl := fun hlt => not_le_of_gt (hfresh.mp hlt) hold
    rw [hstep, if_neg hlt]
    exact ⟨rfl, hits_miss t w r c⟩

end Requests

/-- The first instant of the calendar. -/
def firstInstant : Instant :=
  { Instant.epoch with day := -96465292, day_mem := by decide }

/-- Outcomes are trusted for as long as can be configured. -/
def trustful : ResolverConfig :=
  ⟨0xFFFFFFFFFFFFFFFF, none, true, 5000⟩

/-- An account that is not there is looked up at the last instant, and then the clock is set back to
the first one. -/
def rewind : Nat → RequestRun AccountMemory :=
  play Resolver.machine ⟨0, (⟨.empty, ⟨.last⟩⟩, .new trustful), [],
    [⟨0, none, .planned (.new .plain (.byAccount 7))⟩]⟩
    [.event (.start 0), .event (.step 0), .event (.step 0),
      .change fun s => ({ s.1 with clock := ⟨firstInstant⟩ }, s.2)]

lemma requests_rewind : Requests trustful rewind where
  chronicle := chronicle_play _ _ (by simp [Meddled])
  new := rfl
  fresh := unstarted_of_jobs (by simp [rewind, Resolver.Call.new])

/-- The entry is trusted, and for longer than the longest span. -/
theorem hit_exactly_rewind :
    let c : Resolver.Call := .new .plain (.byAccount 7)
    let w := (rewind 4).shared.1
    let r := (rewind 4).shared.2
    r.index.probe c.key = some ⟨.last, none⟩ ∧ IsAt w.clock.now firstInstant.nanosSinceEpoch ∧
      firstInstant.nanosSinceEpoch - lastNanos < trustful.ttlSecs.toNat * 1000000000 ∧
      ∃ left, Resolver.step 0 w r c = some (answerFrom w r c ⟨.last, none⟩ left) ∧
        left = Span.longest := by
  intro c w r
  have hprobe : r.index.probe c.key = some ⟨.last, none⟩ := rfl
  have hnow : IsAt w.clock.now firstInstant.nanosSinceEpoch := ⟨by decide, rfl⟩
  have hyoung : firstInstant.nanosSinceEpoch - lastNanos <
      trustful.ttlSecs.toNat * 1000000000 := by decide
  obtain ⟨-, hhit, -⟩ := hit_exactly (t := 0) requests_rewind (k := 4) (c := c) rfl rfl hprobe hnow
    isAt_last
  obtain ⟨left, hstep, -, hleft⟩ := hhit hyoung
  have hlongest : min ((Span.ofDuration trustful.ttl).nanos -
      (firstInstant.nanosSinceEpoch - lastNanos)) Span.longest.nanos = Span.longest.nanos := by
    decide
  exact ⟨hprobe, hnow, hyoung, left, hstep, congrArg Span.mk (hleft.trans hlongest)⟩

end Tenancy.Proofs
