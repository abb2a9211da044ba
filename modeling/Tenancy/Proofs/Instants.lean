import Mathlib.Data.Prod.Lex
import Tenancy.Time.Clock

/-!
# The order of instants

Instants are ordered by day, then by second, then by nanosecond. A leap second comes before the
second that follows it. Outside leap seconds this is the order of the nanoseconds since 1970 began.
-/

namespace Tenancy.Proofs

/-- The parts of an instant, those that count for more before the others. -/
def parts (i : Instant) : ℤ ×ₗ ℕ ×ₗ ℕ :=
  toLex (i.day, toLex (i.second, i.nano))

lemma parts_injective : Function.Injective parts := by
  intro i j h
  simp only [parts, EmbeddingLike.apply_eq_iff_eq, Prod.mk.injEq] at h
  exact Instant.ext h.1 h.2.1 h.2.2

instance : LinearOrder Instant :=
  LinearOrder.lift' parts parts_injective

lemma instant_le_iff {i j : Instant} :
    i ≤ j ↔ i.day < j.day ∨ i.day = j.day ∧
      (i.second < j.second ∨ i.second = j.second ∧ i.nano ≤ j.nano) := by
  change parts i ≤ parts j ↔ _
  simp only [parts, Prod.Lex.toLex_le_toLex]

lemma instant_le_iff_nanos {i j : Instant} (hi : i.nano < 1000000000) (hj : j.nano < 1000000000) :
    i ≤ j ↔ i.nanosSinceEpoch ≤ j.nanosSinceEpoch := by
  have hsecond := i.second_lt
  have hsecond' := j.second_lt
  rw [instant_le_iff, Instant.nanosSinceEpoch, Instant.nanosSinceEpoch]
  omega

/-- The calendar has no later instant, but for a leap second at its very end. -/
lemma instant_le_last {i : Instant} (hi : i.nano < 1000000000) : i ≤ Instant.last := by
  have hday := i.day_mem.2
  have hsecond := i.second_lt
  rw [instant_le_iff]
  change i.day < 95026236 ∨ i.day = 95026236 ∧ (i.second < 86399 ∨ i.second = 86399 ∧
    i.nano ≤ 999999999)
  omega

end Tenancy.Proofs
