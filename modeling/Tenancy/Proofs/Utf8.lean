import Mathlib.Data.List.Basic
import Tenancy.Text.Utf8

/-!
# Bytes of characters

The bytes of a text are read back as the text. Only characters below 0x80 have bytes below 0x80.
-/

namespace Tenancy.Proofs

open Text Text.Utf8

lemma toNat_range (c : Char) : c.toNat < 0xD800 ∨ 0xDFFF < c.toNat ∧ c.toNat < 0x110000 :=
  c.valid

lemma utf8_append (cs ds : List Char) : utf8 (cs ++ ds) = utf8 cs ++ utf8 ds :=
  List.flatMap_append

lemma utf8_cons (c : Char) (cs : List Char) : utf8 (c :: cs) = String.utf8EncodeChar c ++ utf8 cs :=
  List.flatMap_cons

lemma utf8EncodeChar_cases (c : Char) :
    (c.toNat ≤ 0x7F ∧ String.utf8EncodeChar c = [UInt8.ofNat c.toNat]) ∨
    (0x7F < c.toNat ∧ c.toNat ≤ 0x7FF ∧ String.utf8EncodeChar c =
      [UInt8.ofNat (c.toNat / 64 % 32 + 0xC0), UInt8.ofNat (c.toNat % 64 + 0x80)]) ∨
    (0x7FF < c.toNat ∧ c.toNat ≤ 0xFFFF ∧ String.utf8EncodeChar c =
      [UInt8.ofNat (c.toNat / 4096 % 16 + 0xE0), UInt8.ofNat (c.toNat / 64 % 64 + 0x80),
        UInt8.ofNat (c.toNat % 64 + 0x80)]) ∨
    (0xFFFF < c.toNat ∧ String.utf8EncodeChar c =
      [UInt8.ofNat (c.toNat / 262144 % 8 + 0xF0), UInt8.ofNat (c.toNat / 4096 % 64 + 0x80),
        UInt8.ofNat (c.toNat / 64 % 64 + 0x80), UInt8.ofNat (c.toNat % 64 + 0x80)]) := by
  unfold String.utf8EncodeChar
  change (c.toNat ≤ 0x7F ∧ ite (c.toNat ≤ 0x7F) _ _ = _) ∨ (_ ∧ _ ∧ ite (c.toNat ≤ 0x7F) _ _ = _) ∨
    (_ ∧ _ ∧ ite (c.toNat ≤ 0x7F) _ _ = _) ∨ (_ ∧ ite (c.toNat ≤ 0x7F) _ _ = _)
  by_cases h₁ : c.toNat ≤ 0x7F
  · exact .inl ⟨h₁, if_pos h₁⟩
  · have hp : 0x7F < c.toNat := by omega
    rw [if_neg h₁]
    by_cases h₂ : c.toNat ≤ 0x7FF
    · exact .inr (.inl ⟨hp, h₂, if_pos h₂⟩)
    · have hq : 0x7FF < c.toNat := by omega
      refine .inr (.inr ?_)
      by_cases h₃ : c.toNat ≤ 0xFFFF
      · refine .inl ⟨hq, h₃, ?_⟩
        exact (if_neg h₂).trans (if_pos h₃)
      · refine .inr ⟨by omega, ?_⟩
        exact (if_neg h₂).trans (if_neg h₃)

lemma utf8EncodeChar_of_le {c : Char} (h : c.toNat ≤ 0x7F) :
    String.utf8EncodeChar c = [UInt8.ofNat c.toNat] := by
  rcases utf8EncodeChar_cases c with ⟨-, he⟩ | ⟨hl, -⟩ | ⟨hl, -⟩ | ⟨hl, -⟩
  · exact he
  all_goals omega

lemma le_of_mem_utf8EncodeChar {c : Char} (h : 0x7F < c.toNat) {b : UInt8}
    (hb : b ∈ String.utf8EncodeChar c) : 0x80 ≤ b.toNat := by
  rcases utf8EncodeChar_cases c with ⟨hl, -⟩ | ⟨-, -, he⟩ | ⟨-, -, he⟩ | ⟨-, he⟩
  · omega
  all_goals
    rw [he] at hb
    simp only [List.mem_cons, List.not_mem_nil, or_false] at hb
    rcases hb with rfl | rfl | rfl | rfl <;> (rw [UInt8.toNat_ofNat']; omega)

section Decode

variable {n : Nat} {b₀ b₁ b₂ b₃ : UInt8} {bs : List UInt8}

lemma decodeFrom_one (h : b₀ ≤ 0x7F) :
    decodeFrom n (b₀ :: bs) = (decodeFrom (n + 1) bs).map (Char.ofNat b₀.toNat :: ·) := by
  conv_lhs => unfold decodeFrom
  exact if_pos h

lemma decodeFrom_two (h : ¬ b₀ ≤ 0x7F) (hp : isPair b₀ b₁ = true) :
    decodeFrom n (b₀ :: b₁ :: bs) =
      (decodeFrom (n + 2) bs).map (Char.ofNat (b₀.toNat % 32 * 64 + tailBits b₁) :: ·) := by
  conv_lhs => unfold decodeFrom
  rw [if_neg h]
  exact if_pos hp

lemma decodeFrom_three (h : ¬ b₀ ≤ 0x7F) (hp : ¬ isPair b₀ b₁ = true)
    (ht : (startsTriple b₀ b₁ && isTail b₂) = true) :
    decodeFrom n (b₀ :: b₁ :: b₂ :: bs) =
      (decodeFrom (n + 3) bs).map
        (Char.ofNat ((b₀.toNat % 16 * 64 + tailBits b₁) * 64 + tailBits b₂) :: ·) := by
  conv_lhs => unfold decodeFrom
  rw [if_neg h]
  exact (if_neg hp).trans (if_pos ht)

lemma decodeFrom_four (h : ¬ b₀ ≤ 0x7F) (hp : ¬ isPair b₀ b₁ = true)
    (ht : ¬ (startsTriple b₀ b₁ && isTail b₂) = true)
    (hq : (startsQuadruple b₀ b₁ && isTail b₂ && isTail b₃) = true) :
    decodeFrom n (b₀ :: b₁ :: b₂ :: b₃ :: bs) =
      (decodeFrom (n + 4) bs).map
        (Char.ofNat (((b₀.toNat % 8 * 64 + tailBits b₁) * 64 + tailBits b₂) * 64 +
          tailBits b₃) :: ·) := by
  conv_lhs => unfold decodeFrom
  rw [if_neg h]
  exact (if_neg hp).trans ((if_neg ht).trans (if_pos hq))

end Decode

lemma not_le_ascii {b : UInt8} : ¬ b ≤ 0x7F ↔ 0x7F < b.toNat := by
  rw [UInt8.le_iff_toNat_le, Nat.not_le]
  rfl

lemma isTail_iff {b : UInt8} : isTail b = true ↔ 0x80 ≤ b.toNat ∧ b.toNat ≤ 0xBF := by
  simp [isTail, UInt8.le_iff_toNat_le]

lemma isPair_iff {b₀ b₁ : UInt8} :
    isPair b₀ b₁ = true ↔ (0xC2 ≤ b₀.toNat ∧ b₀.toNat ≤ 0xDF) ∧ isTail b₁ = true := by
  simp [isPair, UInt8.le_iff_toNat_le]

lemma startsTriple_iff {b₀ b₁ : UInt8} :
    startsTriple b₀ b₁ = true ↔ (0xE0 ≤ b₀.toNat ∧ b₀.toNat ≤ 0xEF) ∧ isTail b₁ = true ∧
      (b₀.toNat = 0xE0 → 0xA0 ≤ b₁.toNat) ∧ (b₀.toNat = 0xED → b₁.toNat ≤ 0x9F) := by
  rw [isTail_iff]
  simp only [startsTriple, isTail, Bool.and_eq_true, Bool.or_eq_true, decide_eq_true_eq, beq_iff_eq,
    ← UInt8.toNat_inj, UInt8.le_iff_toNat_le, UInt8.reduceToNat]
  omega

lemma startsQuadruple_iff {b₀ b₁ : UInt8} :
    startsQuadruple b₀ b₁ = true ↔ (0xF0 ≤ b₀.toNat ∧ b₀.toNat ≤ 0xF4) ∧ isTail b₁ = true ∧
      (b₀.toNat = 0xF0 → 0x90 ≤ b₁.toNat) ∧ (b₀.toNat = 0xF4 → b₁.toNat ≤ 0x8F) := by
  rw [isTail_iff]
  simp only [startsQuadruple, isTail, Bool.and_eq_true, Bool.or_eq_true, decide_eq_true_eq,
    beq_iff_eq, ← UInt8.toNat_inj, UInt8.le_iff_toNat_le, UInt8.reduceToNat]
  omega

lemma toNat_byte {m : Nat} (h : m < 256) : (UInt8.ofNat m).toNat = m := by
  rw [UInt8.toNat_ofNat', Nat.mod_eq_of_lt h]

/-- The last bits of a number in a byte that follows the first one. -/
def tailByte (m : Nat) : UInt8 :=
  UInt8.ofNat (m % 64 + 0x80)

lemma toNat_tailByte (m : Nat) : (tailByte m).toNat = m % 64 + 0x80 :=
  toNat_byte (by omega)

lemma isTail_tailByte (m : Nat) : isTail (tailByte m) = true := by
  rw [isTail_iff, toNat_tailByte]
  omega

lemma tailBits_tailByte (m : Nat) : tailBits (tailByte m) = m % 64 := by
  rw [tailBits, toNat_tailByte]
  omega

section Numbers

variable {n m : Nat} {bs : List UInt8}

lemma decodeFrom_oneByte (h : m ≤ 0x7F) :
    decodeFrom n (UInt8.ofNat m :: bs) = (decodeFrom (n + 1) bs).map (Char.ofNat m :: ·) := by
  have hb : (UInt8.ofNat m).toNat = m := toNat_byte (by omega)
  have hone : UInt8.ofNat m ≤ 0x7F := by
    rw [UInt8.le_iff_toNat_le, hb]
    exact h
  rw [decodeFrom_one hone, hb]

lemma decodeFrom_twoBytes (h : 0x7F < m) (h' : m ≤ 0x7FF) :
    decodeFrom n (UInt8.ofNat (m / 64 % 32 + 0xC0) :: tailByte m :: bs) =
      (decodeFrom (n + 2) bs).map (Char.ofNat m :: ·) := by
  have hb : (UInt8.ofNat (m / 64 % 32 + 0xC0)).toNat = m / 64 % 32 + 0xC0 := toNat_byte (by omega)
  have hone : ¬ UInt8.ofNat (m / 64 % 32 + 0xC0) ≤ 0x7F := not_le_ascii.mpr (by omega)
  have hpair : isPair (UInt8.ofNat (m / 64 % 32 + 0xC0)) (tailByte m) = true :=
    isPair_iff.mpr ⟨by omega, isTail_tailByte m⟩
  have hm : (m / 64 % 32 + 0xC0) % 32 * 64 + m % 64 = m := by omega
  rw [decodeFrom_two hone hpair, hb, tailBits_tailByte, hm]

lemma decodeFrom_threeBytes (h : 0x7FF < m) (h' : m ≤ 0xFFFF) (hs : m < 0xD800 ∨ 0xDFFF < m) :
    decodeFrom n (UInt8.ofNat (m / 4096 % 16 + 0xE0) :: tailByte (m / 64) :: tailByte m :: bs) =
      (decodeFrom (n + 3) bs).map (Char.ofNat m :: ·) := by
  have hb : (UInt8.ofNat (m / 4096 % 16 + 0xE0)).toNat = m / 4096 % 16 + 0xE0 :=
    toNat_byte (by omega)
  have hone : ¬ UInt8.ofNat (m / 4096 % 16 + 0xE0) ≤ 0x7F := not_le_ascii.mpr (by omega)
  have hpair : ¬ isPair (UInt8.ofNat (m / 4096 % 16 + 0xE0)) (tailByte (m / 64)) = true := by
    rw [isPair_iff]
    omega
  have htriple : startsTriple (UInt8.ofNat (m / 4096 % 16 + 0xE0)) (tailByte (m / 64)) = true := by
    rw [startsTriple_iff, toNat_tailByte]
    exact ⟨by omega, isTail_tailByte _, by omega, by omega⟩
  have hm : ((m / 4096 % 16 + 0xE0) % 16 * 64 + m / 64 % 64) * 64 + m % 64 = m := by omega
  rw [decodeFrom_three hone hpair (by rw [htriple, isTail_tailByte]; rfl), hb, tailBits_tailByte,
    tailBits_tailByte, hm]

lemma decodeFrom_fourBytes (h : 0xFFFF < m) (h' : m < 0x110000) :
    decodeFrom n (UInt8.ofNat (m / 262144 % 8 + 0xF0) :: tailByte (m / 4096) :: tailByte (m / 64) ::
      tailByte m :: bs) = (decodeFrom (n + 4) bs).map (Char.ofNat m :: ·) := by
  have hb : (UInt8.ofNat (m / 262144 % 8 + 0xF0)).toNat = m / 262144 % 8 + 0xF0 :=
    toNat_byte (by omega)
  have hone : ¬ UInt8.ofNat (m / 262144 % 8 + 0xF0) ≤ 0x7F := not_le_ascii.mpr (by omega)
  have hpair : ¬ isPair (UInt8.ofNat (m / 262144 % 8 + 0xF0)) (tailByte (m / 4096)) = true := by
    rw [isPair_iff]
    omega
  have htriple :
      ¬ (startsTriple (UInt8.ofNat (m / 262144 % 8 + 0xF0)) (tailByte (m / 4096)) &&
        isTail (tailByte (m / 64))) = true := by
    rw [Bool.and_eq_true, startsTriple_iff]
    omega
  have hquadruple :
      startsQuadruple (UInt8.ofNat (m / 262144 % 8 + 0xF0)) (tailByte (m / 4096)) = true := by
    rw [startsQuadruple_iff, toNat_tailByte]
    exact ⟨by omega, isTail_tailByte _, by omega, by omega⟩
  have hm : (((m / 262144 % 8 + 0xF0) % 8 * 64 + m / 4096 % 64) * 64 + m / 64 % 64) * 64 +
      m % 64 = m := by omega
  have htails : (startsQuadruple (UInt8.ofNat (m / 262144 % 8 + 0xF0)) (tailByte (m / 4096)) &&
      isTail (tailByte (m / 64)) && isTail (tailByte m)) = true := by
    rw [hquadruple, isTail_tailByte, isTail_tailByte]
    rfl
  rw [decodeFrom_four hone hpair htriple htails, hb, tailBits_tailByte, tailBits_tailByte, tailBits_tailByte, hm]

end Numbers

lemma decodeFrom_char (n : Nat) (c : Char) (bs : List UInt8) :
    decodeFrom n (String.utf8EncodeChar c ++ bs) =
      (decodeFrom (n + (String.utf8EncodeChar c).length) bs).map (c :: ·) := by
  have hc : Char.ofNat c.toNat = c := Char.ofNat_toNat c
  have hr := toNat_range c
  rcases utf8EncodeChar_cases c with ⟨h, he⟩ | ⟨h, h', he⟩ | ⟨h, h', he⟩ | ⟨h, he⟩
  · rw [he, List.singleton_append, decodeFrom_oneByte h, hc]
    rfl
  · rw [he]
    exact (decodeFrom_twoBytes h h').trans (by rw [hc]; rfl)
  · rw [he]
    exact (decodeFrom_threeBytes h h' (hr.imp_right And.left)).trans (by rw [hc]; rfl)
  · rw [he]
    exact (decodeFrom_fourBytes h (by omega)).trans (by rw [hc]; rfl)

lemma decodeFrom_utf8 (n : Nat) (cs : List Char) : decodeFrom n (utf8 cs) = .ok cs := by
  induction cs generalizing n with
  | nil => rw [utf8, List.flatMap_nil, decodeFrom]
  | cons c cs ih =>
    rw [utf8_cons, decodeFrom_char, ih]
    rfl

/-- A text is read from its bytes. -/
theorem ofUtf8?_utf8 (cs : List Char) : ofUtf8? (utf8 cs) = some (String.ofList cs) := by
  rw [ofUtf8?, decode, decodeFrom_utf8]

end Tenancy.Proofs
