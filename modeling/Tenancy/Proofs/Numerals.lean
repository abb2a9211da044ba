import Mathlib.Tactic.Lemma
import Tenancy.Text.Numeral

/-!
# Whole numbers that are read back

A whole number is read from the decimal digits in which it is written, with its sign.
-/

namespace Tenancy.Proofs

open Text

variable {c : Char} {ds : List Char} {n limit : Nat} {overflow : NumeralFault}

lemma decimal_ne_nil (n : Nat) : decimal n ≠ [] :=
  Nat.toDigits_ne_nil

lemma isDigit_of_mem_decimal (h : c ∈ decimal n) : c.isDigit = true :=
  Nat.isDigit_of_mem_toDigits (by omega) (by omega) h

lemma ofDigitChars_decimal (n : Nat) : Nat.ofDigitChars 10 (decimal n) 0 = n :=
  Nat.ofDigitChars_ten_toDigits

lemma le_ofDigitChars (ds : List Char) (n : Nat) : n ≤ Nat.ofDigitChars 10 ds n := by
  induction ds generalizing n with
  | nil => exact Nat.le_refl n
  | cons c ds ih =>
    rw [Nat.ofDigitChars_cons]
    exact Nat.le_trans (by omega) (ih _)

lemma digitValue?_ten (h : c.isDigit = true) :
    digitValue? 10 c = some (c.toNat - '0'.toNat) := by
  simp only [Char.isDigit, Bool.and_eq_true, decide_eq_true_eq] at h
  have hlow : 0x30 ≤ c.toNat := h.1
  have hhigh : c.toNat ≤ 0x39 := h.2
  have hzero : '0'.toNat = 0x30 := rfl
  have hlt : c.toNat - 0x30 < 10 := by omega
  simp only [digitValue?, if_pos (And.intro hlow hhigh), if_pos hlt, hzero]

lemma readDigits_ten (hd : ∀ c ∈ ds, c.isDigit = true) (hn : Nat.ofDigitChars 10 ds n ≤ limit) :
    readDigits 10 limit overflow n ds = .ok (Nat.ofDigitChars 10 ds n) := by
  induction ds generalizing n with
  | nil => rfl
  | cons c ds ih =>
    rw [Nat.ofDigitChars_cons, Nat.mul_comm] at hn ⊢
    have hc := digitValue?_ten (hd c List.mem_cons_self)
    have hle := Nat.le_trans (le_ofDigitChars ds _) hn
    have hrest := ih (fun c hc => hd c (List.mem_cons_of_mem _ hc)) hn
    simp only [readDigits, hc]
    rw [if_pos hle, hrest]

lemma readDigits_decimal (hn : n ≤ limit) :
    readDigits 10 limit overflow 0 (decimal n) = .ok n := by
  rw [readDigits_ten, ofDigitChars_decimal]
  · intro c hc
    exact isDigit_of_mem_decimal hc
  · rwa [ofDigitChars_decimal]

lemma readInt64_signedDecimal (n : Int64) : readInt64 10 (signedDecimal n.toInt) = .ok n := by
  have hlow := n.le_toInt
  have hhigh := n.toInt_lt
  have hback : Int64.ofInt n.toInt = n := Int64.ofInt_toInt n
  obtain ⟨k, hk⟩ : ∃ k, n.toInt.natAbs = k := ⟨_, rfl⟩
  obtain ⟨c, cs, hcs⟩ := List.exists_cons_of_ne_nil (decimal_ne_nil k)
  rw [signedDecimal, hk]
  split
  · have habs : -(k : Int) = n.toInt := by omega
    have hvalue : readDigits 10 0x8000000000000000 .tooSmall 0 (decimal k) = .ok k :=
      readDigits_decimal (by omega)
    rw [hcs] at hvalue ⊢
    rw [readInt64, hvalue]
    · exact congrArg Except.ok ((congrArg Int64.ofInt habs).trans hback)
    · exact List.cons_ne_nil c cs
  · have habs : (k : Int) = n.toInt := by omega
    have hvalue : readDigits 10 0x7FFFFFFFFFFFFFFF .tooLarge 0 (decimal k) = .ok k :=
      readDigits_decimal (by omega)
    have hc : c.isDigit = true := isDigit_of_mem_decimal (hcs ▸ List.mem_cons_self)
    have hplus : c ≠ '+' := by
      rintro rfl
      cases hc
    have hminus : c ≠ '-' := by
      rintro rfl
      cases hc
    rw [hcs] at hvalue ⊢
    rw [readInt64, hvalue]
    · exact congrArg Except.ok ((congrArg Int64.ofInt habs).trans hback)
    all_goals simp [hplus, hminus]

end Tenancy.Proofs
