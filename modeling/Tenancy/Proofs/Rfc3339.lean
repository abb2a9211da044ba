import Mathlib.Data.List.Induction
import Mathlib.Data.List.TakeWhile
import Tenancy.Proofs.Calendar
import Tenancy.Text.Numeral
import Tenancy.Time.Rfc3339

/-!
# Instants that are read back

The text of an instant is read as that instant, years of any size and the leap seconds at the ends
of minutes included. A leap second in the middle of a minute has the text of the second after it, and
is read as that one.
-/

namespace Tenancy.Instant

/-- If the instant lies in a leap second, that one ends a minute. -/
def Regular (i : Instant) : Prop :=
  1000000000 ≤ i.nano → i.second % 60 = 59

instance (i : Instant) : Decidable i.Regular :=
  inferInstanceAs (Decidable (_ → _))

variable {i : Instant}

lemma not_regular : ¬ i.Regular ↔ 1000000000 ≤ i.nano ∧ i.second % 60 ≠ 59 := by
  rw [Regular, Classical.not_imp]

/-- The instant that the text of an instant says: a leap second within a minute becomes the second
after it. -/
def written (i : Instant) : Instant :=
  if h : i.Regular then i
  else
    { i with
      second := i.second + 1
      nano := i.nano - 1000000000
      second_lt := by
        have hsecond := i.second_lt
        have hleap := not_regular.mp h
        omega
      nano_lt := by
        have hnano := i.nano_lt
        omega }

lemma written_of_regular (h : i.Regular) : i.written = i :=
  dif_pos h

lemma regular_written (i : Instant) : i.written.Regular := by
  by_cases h : i.Regular
  · rwa [written_of_regular h]
  · have hnano := i.nano_lt
    rw [written, dif_neg h]
    intro hleap
    change 1000000000 ≤ i.nano - 1000000000 at hleap
    omega

lemma written_eq_self : i.written = i ↔ i.Regular :=
  ⟨fun h => h ▸ regular_written i, written_of_regular⟩

lemma parts_written (i : Instant) :
    i.written.day = i.day ∧ i.written.second / 3600 = i.second / 3600 ∧
      i.written.second / 60 % 60 = i.second / 60 % 60 ∧
      i.written.second % 60 + i.written.nano / 1000000000 =
        i.second % 60 + i.nano / 1000000000 ∧
      i.written.nano % 1000000000 = i.nano % 1000000000 := by
  by_cases h : i.Regular
  · simp only [written_of_regular h, and_self]
  · have hnano := i.nano_lt
    have hleap := not_regular.mp h
    rw [written, dif_neg h]
    refine ⟨rfl, ?_, ?_, ?_, ?_⟩
    all_goals
      simp only
      omega

end Tenancy.Instant

namespace Tenancy.Proofs

open Rfc3339 Text

section Digits

variable {width n : Nat}

lemma digitsValue_eq (cs : List Char) : digitsValue cs = Nat.ofDigitChars 10 cs 0 := by
  rw [digitsValue, Nat.ofDigitChars_eq_foldl]
  congr 1
  funext n c
  rw [Nat.mul_comm]
  rfl

lemma digitsValue_padDecimal (width n : Nat) : digitsValue (padDecimal width n) = n := by
  rw [digitsValue_eq, padDecimal, Nat.ofDigitChars_append, Nat.ofDigitChars_replicate_zero,
    Nat.mul_zero]
  exact Nat.ofDigitChars_ten_toDigits

lemma length_padDecimal (hw : 0 < width) (h : n < 10 ^ width) :
    (padDecimal width n).length = width := by
  have hle : (decimal n).length ≤ width :=
    (Nat.length_toDigits_le_iff (by decide) hw).mpr h
  rw [padDecimal, List.length_append, List.length_replicate]
  omega

lemma isDigit_of_mem_padDecimal (width n : Nat) {c : Char} (h : c ∈ padDecimal width n) :
    c.isDigit = true := by
  rcases List.mem_append.mp h with h | h
  · rw [List.eq_of_mem_replicate h]
    rfl
  · exact Nat.isDigit_of_mem_toDigits (by decide) (by decide) h

lemma padDecimal_ne_nil (width n : Nat) : padDecimal width n ≠ [] := by
  intro h
  exact Nat.toDigits_ne_nil (List.append_eq_nil_iff.mp h).2

lemma isBlank_of_isDigit {c : Char} (h : c.isDigit = true) : isBlank c = false := by
  simp only [Char.isDigit, Bool.and_eq_true, decide_eq_true_eq] at h
  obtain ⟨h₁, h₂⟩ := h
  have h₁' : 48 ≤ c.toNat := h₁
  have h₂' : c.toNat ≤ 57 := h₂
  simp only [isBlank, Bool.or_eq_false_iff, Bool.and_eq_false_iff, decide_eq_false_iff_not,
    beq_eq_false_iff_ne]
  omega

end Digits

section Scans

variable {α β : Type} {rest ds : List Char} {c : Char}

lemma scan_of_ok {x : Scan α} {k : α → Scan β} {cs cs' : List Char} {a : α}
    (h : x cs = .ok (a, cs')) : (x >>= k) cs = k a cs' := by
  change StateT.bind x k cs = _
  rw [StateT.bind, h]
  rfl

lemma get_eq (cs : List Char) : (get : Scan (List Char)) cs = .ok (cs, cs) :=
  rfl

lemma set_eq (cs cs' : List Char) : (set cs' : Scan Unit) cs = .ok ((), cs') :=
  rfl

lemma blanks_cons (h : isBlank c = false) : blanks (c :: rest) = .ok ((), c :: rest) := by
  have ht : trimStart (c :: rest) = c :: rest := by
    rw [trimStart, List.dropWhile_cons_of_neg (by simp [h])]
  change Except.ok ((), trimStart (c :: rest)) = _
  rw [ht]

lemma literal_cons (c : Char) (rest : List Char) : literal c (c :: rest) = .ok ((), rest) := by
  change (if c = c then set rest else throw Fault.invalid : Scan Unit) (c :: rest) = _
  rw [if_pos rfl]
  rfl

lemma digits_of_found {bound : Option Nat} (hne : ds ≠ [])
    (h : (match bound with
      | some n => ((ds ++ rest).take n).takeWhile Char.isDigit
      | none => (ds ++ rest).takeWhile Char.isDigit) = ds) :
    digits bound (ds ++ rest) = .ok (ds, rest) := by
  have htext : (ds ++ rest).isEmpty = false := by
    cases ds with
    | nil => exact absurd rfl hne
    | cons d ds => rfl
  have hfound : ds.isEmpty = false := by
    cases ds with
    | nil => exact absurd rfl hne
    | cons d ds => rfl
  rw [digits]
  refine (scan_of_ok (get_eq _)).trans ?_
  cases bound with
  | none =>
    simp only at h
    simp only [h, htext, hfound, Bool.false_eq_true, if_false]
    rw [List.drop_left]
    rfl
  | some n =>
    simp only at h
    simp only [h, htext, hfound, Bool.false_eq_true, if_false]
    rw [List.drop_left]
    rfl

lemma digits_bound {n : Nat} (hd : ∀ c ∈ ds, c.isDigit = true) (hn : ds.length = n) (h0 : 0 < n) :
    digits (some n) (ds ++ rest) = .ok (ds, rest) := by
  have hne : ds ≠ [] := by
    rintro rfl
    exact absurd hn.symm (Nat.pos_iff_ne_zero.mp h0)
  refine digits_of_found hne ?_
  simp only
  rw [← hn, List.take_left, List.takeWhile_eq_self_iff]
  exact hd

lemma digits_all (hd : ∀ c ∈ ds, c.isDigit = true) (hne : ds ≠ []) (hc : c.isDigit = false) :
    digits none (ds ++ c :: rest) = .ok (ds, c :: rest) := by
  refine digits_of_found hne ?_
  simp only
  rw [List.takeWhile_append_of_pos hd, List.takeWhile_cons_of_neg (by simp [hc]), List.append_nil]

lemma field_padDecimal {low high n : Nat} (hl : low ≤ n) (hh : n ≤ high) (hn : n < 100)
    (rest : List Char) : field low high (padDecimal 2 n ++ rest) = .ok (n, rest) := by
  have hdigits : digits (some 2) (padDecimal 2 n ++ rest) = .ok (padDecimal 2 n, rest) :=
    digits_bound (fun c hc => isDigit_of_mem_padDecimal _ _ hc) (length_padDecimal (by omega) hn)
      (by omega)
  have hblanks : blanks (padDecimal 2 n ++ rest) = .ok ((), padDecimal 2 n ++ rest) := by
    cases hp : padDecimal 2 n with
    | nil => exact absurd hp (padDecimal_ne_nil 2 n)
    | cons d ds =>
      refine blanks_cons (isBlank_of_isDigit (isDigit_of_mem_padDecimal 2 n ?_))
      rw [hp]
      exact List.mem_cons_self
  rw [field]
  refine (scan_of_ok hblanks).trans ?_
  refine (scan_of_ok hdigits).trans ?_
  rw [digitsValue_padDecimal, if_pos ⟨hl, hh⟩]
  rfl

end Scans

section Instants

variable {rest : List Char} {c : Char}

lemma digits_year (m : Nat) (hc : c.isDigit = false) :
    digits none (padDecimal 4 m ++ c :: rest) = .ok (padDecimal 4 m, c :: rest) :=
  digits_all (fun _ hd => isDigit_of_mem_padDecimal _ _ hd) (padDecimal_ne_nil 4 m) hc

lemma year_bounded {y : Int} (h : -300000 ≤ y ∧ y ≤ 300000) (cs : List Char) :
    (if -2147483648 ≤ y ∧ y ≤ 2147483647 then pure y else throw .outOfRange : Scan Int) cs =
      .ok (y, cs) := by
  rw [if_pos (by omega)]
  rfl

lemma year_unsigned {y : Int} (h : -300000 ≤ y ∧ y ≤ 300000) (hy : 0 ≤ y ∧ y ≤ 9999)
    (rest : List Char) : year (padDecimal 4 y.natAbs ++ rest) = .ok (y, rest) := by
  have habs : (y.natAbs : Int) = y := by omega
  have hlen : y.natAbs < 10000 := by omega
  have hdigits : digits (some 4) (padDecimal 4 y.natAbs ++ rest) =
      .ok (padDecimal 4 y.natAbs, rest) :=
    digits_bound (fun _ hd => isDigit_of_mem_padDecimal _ _ hd) (length_padDecimal (by decide) hlen)
      (by decide)
  cases hp : padDecimal 4 y.natAbs with
  | nil => exact absurd hp (padDecimal_ne_nil 4 _)
  | cons d ds =>
    have hd : d.isDigit = true := by
      refine isDigit_of_mem_padDecimal 4 y.natAbs ?_
      rw [hp]
      exact List.mem_cons_self
    have hval : digitsValue (d :: ds) = y.natAbs := by
      rw [← hp, digitsValue_padDecimal]
    rw [hp] at hdigits
    unfold year
    refine (scan_of_ok (blanks_cons (isBlank_of_isDigit hd))).trans ?_
    refine (scan_of_ok (get_eq _)).trans ?_
    have hminus : d ≠ '-' := by
      rintro rfl
      cases hd
    have hplus : d ≠ '+' := by
      rintro rfl
      cases hd
    simp only [List.cons.injEq, hminus, hplus, false_and, false_imp_iff, implies_true]
    refine (scan_of_ok hdigits).trans ?_
    rw [hval, habs]
    exact year_bounded h rest

lemma year_yearText {y : Int} (h : -300000 ≤ y ∧ y ≤ 300000) (hc : c.isDigit = false) :
    year (yearText y ++ c :: rest) = .ok (y, c :: rest) := by
  unfold yearText
  by_cases hy : 0 ≤ y ∧ y ≤ 9999
  · rw [if_pos hy]
    exact year_unsigned h hy (c :: rest)
  · rw [if_neg hy]
    unfold year
    by_cases hneg : y < 0
    · have habs : -(y.natAbs : Int) = y := by omega
      rw [if_pos hneg]
      refine (scan_of_ok (blanks_cons rfl)).trans ?_
      refine (scan_of_ok (get_eq _)).trans ?_
      refine (scan_of_ok (set_eq _ _)).trans ?_
      refine (scan_of_ok (digits_year y.natAbs hc)).trans ?_
      rw [digitsValue_padDecimal, habs]
      exact year_bounded h (c :: rest)
    · have habs : (y.natAbs : Int) = y := by omega
      rw [if_neg hneg]
      refine (scan_of_ok (blanks_cons rfl)).trans ?_
      refine (scan_of_ok (get_eq _)).trans ?_
      refine (scan_of_ok (set_eq _ _)).trans ?_
      refine (scan_of_ok (digits_year y.natAbs hc)).trans ?_
      rw [digitsValue_padDecimal, habs]
      exact year_bounded h (c :: rest)

lemma fraction_places (width n : Nat) (hw : 0 < width) (hw9 : width ≤ 9)
    (hn : n < 10 ^ width) :
    fraction ('.' :: padDecimal width n ++ ['Z']) = .ok (n * 10 ^ (9 - width), ['Z']) := by
  have hdigits : digits none (padDecimal width n ++ ['Z']) = .ok (padDecimal width n, ['Z']) :=
    digits_all (fun _ hd => isDigit_of_mem_padDecimal _ _ hd) (padDecimal_ne_nil width n) rfl
  have hlen := length_padDecimal hw hn
  rw [fraction]
  refine (scan_of_ok (get_eq _)).trans ?_
  refine (scan_of_ok (set_eq _ _)).trans ?_
  refine (scan_of_ok hdigits).trans ?_
  rw [List.take_of_length_le (by omega), hlen, digitsValue_padDecimal]
  rfl

lemma fraction_fractionText (i : Instant) :
    fraction (fractionText i ++ ['Z']) = .ok (i.nano % 1000000000, ['Z']) := by
  have hnano : i.nano % 1000000000 < 1000000000 := Nat.mod_lt _ (by decide)
  unfold fractionText
  generalize i.nano % 1000000000 = nano at hnano
  simp only
  split_ifs with h₀ h₃ h₆
  · rw [h₀]
    rfl
  · have hf := fraction_places 3 (nano / 1000000) (by decide) (by decide) (by omega)
    have hval : nano / 1000000 * 10 ^ (9 - 3) = nano := by omega
    rwa [hval] at hf
  · have hf := fraction_places 6 (nano / 1000) (by decide) (by decide) (by omega)
    have hval : nano / 1000 * 10 ^ (9 - 6) = nano := by omega
    rwa [hval] at hf
  · have hf := fraction_places 9 nano (by decide) (by decide) (by omega)
    have hval : nano * 10 ^ (9 - 9) = nano := by omega
    rwa [hval] at hf

lemma offset_z : offset ['Z'] = .ok (0, []) :=
  rfl

/-- What the text of an instant says. -/
def readingOf (i : Instant) : Reading where
  date := dateOf i
  hour := i.second / 3600
  minute := i.second / 60 % 60
  second := i.second % 60 + i.nano / 1000000000
  nano := i.nano % 1000000000
  offset := 0

lemma reading_text (i : Instant) : reading (text i).toList = .ok (readingOf i, []) := by
  have hsecond := i.second_lt
  have hnano := i.nano_lt
  have hyear := year_ofDayNumber i.day_mem
  obtain ⟨hm, hm', hd, hd'⟩ := bounds_of_exists (exists_ofDayNumber i.day)
  have htext : (text i).toList = yearText (dateOf i).year ++ '-' :: (padDecimal 2 (dateOf i).month ++
      '-' :: (padDecimal 2 (dateOf i).day ++ 'T' :: (padDecimal 2 (i.second / 3600) ++
        ':' :: (padDecimal 2 (i.second / 60 % 60) ++ ':' :: (padDecimal 2
          (i.second % 60 + i.nano / 1000000000) ++ (fractionText i ++ ['Z'])))))) := by
    simp only [text, String.toList_ofList, dateText, timeText, List.append_assoc, List.cons_append]
  rw [htext, reading]
  refine (scan_of_ok (year_yearText hyear rfl)).trans ?_
  refine (scan_of_ok (blanks_cons rfl)).trans ?_
  refine (scan_of_ok (literal_cons _ _)).trans ?_
  refine (scan_of_ok (field_padDecimal hm hm' (by omega) _)).trans ?_
  refine (scan_of_ok (blanks_cons rfl)).trans ?_
  refine (scan_of_ok (literal_cons _ _)).trans ?_
  refine (scan_of_ok (field_padDecimal hd hd' (by omega) _)).trans ?_
  refine (scan_of_ok (get_eq _)).trans ?_
  refine (scan_of_ok (set_eq _ _)).trans ?_
  refine (scan_of_ok (field_padDecimal (Nat.zero_le _) (by omega) (by omega) _)).trans ?_
  refine (scan_of_ok (blanks_cons rfl)).trans ?_
  refine (scan_of_ok (literal_cons _ _)).trans ?_
  refine (scan_of_ok (field_padDecimal (Nat.zero_le _) (by omega) (by omega) _)).trans ?_
  refine (scan_of_ok (blanks_cons rfl)).trans ?_
  refine (scan_of_ok (literal_cons _ _)).trans ?_
  refine (scan_of_ok (field_padDecimal (Nat.zero_le _) (by omega) (by omega) _)).trans ?_
  refine (scan_of_ok (fraction_fractionText i)).trans ?_
  refine (scan_of_ok offset_z).trans ?_
  rfl

lemma readingOf_written (i : Instant) : readingOf i.written = readingOf i := by
  obtain ⟨hday, hhour, hminute, hsecond, hnano⟩ := i.parts_written
  simp only [readingOf, dateOf, hday, hhour, hminute, hsecond, hnano]

lemma instant_readingOf {i : Instant} (hleap : i.Regular) : (readingOf i).instant = .ok i := by
  unfold Instant.Regular at hleap
  obtain ⟨hlow, hhigh⟩ := i.day_mem
  have hsecond := i.second_lt
  have hnano := i.nano_lt
  have hday : (readingOf i).date.toDayNumber = i.day := toDayNumber_ofDayNumber i.day
  have hexists : (readingOf i).date.exists? = true := exists_ofDayNumber i.day
  have hoffset : (readingOf i).offset = 0 := rfl
  have hsec : (if (readingOf i).second = 60 then 59 else (readingOf i).second) = i.second % 60 := by
    change (if i.second % 60 + i.nano / 1000000000 = 60 then 59 else
      i.second % 60 + i.nano / 1000000000) = i.second % 60
    split_ifs <;> omega
  have hnan : (if (readingOf i).second = 60 then (readingOf i).nano + 1000000000 else
      (readingOf i).nano) = i.nano := by
    change (if i.second % 60 + i.nano / 1000000000 = 60 then i.nano % 1000000000 + 1000000000 else
      i.nano % 1000000000) = i.nano
    split_ifs <;> omega
  have htotal : ((readingOf i).hour : Int) * 3600 + (readingOf i).minute * 60 +
      (i.second % 60 : Nat) - 0 = i.second := by
    change ((i.second / 3600 : Nat) : Int) * 3600 + (i.second / 60 % 60 : Nat) * 60 +
      (i.second % 60 : Nat) - 0 = i.second
    omega
  have hparts : Instant.ofParts? i.day i.second i.nano = some i :=
    dif_pos ⟨i.day_mem, i.second_lt, i.nano_lt⟩
  unfold Reading.instant
  simp only [hday, hexists, hoffset, hsec, hnan]
  have hin : ¬ (!true || decide (i.day < -96465292) || decide (95026236 < i.day) ||
      decide (86400 ≤ Int.natAbs 0)) = true := by
    simp only [Bool.not_true, Bool.or_eq_true, decide_eq_true_eq, Bool.false_eq_true,
      Int.natAbs_zero]
    rintro (((h | h) | h) | h)
    · exact h
    · omega
    · omega
    · cases h
  have hquot : (i.second : Int) / 86400 = 0 := by omega
  have hrem : ((i.second : Int) % 86400).toNat = i.second := by omega
  rw [if_neg hin, htotal, hquot, hrem, Int.add_zero, hparts]

/-- The text of an instant is read as the instant that is written. -/
theorem read_text (i : Instant) : Rfc3339.read (text i) = .ok i.written := by
  rw [Rfc3339.read]
  change (reading (text i).toList >>= fun p => p.1.instant) = _
  rw [reading_text, ← readingOf_written]
  exact instant_readingOf i.regular_written

end Instants

section Yields

variable {α β : Type} {P : α → Prop} {Q : β → Prop} {x : Scan α} {f : α → Scan β} {a : α}

/-- Whatever a reader makes of a text has a property. -/
def Yields (P : α → Prop) (x : Scan α) : Prop :=
  ∀ cs a rest, x cs = .ok (a, rest) → P a

lemma Yields.bind (hx : Yields P x) (hf : ∀ a, P a → Yields Q (f a)) : Yields Q (x >>= f) := by
  intro cs b rest h
  change (x cs >>= fun p => f p.1 p.2) = _ at h
  cases hcs : x cs with
  | error e =>
    rw [hcs] at h
    cases h
  | ok p =>
    rw [hcs] at h
    exact hf p.1 (hx cs p.1 p.2 hcs) p.2 b rest h

lemma yields_next (hf : ∀ a, Yields Q (f a)) : Yields Q (x >>= f) :=
  Yields.bind (P := fun _ => True) (fun _ _ _ _ => trivial) fun a _ => hf a

lemma yields_pure (h : P a) : Yields P (pure a) := by
  intro cs b rest hb
  cases hb
  exact h

lemma yields_throw (e : Fault) : Yields P (throw e) := by
  intro cs b rest hb
  cases hb

lemma yields_stop (e : Fault) : Yields Q (throw e >>= f) :=
  (yields_throw (P := fun _ => False) e).bind fun _ h => h.elim

lemma yields_digits (bound : Option Nat) :
    Yields (fun ds => ∀ c ∈ ds, c.isDigit = true) (digits bound) := by
  cases bound with
  | none =>
    refine yields_next fun text => ?_
    dsimp only
    split
    · exact yields_stop _
    · split
      · exact yields_stop _
      · exact yields_next fun _ => yields_pure fun c hc => List.mem_takeWhile_imp hc
  | some n =>
    refine yields_next fun text => ?_
    dsimp only
    split
    · exact yields_stop _
    · split
      · exact yields_stop _
      · exact yields_next fun _ => yields_pure fun c hc => List.mem_takeWhile_imp hc

lemma digitsValue_lt {ds : List Char} (h : ∀ c ∈ ds, c.isDigit = true) :
    digitsValue ds < 10 ^ ds.length := by
  induction ds using List.reverseRecOn with
  | nil => decide
  | append_singleton ds c ih =>
    have hds := ih fun d hd => h d (List.mem_append_left _ hd)
    have hc : c.toNat ≤ 57 := by
      have hdigit := h c (List.mem_append_right _ List.mem_cons_self)
      simp only [Char.isDigit, Bool.and_eq_true, decide_eq_true_eq] at hdigit
      exact hdigit.2
    have hvalue : digitsValue (ds ++ [c]) = digitsValue ds * 10 + (c.toNat - 0x30) := by
      rw [digitsValue, List.foldl_append]
      rfl
    rw [hvalue, List.length_append, List.length_singleton, Nat.pow_succ]
    omega

lemma yields_fraction : Yields (· < 1000000000) fraction := by
  refine yields_next fun text => ?_
  split
  · refine yields_next fun _ => (yields_digits none).bind fun ds hds => yields_pure ?_
    have hlt : digitsValue (ds.take 9) < 10 ^ (ds.take 9).length :=
      digitsValue_lt fun c hc => hds c (List.mem_of_mem_take hc)
    have hlen : (ds.take 9).length ≤ 9 := List.length_take_le 9 ds
    calc digitsValue (ds.take 9) * 10 ^ (9 - (ds.take 9).length)
        < 10 ^ (ds.take 9).length * 10 ^ (9 - (ds.take 9).length) :=
          Nat.mul_lt_mul_of_pos_right hlt (Nat.pow_pos (by decide))
      _ = 1000000000 := by rw [← Nat.pow_add, Nat.add_sub_cancel' hlen]
  · exact yields_pure (by decide)

lemma yields_numericOffset : Yields (fun seconds : Int => 60 ∣ seconds) numericOffset := by
  refine yields_next fun text => ?_
  split
  · exact yields_next fun _ => yields_pure (by decide)
  · exact yields_next fun _ => yields_pure (by decide)
  · exact yields_throw _
  · have hsize : ∀ (rest : List Char) (negative : Bool),
        Yields (fun seconds : Int => 60 ∣ seconds) (do
          set rest
          let hours ← twoDigits '9'
          modify (·.dropWhile fun c => c = ':' || isBlank c)
          let minutes ← twoDigits '5'
          let seconds : Int := hours * 3600 + minutes * 60
          pure (if negative then -seconds else seconds)) := by
      intro rest negative
      refine yields_next fun _ => yields_next fun hours => yields_next fun _ =>
        yields_next fun minutes => yields_pure ?_
      cases negative <;> simp only [Bool.false_eq_true, if_false, if_true] <;> omega
    dsimp only
    split
    · exact yields_next fun _ => hsize _ _
    · split
      · exact yields_next fun _ => hsize _ _
      · exact yields_stop _

lemma yields_offset : Yields (fun seconds : Int => 60 ∣ seconds) offset := by
  refine yields_next fun _ => yields_next fun text => ?_
  split
  · split
    · exact yields_next fun _ => yields_pure (by decide)
    · exact yields_numericOffset
  · exact yields_numericOffset

lemma yields_reading : Yields (fun r => r.nano < 1000000000 ∧ 60 ∣ r.offset) reading := by
  iterate 8 refine yields_next fun _ => ?_
  dsimp only
  split
  · exact yields_stop _
  · split
    · iterate 8 refine yields_next fun _ => ?_
      refine yields_fraction.bind fun nano hnano => yields_offset.bind fun seconds hseconds => ?_
      refine yields_next fun _ => yields_next fun _ => ?_
      split
      · exact yields_pure ⟨hnano, hseconds⟩
      · exact yields_stop _
    · exact yields_stop _

end Yields

lemma parts_of_ofParts? {day : Int} {second nano : Nat} {i : Instant}
    (h : Instant.ofParts? day second nano = some i) : i.second = second ∧ i.nano = nano := by
  unfold Instant.ofParts? at h
  split at h
  · cases h
    exact ⟨rfl, rfl⟩
  · cases h

lemma parts_of_instant {r : Reading} {i : Instant} (h : r.instant = .ok i) :
    ∃ second nano : Nat, (second, nano) =
        (if r.second = 60 then (59, r.nano + 1000000000) else (r.second, r.nano)) ∧
      i.second = ((r.hour * 3600 + r.minute * 60 + second - r.offset : Int) % 86400).toNat ∧
      i.nano = nano := by
  refine ⟨if r.second = 60 then 59 else r.second,
    if r.second = 60 then r.nano + 1000000000 else r.nano, by split <;> rfl, ?_⟩
  unfold Reading.instant at h
  generalize (if r.second = 60 then 59 else r.second) = second at h ⊢
  generalize (if r.second = 60 then r.nano + 1000000000 else r.nano) = nano at h ⊢
  dsimp only at h
  split at h
  · cases h
  · split at h
    · rename_i hparts
      cases h
      exact parts_of_ofParts? hparts
    · cases h

lemma regular_of_instant {r : Reading} {i : Instant} (hnano : r.nano < 1000000000)
    (hoffset : 60 ∣ r.offset) (h : r.instant = .ok i) : i.Regular := by
  obtain ⟨second, nano, hread, hs, hn⟩ := parts_of_instant h
  rw [Instant.Regular, hs, hn]
  split at hread
  · cases hread
    omega
  · cases hread
    omega

/-- What is read from a text is an instant that can be written. -/
theorem regular_of_read {text : String} {i : Instant} (h : Rfc3339.read text = .ok i) :
    i.Regular := by
  unfold Rfc3339.read at h
  cases hr : reading text.toList with
  | error e =>
    change (reading text.toList >>= fun p => p.1.instant) = _ at h
    rw [hr] at h
    cases h
  | ok p =>
    change (reading text.toList >>= fun p => p.1.instant) = _ at h
    rw [hr] at h
    obtain ⟨hnano, hoffset⟩ := yields_reading _ p.1 p.2 hr
    exact regular_of_instant hnano hoffset h

/-- A leap second after 12:34:10, in which half a second has gone by. -/
def midMinute : Instant :=
  (Instant.ofParts? 0 45250 1500000000).get rfl

example : ¬ midMinute.Regular ∧ midMinute.written.second = 45251 ∧
    midMinute.written.nano = 500000000 := by
  decide

end Tenancy.Proofs
