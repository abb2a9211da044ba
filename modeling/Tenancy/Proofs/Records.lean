import Tenancy.Proofs.Documents
import Tenancy.Proofs.Numerals

/-!
# Records that are read back

Whole numbers, flags, texts, lists and records are read back from the documents that are written of
them, whatever a document goes on with behind them.
-/

namespace Tenancy.Proofs

open Json Json.Reader Text

variable {α β R : Type}

/-- A byte with which a number goes on: a digit, a point or the letter of an exponent. -/
def extendsNumber (b : UInt8) : Bool :=
  isDigit b || b = 0x2E || b = 0x65 || b = 0x45

/-- A number that ends before what is left of a document does not go on with it. -/
def Closed (rest : List UInt8) : Prop :=
  ∀ b ∈ rest.head?, extendsNumber b = false

/-- A reader finds `a` in the document of a value and stops behind it. -/
def Reads (r : Reader α) (v : Value) (a : α) : Prop :=
  ∀ rest place, Closed rest → ∃ place', r ⟨utf8 v.write ++ rest, place⟩ = .ok a ⟨rest, place'⟩

variable {r : Reader α} {v : Value} {a : α}

lemma Reads.document (h : Reads r v a) : document r v.toBytes = .ok a := by
  have hnothing : Closed [] := fun b hb => by cases hb
  obtain ⟨place', hr⟩ := h [] Position.start hnothing
  rw [List.append_nil] at hr
  exact document_of_ok hr

lemma Reads.map (h : Reads r v a) (f : α → β) : Reads (do return f (← r)) v (f a) := by
  intro rest place hrest
  obtain ⟨place', hr⟩ := h rest place hrest
  exact ⟨place', bind_of_ok hr⟩

lemma closed_cons {b : UInt8} (hb : extendsNumber b = false) (rest : List UInt8) :
    Closed (b :: rest) := by
  rintro c hc
  rwa [← Option.some.inj hc]

section Numbers

variable {rest : List UInt8} {place : Position} {c : Char} {n : Nat}

lemma digit_form (h : c.isDigit = true) : ∃ b, String.utf8EncodeChar c = [b] ∧
    isDigit b = true ∧ digitValue b = c.toNat - '0'.toNat ∧ b.toNat = c.toNat := by
  simp only [Char.isDigit, Bool.and_eq_true, decide_eq_true_eq] at h
  have hlow : 48 ≤ c.toNat := h.1
  have hhigh : c.toNat ≤ 57 := h.2
  have hb : (UInt8.ofNat c.toNat).toNat = c.toNat := by
    rw [UInt8.toNat_ofNat', Nat.mod_eq_of_lt (by omega)]
  refine ⟨UInt8.ofNat c.toNat, utf8EncodeChar_of_le (by omega), ?_, ?_, hb⟩
  · simp only [isDigit, Bool.and_eq_true, decide_eq_true_eq, UInt8.le_iff_toNat_le, hb]
    exact ⟨hlow, hhigh⟩
  · rw [digitValue, hb]
    rfl

lemma peek_closed (hrest : Closed rest) (place : Position) :
    ∃ o, peek ⟨rest, place⟩ = .ok o ⟨rest, place⟩ ∧
      ∀ b ∈ o, isDigit b = false ∧ b ≠ 0x2E ∧ b ≠ 0x65 ∧ b ≠ 0x45 := by
  refine ⟨rest.head?, rfl, ?_⟩
  intro b hb
  have hends := hrest b hb
  simp only [extendsNumber, Bool.or_eq_false_iff, decide_eq_false_iff_not] at hends
  obtain ⟨⟨⟨hdigit, hpoint⟩, he⟩, hE⟩ := hends
  exact ⟨hdigit, hpoint, he, hE⟩

/-- Digits are gathered as long as their number fits 64 bits. -/
lemma integerDigits_digits (negative : Bool) {ds : List Char} (hd : ∀ c ∈ ds, c.isDigit = true)
    {fuel : Nat} (hfuel : ds.length < fuel)
    (hn : Nat.ofDigitChars 10 ds n < 0x10000000000000000) (hrest : Closed rest)
    (place : Position) :
    ∃ place', integerDigits negative fuel n ⟨utf8 ds ++ rest, place⟩ =
      numberTail negative (Nat.ofDigitChars 10 ds n) ⟨rest, place'⟩ := by
  induction ds generalizing fuel n place with
  | nil =>
    obtain ⟨fuel, rfl⟩ : ∃ k, fuel = k + 1 := ⟨fuel - 1, by omega⟩
    obtain ⟨o, hpeek, ho⟩ := peek_closed hrest place
    refine ⟨place, ?_⟩
    rw [integerDigits]
    refine (bind_of_ok hpeek).trans ?_
    cases o with
    | none => rfl
    | some b =>
      simp only
      rw [(ho b rfl).1]
      rfl
  | cons c ds ih =>
    obtain ⟨fuel, rfl⟩ : ∃ k, fuel = k + 1 := ⟨fuel - 1, by omega⟩
    obtain ⟨b, hc, hb, hvalue, -⟩ := digit_form (hd c List.mem_cons_self)
    rw [Nat.ofDigitChars_cons, Nat.mul_comm, ← hvalue] at hn ⊢
    rw [List.length_cons] at hfuel
    obtain ⟨place', hmore⟩ := ih (fun c hc => hd c (List.mem_cons_of_mem _ hc))
      (Nat.lt_of_succ_lt_succ hfuel) hn (place.after b)
    refine ⟨place', ?_⟩
    rw [utf8_cons, hc, List.append_assoc, List.singleton_append, integerDigits]
    refine (bind_of_ok peek_cons).trans ?_
    simp only
    rw [if_pos hb, if_pos (Nat.lt_of_le_of_lt (le_ofDigitChars ds _) hn)]
    exact (bind_of_ok skip_cons).trans hmore

lemma exponentAhead_closed (hrest : Closed rest) :
    exponentAhead ⟨rest, place⟩ = .ok false ⟨rest, place⟩ := by
  obtain ⟨o, hpeek, ho⟩ := peek_closed hrest place
  rw [exponentAhead]
  refine (bind_of_ok hpeek).trans ?_
  cases o with
  | none => rfl
  | some b =>
    obtain ⟨-, -, he, hE⟩ := ho b rfl
    rw [Option.any_some, decide_eq_false he, decide_eq_false hE]
    rfl

lemma numberTail_closed (negative : Bool) (n : Nat) (hrest : Closed rest) :
    numberTail negative n ⟨rest, place⟩ =
      (if ¬ negative then return .natural (UInt64.ofNat n)
      else if n = 0 ∨ 0x8000000000000000 < n then double true n 0
      else return .negative (Int64.ofInt (-n)) : Reader Number) ⟨rest, place⟩ := by
  obtain ⟨o, hpeek, ho⟩ := peek_closed hrest place
  have hpoint : ¬ o = some 0x2E := fun h => (ho 0x2E h).2.1 rfl
  rw [numberTail]
  refine (bind_of_ok hpeek).trans ?_
  rw [if_neg hpoint]
  exact bind_of_ok (exponentAhead_closed hrest)

/-- Only zero is written with a zero in front. -/
lemma decimal_cons (hn : 0 < n) : ∃ c cs, decimal n = c :: cs ∧ c ≠ '0' := by
  induction n using Nat.strongRecOn with
  | ind n ih =>
    by_cases hlt : n < 10
    · refine ⟨Nat.digitChar n, [], Nat.toDigits_of_lt_base hlt, ?_⟩
      have hall : ∀ k < 10, 0 < k → Nat.digitChar k ≠ '0' := by decide
      exact hall n hlt hn
    · obtain ⟨c, cs, hcs, hc⟩ := ih (n / 10) (by omega) (by omega)
      refine ⟨c, cs ++ [Nat.digitChar (n % 10)], ?_, hc⟩
      rw [decimal, Nat.toDigits_of_base_le (by omega) (by omega)]
      exact congrArg (· ++ _) hcs

lemma length_le_utf8 (cs : List Char) : cs.length ≤ (utf8 cs).length := by
  induction cs with
  | nil => exact Nat.zero_le _
  | cons c cs ih =>
    have hc := c.utf8Size_pos
    rw [utf8_cons, List.length_append, String.length_utf8EncodeChar, List.length_cons]
    omega

lemma unsignedNumber_decimal (negative : Bool) (hn : n < 0x10000000000000000)
    (hrest : Closed rest) (place : Position) :
    ∃ place', unsignedNumber negative ⟨utf8 (decimal n) ++ rest, place⟩ =
      numberTail negative n ⟨rest, place'⟩ := by
  obtain rfl | hpos := Nat.eq_zero_or_pos n
  · have hzero : utf8 (decimal 0) = [0x30] := rfl
    obtain ⟨o, hpeek, ho⟩ := peek_closed hrest (place.after 0x30)
    have hahead : digitAhead ⟨rest, place.after 0x30⟩ = .ok false ⟨rest, place.after 0x30⟩ := by
      rw [digitAhead]
      refine (bind_of_ok hpeek).trans ?_
      cases o with
      | none => rfl
      | some b =>
        rw [Option.any_some, (ho b rfl).1]
        rfl
    refine ⟨place.after 0x30, ?_⟩
    rw [hzero, List.singleton_append, unsignedNumber]
    refine (bind_of_ok next_cons).trans ?_
    exact bind_of_ok hahead
  · obtain ⟨c, cs, hcs, hc⟩ := decimal_cons hpos
    have hall : ∀ d ∈ c :: cs, d.isDigit = true := fun d hd => isDigit_of_mem_decimal (hcs ▸ hd)
    obtain ⟨b, hform, hb, hvalue, hnat⟩ := digit_form (hall c List.mem_cons_self)
    have hb0 : ¬ b = 0x30 := by
      rintro rfl
      exact hc (Char.toNat_inj.mp hnat.symm)
    have htotal : Nat.ofDigitChars 10 cs (digitValue b) = n := by
      have hsum := ofDigitChars_decimal n
      rw [hcs, Nat.ofDigitChars_cons, Nat.mul_zero, Nat.zero_add, ← hvalue] at hsum
      exact hsum
    have hfuel : cs.length < (utf8 cs ++ rest).length + 1 := by
      have hlength := length_le_utf8 cs
      rw [List.length_append]
      omega
    rw [← htotal] at hn
    obtain ⟨place', hdigits⟩ := integerDigits_digits negative
      (fun d hd => hall d (List.mem_cons_of_mem c hd)) hfuel hn hrest (place.after b)
    refine ⟨place', ?_⟩
    rw [htotal] at hdigits
    rw [hcs, utf8_cons, hform, List.append_assoc, List.singleton_append, unsignedNumber]
    refine (bind_of_ok next_cons).trans ?_
    simp only
    rw [if_pos hb]
    rw [if_neg hb0]
    refine (bind_of_ok remaining_eq).trans ?_
    exact hdigits

/-- Numbers that are written without a fraction and read as they are. -/
def Whole : Number → Prop
  | .natural _ => True
  | .negative n => n < 0
  | .double _ => False

variable {x : Number}

lemma decimal_form (n : Nat) : ∃ b bs, utf8 (decimal n) = b :: bs ∧ isDigit b = true := by
  obtain ⟨c, cs, hcs⟩ := List.exists_cons_of_ne_nil (decimal_ne_nil n)
  have hc : c ∈ decimal n := by
    rw [hcs]
    exact List.mem_cons_self
  obtain ⟨b, hform, hb, -⟩ := digit_form (isDigit_of_mem_decimal hc)
  refine ⟨b, utf8 cs, ?_, hb⟩
  rw [hcs, utf8_cons, hform, List.singleton_append]

lemma writeNumber_negative {m : Int64} (hm : m < 0) :
    Value.writeNumber (.negative m) = '-' :: decimal m.toInt.natAbs :=
  if_pos (Int64.lt_iff_toInt_lt.mp hm)

lemma number_whole (hx : Whole x) (hrest : Closed rest) (place : Position) :
    ∃ place', number ⟨utf8 (Value.writeNumber x) ++ rest, place⟩ = .ok x ⟨rest, place'⟩ := by
  cases x with
  | natural m =>
    obtain ⟨b, bs, hbs, hb⟩ := decimal_form m.toNat
    have hminus : ¬ some b = some 0x2D := by
      rintro ⟨⟩
      cases hb
    obtain ⟨place', hm⟩ := unsignedNumber_decimal false m.toNat_lt hrest place
    refine ⟨place', ?_⟩
    rw [numberTail_closed false _ hrest, if_pos Bool.false_ne_true, UInt64.ofNat_toNat] at hm
    rw [Value.writeNumber, number]
    rw [hbs, List.cons_append] at hm ⊢
    refine (bind_of_ok peek_cons).trans ?_
    rw [if_neg hminus]
    exact hm
  | negative m =>
    have hneg : m.toInt < 0 := Int64.lt_iff_toInt_lt.mp hx
    have hlow : -9223372036854775808 ≤ m.toInt := m.le_toInt
    obtain ⟨place', hm⟩ := unsignedNumber_decimal (n := m.toInt.natAbs) true (by omega) hrest
      (place.after 0x2D)
    have habs : -(m.toInt.natAbs : Int) = m.toInt := by omega
    refine ⟨place', ?_⟩
    rw [numberTail_closed true _ hrest, if_neg (not_not.mpr rfl), if_neg (by omega), habs,
      Int64.ofInt_toInt] at hm
    rw [writeNumber_negative hx, utf8_cons, number]
    refine (bind_of_ok peek_cons).trans ?_
    exact (bind_of_ok skip_cons).trans hm
  | double => cases hx

lemma whole_form (hx : Whole x) : ∃ b bs, utf8 (Value.writeNumber x) = b :: bs ∧
    startsNumber b = true ∧ isSpace b = false := by
  have hdigit : ∀ b, isDigit b = true → startsNumber b = true ∧ isSpace b = false := by
    intro b hb
    refine ⟨Bool.or_eq_true_iff.mpr (.inr hb), ?_⟩
    by_contra hspace
    simp only [isSpace, Bool.not_eq_false, Bool.or_eq_true, decide_eq_true_eq] at hspace
    rcases hspace with ((rfl | rfl) | rfl) | rfl <;> cases hb
  cases x with
  | natural m =>
    obtain ⟨b, bs, hbs, hb⟩ := decimal_form m.toNat
    exact ⟨b, bs, hbs, hdigit b hb⟩
  | negative m =>
    rw [writeNumber_negative hx]
    exact ⟨0x2D, _, rfl, rfl, rfl⟩
  | double => cases hx

lemma write_number (x : Number) : Value.write (.number x) = Value.writeNumber x := rfl

lemma reads_number (hx : Whole x) {expected : Expected} {convert : Number → Except Mismatch α}
    (hc : convert x = .ok a) : Reads (numberAs expected convert) (.number x) a := by
  intro rest place hrest
  obtain ⟨b, bs, hbs, hb, hspace⟩ := whole_form hx
  obtain ⟨place', hnumber⟩ := number_whole hx hrest place
  refine ⟨place', ?_⟩
  rw [write_number, numberAs]
  rw [hbs, List.cons_append] at hnumber ⊢
  refine byHead_of_ok hspace ?_
  rw [if_pos hb]
  refine (bind_of_ok hnumber).trans ?_
  rw [hc]
  rfl

lemma reads_int64 (n : Int64) : Reads int64 (.ofInt64 n) n := by
  rw [Value.ofInt64]
  split
  · rename_i hn
    exact reads_number (x := .negative n) hn rfl
  · rename_i hn
    have hnat : n.toUInt64.toNat < 0x8000000000000000 := by
      have hzero : (0 : Int64).toInt = 0 := rfl
      have hvalue := n.toBitVec.toInt_eq_toNat_cond
      rw [Int64.lt_iff_toInt_lt, Int.not_lt] at hn
      rw [Int64.toInt_toBitVec] at hvalue
      rw [← Int64.toNat_toBitVec]
      split at hvalue <;> omega
    exact reads_number (x := .natural n.toUInt64) trivial (if_pos hnat)

end Numbers

lemma reads_flag (b : Bool) : Reads flag (.flag b) b := by
  intro rest place _
  cases b with
  | false =>
    have hform : utf8 (Value.write (.flag false)) = [0x66, 0x61, 0x6C, 0x73, 0x65] := rfl
    rw [hform]
    exact ⟨_, byHead_of_ok rfl rfl⟩
  | true =>
    have hform : utf8 (Value.write (.flag true)) = [0x74, 0x72, 0x75, 0x65] := rfl
    rw [hform]
    exact ⟨_, byHead_of_ok rfl rfl⟩

lemma reads_textAs {s : String} {expected : Expected} {convert : String → Except Mismatch α}
    (hc : convert s = .ok a) : Reads (textAs expected convert) (.text s) a := by
  intro rest place _
  obtain ⟨place', hs⟩ := textBody_text s rest (place.after 0x22)
  refine ⟨place', ?_⟩
  rw [write_text, utf8_writeText]
  apply byHead_of_ok rfl
  rw [if_pos rfl]
  apply (bind_of_ok skip_cons).trans
  apply (bind_of_ok hs).trans
  rw [hc]
  rfl

lemma reads_text (s : String) : Reads text (.text s) s :=
  reads_textAs rfl

/-- An element of a list: it neither begins with white space nor looks like the end of the list. -/
def Solid (v : Value) : Prop :=
  ∃ b bs, utf8 v.write = b :: bs ∧ isSpace b = false ∧ b ≠ 0x5D

lemma solid_text (s : String) : Solid (.text s) := by
  refine ⟨0x22, utf8 (s.toList.flatMap Value.escapeChar) ++ [0x22], ?_, rfl, ne_of_beq_false rfl⟩
  have hs := utf8_writeText s []
  rwa [List.append_nil] at hs

lemma writeItems_cons (v : Value) (vs : List Value) :
    Value.writeItems (v :: vs) = v.write ++ vs.flatMap fun v => ',' :: v.write := by
  induction vs generalizing v with
  | nil => exact (List.append_nil _).symm
  | cons w vs ih =>
    change v.write ++ ',' :: Value.writeItems (w :: vs) = _
    rw [ih w, List.flatMap_cons, List.cons_append]

section Lists

variable {item : Reader α} {es : List (Value × α)} {rest : List UInt8} {place : Position}
  {fuel : Nat} {first : Bool} {c : Cursor}

lemma write_list (vs : List Value) :
    Value.write (.list vs) = '[' :: Value.writeItems vs ++ [']'] := rfl

lemma utf8_list (vs : List Value) (rest : List UInt8) :
    utf8 (Value.write (.list vs)) ++ rest =
      0x5B :: (utf8 (Value.writeItems vs) ++ 0x5D :: rest) := by
  rw [write_list, List.cons_append, utf8_cons, utf8_append, List.append_assoc, List.append_assoc]
  rfl

lemma closed_end (rest : List UInt8) : Closed (0x5D :: rest) :=
  closed_cons rfl rest

lemma closed_comma (rest : List UInt8) : Closed (0x2C :: rest) :=
  closed_cons rfl rest

lemma itemsFrom_item (fuel : Nat) (hread : Reads item v a)
    (hnext : nextElement first c = .ok true ⟨utf8 v.write ++ rest, place⟩) (hrest : Closed rest) :
    ∃ place', ∀ as c', itemsFrom item fuel false ⟨rest, place'⟩ = .ok as c' →
      itemsFrom item (fuel + 1) first c = .ok (a :: as) c' := by
  obtain ⟨place', hitem⟩ := hread rest place hrest
  refine ⟨place', ?_⟩
  intro as c' has
  rw [itemsFrom]
  refine (bind_of_ok hnext).trans ?_
  refine (bind_of_ok hitem).trans ?_
  exact bind_of_ok has

lemma nextElement_first (hv : Solid v) (rest : List UInt8) (place : Position) :
    nextElement true ⟨utf8 v.write ++ rest, place⟩ = .ok true ⟨utf8 v.write ++ rest, place⟩ := by
  obtain ⟨b, bs, hbs, hspace, hend⟩ := hv
  rw [hbs, List.cons_append, nextElement]
  refine (bind_of_ok (peekSolid_cons hspace)).trans ?_
  simp only
  rfl

lemma nextElement_comma (hv : Solid v) (rest : List UInt8) (place : Position) :
    nextElement false ⟨0x2C :: (utf8 v.write ++ rest), place⟩ =
      .ok true ⟨utf8 v.write ++ rest, place.after 0x2C⟩ := by
  obtain ⟨b, bs, hbs, hspace, hend⟩ := hv
  rw [hbs, List.cons_append, nextElement]
  refine (bind_of_ok (peekSolid_cons rfl)).trans ?_
  refine (bind_of_ok skip_cons).trans ?_
  refine (bind_of_ok (peekSolid_cons hspace)).trans ?_
  simp only
  rfl

lemma itemsFrom_end :
    itemsFrom item (fuel + 1) first ⟨0x5D :: rest, place⟩ = .ok [] ⟨0x5D :: rest, place⟩ := by
  rw [itemsFrom]
  refine bind_of_ok (a := false) ?_
  rw [nextElement]
  exact bind_of_ok (peekSolid_cons rfl)

lemma closed_items (es : List (Value × α)) (rest : List UInt8) :
    Closed (utf8 (es.flatMap fun e => ',' :: e.1.write) ++ 0x5D :: rest) := by
  cases es with
  | nil => exact closed_end rest
  | cons e es => exact closed_comma _

lemma itemsFrom_more (h : ∀ e ∈ es, Solid e.1 ∧ Reads item e.1 e.2) (hfuel : es.length < fuel)
    (rest : List UInt8) (place : Position) :
    ∃ place', itemsFrom item fuel false
        ⟨utf8 (es.flatMap fun e => ',' :: e.1.write) ++ 0x5D :: rest, place⟩ =
      .ok (es.map Prod.snd) ⟨0x5D :: rest, place'⟩ := by
  induction es generalizing fuel place with
  | nil =>
    obtain ⟨fuel, rfl⟩ : ∃ n, fuel = n + 1 := ⟨fuel - 1, by omega⟩
    exact ⟨place, itemsFrom_end⟩
  | cons e es ih =>
    obtain ⟨fuel, rfl⟩ : ∃ n, fuel = n + 1 := ⟨fuel - 1, by omega⟩
    obtain ⟨hsolid, hread⟩ := h e List.mem_cons_self
    obtain ⟨place₁, hitem⟩ := itemsFrom_item fuel hread (nextElement_comma hsolid _ place)
      (closed_items es rest)
    obtain ⟨place₂, hmore⟩ := ih (fun e he => h e (List.mem_cons_of_mem _ he))
      (Nat.lt_of_succ_lt_succ hfuel) place₁
    refine ⟨place₂, ?_⟩
    rw [utf8_commas_cons]
    exact hitem _ _ hmore

lemma items_end (h : ∀ e ∈ es, Solid e.1 ∧ Reads item e.1 e.2) (rest : List UInt8)
    (place : Position) :
    ∃ place', items item ⟨utf8 (Value.writeItems (es.map Prod.fst)) ++ 0x5D :: rest, place⟩ =
      .ok (es.map Prod.snd) ⟨0x5D :: rest, place'⟩ := by
  cases es with
  | nil =>
    refine ⟨place, ?_⟩
    rw [items]
    exact (bind_of_ok remaining_eq).trans itemsFrom_end
  | cons e es =>
    obtain ⟨hsolid, hread⟩ := h e List.mem_cons_self
    have hfuel : es.length < (utf8 e.1.write ++
        (utf8 (es.flatMap fun e => ',' :: e.1.write) ++ 0x5D :: rest)).length := by
      have hlength := length_le_commas (fun e : Value × α => e.1.write) es
      simp only [List.length_append, List.length_cons]
      omega
    have hform : utf8 (Value.writeItems ((e :: es).map Prod.fst)) ++ 0x5D :: rest =
        utf8 e.1.write ++ (utf8 (es.flatMap fun e => ',' :: e.1.write) ++ 0x5D :: rest) := by
      rw [List.map_cons, writeItems_cons, List.flatMap_map, utf8_append, List.append_assoc]
    rw [hform]
    obtain ⟨place₁, hitem⟩ := itemsFrom_item _ hread (nextElement_first hsolid _ place)
      (closed_items es rest)
    obtain ⟨place₂, hmore⟩ := itemsFrom_more (fun e he => h e (List.mem_cons_of_mem _ he)) hfuel
      rest place₁
    refine ⟨place₂, ?_⟩
    rw [items]
    refine (bind_of_ok remaining_eq).trans ?_
    exact hitem _ _ hmore

lemma reads_list (h : ∀ e ∈ es, Solid e.1 ∧ Reads item e.1 e.2) :
    Reads (list item) (.list (es.map Prod.fst)) (es.map Prod.snd) := by
  intro rest place _
  obtain ⟨place₁, hes⟩ := items_end h rest (place.after 0x5B)
  have hend : endList ⟨0x5D :: rest, place₁⟩ = .ok () ⟨rest, place₁.after 0x5D⟩ := by
    rw [endList]
    exact (bind_of_ok (peekSolid_cons rfl)).trans skip_cons
  refine ⟨place₁.after 0x5D, ?_⟩
  rw [utf8_list]
  refine byHead_of_ok rfl ?_
  rw [if_pos rfl]
  exact closing_of_ok ((bind_of_ok skip_cons).trans hes) hend

end Lists

lemma closed_entries (es : List (String × Value)) (rest : List UInt8) :
    Closed (utf8 (es.flatMap fun e => ',' :: entryForm e) ++ 0x7D :: rest) := by
  cases es with
  | nil => exact closed_cons rfl rest
  | cons e es => exact closed_comma _

/-- A reader of keys finds `k` in the text of a name behind its first quote and stops behind its
second one. -/
def ReadsKey {K : Type} (key : Reader K) (name : String) (k : K) : Prop :=
  ∀ rest place, ∃ place', key ⟨utf8 (name.toList.flatMap Value.escapeChar) ++ 0x22 :: rest, place⟩ =
    .ok k ⟨rest, place'⟩

lemma readsKey_text (name : String) : ReadsKey textBody name name :=
  textBody_text name

lemma reads_value_text (depth : Nat) (s : String) : Reads (value depth) (.text s) (.text s) := by
  intro rest place _
  exact value_text depth s rest place

section Maps

variable {K : Type} {key : Reader K} {item : Reader α} {es : List ((String × Value) × (K × α))}
  {e : (String × Value) × (K × α)} {rest : List UInt8} {place : Position} {fuel : Nat}
  {first : Bool} {c : Cursor}

lemma entriesFrom_entry (fuel : Nat) (hkey : ReadsKey key e.1.1 e.2.1)
    (hread : Reads item e.1.2 e.2.2)
    (hnext : nextKey first c = .ok true ⟨utf8 (entryForm e.1) ++ rest, place⟩)
    (hrest : Closed rest) :
    ∃ place', ∀ es' c', entriesFrom key item fuel false ⟨rest, place'⟩ = .ok es' c' →
      entriesFrom key item (fuel + 1) first c = .ok (e.2 :: es') c' := by
  rw [utf8_entryForm] at hnext
  obtain ⟨place₁, hk⟩ := hkey (0x3A :: (utf8 e.1.2.write ++ rest)) (place.after 0x22)
  obtain ⟨place₂, hv⟩ := hread rest (place₁.after 0x3A) hrest
  refine ⟨place₂, ?_⟩
  intro es' c' hes
  rw [entriesFrom]
  apply (bind_of_ok hnext).trans
  apply (bind_of_ok skip_cons).trans
  apply (bind_of_ok hk).trans
  apply (bind_of_ok colon_cons).trans
  apply (bind_of_ok hv).trans
  exact bind_of_ok hes

lemma entriesFrom_end :
    entriesFrom key item (fuel + 1) first ⟨0x7D :: rest, place⟩ = .ok [] ⟨0x7D :: rest, place⟩ := by
  rw [entriesFrom]
  exact bind_of_ok (nextKey_end first)

lemma entriesFrom_more (h : ∀ e ∈ es, ReadsKey key e.1.1 e.2.1 ∧ Reads item e.1.2 e.2.2)
    (hfuel : es.length < fuel) (rest : List UInt8) (place : Position) :
    ∃ place', entriesFrom key item fuel false
        ⟨utf8 ((es.map Prod.fst).flatMap fun e => ',' :: entryForm e) ++ 0x7D :: rest, place⟩ =
      .ok (es.map Prod.snd) ⟨0x7D :: rest, place'⟩ := by
  induction es generalizing fuel place with
  | nil =>
    obtain ⟨fuel, rfl⟩ : ∃ n, fuel = n + 1 := ⟨fuel - 1, by omega⟩
    exact ⟨place, entriesFrom_end⟩
  | cons e es ih =>
    obtain ⟨fuel, rfl⟩ : ∃ n, fuel = n + 1 := ⟨fuel - 1, by omega⟩
    obtain ⟨hkey, hread⟩ := h e List.mem_cons_self
    obtain ⟨place₁, hentry⟩ := entriesFrom_entry fuel hkey hread (nextKey_entry e.1 _ place)
      (closed_entries (es.map Prod.fst) rest)
    obtain ⟨place₂, hmore⟩ := ih (fun e he => h e (List.mem_cons_of_mem _ he))
      (Nat.lt_of_succ_lt_succ hfuel) place₁
    refine ⟨place₂, ?_⟩
    rw [List.map_cons, utf8_commas_cons]
    exact hentry _ _ hmore

lemma entries_end (h : ∀ e ∈ es, ReadsKey key e.1.1 e.2.1 ∧ Reads item e.1.2 e.2.2)
    (rest : List UInt8) (place : Position) :
    ∃ place', entries key item
        ⟨utf8 (Value.writeEntries (es.map Prod.fst)) ++ 0x7D :: rest, place⟩ =
      .ok (es.map Prod.snd) ⟨0x7D :: rest, place'⟩ := by
  cases es with
  | nil =>
    refine ⟨place, ?_⟩
    rw [entries]
    exact (bind_of_ok remaining_eq).trans entriesFrom_end
  | cons e es =>
    obtain ⟨hkey, hread⟩ := h e List.mem_cons_self
    have hfuel : es.length < (utf8 (entryForm e.1) ++
        (utf8 ((es.map Prod.fst).flatMap fun e => ',' :: entryForm e) ++ 0x7D :: rest)).length := by
      have hlength := length_le_commas entryForm (es.map Prod.fst)
      rw [List.length_map] at hlength
      simp only [List.length_append, List.length_cons]
      omega
    rw [List.map_cons, writeEntries_cons, utf8_append, List.append_assoc]
    obtain ⟨place₁, hentry⟩ := entriesFrom_entry _ hkey hread (nextKey_first e.1 _ place)
      (closed_entries (es.map Prod.fst) rest)
    obtain ⟨place₂, hmore⟩ := entriesFrom_more (fun e he => h e (List.mem_cons_of_mem _ he)) hfuel
      rest place₁
    refine ⟨place₂, ?_⟩
    rw [entries]
    apply (bind_of_ok remaining_eq).trans
    exact hentry _ _ hmore

lemma reads_map (h : ∀ e ∈ es, ReadsKey key e.1.1 e.2.1 ∧ Reads item e.1.2 e.2.2) :
    Reads (Reader.map key item) (.object (es.map Prod.fst)) (es.map Prod.snd) := by
  intro rest place _
  obtain ⟨place₁, hes⟩ := entries_end h rest (place.after 0x7B)
  refine ⟨place₁.after 0x7D, ?_⟩
  rw [utf8_object, Reader.map]
  apply byHead_of_ok rfl
  rw [if_pos rfl]
  exact closing_of_ok ((bind_of_ok skip_cons).trans hes) endObject_cons

lemma reads_texts (depth : Nat) {es : List (String × Value)} (h : ∀ e ∈ es, ∃ s, e.2 = .text s) :
    Reads (Reader.map textBody (value depth)) (.object es) es := by
  have hes : ∀ e ∈ es.map fun e => (e, e),
      ReadsKey textBody e.1.1 e.2.1 ∧ Reads (value depth) e.1.2 e.2.2 := by
    intro e he
    obtain ⟨⟨name, v⟩, hv, rfl⟩ := List.mem_map.mp he
    obtain ⟨s, rfl⟩ := h _ hv
    exact ⟨readsKey_text name, reads_value_text depth s⟩
  have hfst : (es.map fun e => (e, e)).map Prod.fst = es := by
    rw [List.map_map]
    exact List.map_id es
  have hsnd : (es.map fun e => (e, e)).map Prod.snd = es := by
    rw [List.map_map]
    exact List.map_id es
  have hmap := reads_map hes
  rwa [hfst, hsnd] at hmap

end Maps

section Records

variable {fields : List (Reader.Field R)} {seen : List String} {record record' : R}
  {es : List (String × Value)} {rest : List UInt8} {place : Position} {fuel : Nat} {first : Bool}
  {c : Cursor}

/-- The entries of an object, one after another, are fields that turn one record into another; names
that are seen do not come again, and no field that is required is missing at the end. -/
inductive Fills (fields : List (Reader.Field R)) :
    List String → R → List (String × Value) → R → Prop
  | done {seen : List String} {record : R}
      (hall : fields.find? (fun f => f.required && f.name ∉ seen) = none) :
      Fills fields seen record [] record
  | entry {seen : List String} {record record' record'' : R} {name : String} {v : Value}
      {es : List (String × Value)} {f : Reader.Field R}
      (hf : fields.find? (fun f => f.name = name) = some f) (hnew : name ∉ seen)
      (hread : Reads (f.read record) v record')
      (hmore : Fills fields (name :: seen) record' es record'') :
      Fills fields seen record ((name, v) :: es) record''

lemma fieldsByName_entry (fuel : Nat) {name : String} {f : Reader.Field R}
    (hf : fields.find? (fun f => f.name = name) = some f) (hnew : name ∉ seen)
    (hread : Reads (f.read record) v record')
    (hkey : nextKey first c = .ok true ⟨utf8 (entryForm (name, v)) ++ rest, place⟩)
    (hrest : Closed rest) :
    ∃ place', fieldsByName fields (fuel + 1) first seen record c =
      fieldsByName fields fuel false (name :: seen) record' ⟨rest, place'⟩ := by
  rw [utf8_entryForm] at hkey
  obtain ⟨place₁, hname⟩ := textBody_text name (0x3A :: (utf8 v.write ++ rest)) (place.after 0x22)
  obtain ⟨place₂, hvalue⟩ := hread rest (place₁.after 0x3A) hrest
  refine ⟨place₂, ?_⟩
  rw [fieldsByName]
  refine (bind_of_ok hkey).trans ?_
  refine (bind_of_ok skip_cons).trans ?_
  refine (bind_of_ok hname).trans ?_
  rw [hf]
  simp only
  rw [if_neg hnew]
  refine (bind_of_ok colon_cons).trans ?_
  exact bind_of_ok hvalue

lemma fieldsByName_end (hall : fields.find? (fun f => f.required && f.name ∉ seen) = none) :
    fieldsByName fields (fuel + 1) first seen record ⟨0x7D :: rest, place⟩ =
      .ok record ⟨0x7D :: rest, place⟩ := by
  rw [fieldsByName]
  refine (bind_of_ok (nextKey_end first)).trans ?_
  simp only [hall]
  rfl

lemma Fills.more (h : Fills fields seen record es record') (hfuel : es.length < fuel)
    (rest : List UInt8) (place : Position) :
    ∃ place', fieldsByName fields fuel false seen record
        ⟨utf8 (es.flatMap fun e => ',' :: entryForm e) ++ 0x7D :: rest, place⟩ =
      .ok record' ⟨0x7D :: rest, place'⟩ := by
  induction h generalizing fuel place with
  | done hall =>
    obtain ⟨fuel, rfl⟩ : ∃ n, fuel = n + 1 := ⟨fuel - 1, by omega⟩
    exact ⟨place, fieldsByName_end hall⟩
  | @entry seen record record' record'' name v es f hf hnew hread hmore ih =>
    obtain ⟨fuel, rfl⟩ : ∃ n, fuel = n + 1 := ⟨fuel - 1, by omega⟩
    rw [utf8_commas_cons]
    obtain ⟨place₁, hentry⟩ := fieldsByName_entry fuel hf hnew hread
      (nextKey_entry (name, v) _ place) (closed_entries es rest)
    obtain ⟨place₂, hmore⟩ := ih (Nat.lt_of_succ_lt_succ hfuel) place₁
    exact ⟨place₂, hentry.trans hmore⟩

lemma Fills.read (h : Fills fields seen record es record') (rest : List UInt8) (place : Position) :
    ∃ place', fieldsByName fields ((utf8 (Value.writeEntries es) ++ 0x7D :: rest).length + 1) true
        seen record ⟨utf8 (Value.writeEntries es) ++ 0x7D :: rest, place⟩ =
      .ok record' ⟨0x7D :: rest, place'⟩ := by
  cases h with
  | done hall => exact ⟨place, fieldsByName_end hall⟩
  | @entry _ _ record₁ _ name v es f hf hnew hread hmore =>
    have hfuel : es.length < (utf8 (entryForm (name, v)) ++
        (utf8 (es.flatMap fun e => ',' :: entryForm e) ++ 0x7D :: rest)).length := by
      have hlength := length_le_commas entryForm es
      simp only [List.length_append, List.length_cons]
      omega
    rw [writeEntries_cons, utf8_append, List.append_assoc]
    obtain ⟨place₁, hentry⟩ := fieldsByName_entry _ hf hnew hread
      (nextKey_first (name, v) _ place) (closed_entries es rest)
    obtain ⟨place₂, hmore⟩ := hmore.more hfuel rest place₁
    exact ⟨place₂, hentry.trans hmore⟩

lemma reads_record (name : String) (h : Fills fields [] record es record') :
    Reads (Reader.record name fields record) (.object es) record' := by
  intro rest place _
  obtain ⟨place₁, hes⟩ := h.read rest (place.after 0x7B)
  refine ⟨place₁.after 0x7D, ?_⟩
  rw [utf8_object, Reader.record]
  refine byHead_of_ok rfl ?_
  rw [if_neg (ne_of_beq_false rfl), if_pos rfl]
  refine closing_of_ok ?_ endObject_cons
  refine (bind_of_ok skip_cons).trans ?_
  exact (bind_of_ok remaining_eq).trans hes

end Records

end Tenancy.Proofs
