import Mathlib.Data.List.Basic
import Tenancy.Csv.Record

/-!
# Tables that are read back

A table is read as the records that were written into it, whatever bytes their fields hold. Without
quotes its lines are its records, and a line is cut at its commas.
-/

namespace Tenancy.Proofs

open Csv

variable {state state' : Within} {field f : Field} {b : UInt8} {bs rest : List UInt8}

lemma ne_of_isBreak (hb : isBreak b = true) : b ≠ quote ∧ b ≠ comma := by
  constructor
  · rintro rfl
    cases hb
  · rintro rfl
    cases hb

lemma cut_nil (state : Within) (field : Field) : cut state field [] = ([field.reverse], []) := by
  rw [cut]

lemma cut_break (hs : state ≠ .quoted) (hb : isBreak b = true) :
    cut state field (b :: bs) = ([field.reverse], bs) := by
  obtain ⟨hq, hc⟩ := ne_of_isBreak hb
  cases state with
  | quoted => exact absurd rfl hs
  | _ => simp [cut, hq, hc, hb]

lemma cut_comma (hs : state ≠ .quoted) : cut state field (comma :: bs) =
    (field.reverse :: (cut .start [] bs).1, (cut .start [] bs).2) := by
  have hq : comma ≠ quote := by decide
  cases state with
  | quoted => exact absurd rfl hs
  | _ => simp [cut, hq]

lemma cut_bare (hs : state ≠ .quoted) (hq : b ≠ quote) (hc : b ≠ comma) (hb : isBreak b = false) :
    cut state field (b :: bs) = cut .bare (b :: field) bs := by
  cases state with
  | quoted => exact absurd rfl hs
  | _ => simp [cut, hq, hc, hb]

lemma cut_open : cut .start field (quote :: bs) = cut .quoted field bs := by
  simp [cut]

lemma cut_quoted (hq : b ≠ quote) :
    cut .quoted field (b :: bs) = cut .quoted (b :: field) bs := by
  simp [cut, hq]

lemma cut_close : cut .quoted field (quote :: bs) = cut .closed field bs := by
  simp [cut]

lemma cut_again : cut .closed field (quote :: bs) = cut .quoted (quote :: field) bs := by
  simp [cut]

/-- What comes next ends a field. -/
def Ends (bs : List UInt8) : Prop :=
  ∀ b ∈ bs.head?, b = comma ∨ isBreak b = true

/-- Where a field ends it does not matter how it was read. -/
lemma cut_ends (hs : state ≠ .quoted) (hs' : state' ≠ .quoted) (h : Ends bs) :
    cut state field bs = cut state' field bs := by
  cases bs with
  | nil => rw [cut_nil, cut_nil]
  | cons b bs =>
    rcases h b rfl with rfl | hb
    · rw [cut_comma hs, cut_comma hs']
    · rw [cut_break hs hb, cut_break hs' hb]

lemma cut_plain (hs : state ≠ .quoted) (hf : needsQuotes f = false) (h : Ends bs) :
    cut state field (f ++ bs) = cut .closed (f.reverse ++ field) bs := by
  induction f generalizing state field with
  | nil => exact cut_ends hs (by decide) h
  | cons b f ih =>
    rw [needsQuotes, List.any_cons, Bool.or_eq_false_iff] at hf
    obtain ⟨hb, hf⟩ := hf
    simp only [Bool.or_eq_false_iff, decide_eq_false_iff_not] at hb
    obtain ⟨⟨hc, hq⟩, hb⟩ := hb
    rw [List.cons_append, cut_bare hs hq hc hb, ih (by decide) hf, List.reverse_cons,
      List.append_assoc]
    rfl

lemma cut_doubled (f field bs : List UInt8) :
    cut .quoted field (f.flatMap (fun b => if b = quote then [quote, quote] else [b]) ++
      quote :: bs) = cut .closed (f.reverse ++ field) bs := by
  induction f generalizing field with
  | nil => exact cut_close
  | cons b f ih =>
    rw [List.flatMap_cons, List.append_assoc, List.reverse_cons, List.append_assoc]
    by_cases hb : b = quote
    · rw [if_pos hb, hb]
      exact cut_close.trans (cut_again.trans (ih _))
    · rw [if_neg hb]
      exact (cut_quoted hb).trans (ih _)

lemma cut_quoteField (f bs : List UInt8) :
    cut .start [] (quoteField f ++ bs) = cut .closed f.reverse bs := by
  have h := cut_doubled f [] bs
  rw [List.append_nil] at h
  rw [quoteField, List.cons_append, List.cons_append, List.append_assoc, cut_open]
  exact h

lemma cut_writeField (f : Field) (h : Ends bs) :
    cut .start [] (writeField f ++ bs) = cut .closed f.reverse bs := by
  unfold writeField
  split
  · exact cut_quoteField f bs
  · rename_i hf
    rw [cut_plain (by decide) (Bool.eq_false_iff.mpr hf) h, List.append_nil]

lemma cut_fields (f : Field) (fields : List Field) (hb : isBreak b = true) :
    cut .start [] (List.intercalate [comma] ((f :: fields).map writeField) ++ b :: bs) =
      (f :: fields, bs) := by
  induction fields generalizing f with
  | nil =>
    have hends : Ends (b :: bs) := fun c hc => .inr (Option.some.inj hc ▸ hb)
    have hone : List.intercalate [comma] ([f].map writeField) = writeField f := by simp
    rw [hone, cut_writeField f hends, cut_break (by decide) hb, List.reverse_reverse]
  | cons g fields ih =>
    have hends : ∀ bs, Ends (comma :: bs) := fun bs c hc => .inl (Option.some.inj hc).symm
    rw [List.map_cons, List.map_cons, List.intercalate_cons_cons, ← List.map_cons,
      List.append_assoc, List.append_assoc, List.singleton_append, cut_writeField f (hends _),
      cut_comma (by decide), ih, List.reverse_reverse]

lemma cut_writeRecord {fields : List Field} (h : fields ≠ []) (rest : List UInt8) :
    cut .start [] (writeRecord fields ++ rest) = (fields, rest) := by
  have hend : isBreak 0x0A = true := rfl
  unfold writeRecord
  split
  · rename_i hempty
    rw [List.append_assoc, List.singleton_append, cut_quoteField, cut_break (by decide) hend,
      hempty]
    rfl
  · obtain ⟨f, fields, rfl⟩ := List.exists_cons_of_ne_nil h
    rw [List.append_assoc, List.singleton_append, cut_fields f fields hend]

/-- A record that is written does not look like a line end. -/
lemma writeRecord_cons {fields : List Field} (h : fields ≠ []) :
    ∃ b bs, writeRecord fields = b :: bs ∧ isBreak b = false := by
  have hquoted : ∀ f, ∃ bs, quoteField f = quote :: bs := fun f => ⟨_, rfl⟩
  unfold writeRecord
  split
  · exact ⟨quote, _, rfl, rfl⟩
  · rename_i hempty
    obtain ⟨f, fields, rfl⟩ := List.exists_cons_of_ne_nil h
    rw [List.map_cons]
    by_cases hf : needsQuotes f = true
    · obtain ⟨bs, hbs⟩ := hquoted f
      refine ⟨quote, ?_⟩
      cases fields <;> simp [writeField, hf, hbs, isBreak, quote]
    · cases f with
      | nil =>
        cases fields with
        | nil => exact absurd rfl hempty
        | cons g fields => exact ⟨comma, _, rfl, rfl⟩
      | cons b f =>
        have hb : isBreak b = false := by
          simp only [needsQuotes, List.any_cons, Bool.or_eq_true, not_or, Bool.not_eq_true] at hf
          exact hf.1.2
        refine ⟨b, ?_⟩
        cases fields <;> simp [writeField, hf, hb]

/-- The fields of the records of a table. -/
def fieldsOf (bs : List UInt8) : List (List Field) :=
  (recordsFrom ⟨1, 0⟩ bs).map Record.fields

lemma fields_recordsFrom (place : Place) (bs : List UInt8) :
    (recordsFrom place bs).map Record.fields = fieldsOf bs := by
  rw [fieldsOf]
  -- The records behind the first one begin elsewhere, so neither place can be fixed.
  generalize (⟨1, 0⟩ : Place) = place'
  induction h : bs.length using Nat.strongRecOn generalizing bs place place' with
  | ind n ih =>
    subst h
    rw [recordsFrom, recordsFrom]
    split
    · rfl
    · rename_i b line hline
      have hle := (List.dropWhile_suffix isBreak (l := bs)).length_le
      have hlt := length_cut_lt .start [] b line
      rw [hline] at hle
      simp only [List.map_cons]
      rw [ih _ (Nat.lt_of_lt_of_le hlt hle) _ _ _ rfl]

lemma fieldsOf_nil : fieldsOf [] = [] := by
  rw [fieldsOf, recordsFrom]
  rfl

lemma fieldsOf_eq (bs : List UInt8) :
    fieldsOf bs = match bs.dropWhile isBreak with
      | [] => []
      | b :: line => (cut .start [] (b :: line)).1 :: fieldsOf (cut .start [] (b :: line)).2 := by
  conv_lhs => rw [fieldsOf, recordsFrom]
  split
  · rename_i hline
    rw [hline]
    rfl
  · rename_i b line hline
    rw [hline, List.map_cons, fields_recordsFrom]

lemma fieldsOf_break (hb : isBreak b = true) (bs : List UInt8) :
    fieldsOf (b :: bs) = fieldsOf bs := by
  rw [fieldsOf_eq, fieldsOf_eq bs, List.dropWhile_cons_of_pos hb]

lemma fieldsOf_cons (hb : isBreak b = false) (bs : List UInt8) :
    fieldsOf (b :: bs) =
      (cut .start [] (b :: bs)).1 :: fieldsOf (cut .start [] (b :: bs)).2 := by
  rw [fieldsOf_eq, List.dropWhile_cons_of_neg (ne_true_of_eq_false hb)]

lemma fieldsOf_writeTable {rows : List (List Field)} (h : ∀ fields ∈ rows, fields ≠ []) :
    fieldsOf (writeTable rows) = rows := by
  induction rows with
  | nil => exact fieldsOf_nil
  | cons fields rows ih =>
    have hfields := h fields List.mem_cons_self
    have hrest := ih fun row hrow => h row (List.mem_cons_of_mem _ hrow)
    obtain ⟨b, bs, hwrite, hb⟩ := writeRecord_cons hfields
    have hcut := cut_writeRecord hfields (writeTable rows)
    have htable : writeTable (fields :: rows) = writeRecord fields ++ writeTable rows :=
      List.flatMap_cons
    rw [hwrite, List.cons_append] at hcut
    rw [htable, hwrite, List.cons_append, fieldsOf_cons hb, hcut, hrest]

/-- A table that does not begin with a byte order mark is read from its first byte on. -/
lemma fields_records (h : ∀ b ∈ bs.head?, b ≠ 0xEF) :
    (records bs).map Record.fields = fieldsOf bs := by
  have hmark : dropMark bs = (⟨1, 0⟩, bs) := by
    unfold dropMark
    split
    · exact absurd rfl (h 0xEF rfl)
    · rfl
  rw [records, hmark]
  rfl

/-- The line neither holds a quote nor ends within. -/
def Plain (line : List UInt8) : Prop :=
  ∀ b ∈ line, b ≠ quote ∧ isBreak b = false

instance (line : List UInt8) : Decidable (Plain line) :=
  List.decidableBAll _ line

lemma modifyHead_start (fields : List Field) :
    fields.modifyHead (([] : Field).reverse ++ ·) = fields := by
  cases fields <;> rfl

lemma cut_line (hs : state ≠ .quoted) {line : List UInt8} (h : Plain line)
    (hrest : ∀ b ∈ rest.head?, isBreak b = true) :
    cut state field (line ++ rest) =
      ((line.splitOn comma).modifyHead (field.reverse ++ ·), rest.drop 1) := by
  induction line generalizing state field with
  | nil =>
    cases rest with
    | nil => simp [cut_nil]
    | cons b rest => simp [cut_break hs (hrest b rfl)]
  | cons b line ih =>
    obtain ⟨hq, hb⟩ := h b List.mem_cons_self
    have hline : Plain line := fun c hc => h c (List.mem_cons_of_mem _ hc)
    by_cases hc : b = comma
    · rw [List.cons_append, hc, cut_comma hs, ih (by decide) hline,
        List.splitOn_cons_eq_if_modifyHead, if_pos (beq_self_eq_true _), modifyHead_start,
        List.modifyHead_cons, List.append_nil]
    · have hhead : (fun l : Field => (b :: field).reverse ++ l) =
          (field.reverse ++ ·) ∘ List.cons b := by
        funext l
        rw [List.reverse_cons, List.append_assoc]
        rfl
      rw [List.cons_append, cut_bare hs hq hc hb, ih (by decide) hline,
        List.splitOn_cons_eq_if_modifyHead, if_neg (by simpa using hc), hhead,
        List.modifyHead_modifyHead]

lemma fieldsOf_breaks {ends : List UInt8} (h : ∀ b ∈ ends, isBreak b = true) (bs : List UInt8) :
    fieldsOf (ends ++ bs) = fieldsOf bs := by
  induction ends with
  | nil => rfl
  | cons b ends ih =>
    rw [List.cons_append, fieldsOf_break (h b List.mem_cons_self),
      ih fun c hc => h c (List.mem_cons_of_mem _ hc)]

lemma fieldsOf_line {line : List UInt8} (hne : line ≠ []) (h : Plain line)
    (hrest : ∀ b ∈ rest.head?, isBreak b = true) :
    fieldsOf (line ++ rest) = line.splitOn comma :: fieldsOf rest := by
  obtain ⟨b, bs, rfl⟩ := List.exists_cons_of_ne_nil hne
  have hb := (h b List.mem_cons_self).2
  have hcut : cut .start [] (b :: bs ++ rest) = _ := cut_line (by decide) h hrest
  have hdrop : fieldsOf (rest.drop 1) = fieldsOf rest := by
    cases rest with
    | nil => rfl
    | cons c rest => exact (fieldsOf_break (hrest c rfl) rest).symm
  rw [modifyHead_start, List.cons_append] at hcut
  rw [List.cons_append, fieldsOf_cons hb, hcut, hdrop]

end Tenancy.Proofs
