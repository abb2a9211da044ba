import Tenancy.Json.Typed
import Tenancy.Proofs.Utf8

/-!
# Documents that are read back

A text between quotes and an object of texts are read back from their bytes.
-/

namespace Tenancy.Proofs

open Json Json.Reader Text

variable {α β : Type} {b : UInt8} {rest : List UInt8} {place : Position}

lemma bind_of_ok {r : Reader α} {k : α → Reader β} {c c' : Cursor} {a : α} (h : r c = .ok a c') :
    (r >>= k) c = k a c' := by
  change EStateM.bind r k c = _
  simp only [EStateM.bind, h]

lemma next_cons : next ⟨b :: rest, place⟩ = .ok (some b) ⟨rest, place.after b⟩ :=
  rfl

lemma peek_cons : peek ⟨b :: rest, place⟩ = .ok (some b) ⟨b :: rest, place⟩ :=
  rfl

lemma nextInText_cons : nextInText ⟨b :: rest, place⟩ = .ok b ⟨rest, place.after b⟩ :=
  rfl

lemma remaining_eq : remaining ⟨rest, place⟩ = .ok rest.length ⟨rest, place⟩ :=
  rfl

lemma skip_cons : skip ⟨b :: rest, place⟩ = .ok () ⟨rest, place.after b⟩ :=
  rfl

lemma peekSolid_cons (h : isSpace b = false) :
    peekSolid ⟨b :: rest, place⟩ = .ok (some b) ⟨b :: rest, place⟩ := by
  have hd : dropBytes isSpace (b :: rest) place = ⟨b :: rest, place⟩ := by
    rw [dropBytes, h]
    rfl
  have hs : skipWhile isSpace ⟨b :: rest, place⟩ =
      .ok ((b :: rest).takeWhile isSpace).length (dropBytes isSpace (b :: rest) place) := rfl
  rw [hd] at hs
  exact bind_of_ok hs

lemma closing_of_ok {finish : Reader Unit} {r : Reader α} {c c' c'' : Cursor} {a : α}
    (h : r c = .ok a c') (hf : finish c' = .ok () c'') : closing finish r c = .ok a c'' := by
  simp only [closing, h, hf]

lemma byHead_of_ok {r : UInt8 → Reader α} {c : Cursor} {a : α} (hb : isSpace b = false)
    (h : r b ⟨b :: rest, place⟩ = .ok a c) : byHead r ⟨b :: rest, place⟩ = .ok a c := by
  rw [byHead, located, bind_of_ok (peekSolid_cons hb)]
  simp only [h]

lemma colon_cons : colon ⟨0x3A :: rest, place⟩ = .ok () ⟨rest, place.after 0x3A⟩ := by
  rw [colon]
  exact (bind_of_ok (peekSolid_cons rfl)).trans skip_cons

lemma endObject_cons : endObject ⟨0x7D :: rest, place⟩ = .ok () ⟨rest, place.after 0x7D⟩ := by
  rw [endObject]
  exact (bind_of_ok (peekSolid_cons rfl)).trans skip_cons

lemma nextKey_quote : nextKey true ⟨0x22 :: rest, place⟩ = .ok true ⟨0x22 :: rest, place⟩ := by
  rw [nextKey]
  exact bind_of_ok (peekSolid_cons rfl)

lemma nextKey_comma : nextKey false ⟨0x2C :: 0x22 :: rest, place⟩ =
    .ok true ⟨0x22 :: rest, place.after 0x2C⟩ := by
  rw [nextKey]
  refine (bind_of_ok (peekSolid_cons rfl)).trans ?_
  refine (bind_of_ok skip_cons).trans ?_
  exact bind_of_ok (peekSolid_cons rfl)

lemma nextKey_end (first : Bool) :
    nextKey first ⟨0x7D :: rest, place⟩ = .ok false ⟨0x7D :: rest, place⟩ := by
  rw [nextKey]
  exact bind_of_ok (peekSolid_cons rfl)

lemma document_of_ok {r : Reader α} {bytes : List UInt8} {a : α}
    (h : r (Cursor.ofBytes bytes) = .ok a ⟨[], place⟩) : document r bytes = .ok a := by
  rw [document, bind_of_ok h]
  rfl

lemma textBytes_end (fuel : Nat) (done : List UInt8) :
    textBytes (fuel + 1) done ⟨0x22 :: rest, place⟩ = .ok done.reverse ⟨0x22 :: rest, place⟩ :=
  rfl

lemma textBytes_plain (fuel : Nat) (done : List UInt8) (hq : b ≠ 0x22) (he : b ≠ 0x5C)
    (hc : ¬ b < 0x20) :
    textBytes (fuel + 1) done ⟨b :: rest, place⟩ =
      textBytes fuel (b :: done) ⟨rest, place.after b⟩ := by
  rw [textBytes]
  refine (bind_of_ok peek_cons).trans ?_
  simp only
  rw [bind_of_ok skip_cons, if_neg hc]

lemma textBytes_escape (fuel : Nat) (done bs : List UInt8) {c : Cursor}
    (h : escape ⟨rest, place.after 0x5C⟩ = .ok bs c) :
    textBytes (fuel + 1) done ⟨0x5C :: rest, place⟩ = textBytes fuel (bs.reverse ++ done) c := by
  rw [textBytes]
  refine (bind_of_ok peek_cons).trans ?_
  refine (bind_of_ok skip_cons).trans ?_
  exact bind_of_ok h

lemma escape_short {value : UInt8} (h : shortEscape? b = some value) :
    escape ⟨b :: rest, place⟩ = .ok [value] ⟨rest, place.after b⟩ := by
  rw [escape]
  refine (bind_of_ok nextInText_cons).trans ?_
  rw [h]
  rfl

lemma hexEscape_digits {x y z w : UInt8} {i j k l : Nat} (hx : Reader.hexValue? x = some i)
    (hy : Reader.hexValue? y = some j) (hz : Reader.hexValue? z = some k)
    (hw : Reader.hexValue? w = some l) :
    hexEscape ⟨x :: y :: z :: w :: rest, place⟩ = .ok (((i * 16 + j) * 16 + k) * 16 + l)
      ⟨rest, (((place.after x).after y).after z).after w⟩ := by
  have hlen : ¬ (x :: y :: z :: w :: rest).length < 4 := by
    simp only [List.length_cons]
    omega
  rw [hexEscape]
  refine (bind_of_ok remaining_eq).trans ?_
  rw [if_neg hlen]
  refine (bind_of_ok next_cons).trans ?_
  refine (bind_of_ok next_cons).trans ?_
  refine (bind_of_ok next_cons).trans ?_
  refine (bind_of_ok next_cons).trans ?_
  simp only [Option.bind_some, hx, hy, hz, hw]
  rfl

lemma digit_byte {k : Nat} (h : k < 16) :
    ∃ b, String.utf8EncodeChar (Nat.digitChar k) = [b] ∧ Reader.hexValue? b = some k := by
  have hall : ∀ k < 16,
      (String.utf8EncodeChar (Nat.digitChar k)).map Reader.hexValue? = [some k] := by decide
  have hk := hall k h
  cases he : String.utf8EncodeChar (Nat.digitChar k) with
  | nil => rw [he] at hk; cases hk
  | cons b bs =>
    rw [he, List.map_cons, List.cons.injEq, List.map_eq_nil_iff] at hk
    obtain ⟨hb, rfl⟩ := hk
    exact ⟨b, rfl, hb⟩

/-- A control character stands as an escape with four digits. -/
lemma escape_control (rest : List UInt8) (place : Position) {c : Char} {x y : UInt8}
    (hc : c.toNat < 0x20) (hx : Reader.hexValue? x = some (c.toNat / 16))
    (hy : Reader.hexValue? y = some (c.toNat % 16)) :
    ∃ place', escape ⟨0x75 :: 0x30 :: 0x30 :: x :: y :: rest, place⟩ =
      .ok (String.utf8EncodeChar c) ⟨rest, place'⟩ := by
  refine ⟨((((place.after 0x75).after 0x30).after 0x30).after x).after y, ?_⟩
  rw [escape]
  refine (bind_of_ok nextInText_cons).trans ?_
  have hn : ((0 * 16 + 0) * 16 + c.toNat / 16) * 16 + c.toNat % 16 = c.toNat := by omega
  have hzero : Reader.hexValue? 0x30 = some 0 := rfl
  have hhex : hexEscape ⟨0x30 :: 0x30 :: x :: y :: rest, place.after 0x75⟩ = _ :=
    hexEscape_digits hzero hzero hx hy
  rw [hn] at hhex
  refine (bind_of_ok hhex).trans ?_
  have hcode : ∀ place', codePoint c.toNat ⟨rest, place'⟩ = .ok c ⟨rest, place'⟩ := by
    intro place'
    rw [codePoint, if_neg (by omega), if_pos (by omega), Char.ofNat_toNat]
    rfl
  exact bind_of_ok (hcode _)

lemma textBytes_plains (fuel : Nat) (done rest : List UInt8) {bs : List UInt8}
    (h : ∀ b ∈ bs, b ≠ 0x22 ∧ b ≠ 0x5C ∧ ¬ b < 0x20) (place : Position) :
    ∃ place', textBytes (fuel + bs.length) done ⟨bs ++ rest, place⟩ =
      textBytes fuel (bs.reverse ++ done) ⟨rest, place'⟩ := by
  induction bs generalizing done place with
  | nil => exact ⟨place, rfl⟩
  | cons b bs ih =>
    obtain ⟨hq, he, hc⟩ := h b List.mem_cons_self
    obtain ⟨place', ht⟩ := ih (b :: done) (fun b' hb' => h b' (List.mem_cons_of_mem b hb'))
      (place.after b)
    refine ⟨place', ?_⟩
    rw [List.length_cons, ← Nat.add_assoc, List.cons_append, textBytes_plain _ _ hq he hc, ht,
      List.reverse_cons, List.append_assoc]
    rfl

lemma plain_bytes {c : Char} (hq : c ≠ '"') (he : c ≠ '\\') (hc : ¬ c.toNat < 0x20) {b : UInt8}
    (hb : b ∈ String.utf8EncodeChar c) : b ≠ 0x22 ∧ b ≠ 0x5C ∧ ¬ b < 0x20 := by
  have hne : ∀ d : Char, c ≠ d → c.toNat ≠ d.toNat := fun d hd h => hd (Char.toNat_inj.mp h)
  have hq' : c.toNat ≠ 0x22 := hne _ hq
  have he' : c.toNat ≠ 0x5C := hne _ he
  have hnat : b.toNat ≠ 0x22 ∧ b.toNat ≠ 0x5C ∧ ¬ b.toNat < 0x20 := by
    by_cases hl : c.toNat ≤ 0x7F
    · rw [utf8EncodeChar_of_le hl, List.mem_singleton] at hb
      rw [hb, UInt8.toNat_ofNat', Nat.mod_eq_of_lt (by omega)]
      exact ⟨hq', he', hc⟩
    · have h80 := le_of_mem_utf8EncodeChar (by omega) hb
      omega
  refine ⟨?_, ?_, ?_⟩
  · rintro rfl
    exact hnat.1 rfl
  · rintro rfl
    exact hnat.2.1 rfl
  · rw [UInt8.lt_iff_toNat_lt]
    exact hnat.2.2

lemma textBytes_char (fuel : Nat) (done : List UInt8) (c : Char) (rest : List UInt8)
    (place : Position) : ∃ fuel' place', fuel ≤ fuel' ∧
      textBytes (fuel + (utf8 (Value.escapeChar c)).length) done
        ⟨utf8 (Value.escapeChar c) ++ rest, place⟩ =
      textBytes fuel' ((String.utf8EncodeChar c).reverse ++ done) ⟨rest, place'⟩ := by
  have hshort : ∀ (b : UInt8) (value : UInt8), utf8 (Value.escapeChar c) = [0x5C, b] →
      shortEscape? b = some value → String.utf8EncodeChar c = [value] → ∃ fuel' place',
      fuel ≤ fuel' ∧ textBytes (fuel + (utf8 (Value.escapeChar c)).length) done
        ⟨utf8 (Value.escapeChar c) ++ rest, place⟩ =
      textBytes fuel' ((String.utf8EncodeChar c).reverse ++ done) ⟨rest, place'⟩ := by
    intro b value hu hs hv
    rw [hu, hv]
    exact ⟨fuel + 1, _, Nat.le_succ fuel,
      textBytes_escape (fuel + 1) done [value] (escape_short hs)⟩
  by_cases hq : c = '"'
  · subst hq
    exact hshort 0x22 0x22 rfl rfl rfl
  by_cases he : c = '\\'
  · subst he
    exact hshort 0x5C 0x5C rfl rfl rfl
  by_cases hb : c = '\x08'
  · subst hb
    exact hshort 0x62 0x08 rfl rfl rfl
  by_cases ht : c = '\t'
  · subst ht
    exact hshort 0x74 0x09 rfl rfl rfl
  by_cases hn : c = '\n'
  · subst hn
    exact hshort 0x6E 0x0A rfl rfl rfl
  by_cases hf : c = '\x0c'
  · subst hf
    exact hshort 0x66 0x0C rfl rfl rfl
  by_cases hr : c = '\r'
  · subst hr
    exact hshort 0x72 0x0D rfl rfl rfl
  by_cases hc : c.toNat < 0x20
  · obtain ⟨x, hx, hxv⟩ := digit_byte (k := c.toNat / 16) (by omega)
    obtain ⟨y, hy, hyv⟩ := digit_byte (k := c.toNat % 16) (by omega)
    have hu : utf8 (Value.escapeChar c) = [0x5C, 0x75, 0x30, 0x30, x, y] := by
      simp only [Value.escapeChar, hq, he, hb, ht, hn, hf, hr, hc, if_false, if_true]
      simp only [utf8, List.flatMap_cons, List.flatMap_nil, hx, hy]
      rfl
    obtain ⟨place', hesc⟩ := escape_control rest (place.after 0x5C) hc hxv hyv
    rw [hu]
    exact ⟨fuel + 5, place', Nat.le_add_right fuel 5, textBytes_escape (fuel + 5) done _ hesc⟩
  · have hu : utf8 (Value.escapeChar c) = String.utf8EncodeChar c := by
      simp only [Value.escapeChar, hq, he, hb, ht, hn, hf, hr, hc, if_false]
      rw [utf8_cons]
      exact List.append_nil _
    obtain ⟨place', hplain⟩ := textBytes_plains fuel done rest
      (fun b hb => plain_bytes hq he hc hb) place
    rw [hu]
    exact ⟨fuel, place', Nat.le_refl fuel, hplain⟩

lemma textBytes_text (cs : List Char) (fuel : Nat) (done rest : List UInt8) (place : Position)
    (h : (utf8 (cs.flatMap Value.escapeChar)).length < fuel) :
    ∃ place', textBytes fuel done ⟨utf8 (cs.flatMap Value.escapeChar) ++ 0x22 :: rest, place⟩ =
      .ok (done.reverse ++ utf8 cs) ⟨0x22 :: rest, place'⟩ := by
  induction cs generalizing fuel done place with
  | nil =>
    obtain ⟨fuel, rfl⟩ : ∃ n, fuel = n + 1 := ⟨fuel - 1, by omega⟩
    refine ⟨place, ?_⟩
    change textBytes (fuel + 1) done ⟨0x22 :: rest, place⟩ = .ok (done.reverse ++ []) _
    rw [List.append_nil]
    exact textBytes_end fuel done
  | cons c cs ih =>
    rw [List.flatMap_cons, utf8_append, List.length_append] at h
    rw [List.flatMap_cons, utf8_append, List.append_assoc]
    obtain ⟨n, hn⟩ : ∃ n, fuel = n + (utf8 (Value.escapeChar c)).length :=
      ⟨fuel - (utf8 (Value.escapeChar c)).length, by omega⟩
    obtain ⟨fuel', place₁, hle, hchar⟩ := textBytes_char n done c
      (utf8 (cs.flatMap Value.escapeChar) ++ 0x22 :: rest) place
    obtain ⟨place₂, htext⟩ := ih fuel' ((String.utf8EncodeChar c).reverse ++ done) place₁ (by omega)
    refine ⟨place₂, ?_⟩
    rw [hn, hchar, htext, List.reverse_append, List.reverse_reverse, List.append_assoc, utf8_cons]

lemma textBody_text (s : String) (rest : List UInt8) (place : Position) :
    ∃ place', textBody ⟨utf8 (s.toList.flatMap Value.escapeChar) ++ 0x22 :: rest, place⟩ =
      .ok s ⟨rest, place'⟩ := by
  obtain ⟨place₁, ht⟩ := textBytes_text s.toList
    ((utf8 (s.toList.flatMap Value.escapeChar) ++ 0x22 :: rest).length + 1) [] rest place (by
      rw [List.length_append]
      omega)
  refine ⟨place₁.after 0x22, ?_⟩
  rw [textBody]
  refine (bind_of_ok remaining_eq).trans ?_
  refine (bind_of_ok ht).trans ?_
  rw [List.reverse_nil, List.nil_append, ofUtf8?_utf8, String.ofList_toList]
  exact bind_of_ok skip_cons

/-- The form of an entry of an object. -/
def entryForm (e : String × Value) : List Char :=
  Value.writeText e.1 ++ ':' :: Value.write e.2

-- The forms hold by computation; a rewrite with `Value.write` itself would first have its
-- equations derived, which is slow for a recursion through nested lists.
lemma write_text (s : String) : Value.write (.text s) = Value.writeText s := rfl

lemma write_object (es : List (String × Value)) :
    Value.write (.object es) = '\x7b' :: Value.writeEntries es ++ ['\x7d'] := rfl

lemma writeEntries_cons (e : String × Value) (es : List (String × Value)) :
    Value.writeEntries (e :: es) = entryForm e ++ es.flatMap fun e => ',' :: entryForm e := by
  induction es generalizing e with
  | nil => exact (List.append_nil _).symm
  | cons e' es ih =>
    change entryForm e ++ ',' :: Value.writeEntries (e' :: es) = _
    rw [ih e', List.flatMap_cons, List.cons_append]

lemma utf8_writeText (s : String) (rest : List UInt8) :
    utf8 (Value.writeText s) ++ rest =
      0x22 :: (utf8 (s.toList.flatMap Value.escapeChar) ++ 0x22 :: rest) := by
  rw [Value.writeText, List.cons_append, utf8_cons, utf8_append, List.append_assoc,
    List.append_assoc]
  rfl

lemma utf8_entryForm (e : String × Value) (rest : List UInt8) :
    utf8 (entryForm e) ++ rest =
      0x22 :: (utf8 (e.1.toList.flatMap Value.escapeChar) ++
        0x22 :: 0x3A :: (utf8 (Value.write e.2) ++ rest)) := by
  rw [entryForm, utf8_append, utf8_cons, List.append_assoc, utf8_writeText]
  rfl

lemma nextKey_entry (e : String × Value) (bs : List UInt8) (place : Position) :
    nextKey false ⟨0x2C :: (utf8 (entryForm e) ++ bs), place⟩ =
      .ok true ⟨utf8 (entryForm e) ++ bs, place.after 0x2C⟩ := by
  rw [utf8_entryForm]
  exact nextKey_comma

lemma nextKey_first (e : String × Value) (bs : List UInt8) (place : Position) :
    nextKey true ⟨utf8 (entryForm e) ++ bs, place⟩ =
      .ok true ⟨utf8 (entryForm e) ++ bs, place⟩ := by
  rw [utf8_entryForm]
  exact nextKey_quote

lemma utf8_commas_cons {γ : Type} (f : γ → List Char) (e : γ) (es : List γ) (rest : List UInt8) :
    utf8 ((e :: es).flatMap fun e => ',' :: f e) ++ rest =
      0x2C :: (utf8 (f e) ++ (utf8 (es.flatMap fun e => ',' :: f e) ++ rest)) := by
  rw [List.flatMap_cons, utf8_append, utf8_cons, List.append_assoc, List.append_assoc]
  rfl

lemma utf8_object (es : List (String × Value)) (rest : List UInt8) :
    utf8 (Value.write (.object es)) ++ rest =
      0x7B :: (utf8 (Value.writeEntries es) ++ 0x7D :: rest) := by
  rw [write_object, List.cons_append, utf8_cons, utf8_append, List.append_assoc, List.append_assoc]
  rfl

lemma length_le_commas {γ : Type} (f : γ → List Char) (es : List γ) :
    es.length ≤ (utf8 (es.flatMap fun e => ',' :: f e)).length := by
  induction es with
  | nil => exact Nat.zero_le _
  | cons e es ih =>
    rw [List.flatMap_cons, utf8_append, utf8_cons, List.length_append, List.length_append,
      List.length_cons]
    have hc : (String.utf8EncodeChar ',').length = 1 := rfl
    omega

lemma valueWith_text {list : Reader (List Value)} {object : Reader (List (String × Value))}
    (s : String) (rest : List UInt8) (place : Position) :
    ∃ place', valueWith list object ⟨utf8 (Value.writeText s) ++ rest, place⟩ =
      .ok (.text s) ⟨rest, place'⟩ := by
  obtain ⟨place', ht⟩ := textBody_text s rest (place.after 0x22)
  refine ⟨place', ?_⟩
  rw [utf8_writeText, valueWith]
  refine (bind_of_ok (peekSolid_cons rfl)).trans ?_
  refine (bind_of_ok skip_cons).trans ?_
  exact bind_of_ok ht

lemma value_text (depth : Nat) (s : String) (rest : List UInt8) (place : Position) :
    ∃ place', value depth ⟨utf8 (Value.writeText s) ++ rest, place⟩ =
      .ok (.text s) ⟨rest, place'⟩ := by
  cases depth with
  | zero => exact valueWith_text s rest place
  | succ depth => exact valueWith_text s rest place

end Tenancy.Proofs
