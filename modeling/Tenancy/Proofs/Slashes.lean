import Mathlib.Data.List.DropRight
import Tenancy.Proofs.Addresses

/-!
# Slashes in names

The name that an address gives is put together from its host and a segment of its path, or the
owner. However they are written, no host and no segment holds a slash. So a name begins or ends with
one only where one of its two parts is empty and the slash between them is written all the same.
-/

namespace Tenancy.Proofs

open Url Text AccountName

variable {c : Char} {s t label : List Char} {labels : List (List Char)} {n : Nat}

lemma eq_of_ofNat_slash (h : Char.ofNat n = '/') : n = 0x2F := by
  by_cases hn : n.isValidChar
  · rw [Char.ofNat, dif_pos hn] at h
    exact congrArg Char.toNat h
  · rw [Char.ofNat, dif_neg hn] at h
    cases h

lemma digitChar_ne_slash (n : Nat) : '/' ≠ Nat.digitChar n :=
  (Nat.digitChar_ne '/' rfl).symm

lemma slash_notMem_toDigits {base : Nat} (hbase : 1 < base) (n : Nat) :
    '/' ∉ Nat.toDigits base n := by
  induction n using Nat.strongRecOn with
  | ind n ih =>
    rw [Nat.toDigits_eq_if hbase]
    split
    · exact List.not_mem_cons_of_ne_of_not_mem (digitChar_ne_slash n) List.not_mem_nil
    · have hlt : n / base < n := Nat.div_lt_self (by omega) hbase
      rw [List.mem_append, not_or, List.mem_singleton]
      exact ⟨ih (n / base) hlt, digitChar_ne_slash _⟩

lemma slash_notMem_percentCode (b : UInt8) : '/' ∉ percentCode b := by
  have hdigit : ∀ n < 16, '/' ≠ hexDigit n := by decide
  have hb := b.toNat_lt
  unfold percentCode
  simp only [List.mem_cons, List.not_mem_nil, or_false, not_or]
  exact ⟨by decide, hdigit _ (by omega), hdigit _ (by omega)⟩

/-- The byte of a slash stands for nothing but a slash. -/
lemma slash_mem_of_utf8 {b : UInt8} (hb : b ∈ utf8 s) (hslash : Char.ofNat b.toNat = '/') :
    '/' ∈ s := by
  obtain ⟨c, hc, hb⟩ := List.mem_flatMap.mp hb
  have hcode := eq_of_ofNat_slash hslash
  by_cases hle : c.toNat ≤ 0x7F
  · rw [utf8EncodeChar_of_le hle, List.mem_singleton] at hb
    rw [hb, UInt8.toNat_ofNat', Nat.mod_eq_of_lt (by omega), Char.ofNat_toNat] at hslash
    exact hslash ▸ hc
  · have hhigh := le_of_mem_utf8EncodeChar (by omega) hb
    omega

lemma slash_notMem_percentEncode (plain : UInt8 → Bool) (h : '/' ∉ s) :
    '/' ∉ percentEncode plain s := by
  intro hslash
  obtain ⟨b, hb, hslash⟩ := List.mem_flatMap.mp hslash
  split at hslash
  · exact h (slash_mem_of_utf8 hb (List.mem_singleton.mp hslash).symm)
  · exact slash_notMem_percentCode b hslash

/-- No part holds a slash. -/
def Slashless (parts : List (List Char)) : Prop :=
  ∀ part ∈ parts, '/' ∉ part

section Parts

variable {sep : Char → Bool} {parts : List (List Char)}

lemma slashless_nil : Slashless [] :=
  fun _ hpart => nomatch hpart

lemma slashless_cons : Slashless (s :: parts) ↔ '/' ∉ s ∧ Slashless parts :=
  List.forall_mem_cons

lemma slashless_empty : Slashless [[]] :=
  slashless_cons.mpr ⟨List.not_mem_nil, slashless_nil⟩

lemma slash_notMem_intercalate {d : Char} (hd : d ≠ '/') (h : Slashless parts) :
    '/' ∉ List.intercalate [d] parts := by
  intro hslash
  rcases mem_intercalate hslash with rfl | ⟨part, hpart, hslash⟩
  · exact hd rfl
  · exact h part hpart hslash

lemma slashless_splitAt (hsep : sep '/' = true) (s : List Char) : Slashless (splitAt sep s) := by
  have hne : ∀ {c}, ¬sep c = true → '/' ≠ c := by
    rintro c hc rfl
    exact hc hsep
  fun_induction splitAt sep s with
  | case1 => exact slashless_empty
  | case2 c s hc ih => exact slashless_cons.mpr ⟨List.not_mem_nil, ih⟩
  | case3 c s hc hnil ih =>
    refine slashless_cons.mpr ⟨?_, slashless_nil⟩
    exact List.not_mem_cons_of_ne_of_not_mem (hne hc) List.not_mem_nil
  | case4 c s hc part parts hparts ih =>
    rw [hparts] at ih
    obtain ⟨hpart, hrest⟩ := slashless_cons.mp ih
    refine slashless_cons.mpr ⟨?_, hrest⟩
    exact List.not_mem_cons_of_ne_of_not_mem (hne hc) hpart

end Parts

section Segments

variable {kind : SchemeKind} {segments done : List (List Char)}

lemma slashless_parentOf (h : Slashless done) : Slashless (parentOf done) := by
  cases done with
  | nil => exact h
  | cons last front =>
    rw [parentOf]
    split
    · exact h
    · exact (slashless_cons.mp h).2

lemma slashless_addSegment (hdone : Slashless done) (hs : '/' ∉ s) :
    Slashless (addSegment kind done s) := by
  unfold addSegment
  split
  · refine slashless_cons.mpr ⟨?_, slashless_nil⟩
    unfold driveName
    rw [List.mem_append, not_or]
    exact ⟨fun hslash => hs (List.mem_of_mem_take hslash), by decide⟩
  · exact slashless_cons.mpr ⟨hs, hdone⟩

lemma slashless_reverse (h : Slashless done) : Slashless done.reverse :=
  fun part hpart => h part (List.mem_reverse.mp hpart)

lemma slashless_normalize (hdone : Slashless done) (h : Slashless segments) :
    Slashless (Url.normalize kind done segments) := by
  fun_induction Url.normalize kind done segments with
  | case1 done => exact slashless_reverse hdone
  | case2 done last hparent =>
    exact slashless_reverse
      (slashless_cons.mpr ⟨List.not_mem_nil, slashless_parentOf hdone⟩)
  | case3 done last hparent hself =>
    exact slashless_reverse (slashless_cons.mpr ⟨List.not_mem_nil, hdone⟩)
  | case4 done last hparent hself =>
    exact slashless_reverse (slashless_addSegment hdone (slashless_cons.mp h).1)
  | case5 done segment rest hne hparent ih =>
    exact ih (slashless_parentOf hdone) (slashless_cons.mp h).2
  | case6 done segment rest hne hparent hself ih => exact ih hdone (slashless_cons.mp h).2
  | case7 done segment rest hne hparent hself ih =>
    obtain ⟨hsegment, hrest⟩ := slashless_cons.mp h
    exact ih (slashless_addSegment hdone hsegment) hrest

lemma slashless_segmentsOf (kind : SchemeKind) (path : List Char) :
    Slashless (segmentsOf kind path) := by
  apply slashless_normalize slashless_nil
  intro segment hsegment
  obtain ⟨part, hpart, rfl⟩ := List.mem_map.mp hsegment
  exact slash_notMem_percentEncode _ (slashless_splitAt rfl _ part hpart)

lemma slashless_fileSegments (h : Slashless segments) : Slashless (fileSegments segments) := by
  unfold fileSegments
  split
  · exact slashless_empty
  · exact fun part hpart => h part ((List.dropWhile_sublist _).subset hpart)

lemma slashless_pathBehindHost (kind : SchemeKind) (path : List Char) :
    Slashless (pathBehindHost kind path) := by
  fun_cases pathBehindHost kind path
  all_goals
    first
    | exact slashless_empty
    | exact slashless_nil
    | exact slashless_segmentsOf kind _

end Segments

section Encoded

open Punycode

lemma digit_ne_slash (n : Nat) : '/' ≠ Punycode.digit n := by
  intro h
  have hcode := eq_of_ofNat_slash h.symm
  split at hcode <;> omega

lemma slash_notMem_distanceDigits (bias place delta : Nat) :
    '/' ∉ distanceDigits bias place delta := by
  fun_induction distanceDigits bias place delta with
  | case1 place delta t hlt =>
    exact List.not_mem_cons_of_ne_of_not_mem (digit_ne_slash _) List.not_mem_nil
  | case2 place delta t hge ih => exact List.not_mem_cons_of_ne_of_not_mem (digit_ne_slash _) ih

lemma slash_notMem_placeDigits (ascii : Nat) (c : Char) (label : List Char) (p : Progress) :
    '/' ∉ (placeDigits ascii c label p).1 := by
  fun_induction placeDigits ascii c label p with
  | case1 p => exact List.not_mem_nil
  | case2 p d label hlt ih => exact ih
  | case3 label p digits q hplaced hlt ih =>
    rw [hplaced] at ih
    rw [List.mem_append, not_or]
    exact ⟨slash_notMem_distanceDigits _ _ _, ih⟩
  | case4 p d label hlt hne ih => exact ih

lemma slash_notMem_encodeFrom (label : List Char) (ascii : Nat) (cs : List Char) (next : Nat)
    (p : Progress) : '/' ∉ encodeFrom label ascii cs next p := by
  induction cs generalizing next p with
  | nil => exact List.not_mem_nil
  | cons c cs ih =>
    unfold encodeFrom
    rw [List.mem_append, not_or]
    exact ⟨slash_notMem_placeDigits _ _ _ _, ih _ _⟩

lemma slash_notMem_encode (h : '/' ∉ label) : '/' ∉ Punycode.encode label := by
  have hascii : '/' ∉ label.filter fun c => c.toNat < 0x80 :=
    fun hslash => h (List.mem_of_mem_filter hslash)
  unfold Punycode.encode
  rw [List.mem_append, not_or]
  refine ⟨?_, slash_notMem_encodeFrom _ _ _ _ _⟩
  split
  · exact List.not_mem_nil
  · rw [List.mem_append, not_or]
    exact ⟨hascii, by decide⟩

lemma mem_insertAt {d : Char} (h : c ∈ insertAt d n s) : c = d ∨ c ∈ s := by
  fun_induction insertAt d n s with
  | case1 s => exact List.mem_cons.mp h
  | case2 n => exact .inl (List.mem_singleton.mp h)
  | case3 n e s ih =>
    rcases List.mem_cons.mp h with rfl | h
    · exact .inr List.mem_cons_self
    · exact (ih h).imp_right (List.mem_cons_of_mem _)

lemma char?_ne_slash (hn : 0x80 ≤ n) (h : char? n = some c) : '/' ≠ c := by
  by_cases hvalid : n.isValidChar
  · rw [char?, dif_pos hvalid] at h
    cases h
    intro hslash
    have hcode : 0x2F = n := congrArg Char.toNat hslash
    omega
  · rw [char?, dif_neg hvalid] at h
    cases h

/-- Only characters beyond ASCII are inserted. -/
lemma slash_notMem_decodeFrom {fuel next place bias : Nat} {digits : List Char}
    (hnext : 0x80 ≤ next) (hlabel : '/' ∉ label)
    (h : decodeFrom fuel digits next place bias label = some t) : '/' ∉ t := by
  induction fuel generalizing digits next place bias label with
  | zero =>
    cases digits with
    | nil =>
      cases h
      exact hlabel
    | cons d digits => cases h
  | succ fuel ih =>
    cases digits with
    | nil =>
      cases h
      exact hlabel
    | cons d digits =>
      simp only [decodeFrom, Option.bind_eq_bind, Option.bind_none, Option.bind_eq_some_iff,
        Option.ite_none_left_eq_some] at h
      obtain ⟨distance, -, -, -, c, hc, hrest⟩ := h
      have hbeyond : 0x80 ≤ next + (place + distance.1) / (label.length + 1) :=
        hnext.trans (Nat.le_add_right _ _)
      refine ih hbeyond (fun hslash => ?_) hrest
      rcases mem_insertAt hslash with rfl | hslash
      · exact char?_ne_slash hbeyond hc rfl
      · exact hlabel hslash

lemma slash_notMem_decode (h : Punycode.decode s = some t) (hs : '/' ∉ s) : '/' ∉ t := by
  have hfront : '/' ∉ (splitLastHyphen s).1 := by
    unfold splitLastHyphen
    simp only
    split
    · exact List.not_mem_nil
    · exact fun hslash => hs (List.mem_of_mem_take hslash)
  exact slash_notMem_decodeFrom (by decide) hfront h

end Encoded

section Hosts

lemma slash_notMem_decimal (n : Nat) : '/' ∉ decimal n :=
  slash_notMem_toDigits (by decide) n

lemma slash_notMem_address4Text (n : Nat) : '/' ∉ address4Text n := by
  apply slash_notMem_intercalate (by decide)
  simp only [slashless_cons, slash_notMem_decimal, slashless_nil, not_false_eq_true, and_self]

lemma slash_notMem_piecesText (pieces : List Nat) : '/' ∉ piecesText pieces := by
  apply slash_notMem_intercalate (by decide)
  intro part hpart
  obtain ⟨n, -, rfl⟩ := List.mem_map.mp hpart
  exact slash_notMem_toDigits (by decide) n

lemma slash_notMem_address16Text (pieces : List Nat) : '/' ∉ address16Text pieces := by
  unfold address16Text
  simp only
  split
  · exact slash_notMem_piecesText _
  · rw [List.mem_append, List.mem_append, not_or, not_or]
    exact ⟨⟨slash_notMem_piecesText _, by decide⟩, slash_notMem_piecesText _⟩

lemma slash_notMem_of_allowed (h : ¬ s.any isForbidden = true) : '/' ∉ s :=
  fun hslash => h (List.any_eq_true.mpr ⟨'/', hslash, by decide +kernel⟩)

lemma slash_notMem_plainToAscii? (hascii : ∀ c ∈ s, c.toNat < 128)
    (h : plainToAscii? s = some t) : '/' ∉ t := by
  unfold plainToAscii? at h
  split at h
  · cases h
  · rename_i hallowed
    cases h
    intro hslash
    obtain ⟨c, hc, hlow⟩ := List.mem_map.mp hslash
    have hsame : c.toLower = '/' → c = '/' := by
      apply forall_ascii c (hascii c hc)
      decide +kernel
    exact slash_notMem_of_allowed hallowed (hsame hlow ▸ hc)

lemma slash_notMem_readLabel? (h : readLabel? s = some t) : '/' ∉ t := by
  unfold readLabel? at h
  split at h
  · cases h
  · rename_i hallowed
    have hs := slash_notMem_of_allowed hallowed
    split at h
    · unfold decodeLabel? at h
      split at h
      · cases h
      · have hdecoded := (Option.filter_eq_some_iff.mp h).1
        exact slash_notMem_decode hdecoded fun hslash => hs (List.mem_of_mem_drop hslash)
    · cases h
      exact hs

lemma slash_notMem_writeLabel? (hs : '/' ∉ s) (h : writeLabel? s = some t) : '/' ∉ t := by
  unfold writeLabel? at h
  split at h
  · cases h
    exact hs
  · split at h
    · cases h
    · cases h
      rw [List.mem_append, not_or]
      exact ⟨by decide, slash_notMem_encode hs⟩

lemma slashless_mapM {f : List Char → Option (List Char)} {parts : List (List Char)}
    (hf : ∀ s ∈ parts, ∀ t, f s = some t → '/' ∉ t) (h : parts.mapM f = some labels) :
    Slashless labels := by
  induction parts generalizing labels with
  | nil =>
    cases h
    exact slashless_nil
  | cons s parts ih =>
    simp only [List.mapM_cons, Option.bind_eq_bind, Option.bind_eq_some_iff, Option.pure_def,
      Option.some.injEq] at h
    obtain ⟨t, ht, rest, hrest, rfl⟩ := h
    have hparts := fun s hs => hf s (List.mem_cons_of_mem _ hs)
    exact slashless_cons.mpr ⟨hf s List.mem_cons_self t ht, ih hparts hrest⟩

lemma slash_notMem_joinLabels (h : Slashless labels) : '/' ∉ joinLabels labels := by
  fun_induction joinLabels labels with
  | case1 => exact List.not_mem_nil
  | case2 l => exact (slashless_cons.mp h).1
  | case3 l ls hne ih =>
    obtain ⟨hl, hls⟩ := slashless_cons.mp h
    rw [List.mem_append, List.mem_cons, not_or, not_or]
    exact ⟨hl, by decide, ih hls⟩

lemma slash_notMem_foreignToAscii? (h : foreignToAscii? s = some t) : '/' ∉ t := by
  simp only [foreignToAscii?, Option.bind_eq_bind, Option.bind_eq_some_iff,
    Option.ite_none_left_eq_some, Option.pure_def, Option.some.injEq] at h
  obtain ⟨name, -, labels, hread, -, written, hwritten, rfl⟩ := h
  have hlabels := slashless_mapM (fun _ _ _ => slash_notMem_readLabel?) hread
  apply slash_notMem_joinLabels
  refine slashless_mapM (fun label hlabel _ => ?_) hwritten
  exact slash_notMem_writeLabel? (hlabels label hlabel)

lemma slash_notMem_toAscii? {bytes : List UInt8} (h : toAscii? bytes = some t) : '/' ∉ t := by
  unfold toAscii? at h
  split at h
  · cases h
  · split at h
    · rename_i name hname hplain
      have hascii := (Bool.and_eq_true_iff.mp hplain).1
      refine slash_notMem_plainToAscii? (fun c hc => ?_) h
      exact of_decide_eq_true (List.all_eq_true.mp hascii c hc)
    · exact slash_notMem_foreignToAscii? h

lemma slash_notMem_hostOf? (h : hostOf? s = some t) : '/' ∉ t := by
  unfold hostOf? at h
  split at h
  · split at h
    · obtain ⟨pieces, -, rfl⟩ := Option.map_eq_some_iff.mp h
      rw [List.mem_append, List.mem_cons, not_or, not_or]
      exact ⟨⟨by decide, slash_notMem_address16Text _⟩, by decide⟩
    · cases h
  · obtain ⟨name, hname, h⟩ := Option.bind_eq_some_iff.mp h
    split at h
    · cases h
    · split at h
      · obtain ⟨n, -, rfl⟩ := Option.map_eq_some_iff.mp h
        exact slash_notMem_address4Text n
      · cases h
        exact slash_notMem_toAscii? hname

lemma slash_notMem_opaqueHost? (h : opaqueHost? s = some t) : '/' ∉ t := by
  unfold opaqueHost? at h
  split at h
  · exact slash_notMem_hostOf? h
  · split at h
    · cases h
    · rename_i hallowed
      cases h
      apply slash_notMem_percentEncode
      exact fun hslash => hallowed (List.any_eq_true.mpr ⟨'/', hslash, by decide⟩)

lemma slash_notMem_hostFor? {kind : SchemeKind} (h : hostFor? kind s = some t) : '/' ∉ t := by
  unfold hostFor? at h
  split at h
  · exact slash_notMem_opaqueHost? h
  · split at h
    · cases h
    · exact slash_notMem_hostOf? h

lemma slash_notMem_fileHost? (h : fileHost? s = some t) : '/' ∉ t := by
  unfold fileHost? at h
  split at h
  · cases h
    exact List.not_mem_nil
  · obtain ⟨host, hhost, rfl⟩ := Option.map_eq_some_iff.mp h
    split
    · exact List.not_mem_nil
    · exact slash_notMem_hostOf? hhost

end Hosts

/-- Neither the host of an address nor a segment of its path holds a slash. -/
structure Unslashed (u : Url) : Prop where
  host : '/' ∉ u.host
  segments : Slashless u.segments

section Addresses

variable {kind : SchemeKind} {u : Url}

lemma unslashed_afterSlashes (h : afterSlashes kind s = some u) : Unslashed u := by
  simp only [afterSlashes, Option.bind_eq_bind, Option.bind_none, Option.bind_eq_some_iff,
    Option.ite_none_left_eq_some, Option.pure_def, Option.some.injEq] at h
  obtain ⟨-, host, hhost, -, port, -, -, rfl⟩ := h
  exact ⟨slash_notMem_hostFor? hhost, slashless_pathBehindHost _ _⟩

lemma unslashed_fileUrl? (h : fileUrl? s = some u) : Unslashed u := by
  have hsegments : ∀ path, Slashless (fileSegments (segmentsOf .file path)) :=
    fun path => slashless_fileSegments (slashless_segmentsOf _ path)
  simp only [fileUrl?] at h
  split at h
  · split at h
    · cases h
      exact ⟨List.not_mem_nil, hsegments _⟩
    · obtain ⟨host, hhost, h⟩ := Option.bind_eq_some_iff.mp h
      cases h
      have hkept : ∀ onDrive : Bool, '/' ∉ (if onDrive then [] else host) := by
        intro onDrive
        cases onDrive
        · exact slash_notMem_fileHost? hhost
        · exact List.not_mem_nil
      exact ⟨hkept _, hsegments _⟩
  · cases h
    exact ⟨List.not_mem_nil, hsegments _⟩

lemma unslashed_parse? (h : parse? s = some u) : Unslashed u := by
  obtain ⟨⟨scheme, rest⟩, -, h⟩ := Option.bind_eq_some_iff.mp h
  simp only at h
  split at h
  · exact unslashed_fileUrl? h
  · exact unslashed_afterSlashes h
  · split at h
    · exact unslashed_afterSlashes h
    · cases h
      exact ⟨List.not_mem_nil, slashless_segmentsOf _ _⟩
    · cases h
      exact ⟨List.not_mem_nil, slashless_nil⟩

lemma slash_notMem_hostText (h : Unslashed u) : '/' ∉ hostText u := by
  unfold hostText
  split
  · rw [List.mem_append, List.mem_cons, not_or, not_or]
    exact ⟨h.host, by decide, slash_notMem_decimal _⟩
  · exact h.host

end Addresses

/-- The name of an organization, where the path of an address begins with it. -/
def organization? (u : Url) : Option (List Char) :=
  match u.segments with
  | first :: second :: _ => if first = "organizations".toList then some second else none
  | _ => none

section Names

variable {u : Url} {host owner name : List Char}

lemma segments_of_organization? (h : organization? u = some name) :
    ∃ rest, u.segments = "organizations".toList :: name :: rest := by
  unfold organization? at h
  split at h
  · rename_i first second rest hsegments
    obtain ⟨rfl, hname⟩ := Option.ite_none_right_eq_some.mp h
    cases hname
    exact ⟨rest, hsegments⟩
  · cases h

lemma ofAddress_organization (h : organization? u = some name) :
    ofAddress u owner = if hostText u = homeHost then name else hostText u ++ '/' :: name := by
  obtain ⟨rest, hsegments⟩ := segments_of_organization? h
  simp only [ofAddress, hsegments, ne_eq, not_true_eq_false, if_false, ite_not]

lemma ofAddress_short (h : u.segments.length < 2) :
    ofAddress u owner =
      if hostText u = homeHost then owner else trimSlashes (hostText u ++ '/' :: owner) := by
  unfold ofAddress
  simp only
  split
  · rename_i hsegments
    rw [hsegments, List.length_cons, List.length_cons] at h
    omega
  · simp only [ne_eq, ite_not]

lemma ofAddress_person (hlong : ¬ u.segments.length < 2) (h : organization? u = none) :
    ofAddress u owner = owner := by
  unfold organization? at h
  split at h
  · rename_i first second rest hsegments
    rw [ite_eq_right_iff] at h
    have hfirst : first ≠ "organizations".toList := fun hfirst => nomatch h hfirst
    simp only [ofAddress, hsegments, ne_eq, hfirst, not_false_eq_true, if_true]
  · rename_i hshort
    refine absurd ?_ hlong
    cases hsegments : u.segments with
    | nil => exact Nat.zero_lt_two
    | cons first rest =>
      cases rest with
      | nil => exact Nat.one_lt_two
      | cons second rest => exact absurd hsegments (hshort first second rest)

lemma head?_ne_slash (h : '/' ∉ s) : s.head? ≠ some '/' :=
  fun hslash => h (List.mem_of_head? hslash)

lemma getLast?_ne_slash (h : '/' ∉ s) : s.getLast? ≠ some '/' :=
  fun hslash => h (List.mem_of_getLast? hslash)

lemma head?_join (hhost : '/' ∉ host) : (host ++ '/' :: s).head? = some '/' ↔ host = [] := by
  cases host with
  | nil => exact iff_of_true rfl rfl
  | cons c host =>
    rw [List.cons_append, List.head?_cons, Option.some.injEq]
    refine iff_of_false ?_ (List.cons_ne_nil _ _)
    rintro rfl
    exact hhost List.mem_cons_self

lemma getLast?_join (hs : '/' ∉ s) : (host ++ '/' :: s).getLast? = some '/' ↔ s = [] := by
  cases s with
  | nil => exact iff_of_true List.getLast?_concat rfl
  | cons c s =>
    rw [List.getLast?_append_cons, List.getLast?_cons_cons]
    exact iff_of_false (getLast?_ne_slash hs) (List.cons_ne_nil _ _)

lemma trimSlashes_eq_self (h : s.getLast? ≠ some '/') : trimSlashes s = s := by
  apply List.rdropWhile_eq_self_iff.mpr
  intro hs hlast
  rw [List.getLast?_eq_some_getLast hs, of_decide_eq_true hlast] at h
  exact h rfl

/-- What is trimmed is the slash before an owner that is not given. -/
lemma trimSlashes_join (hhost : '/' ∉ host) (howner : '/' ∉ owner) :
    trimSlashes (host ++ '/' :: owner) = if owner = [] then host else host ++ '/' :: owner := by
  split
  · rename_i hnone
    subst hnone
    calc trimSlashes (host ++ ['/'])
      _ = trimSlashes host := List.rdropWhile_concat_pos _ _ _ rfl
      _ = host := trimSlashes_eq_self (getLast?_ne_slash hhost)
  · rename_i hsome
    exact trimSlashes_eq_self fun hlast => hsome ((getLast?_join howner).mp hlast)

/-- The home host is named. -/
lemma ne_homeHost_of_nil (h : host = []) : host ≠ homeHost := by
  rw [h]
  decide

lemma slash_notMem_organization? (hu : Slashless u.segments) (h : organization? u = some name) :
    '/' ∉ name := by
  obtain ⟨rest, hsegments⟩ := segments_of_organization? h
  rw [hsegments, slashless_cons, slashless_cons] at hu
  exact hu.2.1

lemma ofAddress_cases (hu : Unslashed u) (howner : '/' ∉ owner) :
    (∃ name, ofAddress u owner = hostText u ++ '/' :: name ∧ '/' ∉ name ∧ hostText u ≠ homeHost ∧
      (organization? u = some name ∨
        organization? u = none ∧ u.segments.length < 2 ∧ owner = name ∧ name ≠ [])) ∨
    ('/' ∉ ofAddress u owner ∧
      (hostText u = homeHost ∨ organization? u = none ∧ (u.segments.length < 2 → owner = []))) := by
  have hhost := slash_notMem_hostText hu
  cases horganization : organization? u with
  | some name =>
    have hname := slash_notMem_organization? hu.segments horganization
    rw [ofAddress_organization horganization]
    split
    · rename_i hhome
      exact .inr ⟨hname, .inl hhome⟩
    · rename_i hforeign
      exact .inl ⟨name, rfl, hname, hforeign, .inl rfl⟩
  | none =>
    by_cases hshort : u.segments.length < 2
    · rw [ofAddress_short hshort, trimSlashes_join hhost howner]
      split
      · rename_i hhome
        exact .inr ⟨howner, .inl hhome⟩
      · rename_i hforeign
        split
        · rename_i hnone
          exact .inr ⟨hhost, .inr ⟨rfl, fun _ => hnone⟩⟩
        · rename_i hsome
          exact .inl ⟨owner, rfl, howner, hforeign, .inr ⟨rfl, hshort, rfl, hsome⟩⟩
    · rw [ofAddress_person hshort horganization]
      exact .inr ⟨howner, .inr ⟨rfl, fun h => absurd h hshort⟩⟩

/-- A name begins with a slash where there is no host to stand before it. -/
lemma head?_ofAddress (hu : Unslashed u) (howner : '/' ∉ owner) :
    (ofAddress u owner).head? = some '/' ↔
      hostText u = [] ∧ ((organization? u).isSome ∨ u.segments.length < 2 ∧ owner ≠ []) := by
  rcases ofAddress_cases hu howner with ⟨name, hname, -, -, hpart⟩ | ⟨hname, hpart⟩
  · rw [hname, head?_join (slash_notMem_hostText hu)]
    refine (and_iff_left ?_).symm
    rcases hpart with hpart | ⟨-, hshort, rfl, hsome⟩
    · exact .inl (Option.isSome_of_eq_some hpart)
    · exact .inr ⟨hshort, hsome⟩
  · refine iff_of_false (head?_ne_slash hname) ?_
    rintro ⟨hnone, hjoined⟩
    rcases hpart with hhome | ⟨horganization, howner⟩
    · exact ne_homeHost_of_nil hnone hhome
    · rw [horganization] at hjoined
      rcases hjoined with hjoined | ⟨hshort, hsome⟩
      · cases hjoined
      · exact hsome (howner hshort)

/-- A name ends with a slash where the organization behind its host has no name. -/
lemma getLast?_ofAddress (hu : Unslashed u) (howner : '/' ∉ owner) :
    (ofAddress u owner).getLast? = some '/' ↔
      hostText u ≠ homeHost ∧ organization? u = some [] := by
  rcases ofAddress_cases hu howner with ⟨name, hname, hslash, hforeign, hpart⟩ | ⟨hname, hpart⟩
  · rw [hname, getLast?_join hslash]
    rcases hpart with hpart | ⟨hpart, -, -, hsome⟩
    · rw [hpart, Option.some.injEq]
      exact (and_iff_right hforeign).symm
    · rw [hpart]
      exact iff_of_false hsome fun h => nomatch h.2
  · refine iff_of_false (getLast?_ne_slash hname) ?_
    rintro ⟨hforeign, hempty⟩
    rcases hpart with hhome | ⟨horganization, -⟩
    · exact hforeign hhome
    · rw [horganization] at hempty
      cases hempty

/-- An owner without a slash gives a name that begins with one just where nothing stands for the
host before an organization or an owner, and one that ends with a slash just where the name of the
organization behind a host is left empty. -/
theorem ofUrl_dangles_iff (address owner : String) (howner : '/' ∉ owner.toList) :
    ((ofUrl address owner).toList.head? = some '/' ↔
      ∃ u, Url.parse? address.toList = some u ∧ hostText u = [] ∧
        ((organization? u).isSome ∨ u.segments.length < 2 ∧ owner ≠ "")) ∧
    ((ofUrl address owner).toList.getLast? = some '/' ↔
      ∃ u, Url.parse? address.toList = some u ∧ hostText u ≠ homeHost ∧
        organization? u = some []) := by
  unfold ofUrl
  split
  · rename_i hempty
    have hparse : Url.parse? address.toList = none := by
      rw [String.isEmpty_iff.mp hempty]
      decide
    simp only [hparse, reduceCtorEq, false_and, exists_false, iff_false]
    exact ⟨head?_ne_slash howner, getLast?_ne_slash howner⟩
  · split
    · rename_i hparse
      simp [hparse]
    · rename_i u hparse
      have hu := unslashed_parse? hparse
      have hnone : owner ≠ "" ↔ owner.toList ≠ [] := String.toList_eq_nil_iff.not.symm
      simp only [hparse, Option.some.injEq, exists_eq_left', String.toList_ofList, hnone]
      exact ⟨head?_ofAddress hu howner, getLast?_ofAddress hu howner⟩

end Names

example : ofUrl "file:///organizations/acme" "" = "/acme" := by
  decide +kernel

/-- An address that ends where the name of an organization should stand. -/
def unnamed : String :=
  "https://ghe.example.com/organizations/"

lemma parse?_unnamed : Url.parse? unnamed.toList =
    some ⟨"ghe.example.com".toList, none, ["organizations".toList, []]⟩ := by
  decide +kernel

theorem ofUrl_dangles_iff_unnamed :
    '/' ∉ "".toList ∧ (ofUrl unnamed "").toList.getLast? = some '/' ∧
      (ofUrl unnamed "").toList.head? ≠ some '/' := by
  obtain ⟨hfirst, hlast⟩ := ofUrl_dangles_iff unnamed "" (by decide)
  refine ⟨by decide, hlast.mpr ⟨_, parse?_unnamed, by decide, rfl⟩, fun hslash => ?_⟩
  obtain ⟨u, hparse, hnone, -⟩ := hfirst.mp hslash
  rw [parse?_unnamed] at hparse
  cases hparse
  exact absurd hnone (by decide)

/-- The name of an account may end with a slash that joins nothing. -/
theorem not_ofUrl_joined :
    ¬ ∀ address owner : String, '/' ∉ owner.toList →
      (ofUrl address owner).toList.head? ≠ some '/' ∧
        (ofUrl address owner).toList.getLast? ≠ some '/' := by
  intro hall
  exact (hall unnamed "" (by decide)).2 (by decide +kernel)

end Tenancy.Proofs
