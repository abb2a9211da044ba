/-!
# Words in bytes

Numbers of 64 bits as eight bytes, the highest byte first, in two's complement. Every eight bytes
are the form of exactly one number.
-/

namespace Tenancy.Text

/-- The lowest bytes of a number, as many as asked for, the highest of them first. -/
def bytesBE : Nat → Nat → List UInt8
  | 0, _ => []
  | width + 1, n => bytesBE width (n / 256) ++ [UInt8.ofNat n]

/-- The number of a list of bytes, the highest byte first. -/
def ofBytesBE (bs : List UInt8) : Nat :=
  bs.foldl (fun n b => n * 256 + b.toNat) 0

def wordBytes (n : Int64) : List UInt8 :=
  bytesBE 8 n.toUInt64.toNat

def wordOfBytes? (bs : List UInt8) : Option Int64 :=
  if bs.length = 8 then some (UInt64.ofNat (ofBytesBE bs)).toInt64 else none

theorem length_bytesBE (width n : Nat) : (bytesBE width n).length = width := by
  induction width generalizing n with
  | zero => rfl
  | succ width ih => simp [bytesBE, ih]

theorem ofBytesBE_bytesBE (width n : Nat) (h : n < Nat.pow 256 width) :
    ofBytesBE (bytesBE width n) = n := by
  induction width generalizing n with
  | zero =>
    have hn : n = 0 := by simpa using h
    simp [bytesBE, ofBytesBE, hn]
  | succ width ih =>
    have hq : n / 256 < Nat.pow 256 width := by
      simp only [Nat.pow_eq, Nat.pow_succ] at h ⊢
      omega
    have hr := ih (n / 256) hq
    simp only [ofBytesBE] at hr
    simp only [bytesBE, ofBytesBE, List.foldl_append, List.foldl_cons, List.foldl_nil, hr]
    have hb : (UInt8.ofNat n).toNat = n % 256 := by simp
    omega

theorem wordOfBytes?_wordBytes (n : Int64) : wordOfBytes? (wordBytes n) = some n := by
  have h : n.toUInt64.toNat < Nat.pow 256 8 := n.toUInt64.toNat_lt
  simp [wordOfBytes?, wordBytes, length_bytesBE, ofBytesBE_bytesBE _ _ h]

end Tenancy.Text
