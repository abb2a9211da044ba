/-!
# Characters and their bytes

The UTF-8 form of a text as a list of bytes. Reading is strict: surrogates, overlong forms and
values beyond U+10FFFF are refused, and a refusal says how many bytes before it were sound.
-/

namespace Tenancy.Text

def utf8 (cs : List Char) : List UInt8 :=
  cs.flatMap String.utf8EncodeChar

namespace Utf8

/-- A byte that may follow the first one of a character. -/
def isTail (b : UInt8) : Bool :=
  0x80 ≤ b && b ≤ 0xBF

def tailBits (b : UInt8) : Nat :=
  b.toNat % 64

/-- Two bytes that together stand for one character. -/
def isPair (b₀ b₁ : UInt8) : Bool :=
  0xC2 ≤ b₀ && b₀ ≤ 0xDF && isTail b₁

/-- Two bytes that begin the form of a character in three bytes. -/
def startsTriple (b₀ b₁ : UInt8) : Bool :=
  (b₀ == 0xE0 && 0xA0 ≤ b₁ && b₁ ≤ 0xBF) || (0xE1 ≤ b₀ && b₀ ≤ 0xEC && isTail b₁) ||
    (b₀ == 0xED && 0x80 ≤ b₁ && b₁ ≤ 0x9F) || (0xEE ≤ b₀ && b₀ ≤ 0xEF && isTail b₁)

/-- Two bytes that begin the form of a character in four bytes. -/
def startsQuadruple (b₀ b₁ : UInt8) : Bool :=
  (b₀ == 0xF0 && 0x90 ≤ b₁ && b₁ ≤ 0xBF) || (0xF1 ≤ b₀ && b₀ ≤ 0xF3 && isTail b₁) ||
    (b₀ == 0xF4 && 0x80 ≤ b₁ && b₁ ≤ 0x8F)

/-- Reads characters, with `n` sound bytes before them. -/
def decodeFrom (n : Nat) : List UInt8 → Except Nat (List Char)
  | [] => .ok []
  | b₀ :: bs =>
    if b₀ ≤ 0x7F then
      (decodeFrom (n + 1) bs).map (Char.ofNat b₀.toNat :: ·)
    else match bs with
      | b₁ :: bs =>
        if isPair b₀ b₁ then
          (decodeFrom (n + 2) bs).map (Char.ofNat (b₀.toNat % 32 * 64 + tailBits b₁) :: ·)
        else match bs with
          | b₂ :: bs =>
            if startsTriple b₀ b₁ && isTail b₂ then
              (decodeFrom (n + 3) bs).map
                (Char.ofNat ((b₀.toNat % 16 * 64 + tailBits b₁) * 64 + tailBits b₂) :: ·)
            else match bs with
              | b₃ :: bs =>
                if startsQuadruple b₀ b₁ && isTail b₂ && isTail b₃ then
                  (decodeFrom (n + 4) bs).map
                    (Char.ofNat (((b₀.toNat % 8 * 64 + tailBits b₁) * 64 + tailBits b₂) * 64 +
                      tailBits b₃) :: ·)
                else .error n
              | [] => .error n
          | [] => .error n
      | [] => .error n

/-- The characters of a list of bytes, or the number of sound bytes before the first fault. -/
def decode (bs : List UInt8) : Except Nat (List Char) :=
  decodeFrom 0 bs

/-- How many bytes belong to a fault: those that begin the form of a character, or else one. -/
def faultLength : List UInt8 → Nat
  | b₀ :: b₁ :: bs =>
    if startsTriple b₀ b₁ then 2
    else if startsQuadruple b₀ b₁ then if bs.head?.any isTail then 3 else 2
    else 1
  | _ => 1

/-- Reads characters and puts a replacement in the place of each fault. -/
def decodeLossy : Nat → List UInt8 → List Char
  | 0, _ => []
  | fuel + 1, bs =>
    match decode bs with
    | .ok cs => cs
    | .error n =>
      let sound := match decode (bs.take n) with
        | .ok cs => cs
        | .error _ => []
      let rest := bs.drop n
      sound ++ '\uFFFD' :: decodeLossy fuel (rest.drop (faultLength rest))

end Utf8

/-- The text of a list of bytes, with a replacement in the place of each fault. -/
def ofUtf8Lossy (bs : List UInt8) : String :=
  String.ofList (Utf8.decodeLossy (bs.length + 1) bs)

/-- The text of a list of bytes, if they are sound. -/
def ofUtf8? (bs : List UInt8) : Option String :=
  match Utf8.decode bs with
  | .ok cs => some (String.ofList cs)
  | .error _ => none

def bytesOf (s : String) : List UInt8 :=
  utf8 s.toList

end Tenancy.Text
