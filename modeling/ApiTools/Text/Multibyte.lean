import ApiTools.Text.Plane.Chinese
import ApiTools.Text.Plane.Japanese
import ApiTools.Text.Plane.Korean
import ApiTools.Text.Plane.Taiwanese
import ApiTools.Text.Unicode

/-!
# Sets of characters in several bytes

The sets of East Asia write a character as one byte, as a pair of bytes, or as more. What stands in
front of bytes is a character with the number of its bytes, or a gap: a byte that begins no
character is a gap of its own, and so is the rest of a text that ends within a character.

## Main definitions

* `Multibyte` — a set, as what stands in front of bytes.
* `Multibyte.pieces` — the characters of bytes, with the gaps.
* `Multibyte.shiftJis`, `Multibyte.eucJp` and others — the sets.
-/

namespace ApiTools

/-- What stands in front of a byte and those after it: a character or a gap, and how many bytes it
takes, the first one included. -/
abbrev Multibyte := Nat → List Nat → Option Char × Nat

namespace Multibyte

/-! ### Reading -/

/-- The characters of bytes, with the gaps. -/
def piecesOf (set : Multibyte) : List Nat → Unicode.Pieces
  | [] => []
  | b :: bytes =>
    let (piece, size) := set b bytes
    piece.map .char :: piecesOf set (bytes.drop (size - 1))
  termination_by bytes => bytes.length
  decreasing_by
    simp only [List.length_drop, List.length_cons]
    omega

/-- The characters of bytes, with the gaps. -/
def pieces (set : Multibyte) (bytes : List UInt8) : Unicode.Pieces :=
  piecesOf set (bytes.map UInt8.toNat)

/-- The bytes of ASCII stand for themselves. -/
def ascii? (b : Nat) : Option Char := if b < 0x80 then some (Char.ofNat b) else none

/-- A character of a given number of bytes, or a gap of one byte. -/
def sized (size : Nat) (c : Option Char) : Option Char × Nat := (c, if c.isSome then size else 1)

/-- A set of characters of one or two bytes. -/
def paired (single? : Nat → Option Char) (pair? : Nat → Nat → Option Char) : Multibyte :=
  fun b rest =>
    match single? b, rest with
    | some c, _ => (some c, 1)
    | none, t :: _ => sized 2 (pair? b t)
    | none, [] => (none, 1)

/-- The number of a second byte, from 0x40 on without 0x7F. -/
def trailIndex? (trail : Nat) : Option Nat :=
  if trail < 0x40 ∨ trail = 0x7F ∨ 0xFE < trail then none
  else some (if trail < 0x7F then trail - 0x40 else trail - 0x41)

/-! ### Japanese sets -/

/-- The syllables of half width. -/
def halfWidth? (b : Nat) : Option Char :=
  if 0xA1 ≤ b ∧ b ≤ 0xDF then some (Char.ofNat (0xFEC0 + b)) else none

/-- The row and the place that two bytes are folded into: each first byte stands for two rows. -/
def folded? (lead trail : Nat) : Option (Nat × Nat) := do
  let index ← trailIndex? trail
  if 188 ≤ index then none
  let half ←
    if 0x81 ≤ lead ∧ lead ≤ 0x9F then some (lead - 0x81)
    else if 0xE0 ≤ lead ∧ lead ≤ 0xFC then some (lead - 0xC1)
    else none
  return (0xA1 + 2 * half + index / 94, 0xA1 + index % 94)

/-- Shift JIS. -/
def shiftJis : Multibyte :=
  paired (fun b => (ascii? b).or (halfWidth? b)) fun lead trail => do
    let (row, place) ← folded? lead trail
    Plane.jisX0208.char? row place

/-- The place of a character of private use in the industrial form of Shift JIS, from the first one
of Unicode on. -/
def privateUse? (row place : Nat) : Option Char :=
  if 0xFF ≤ row ∧ row ≤ 0x112 then some (Char.ofNat (0xE000 + (row - 0xFF) * 94 + (place - 0xA1)))
  else none

/-- Shift JIS in its industrial form. Bytes that begin nothing are for private use. -/
def cp932 : Multibyte :=
  let single? := fun (b : Nat) =>
    if b ≤ 0x80 then some (Char.ofNat b)
    else if b = 0xA0 then some '\uf8f0'
    else if 0xFD ≤ b then some (Char.ofNat (0xF8F1 + (b - 0xFD)))
    else halfWidth? b
  paired single? fun lead trail => do
    let (row, place) ← folded? lead trail
    (Plane.find? (Plane.industrialJapanese ++ [Plane.jisX0208]) row place).or
      (privateUse? row place)

/-- The Japanese form of Extended Unix Code. One byte announces a syllable of half width, and
another one a pair of the second plane. -/
def eucJp : Multibyte := fun b rest =>
  match b, rest with
  | 0x8F, row :: place :: _ => sized 3 (Plane.jisX0212.char? row place)
  | 0x8F, rest => (none, 1 + rest.length)
  | b, rest =>
    paired ascii? (fun lead trail =>
      if lead = 0x8E then halfWidth? trail else Plane.jisX0208.char? lead trail) b rest

/-! ### Korean sets -/

/-- The syllables that KS X 1001 lacks. -/
def otherSyllables : Array Char := (Plane.ksX1001.others 0xAC00 0xD7A3).toArray

/-- The number of a second byte among those of the syllables in order: capital and small letters and
the upper half. -/
def syllableIndex? (trail : Nat) : Option Nat :=
  if 0x41 ≤ trail ∧ trail ≤ 0x5A then some (trail - 0x41)
  else if 0x61 ≤ trail ∧ trail ≤ 0x7A then some (trail - 0x47)
  else if 0x81 ≤ trail ∧ trail ≤ 0xFE then some (trail - 0x4D)
  else none

/-- A syllable in order: 178 to a row up to the standard, and 84 beside it. -/
def otherSyllable? (lead trail : Nat) : Option Char := do
  let index ← syllableIndex? trail
  if 0x81 ≤ lead ∧ lead ≤ 0xA0 then otherSyllables[(lead - 0x81) * 178 + index]?
  else if 0xA1 ≤ lead ∧ index < 84 then otherSyllables[32 * 178 + (lead - 0xA1) * 84 + index]?
  else none

/-- The Unified Hangul Code. -/
def cp949 : Multibyte :=
  paired ascii? fun lead trail =>
    (Plane.ksX1001.char? lead trail).or (otherSyllable? lead trail)

/-- The letters that begin a syllable. -/
def initials : List Char := "ㄱㄲㄴㄷㄸㄹㅁㅂㅃㅅㅆㅇㅈㅉㅊㅋㅌㅍㅎ".toList

/-- The letters that end a syllable. -/
def finals : List Char := "ㄱㄲㄳㄴㄵㄶㄷㄹㄺㄻㄼㄽㄾㄿㅀㅁㅂㅄㅅㅆㅇㅈㅊㅋㅌㅍㅎ".toList

/-- The sign in place of a letter that is missing. -/
def filler : Char := '\u3164'

/-- A syllable that is put together from its letters. -/
def syllable? (initial vowel final : Char) : Option Char := do
  let i ← initials.idxOf? initial
  if vowel < 'ㅏ' ∨ 'ㅣ' < vowel then none
  let f ← if final = filler then some 0 else (finals.idxOf? final).map (· + 1)
  return Char.ofNat (0xAC00 + (i * 21 + (vowel.toNat - 0x314F)) * 28 + f)

/-- The Korean form of Extended Unix Code. A filler announces a syllable that is put together, from
three letters of two bytes. -/
def eucKr : Multibyte := fun b rest =>
  match b, rest with
  | 0xA4, 0xD4 :: 0xA4 :: i :: 0xA4 :: v :: 0xA4 :: f :: _ =>
    let letter? := Plane.ksX1001.char? 0xA4
    sized 8 (do syllable? (← letter? i) (← letter? v) (← letter? f))
  | 0xA4, 0xD4 :: rest => (none, if rest.length < 6 then 2 + rest.length else 1)
  | b, rest => paired ascii? Plane.ksX1001.char? b rest

/-! ### Chinese sets -/

/-- The Chinese form of Extended Unix Code. -/
def gb2312 : Multibyte := paired ascii? Plane.gb2312.char?

/-- The characters that GBK adds in order. -/
def gbkOthers : Array Char :=
  (Plane.gb2312.others 0x4E00 0x9FA5 ++ Plane.gbkForms.toList).toArray

/-- A character of two bytes in GBK: one of the standard, or one in order, with 190 to a row up to
the standard and 96 in front of its rows. -/
def gbk? (lead trail : Nat) : Option Char :=
  (Plane.find? (Plane.gbkSigns ++ [Plane.gb2312]) lead trail).or do
    let index ← trailIndex? trail
    if 0x81 ≤ lead ∧ lead ≤ 0xA0 then gbkOthers[(lead - 0x81) * 190 + index]?
    else if 0xAA ≤ lead ∧ index < 96 then gbkOthers[32 * 190 + (lead - 0xAA) * 96 + index]?
    else none

/-- GBK. -/
def gbk : Multibyte := paired ascii? gbk?

/-- A further character of two bytes in GB 18030. -/
def gb18030Pair? (lead trail : Nat) : Option Char := do
  let index ← trailIndex? trail
  let place := lead * 190 + index
  let (first, code, _) ← Plane.gb18030Runs.find? fun (first, _, size) =>
    first ≤ place && place < first + size
  return Char.ofNat (code + (place - first))

/-- A character of four bytes in GB 18030: the second and the fourth one are digits. -/
def gb18030Quad? (a b c d : Nat) : Option Char :=
  let inRow := fun (n : Nat) => 0x81 ≤ n && n ≤ 0xFE
  let place := (((a - 0x81) * 10 + (b - 0x30)) * 126 + (c - 0x81)) * 10 + (d - 0x30)
  if !(inRow a && inRow c && 0x30 ≤ d && d ≤ 0x39) then none
  else if place < 39420 then
    (Plane.gb18030Quads.filter (·.1 ≤ place)).getLast?.map fun (first, code) =>
      Char.ofNat (code + (place - first))
  else if 0x90 ≤ a ∧ place - 189000 < 0x100000 then some (Char.ofNat (0x10000 + (place - 189000)))
  else none

/-- GB 18030. -/
def gb18030 : Multibyte := fun b rest =>
  let isQuad := 0x80 ≤ b && rest.head?.any fun t => 0x30 ≤ t && t ≤ 0x39
  match isQuad, rest with
  | true, t :: u :: v :: _ => sized 4 (gb18030Quad? b t u v)
  | true, rest => (none, 1 + rest.length)
  | false, rest =>
    paired ascii? (fun lead trail => (gbk? lead trail).or (gb18030Pair? lead trail)) b rest

/-- Big5. -/
def big5 : Multibyte := paired ascii? (Plane.find? [Plane.big5Left, Plane.big5Right])

/-- Big5 in its industrial form. -/
def cp950 : Multibyte :=
  paired ascii? (Plane.find? (Plane.industrialBig5 ++ [Plane.big5Left, Plane.big5Right]))

end Multibyte

end ApiTools
