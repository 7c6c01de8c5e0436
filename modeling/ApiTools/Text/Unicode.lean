import ApiTools.Text.CodePoint

/-!
# Encodings of Unicode

A character is written as one to four bytes, as one or two units of sixteen bits, or as one unit of
thirty-two. Reading goes on after bytes that are no character: each piece of them is kept as a gap
at its place. A piece is as long as it could still have become a character. A half of a pair that is
written alone is no character either; it is kept as a half where it can be told.

## Main definitions

* `Unicode.utf8Bytes` — the bytes of characters.
* `Unicode.utf8`, `Unicode.utf16`, `Unicode.utf32` — the code points of bytes, with the gaps.
* `Unicode.filled`, `Unicode.whole?` — the text with a sign for each gap, and the text if it has
  none.
-/

namespace ApiTools

namespace Unicode

/-! ### Code points and gaps -/

/-- Code points in order, with `none` for each piece that is none. -/
abbrev Pieces := List (Option CodePoint)

/-- The sign for a gap. -/
def gapSign : Char := '\ufffd'

/-- The text of pieces, with a sign for each gap. -/
def filled (pieces : Pieces) : String := Text.ofPoints (pieces.map (·.getD gapSign))

/-- The text of pieces that have no gap. -/
def whole? (pieces : Pieces) : Option String := (pieces.mapM id).map Text.ofPoints

/-- The characters of pieces, with a sign for each gap and each half. -/
def softened (pieces : Pieces) : List Char :=
  pieces.map fun piece => (piece.bind CodePoint.char?).getD gapSign

/-- Pieces where each half is a gap. -/
def gapped (pieces : Pieces) : Pieces :=
  pieces.map fun piece => piece.filter fun point => point.char?.isSome

/-- Whether there is a character of a code: those of the halves of pairs are left out. -/
def isScalar (code : Nat) : Bool := code < 0x110000 && !isHighHalf code && !isLowHalf code

/-- The character of a code. -/
def ofCode (code : Nat) : Option Char := if isScalar code then some (Char.ofNat code) else none

/-! ### Bytes -/

/-- The bytes of characters. -/
def utf8Bytes (text : String) : List UInt8 := text.toList.flatMap String.utf8EncodeChar

/-- A character of which some bytes have been read. -/
structure Partial where
  /-- The bytes still to come. -/
  left : Nat
  /-- The least value of the next one. -/
  low : UInt8
  /-- Its greatest value. -/
  high : UInt8
  /-- What the bytes so far make. -/
  code : Nat

/-- What the first byte of a character tells: the character, or how it goes on. A half of a pair is
let pass where it may be. -/
def lead (withHalves : Bool) (b : UInt8) : Pieces × Option Partial :=
  if b < 0x80 then ([some (Char.ofNat b.toNat)], none)
  else if b < 0xC2 then ([none], none)
  else if b < 0xE0 then ([], some ⟨1, 0x80, 0xBF, b.toNat - 0xC0⟩)
  else if b < 0xF0 then
    let high := if b = 0xED ∧ !withHalves then 0x9F else 0xBF
    ([], some ⟨2, if b = 0xE0 then 0xA0 else 0x80, high, b.toNat - 0xE0⟩)
  else if b < 0xF5 then
    ([], some ⟨3, if b = 0xF0 then 0x90 else 0x80, if b = 0xF4 then 0x8F else 0xBF, b.toNat - 0xF0⟩)
  else ([none], none)

/-- What a byte after others of a character tells. -/
def continued (withHalves : Bool) (p : Partial) (b : UInt8) : Pieces × Option Partial :=
  if p.low ≤ b ∧ b ≤ p.high then
    let code := p.code * 64 + b.toNat % 64
    if p.left ≤ 1 then ([some (.ofCode code)], none)
    else ([], some ⟨p.left - 1, 0x80, 0xBF, code⟩)
  else
    let (pieces, next) := lead withHalves b
    (none :: pieces, next)

/-- The code points of bytes after some of a character. -/
def utf8From (withHalves : Bool) (before : Option Partial) : List UInt8 → Pieces
  | [] => if before.isSome then [none] else []
  | b :: bytes =>
    let (pieces, next) := match before with
      | none => lead withHalves b
      | some p => continued withHalves p b
    pieces ++ utf8From withHalves next bytes

/-- The code points of bytes, the halves among them or not. -/
def utf8 (withHalves : Bool) (bytes : List UInt8) : Pieces := utf8From withHalves none bytes

/-! ### Units -/

/-- Which byte of a unit comes first. -/
inductive ByteOrder where
  /-- The one that counts most. -/
  | big
  /-- The one that counts least. -/
  | little
  deriving DecidableEq

/-- The unit of bytes. -/
def ByteOrder.unit (order : ByteOrder) (bytes : List UInt8) : Nat :=
  let bytes := match order with
    | .big => bytes
    | .little => bytes.reverse
  bytes.foldl (fun n b => n * 256 + b.toNat) 0

/-- The code points of units of sixteen bits. The first half of a pair waits in `high` for the second
one; at the end it is one gap together with a byte that is left over. -/
def utf16From (order : ByteOrder) (high : Option Nat) : List UInt8 → Pieces
  | a :: b :: bytes =>
    let unit := order.unit [a, b]
    match high, isLowHalf unit with
    | some first, true => some (pairChar first unit) :: utf16From order none bytes
    | _, _ =>
      let before : Pieces := (high.map fun first => some (.ofCode first)).toList
      if isHighHalf unit then before ++ utf16From order (some unit) bytes
      else before ++ some (.ofCode unit) :: utf16From order none bytes
  | [_] => [none]
  | [] => (high.map fun first => some (.ofCode first)).toList

/-- The code points of units of sixteen bits. -/
def utf16 (order : ByteOrder) (bytes : List UInt8) : Pieces := utf16From order none bytes

/-- The units of thirty-two bits, without a part of one that is left over. -/
def units32 (order : ByteOrder) : List UInt8 → List Nat
  | a :: b :: c :: d :: bytes => order.unit [a, b, c, d] :: units32 order bytes
  | _ => []

/-- The code points of units of thirty-two bits. What is left over at the end is a gap. -/
def utf32 (order : ByteOrder) (bytes : List UInt8) : Pieces :=
  (units32 order bytes).map (fun unit => if unit < 0x110000 then some (.ofCode unit) else none)
    ++ if bytes.length % 4 = 0 then [] else [none]

end Unicode

end ApiTools
