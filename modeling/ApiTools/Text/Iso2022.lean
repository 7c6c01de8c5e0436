import ApiTools.Text.Plane.Japanese
import ApiTools.Text.Unicode

/-!
# Japanese text in seven bits

ISO-2022-JP writes all characters in bytes below 128. An escape sequence says in which set the
characters after it are: in ASCII, in its Japanese form, or in pairs in JIS X 0208. Control
characters stand for themselves everywhere. An escape that begins no sequence of this kind stands
for itself, and so do the bytes after it up to a capital letter or an at sign.

## Main definitions

* `Iso2022.Mode` — how the bytes are read.
* `Iso2022.pieces` — the characters of bytes, with the gaps.
-/

namespace ApiTools

namespace Iso2022

/-- The set of the characters. -/
inductive Mode where
  /-- ASCII. -/
  | ascii
  /-- The Japanese form of ASCII. -/
  | roman
  /-- Pairs. -/
  | kanji
  deriving DecidableEq

/-- Whether a byte ends an escape sequence. -/
def endsEscape (b : Nat) : Bool := b == 0x40 || (0x41 ≤ b && b ≤ 0x5A)

/-- How many bytes after an escape belong to its sequence. An ampersand and an at sign with the
escape after them go on to a second sequence. -/
def sequenceLength? (bytes : List Nat) : Option Nat :=
  match bytes with
  | 0x26 :: 0x40 :: _ :: rest => (rest.findIdx? endsEscape).map (· + 4)
  | bytes => (bytes.findIdx? endsEscape).map (· + 1)

/-- What an escape sequence changes to: a mode, a sign that is not used, or nothing that is
known. -/
def change? : List Nat → Option (Option Mode)
  | [0x28, 0x42] => some (some .ascii)
  | [0x28, 0x4A] => some (some .roman)
  | [0x24, 0x40] | [0x24, 0x42] | [0x24, 0x28, 0x40] | [0x24, 0x28, 0x42]
  | [0x26, 0x40, 0x1B, 0x24, 0x42] => some (some .kanji)
  | [0x29, 0x42] | [0x29, 0x4A] | [0x24, 0x29, 0x40] | [0x24, 0x29, 0x42] => some none
  | _ => none

/-- The character of a byte in the Japanese form of ASCII. -/
def romanChar (b : Nat) : Char :=
  if b = 0x5C then '¥' else if b = 0x7E then '‾' else Char.ofNat b

/-- What stands in front of a byte and those after it: characters, how many bytes they take, and the
mode afterwards. -/
def front (mode : Mode) (b : Nat) (rest : List Nat) : Unicode.Pieces × Nat × Mode :=
  if b = 0x1B then
    if rest.isEmpty then ([none], 1, mode)
    else if rest.head?.any fun c => [0x28, 0x29, 0x24, 0x2E, 0x26].contains c then
      match sequenceLength? (rest.take 15) with
      | none => ([none], if rest.length < 15 then 1 + rest.length else 1, mode)
      | some size =>
        match change? (rest.take size) with
        | some next => ([], 1 + size, next.getD mode)
        | none => ([none], 1 + size, mode)
    else
      let size := ((rest.findIdx? endsEscape).map (· + 1)).getD rest.length
      ((b :: rest.take size).map fun c => some (.char (Char.ofNat c)), 1 + size, mode)
  else if 0x80 ≤ b then ([none], 1, mode)
  else if b < 0x20 then ([some (Char.ofNat b)], 1, mode)
  else
    match mode, rest with
    | .ascii, _ => ([some (Char.ofNat b)], 1, mode)
    | .roman, _ => ([some (romanChar b)], 1, mode)
    | .kanji, c :: _ => ([(Plane.jisX0208.char? (b + 0x80) (c + 0x80)).map .char], 2, mode)
    | .kanji, [] => ([none], 1, mode)

/-- The characters of bytes in a mode, with the gaps. -/
def piecesFrom (mode : Mode) : List Nat → Unicode.Pieces
  | [] => []
  | b :: bytes =>
    let (pieces, size, next) := front mode b bytes
    pieces ++ piecesFrom next (bytes.drop (size - 1))
  termination_by bytes => bytes.length
  decreasing_by
    simp only [List.length_drop, List.length_cons]
    omega

/-- The characters of bytes, with the gaps. -/
def pieces (bytes : List UInt8) : Unicode.Pieces := piecesFrom .ascii (bytes.map UInt8.toNat)

end Iso2022

end ApiTools
