import ApiTools.Text.Digit
import ApiTools.Text.Unicode

/-!
# Text with escapes

A text is written in Latin-1, where a backslash begins an escape for any code point of Unicode: `u`
with four hexadecimal digits or `U` with eight. In the full form there are escapes with two digits,
with up to three octal ones, with a letter for each control character that has one, and before the
end of a line, which is left out then. A backslash before anything else stands for itself.

An escape that is cut short is one gap, up to the character that breaks it.

## Main definitions

* `Escape.pieces` — the code points of bytes in the full form, with the gaps.
* `Escape.plainPieces` — the same where only the two escapes for any code point count.
-/

namespace ApiTools

namespace Escape

/-- What stands in front of bytes: codes, with `none` for a gap, and how many bytes they take. -/
abbrev Front := List (Option Nat) × Nat

/-- A number of hexadecimal digits after a backslash and a letter. -/
def hexFront (count : Nat) (rest : List Nat) : Front :=
  let digits := (rest.take count).map fun b => Text.hexDigit? (Char.ofNat b)
  let found := (digits.takeWhile Option.isSome).filterMap id
  let code := found.foldl (· * 16 + ·) 0
  if found.length = count && code < 0x110000 then ([some code], 2 + count)
  else ([none], 2 + found.length)

/-- Up to three octal digits after a backslash. -/
def octalFront (bytes : List Nat) : Front :=
  let digits := (bytes.take 3).takeWhile fun b => 48 ≤ b && b ≤ 55
  ([some (digits.foldl (fun n b => n * 8 + (b - 48)) 0)], 1 + digits.length)

/-- A name in braces after a backslash and a letter: no name is known. -/
def nameFront (rest : List Nat) : Front :=
  match rest with
  | 0x7B :: name =>
    let size := (name.takeWhile (· != 0x7D)).length
    if size = name.length then ([none], 3 + size)
    else if size = 0 then ([none], 3)
    else ([none], 4 + size)
  | _ => ([none], 2)

/-- The codes that letters and signs after a backslash stand for. -/
def letters : List (Char × Nat) :=
  [('\\', 92), ('\'', 39), ('"', 34), ('a', 7), ('b', 8), ('t', 9), ('n', 10), ('v', 11), ('f', 12),
   ('r', 13)]

/-- What stands in front of bytes after a backslash, in the form where only the two escapes for any
code point count. At the end the backslash stands for itself. -/
def plainFront : List Nat → Front
  | [] => ([some 92], 1)
  | 0x75 :: rest => hexFront 4 rest
  | 0x55 :: rest => hexFront 8 rest
  | b :: _ => ([some 92, some b], 2)

/-- What stands in front of bytes after a backslash, in the full form. -/
def fullFront (bytes : List Nat) : Front :=
  match bytes with
  | [] => ([none], 1)
  | 0x0A :: _ => ([], 2)
  | 0x78 :: rest => hexFront 2 rest
  | 0x4E :: rest => nameFront rest
  | b :: _ =>
    if 48 ≤ b ∧ b ≤ 55 then octalFront bytes
    else
      match letters.lookup (Char.ofNat b) with
      | some code => ([some code], 2)
      | none => plainFront bytes

/-- The codes of bytes, where something stands in front of them after each backslash. -/
def codesOf (front : List Nat → Front) : List Nat → List (Option Nat)
  | [] => []
  | b :: bytes =>
    if b = 92 then
      let (codes, size) := front bytes
      codes ++ codesOf front (bytes.drop (size - 1))
    else some b :: codesOf front bytes
  termination_by bytes => bytes.length
  decreasing_by
    all_goals simp only [List.length_drop, List.length_cons]
    all_goals omega

/-- The code points of codes, with the gaps. -/
def pointsOf (codes : List (Option Nat)) : Unicode.Pieces :=
  codes.map fun code => code.map CodePoint.ofCode

/-- The code points of bytes in the full form, with the gaps. -/
def pieces (bytes : List UInt8) : Unicode.Pieces :=
  pointsOf (codesOf fullFront (bytes.map UInt8.toNat))

/-- The code points of bytes where only the two escapes for any code point count, with the gaps. -/
def plainPieces (bytes : List UInt8) : Unicode.Pieces :=
  pointsOf (codesOf plainFront (bytes.map UInt8.toNat))

end Escape

end ApiTools
