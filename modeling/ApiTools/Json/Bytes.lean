import ApiTools.Json.Reader
import ApiTools.Text.Charset

/-!
# JSON in bytes

A JSON document in bytes does not say how its text is encoded, but shows it: by a mark in front, or
by where the zeros are among its first bytes, since its first two characters are ASCII.

## Main definitions

* `Json.encodingOf` — the encoding that bytes show.
* `Json.ofBytes` — the value of a document in bytes.
-/

namespace ApiTools

namespace Json

/-- The encodings that documents come in. -/
inductive Encoding where
  /-- Bytes, with or without a mark in front. -/
  | utf8
  /-- Units of sixteen bits. -/
  | utf16 (order : Unicode.ByteOrder)
  /-- Units of thirty-two bits. -/
  | utf32 (order : Unicode.ByteOrder)
  deriving DecidableEq

/-- The encodings that a mark in front shows, the longest marks first. -/
def marks : List (List UInt8 × Encoding) :=
  [([0, 0, 0xFE, 0xFF], .utf32 .big), ([0xFF, 0xFE, 0, 0], .utf32 .little),
   ([0xFE, 0xFF], .utf16 .big), ([0xFF, 0xFE], .utf16 .little), (Charset.mark8, .utf8)]

/-- The encoding that the zeros among the first bytes show. -/
def encodingByZeros : List UInt8 → Encoding
  | a :: b :: c :: d :: _ =>
    if a = 0 then if b = 0 then .utf32 .big else .utf16 .big
    else if b = 0 then if c = 0 ∧ d = 0 then .utf32 .little else .utf16 .little
    else .utf8
  | [a, b] => if a = 0 then .utf16 .big else if b = 0 then .utf16 .little else .utf8
  | _ => .utf8

/-- The encoding that bytes show, and the bytes after a mark. -/
def encodingOf (bytes : List UInt8) : Encoding × List UInt8 :=
  match marks.find? fun m => m.1.isPrefixOf bytes with
  | some (mark, encoding) => (encoding, bytes.drop mark.length)
  | none => (encodingByZeros bytes, bytes)

/-- The text of bytes in an encoding. Units must be whole, and codes those of code points: a half of a
pair may be alone. -/
def textOf (encoding : Encoding) (bytes : List UInt8) : Except Fault String :=
  let pieces := match encoding with
    | .utf8 => Unicode.utf8 true bytes
    | .utf16 order => Unicode.utf16 order bytes
    | .utf32 order => Unicode.utf32 order bytes
  match Unicode.whole? pieces with
  | some text => .ok text
  | none => .error .notDecodable

/-- The value of a document in bytes. -/
def ofBytes (bytes : List UInt8) : Except Fault Value := do
  let (encoding, rest) := encodingOf bytes
  parseSpelled (← textOf encoding rest)

end Json

end ApiTools
