import ApiTools.Bytes.Base64
import ApiTools.Text.Blank
import ApiTools.Text.Digit
import ApiTools.Text.Fold
import ApiTools.Text.Split
import ApiTools.Yaml.Tag

/-!
# The values of YAML scalars

A text of a given type is read as a value of it. Integers may be binary, octal, hexadecimal or
decimal, or have parts of a base of sixty; numbers with a point may have such parts too. Underscores
between digits do not count, and digits may be those of any script.

## Main definitions

* `Yaml.integer`, `Yaml.decimal` — the number of a numeral.
* `Yaml.scalarValue` — the value of a text of a type.
-/

namespace ApiTools

namespace Yaml

/-! ### Numerals -/

/-- A text without underscores. -/
def dropGaps (s : List Char) : List Char := s.filter (· != '_')

/-- Whether a character is white space in ASCII and no separator of information. -/
def isAsciiSpace (c : Char) : Bool := c == ' ' || ('\t' ≤ c && c ≤ '\r')

/-- A character of a numeral in ASCII: other digits and other white space have one that stands for
them, and all else has none. -/
def asciiForm (c : Char) : Char :=
  if c.toNat < 0x7F then c
  else if Text.isBlank c then ' '
  else
    match Text.decimalValue? c with
    | some n => Char.ofNat (48 + n)
    | none => '?'

/-- A numeral in ASCII, without white space in front. -/
def asciiNumeral (s : List Char) : List Char := (s.map asciiForm).dropWhile isAsciiSpace

/-- The digits after the mark of a base, where there is one. -/
def dropBaseMark (base : Nat) : List Char → List Char
  | '0' :: m :: s =>
    let mark := if base = 2 then 'b' else if base = 8 then 'o' else if base = 16 then 'x' else ' '
    if m.toLower = mark then s else '0' :: m :: s
  | s => s

/-- The value of a digit below a base. -/
def digitBelow? (base : Nat) (c : Char) : Option Nat := (Text.hexDigit? c).filter (· < base)

/-- The integer of a text in a base, which may have white space around it and a sign. A decimal one
must not have too many digits. -/
def integer (base : Nat) (s : List Char) : Except Fault Int :=
  let (negative, body) := Text.splitSign (asciiNumeral s)
  let (digits, rest) := (dropBaseMark base body).span fun c => (digitBelow? base c).isSome
  if base = 10 ∧ Text.maxDigits < digits.length then .error (.tooManyDigits digits.length)
  else if digits.isEmpty || !rest.all isAsciiSpace then .error (.notANumeral base (String.ofList s))
  else
    let n := digits.foldl (fun n c => n * base + (digitBelow? base c).getD 0) 0
    .ok (if negative then -(n : Int) else n)

/-- The number of a decimal text, which may have white space around it and a sign. -/
def decimal (s : List Char) : Except Fault Double :=
  let (negative, body) := Text.splitSign (Text.trimEnd isAsciiSpace (asciiNumeral s))
  let (whole, rest) := Json.spanDigits body
  let (places, rest) := match rest with
    | '.' :: t => Json.spanDigits t
    | t => ([], t)
  let (exponent, rest) := Json.readExponent rest
  let infinity := ["inf", "infinity"].any fun w => body == w.toList
  if infinity then .ok (.infinite negative)
  else if body == "nan".toList then .ok .nan
  else if (whole.isEmpty && places.isEmpty) || !rest.isEmpty then
    .error (.notADecimal (String.ofList s))
  else
    .ok (.ofDecimal negative (Json.digitsValue 0 (whole ++ places))
      (exponent.getD 0 - places.length))

/-- The sum of parts of a base of sixty, from the smallest one on, after a sum of others: each part
times a power of sixty, rounded at each step. -/
def sixtiesValue (sum : Double) (power : Nat) : List Double → Except Fault Double
  | [] => .ok sum
  | part :: parts =>
    match Double.ofNat? power with
    | none => .error .tooLarge
    | some size => sixtiesValue (sum.add (part.mul size)) (power * 60) parts

/-! ### Values -/

/-- An integer: binary, octal, hexadecimal, decimal, or decimal parts of a base of sixty. -/
def intValue (text : String) : Except Fault Scalar := do
  let (negative, s) := Text.splitSign (dropGaps text.toList)
  let size ←
    match s with
    | [] => throw .emptyNumeral
    | ['0'] => pure 0
    | '0' :: 'b' :: digits => integer 2 digits
    | '0' :: 'x' :: digits => integer 16 digits
    | '0' :: _ => integer 8 s
    | _ =>
      if s.contains ':' then do
        let parts ← (Text.split ':' s).mapM (integer 10)
        pure (parts.foldl (fun n part => n * 60 + part) 0)
      else integer 10 s
  return .int (if negative then -size else size)

/-- A number with a point, an infinity, or the non-number. -/
def floatValue (text : String) : Except Fault Scalar := do
  let bare := Text.lowered (dropGaps text.toList)
  let (negative, s) := Text.splitSign bare
  let signed := fun (d : Double) => Scalar.double (if negative then d.neg else d)
  if bare.isEmpty then throw .emptyNumeral
  else if s = ".inf".toList then return signed (.infinite false)
  else if s = ".nan".toList then return .double .nan
  else if s.contains ':' then
    let parts ← (Text.split ':' s).mapM decimal
    return signed (← sixtiesValue (.ofDecimal false 0 0) 1 parts.reverse)
  else return signed (← decimal s)

/-- The millionths that the digits of a fraction denote. -/
def microseconds (fraction : List Char) : Nat :=
  Json.digitsValue 0 ((fraction ++ List.replicate 6 '0').take 6)

/-- A day or a moment. -/
def stampValue (text : String) : Except Fault Scalar :=
  match Tag.stampParts? (Tag.dropFinalBreak text.toList) with
  | none => .error .noAccessor
  | some parts =>
    let stamp := match parts.time with
      | none => (Stamp.day? parts.year parts.month parts.day).map Stamp.day
      | some (hour, minute, second, fraction) =>
        Stamp.moment? parts.year parts.month parts.day ⟨hour, minute, second, microseconds fraction⟩
          parts.ahead
    match stamp with
    | .ok t => .ok (.stamp t)
    | .error reason => .error (.badStamp reason)

/-- A truth value. -/
def boolValue (text : String) : Except Fault Scalar :=
  let word := String.ofList (Text.lowered text.toList)
  if word ∈ ["yes", "true", "on"] then .ok (.bool true)
  else if word ∈ ["no", "false", "off"] then .ok (.bool false)
  else .error (.missingKey (.text word))

/-- Bytes, written in base 64. -/
def bytesValue (text : String) : Except Fault Scalar :=
  let s := text.toList
  match Base64.decode? s with
  | some bytes => if s.all (·.toNat < 0x80) then .ok (.bytes bytes) else .error .malformedYaml
  | none => .error .malformedYaml

/-- The value of a text of a type. -/
def scalarValue (tag : Tag) (text : String) : Except Fault Scalar :=
  match tag with
  | .null => .ok .null
  | .bool => boolValue text
  | .int => intValue text
  | .float => floatValue text
  | .stamp => stampValue text
  | .text => .ok (.text text)
  | .bytes => bytesValue text
  | .sequence | .mapping | .set | .pairs | .merge | .default | .other => .error .malformedYaml

end Yaml

end ApiTools
