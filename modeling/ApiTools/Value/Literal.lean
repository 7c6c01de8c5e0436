import ApiTools.Double.Notation
import ApiTools.Text.Quoted
import ApiTools.Value.Basic

/-!
# Values as literals

A value is written in one line as a literal: texts quoted, lists in brackets, maps in braces with
their entries in order. A value inside itself is written as dots. Where a value stands in running
text, a text is shown as it is.

## Main definitions

* `Value.toLiteral` — the literal.
* `Value.display` — the value in running text.
-/

namespace ApiTools

/-- The literal of a text. -/
def quoteText (s : String) : String := String.ofList (Text.quoted s.toList)

/-- The literal of bytes: printable ASCII as it is, the others by number. -/
def quoteBytes (bytes : List UInt8) : String :=
  let quote := Text.quoteFor (bytes.map fun b => Char.ofNat b.toNat)
  let escaped := fun (b : UInt8) =>
    if b < 0x7F then Text.escaped quote (Char.ofNat b.toNat) else '\\' :: 'x' :: Text.hex 2 b.toNat
  "b" ++ String.ofList (quote :: (bytes.flatMap escaped ++ [quote]))

/-- The literal of a scalar. -/
def Scalar.toLiteral : Scalar → String
  | .null => "None"
  | .bool true => "True"
  | .bool false => "False"
  | .int n => toString n
  | .double d => d.toText
  | .text s => quoteText s
  | .stamp t => t.toLiteral
  | .bytes b => quoteBytes b

/-- A value inside itself. -/
def Value.dots : Value → String
  | .map _ => "\x7b...\x7d"
  | .group .set _ => "set(...)"
  | _ => "[...]"

mutual

/-- The literal of a value inside the knots with the given labels. -/
def Value.literalWithin (around : List Nat) : Value → String
  | .scalar s => s.toLiteral
  | .list items => "[" ++ ", ".intercalate (Value.itemLiterals around items) ++ "]"
  | .map entries =>
    "\x7b" ++ ", ".intercalate (Value.entryLiterals around entries) ++ "\x7d"
  | .group .pair items => "(" ++ ", ".intercalate (Value.itemLiterals around items) ++ ")"
  | .group .set items =>
    if items.isEmpty then "set()"
    else "\x7b" ++ ", ".intercalate (Value.itemLiterals around items) ++ "\x7d"
  | .knot label inside =>
    if around.contains label then inside.dots else Value.literalWithin (label :: around) inside

/-- The literals of the items of a list. -/
def Value.itemLiterals (around : List Nat) : List Value → List String
  | [] => []
  | x :: xs => Value.literalWithin around x :: Value.itemLiterals around xs

/-- The literals of the entries of a map. -/
def Value.entryLiterals (around : List Nat) : List (Scalar × Value) → List String
  | [] => []
  | (key, x) :: es =>
    (key.toLiteral ++ ": " ++ Value.literalWithin around x) :: Value.entryLiterals around es

end

/-- The literal of a value. -/
def Value.toLiteral (v : Value) : String := v.literalWithin []

/-- A scalar in running text. -/
def Scalar.display : Scalar → String
  | .text s => s
  | .stamp t => t.toText
  | s => s.toLiteral

/-- A value in running text. -/
def Value.display : Value → String
  | .scalar s => s.display
  | v => v.toLiteral

end ApiTools
