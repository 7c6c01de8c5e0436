import ApiTools.Text.Blank
import ApiTools.Value.Literal

/-!
# Literals in several lines

A literal that does not fit its line is spread over several: lists and maps one item a line,
aligned after the bracket, and long texts in pieces that stand side by side. What fits is the
width less the column where the literal starts and the characters that still follow it on its
last line.

A text is cut at its line ends first, and a line that is still too long at its words, as many to a
piece as fit.

## Main definitions

* `Layout.pieces` — the pieces of a text.
* `Value.layout` — the literal.
-/

namespace ApiTools

namespace Layout

/-- The width of a line. -/
def width : Nat := 100

/-- Whether a literal fits between a column and the characters that follow it. -/
def fits (column after : Nat) (literal : List Char) : Bool :=
  literal.length + column + after ≤ width

/-- The words of a line packed into pieces: each one is as long as fits. The characters after the
literal count for the last word. -/
def pack (column after : Nat) (current : List Char) : List (List Char) → List (List Char)
  | [] => if current.isEmpty then [] else [current]
  | word :: words =>
    let room := if words.isEmpty then after else 0
    let longer := current ++ word
    if fits column room (Text.quoted longer) then pack column after longer words
    else if current.isEmpty then pack column after word words
    else current :: pack column after word words

/-- The pieces of the lines of a text. The characters after the literal count for the last line. -/
def pieces (column after : Nat) : List (List Char) → List (List Char)
  | [] => []
  | line :: lines =>
    let room := if lines.isEmpty then after else 0
    (if fits column room (Text.quoted line) then [line] else pack column room [] (Text.words line))
      ++ pieces column after lines

/-- The start of a line at a column. -/
def lineStart (column : Nat) : String := "\n" ++ String.ofList (List.replicate column ' ')

/-- Parts under each other, right of a bracket at a column. -/
def joined (column : Nat) (parts : List String) : String :=
  ("," ++ lineStart (column + 1)).intercalate parts

/-- The pieces of a text as literals under each other. -/
def textLiterals (column after : Nat) (s : String) : List String :=
  (pieces column after (Text.lines s.toList)).map fun piece => String.ofList (Text.quoted piece)

mutual

/-- The literal of a value that starts at a column and has characters after it. -/
def valueAt (column after : Nat) : Value → String
  | .scalar s =>
    let line := s.toLiteral
    match s with
    | .text t =>
      if fits column after line.toList || t.isEmpty then line
      else (lineStart column).intercalate (textLiterals column after t)
    | _ => line
  | .list items =>
    let line := (Value.list items).toLiteral
    if fits column after line.toList then line
    else "[" ++ joined column (itemsAt (column + 1) (after + 1) items) ++ "]"
  | .map entries =>
    let line := (Value.map entries).toLiteral
    if fits column after line.toList then line
    else "\x7b" ++ joined column (entriesAt (column + 1) (after + 1) entries) ++ "\x7d"
  | .group form items => (Value.group form items).toLiteral
  | .knot label inside => (Value.knot label inside).toLiteral

/-- The literals of items at a column; only the last one has what follows the list after it. -/
def itemsAt (column after : Nat) : List Value → List String
  | [] => []
  | x :: xs => valueAt column (if xs.isEmpty then after else 1) x :: itemsAt column after xs

/-- The literals of entries at a column, each value right of its key. -/
def entriesAt (column after : Nat) : List (Scalar × Value) → List String
  | [] => []
  | (key, x) :: es =>
    let name := key.toLiteral ++ ": "
    (name ++ valueAt (column + name.length) (if es.isEmpty then after else 1) x)
      :: entriesAt column after es

end

end Layout

/-- The literal of a value in lines of limited width. A text that stands alone in several pieces is
put in parentheses. -/
def Value.layout : Value → String
  | .text s =>
    let line := quoteText s
    if Layout.fits 0 0 line.toList then line
    else
      match Layout.textLiterals 1 1 s with
      | [piece] => piece
      | pieces => "(" ++ (Layout.lineStart 1).intercalate pieces ++ ")"
  | v => Layout.valueAt 0 0 v

end ApiTools
