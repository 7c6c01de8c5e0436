/-!
# Places in a YAML text

The layout of a YAML text carries meaning, so reading keeps track of the line and the column. A
line ends at a line feed, a next-line character, or a line or paragraph separator; the first two
read as a line feed. A byte order mark takes no column.

## Main definitions

* `Position`, `Cursor` — where reading has come to, and what is left.
* `Cursor.span` — what is next, as long as characters satisfy a test.
* `Cursor.lineBreak` — a line end, if one is next.
-/

namespace ApiTools

namespace Yaml

/-- Whether a character ends a line. -/
def isBreak (c : Char) : Bool := c == '\n' || c == '\u0085' || c == '\u2028' || c == '\u2029'

/-- Whether a character is a space, a tab or a line end. -/
def isBlank (c : Char) : Bool := c == ' ' || c == '\t' || isBreak c

/-- Whether no character that is not blank comes next. -/
def atBlank : List Char → Bool
  | [] => true
  | c :: _ => isBlank c

/-- Whether the line ends here. -/
def atLineEnd : List Char → Bool
  | [] => true
  | c :: _ => isBreak c

/-- Whether a space or a line end comes next. -/
def atSpace : List Char → Bool
  | [] => true
  | c :: _ => c == ' ' || isBreak c

/-- Whether the three characters of a document marker come next, apart from what follows. -/
def atMarker (mark : Char) : List Char → Bool
  | a :: b :: c :: s => a == mark && b == mark && c == mark && atBlank s
  | _ => false

/-- Whether a document starts or ends here. -/
def atDocumentMarker (s : List Char) : Bool := atMarker '-' s || atMarker '.' s

/-- Whether a character may stand in a YAML text. -/
def isAllowed (c : Char) : Bool :=
  let n := c.toNat
  n == 0x9 || n == 0xA || n == 0xD || (0x20 ≤ n && n ≤ 0x7E) || n == 0x85
    || (0xA0 ≤ n && n ≤ 0xFFFD) || 0x10000 ≤ n

/-- Whether a character may stand in the name of an anchor or a handle. -/
def isNameChar (c : Char) : Bool := c.isAlphanum || c == '-' || c == '_'

/-- Where reading has come to. -/
structure Position where
  /-- The characters before. -/
  index : Nat
  /-- The lines before. -/
  line : Nat
  /-- The columns before on the line. -/
  column : Nat

/-- The position after a character. -/
def Position.after (p : Position) (c : Char) : Position :=
  if isBreak c then ⟨p.index + 1, p.line + 1, 0⟩
  else if c = '\ufeff' then ⟨p.index + 1, p.line, p.column⟩
  else ⟨p.index + 1, p.line, p.column + 1⟩

/-- Where reading has come to, and what is left. -/
structure Cursor where
  /-- Where reading has come to. -/
  position : Position
  /-- What is left. -/
  rest : List Char

namespace Cursor

/-- The start of a text. -/
def start (text : List Char) : Cursor := ⟨⟨0, 0, 0⟩, text⟩

/-- The column. -/
def column (k : Cursor) : Nat := k.position.column

/-- Past one character. -/
def next (k : Cursor) : Cursor :=
  match k.rest with
  | [] => k
  | c :: s => ⟨k.position.after c, s⟩

/-- Past the given number of characters. -/
def skip : Nat → Cursor → Cursor
  | 0, k => k
  | n + 1, k => skip n k.next

/-- The characters that satisfy a test, from a position on. -/
def spanFrom (p : Char → Bool) (position : Position) : List Char → List Char × Cursor
  | [] => ([], ⟨position, []⟩)
  | c :: s =>
    if p c then
      let (taken, k) := spanFrom p (position.after c) s
      (c :: taken, k)
    else ([], ⟨position, c :: s⟩)

/-- The characters that come next and satisfy a test. -/
def span (p : Char → Bool) (k : Cursor) : List Char × Cursor := spanFrom p k.position k.rest

/-- Past the characters that satisfy a test. -/
def skipWhile (p : Char → Bool) (k : Cursor) : Cursor := (k.span p).2

/-- Past spaces. -/
def skipSpaces (k : Cursor) : Cursor := k.skipWhile (· == ' ')

/-- Past a comment, if one starts here. -/
def skipComment (k : Cursor) : Cursor :=
  match k.rest with
  | '#' :: _ => k.skipWhile fun c => !isBreak c
  | _ => k

/-- The text of a line end, if one is next. -/
def lineBreak (k : Cursor) : List Char × Cursor :=
  match k.rest with
  | c :: _ =>
    if c = '\n' ∨ c = '\u0085' then (['\n'], k.next)
    else if isBreak c then ([c], k.next)
    else ([], k)
  | [] => ([], k)

/-- Past spaces, a comment and the line end; nothing else may come before that. -/
def skipRestOfLine (k : Cursor) : Option Cursor :=
  let k := k.skipSpaces.skipComment
  if atLineEnd k.rest then some k.lineBreak.2 else none

/-- A line end read on the way, as text. -/
def breakText (c : Char) : Char := if c = '\u0085' then '\n' else c

/-- What a line end between two lines of running text reads as: itself if it is a separator, and
otherwise a space, or only the blank lines after it. -/
def foldBreaks (first blankLines : List Char) : List Char :=
  (if first ≠ ['\n'] then first else if blankLines.isEmpty then [' '] else []) ++ blankLines

end Cursor

end Yaml

end ApiTools
