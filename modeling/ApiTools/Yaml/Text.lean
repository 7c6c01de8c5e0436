import ApiTools.Json.Reader
import ApiTools.Yaml.Cursor

/-!
# Scalars in a YAML text

A scalar is written plainly, between quotes, or as a block of lines. Plain and quoted text may go
over several lines, which fold into one; a block keeps its line ends or folds them too.

The readers of text over several lines go on line by line or character by character. The length of
the text bounds the number of steps and is handed to them.

## Main definitions

* `Plain.read` — plain text.
* `Quoted.read` — text after an opening quote.
* `Block.read` — text after the sign of a block.
-/

namespace ApiTools

namespace Yaml

/-! ### Plain text -/

namespace Plain

/-- Signs of flow collections. -/
def isFlowSign (c : Char) : Bool := c == ',' || c == '[' || c == ']' || c == '\x7b' || c == '\x7d'

/-- Whether plain text ends before a character, given what comes after it. A colon ends it before a
blank; in a flow collection, the signs of these do too. -/
def endsBefore (inFlow : Bool) (c : Char) (s : List Char) : Bool :=
  isBlank c
    || (c == ':' && (atBlank s || (inFlow && s.head?.any isFlowSign)))
    || (inFlow && (isFlowSign c || c == '?'))

/-- The plain text up to the next blank or the end. -/
def chunkFrom (inFlow : Bool) (position : Position) : List Char → List Char × Cursor
  | [] => ([], ⟨position, []⟩)
  | c :: s =>
    if endsBefore inFlow c s then ([], ⟨position, c :: s⟩)
    else
      let (taken, k) := chunkFrom inFlow (position.after c) s
      (c :: taken, k)

/-- Past spaces and blank lines, with the ends of these; none if a document starts or ends on the
way. -/
def blankLinesFrom (position : Position) : List Char → Option (List Char) × Cursor
  | [] => (some [], ⟨position, []⟩)
  | c :: s =>
    if c = ' ' then blankLinesFrom (position.after c) s
    else if isBreak c then
      if atDocumentMarker s then (none, ⟨position.after c, s⟩)
      else
        let (taken, k) := blankLinesFrom (position.after c) s
        (taken.map (Cursor.breakText c :: ·), k)
    else (some [], ⟨position, c :: s⟩)

/-- What stands between two chunks of plain text, and whether a line ends there. -/
def gap (k : Cursor) : List Char × Bool × Cursor :=
  let (spaces, k) := k.span (· == ' ')
  match k.lineBreak with
  | ([], k) => (spaces, false, k)
  | (first, k) =>
    if atDocumentMarker k.rest then ([], true, k)
    else
      match blankLinesFrom k.position k.rest with
      | (none, k) => ([], true, k)
      | (some blankLines, k) => (Cursor.foldBreaks first blankLines, true, k)

/-- Plain text with what was read of it, and whether a line ended since its last chunk. -/
structure Reading where
  /-- The text. -/
  text : List Char
  /-- Whether a line ended after it. -/
  crossed : Bool
  /-- What is left. -/
  cursor : Cursor

/-- Plain text from a chunk on, after the given text. A line with less than the given indentation is
not part of it, outside of flow collections. -/
def readFrom (inFlow : Bool) (indent : Int) : Nat → Reading → List Char → Reading
  | 0, r, _ => r
  | fuel + 1, r, before =>
    match r.cursor.rest with
    | '#' :: _ => r
    | s =>
      match chunkFrom inFlow r.cursor.position s with
      | ([], _) => r
      | (chunk, k) =>
        let (between, crossed, k) := gap k
        let read : Reading := ⟨r.text ++ before ++ chunk, crossed, k⟩
        if between.isEmpty || (!inFlow && decide ((k.column : Int) < indent)) then read
        else readFrom inFlow indent fuel read between

/-- Plain text, where the lines of a block have to be indented by `indent`. -/
def read (inFlow : Bool) (indent : Int) (bound : Nat) (k : Cursor) : Reading :=
  readFrom inFlow indent (bound + 1) ⟨[], false, k⟩ []

end Plain

/-! ### Quoted text -/

namespace Quoted

/-- The character that a one-letter escape stands for. -/
def escapeLetter? : Char → Option Char
  | '0' => some '\x00'
  | 'a' => some '\x07'
  | 'b' => some '\x08'
  | 't' => some '\t'
  | '\t' => some '\t'
  | 'n' => some '\n'
  | 'v' => some '\x0b'
  | 'f' => some '\x0c'
  | 'r' => some '\r'
  | 'e' => some '\x1b'
  | ' ' => some ' '
  | '"' => some '"'
  | '\\' => some '\\'
  | '/' => some '/'
  | 'N' => some '\u0085'
  | '_' => some '\u00a0'
  | 'L' => some '\u2028'
  | 'P' => some '\u2029'
  | _ => none

/-- The number of hexadecimal digits after the letter of an escape by code. -/
def codeLength? : Char → Option Nat
  | 'x' => some 2
  | 'u' => some 4
  | 'U' => some 8
  | _ => none

/-- The number that hexadecimal digits denote. -/
def hexValue? (digits : List Char) : Option Nat :=
  digits.foldlM (fun n c => (Text.hexDigit? c).map (n * 16 + ·)) 0

/-- The code after the letter of an escape by code, and the number of characters that it takes. -/
def readCode : List Char → Option (Nat × Nat)
  | [] => none
  | letter :: s => do
    let n ← codeLength? letter
    let digits := s.take n
    if digits.length < n then none
    return (← hexValue? digits, n + 1)

/-- Past blanks and line ends, with the ends of the blank lines; no document may start or end. -/
def blankLinesFrom (position : Position) : List Char → Option (List Char × Cursor)
  | [] => some ([], ⟨position, []⟩)
  | c :: s =>
    if c = ' ' ∨ c = '\t' then blankLinesFrom (position.after c) s
    else if isBreak c then
      if atDocumentMarker s then none
      else
        (blankLinesFrom (position.after c) s).map
          fun (taken, k) => (Cursor.breakText c :: taken, k)
    else some ([], ⟨position, c :: s⟩)

/-- The blank lines after a line end. -/
def blankLines (k : Cursor) : Option (List Char × Cursor) :=
  if atDocumentMarker k.rest then none else blankLinesFrom k.position k.rest

/-- What blanks and line ends inside quoted text read as. -/
def gap (k : Cursor) : Option (List Char × Cursor) :=
  let (blanks, k) := k.span fun c => c == ' ' || c == '\t'
  match k.lineBreak with
  | ([], k) => some (blanks, k)
  | (first, k) => (blankLines k).map fun (lines, k) => (Cursor.foldBreaks first lines, k)

/-- An escape after its backslash: what it stands for, spelled, and what is left. An escape by code
may stand for a half of a pair. -/
def readEscape (k : Cursor) : Except Fault (List Char × Cursor) :=
  match k.rest with
  | [] => .error .malformedYaml
  | c :: _ =>
    if isBreak c then
      match blankLines k.lineBreak.2 with
      | some found => .ok found
      | none => .error .malformedYaml
    else
      match escapeLetter? c, readCode k.rest with
      | some e, _ => .ok ([e], k.next)
      | none, none => .error .malformedYaml
      | none, some (code, n) =>
        if 0x110000 ≤ code then .error .noCharacter
        else .ok ((CodePoint.ofCode code).spelled, k.skip n)

/-- The text up to the closing quote, after what was read of it, in reverse; it is spelled. -/
def readFrom (isDouble : Bool) : Nat → List Char → Cursor → Except Fault (List Char × Cursor)
  | 0, _, _ => .error .malformedYaml
  | fuel + 1, done, k =>
    match k.rest with
    | [] => .error .malformedYaml
    | c :: s =>
      if isBlank c then
        match gap k with
        | some (text, k) => readFrom isDouble fuel (text.reverse ++ done) k
        | none => .error .malformedYaml
      else if c = '\'' ∧ !isDouble then
        match s with
        | '\'' :: _ => readFrom isDouble fuel ('\'' :: done) (k.skip 2)
        | _ => .ok (done, k.next)
      else if c = '"' ∧ isDouble then .ok (done, k.next)
      else if c = '\\' ∧ isDouble then do
        let (text, k) ← readEscape k.next
        readFrom isDouble fuel (text.reverse ++ done) k
      else readFrom isDouble fuel ((CodePoint.char c).spelled.reverse ++ done) k.next

/-- The text after an opening quote, spelled. -/
def read (isDouble : Bool) (bound : Nat) (k : Cursor) : Except Fault (List Char × Cursor) := do
  let (done, k) ← readFrom isDouble (bound + 1) [] k
  return (done.reverse, k)

end Quoted

/-! ### Blocks of lines -/

namespace Block

/-- What becomes of the line ends after the last line. -/
inductive Chomping where
  /-- One is kept. -/
  | clip
  /-- None is kept. -/
  | strip
  /-- All are kept. -/
  | keep
  deriving DecidableEq

/-- The chomping of a sign. -/
def chomping? : Char → Option Chomping
  | '+' => some .keep
  | '-' => some .strip
  | _ => none

/-- The indentation that a digit gives; zero gives none. -/
def increment? (c : Char) : Option Nat :=
  if '1' ≤ c ∧ c ≤ '9' then some (c.toNat - 48) else none

/-- The header after the sign of a block: chomping and indentation in either order. -/
def header (k : Cursor) : Option (Chomping × Option Nat × Cursor) :=
  let (chomping, increment, k) :=
    match k.rest with
    | c :: s =>
      match chomping? c, increment? c with
      | some chomping, _ =>
        match s.head?.bind increment? with
        | some n => (chomping, some n, k.skip 2)
        | none => (chomping, none, k.next)
      | none, some n =>
        match s.head?.bind chomping? with
        | some chomping => (chomping, some n, k.skip 2)
        | none => (Chomping.clip, some n, k.next)
      | none, none => (Chomping.clip, none, k)
    | [] => (Chomping.clip, none, k)
  if atSpace k.rest then (k.skipRestOfLine).map fun k => (chomping, increment, k) else none

/-- The ends of the blank lines before the first line, and the greatest indentation of these. -/
def leadingFrom (deepest : Nat) (position : Position) : List Char → List Char × Nat × Cursor
  | [] => ([], deepest, ⟨position, []⟩)
  | c :: s =>
    if c = ' ' then leadingFrom (max deepest (position.column + 1)) (position.after c) s
    else if isBreak c then
      let (taken, deepest, k) := leadingFrom deepest (position.after c) s
      (Cursor.breakText c :: taken, deepest, k)
    else ([], deepest, ⟨position, c :: s⟩)

/-- The ends of blank lines, and past the indentation of the line after them. -/
def blankLinesFrom (indent : Nat) (position : Position) : List Char → List Char × Cursor
  | [] => ([], ⟨position, []⟩)
  | c :: s =>
    if c = ' ' ∧ position.column < indent then blankLinesFrom indent (position.after c) s
    else if isBreak c then
      let (taken, k) := blankLinesFrom indent (position.after c) s
      (Cursor.breakText c :: taken, k)
    else ([], ⟨position, c :: s⟩)

/-- Whether a line of the block starts here. -/
def atLine (indent : Nat) (k : Cursor) : Bool := k.column == indent && !k.rest.isEmpty

/-- Whether a line starts with a space or a tab. -/
def startsBlank : List Char → Bool
  | c :: _ => c == ' ' || c == '\t'
  | [] => false

/-- The lines of a block in reverse order of characters, with the end of the last line and of the
blank lines after it. -/
def linesFrom (folded : Bool) (indent : Nat) :
    Nat → List Char → List Char → Cursor → List Char × List Char × List Char × Cursor
  | 0, done, blankLines, k => (done, [], blankLines, k)
  | fuel + 1, done, blankLines, k =>
    let startedBlank := startsBlank k.rest
    let (line, k) := k.span fun c => !isBreak c
    let done := line.reverse ++ (blankLines.reverse ++ done)
    let (ending, k) := k.lineBreak
    let (blankLines, k) := blankLinesFrom indent k.position k.rest
    if atLine indent k then
      let joined :=
        if folded && ending == ['\n'] && !startedBlank && !startsBlank k.rest then
          (if blankLines.isEmpty then [' '] else [])
        else ending
      linesFrom folded indent fuel (joined.reverse ++ done) blankLines k
    else (done, ending, blankLines, k)

/-- The text after the sign of a block, inside a collection with the given indentation. -/
def read (folded : Bool) (outer : Int) (bound : Nat) (k : Cursor) : Option (List Char × Cursor) :=
  match header k with
  | none => none
  | some (chomping, increment, k) =>
    let least := (max (outer + 1) 1).toNat
    let (indent, blankLines, k) :=
      match increment with
      | none =>
        let (blankLines, deepest, k) := leadingFrom 0 k.position k.rest
        (max least deepest, blankLines, k)
      | some n =>
        let indent := least + n - 1
        let (blankLines, k) := blankLinesFrom indent k.position k.rest
        (indent, blankLines, k)
    let (done, ending, blankLines, k) :=
      if atLine indent k then linesFrom folded indent (bound + 1) [] blankLines k
      else ([], [], blankLines, k)
    let tail := match chomping with
      | .strip => []
      | .clip => ending
      | .keep => ending ++ blankLines
    some (done.reverse ++ tail, k)

end Block

end Yaml

end ApiTools
