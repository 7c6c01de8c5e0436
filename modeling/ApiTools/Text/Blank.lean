import ApiTools.Text.Ranges

/-!
# White space and line breaks

White space is the Unicode property together with the four information separators. A smaller set
of characters ends a line; a carriage return with a line feed after it is one line end.

## Main definitions

* `Text.isBlank` — white space.
* `Text.trim` — a text without white space at its ends.
* `Text.lines` — the lines of a text, each with its end.
* `Text.words` — the words of a text, each with the white space after it.
-/

namespace ApiTools

namespace Text

/-- White space. -/
def blankRanges : Ranges :=
  [(0x9, 0xD), (0x1C, 0x20), (0x85, 0x85), (0xA0, 0xA0), (0x1680, 0x1680), (0x2000, 0x200A),
   (0x2028, 0x2029), (0x202F, 0x202F), (0x205F, 0x205F), (0x3000, 0x3000)]

/-- Whether a character is white space. -/
def isBlank (c : Char) : Bool := inRanges blankRanges c.toNat

/-- A text without the given characters at its end. -/
def trimEnd (p : Char → Bool) (s : List Char) : List Char := (s.reverse.dropWhile p).reverse

/-- A text without white space at its ends. -/
def trim (s : List Char) : List Char := trimEnd isBlank (s.dropWhile isBlank)

/-- The characters that end a line. -/
def lineEndRanges : Ranges :=
  [(0xA, 0xD), (0x1C, 0x1E), (0x85, 0x85), (0x2028, 0x2029)]

/-- Whether a character ends a line. -/
def isLineEnd (c : Char) : Bool := inRanges lineEndRanges c.toNat

/-- The first line of a text, with its end, and the rest. -/
def takeLine : List Char → List Char × List Char
  | [] => ([], [])
  | '\r' :: '\n' :: s => (['\r', '\n'], s)
  | c :: s =>
    if isLineEnd c then ([c], s)
    else
      let (line, rest) := takeLine s
      (c :: line, rest)

theorem length_takeLine_le (s : List Char) : (takeLine s).2.length ≤ s.length := by
  fun_induction takeLine s <;> simp_all <;> omega

theorem length_takeLine_cons_lt (c : Char) (s : List Char) :
    (takeLine (c :: s)).2.length < (c :: s).length := by
  have h := length_takeLine_le s
  unfold takeLine
  split
  · next hs => cases hs
  · next hs => cases hs; simp only [List.length_cons]; omega
  · next hs => cases hs; split <;> simp only [List.length_cons] <;> omega

/-- The lines of a text, each with its end. -/
def lines : List Char → List (List Char)
  | [] => []
  | c :: s => (takeLine (c :: s)).1 :: lines (takeLine (c :: s)).2
  termination_by s => s.length
  decreasing_by exact length_takeLine_cons_lt c s

/-- The words of a text, each with the white space after it; white space in front is a word. -/
def words (s : List Char) : List (List Char) :=
  let (current, done) := s.foldl (fun (state : List Char × List (List Char)) c =>
    match state.1 with
    | last :: _ =>
      if isBlank last && !isBlank c then ([c], state.1.reverse :: state.2)
      else (c :: state.1, state.2)
    | [] => ([c], state.2)) ([], [])
  (if current.isEmpty then done else current.reverse :: done).reverse

end Text

end ApiTools
