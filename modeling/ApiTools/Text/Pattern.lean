import ApiTools.Text.Fold

/-!
# Patterns of tokens

A pattern is a text with alternatives, between which there are bars. A character that would mean
something in a pattern stands for itself after a backslash. Nothing else than characters and
alternatives is read here: these are the patterns that tokens are written as.

A pattern is searched in a text without regard to case.

## Main definitions

* `Pattern.escape`, `Pattern.ofTokens` — the pattern that a list of tokens is written as.
* `Pattern.read` — the alternatives of a pattern.
* `Pattern.search` — whether one of them stands in a text.
-/

namespace ApiTools

namespace Pattern

/-- The characters that are escaped. -/
def escaped : List Char :=
  ['(', ')', '[', ']', '\x7b', '\x7d', '?', '*', '+', '-', '|', '^', '$', '\\', '.', '&', '~', '#', ' ',
   '\t', '\n', '\r', '\x0b', '\x0c']

/-- A text with a backslash before every character that is escaped. -/
def escape (token : List Char) : List Char :=
  token.flatMap fun c => if c ∈ escaped then ['\\', c] else [c]

/-- The pattern of some tokens: they are the alternatives. -/
def ofTokens (tokens : List String) : List Char :=
  List.intercalate ['|'] (tokens.map fun t => escape t.toList)

/-- The characters that mean something in a pattern, but for the bar and the backslash. -/
def operators : List Char := ['(', ')', '[', '\x7b', '?', '*', '+', '^', '$', '.']

/-- The alternatives of the rest of a pattern, after those before and the characters of the last
one, both backwards. After a backslash, a letter or a digit is not a character but a class, a place
or a group, and such patterns are not read. -/
def readFrom (before : List (List Char)) (letters : List Char) :
    List Char → Option (List (List Char))
  | [] => some (letters.reverse :: before).reverse
  | '\\' :: c :: rest => if c.isAlphanum then none else readFrom before (c :: letters) rest
  | '\\' :: [] => none
  | '|' :: rest => readFrom (letters.reverse :: before) [] rest
  | c :: rest => if c ∈ operators then none else readFrom before (c :: letters) rest

/-- The alternatives of a pattern, if it has nothing but characters in them. -/
def read (pattern : List Char) : Option (List (List Char)) := readFrom [] [] pattern

/-- Whether one of the alternatives stands at the beginning of a text. -/
def matchesAt (alternatives : List (List Char)) (s : List Char) : Bool :=
  alternatives.any fun letters => Text.startsWithLetters letters s

/-- Whether one of the alternatives stands somewhere in a text. -/
def search (alternatives : List (List Char)) : List Char → Bool
  | [] => matchesAt alternatives []
  | c :: s => matchesAt alternatives (c :: s) || search alternatives s

end Pattern

end ApiTools
