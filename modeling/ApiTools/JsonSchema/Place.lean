import ApiTools.Text.CodePoint
import ApiTools.Value.Basic

/-!
# Places in a value

A place is the way from a value to one of its parts, by keys of maps and indices of lists. It is
written after a `$`: an index in brackets, a key of letters, digits and underscores that starts
with a letter after a point, and any other key quoted in brackets.

## Main definitions

* `Step` — one step of the way.
* `Place.render` — the written form.
-/

namespace ApiTools

/-- One step into a value. -/
inductive Step where
  /-- To the value at a key. -/
  | key (name : String)
  /-- To the item at an index. -/
  | index (i : Nat)
  deriving DecidableEq

namespace Step

/-- The order of steps: keys by the codes of their code points, indices as numbers. -/
def compareTo : Step → Step → Ordering
  | key a, key b => compare (Text.codes a) (Text.codes b)
  | index i, index j => compare i j
  | key _, index _ => .gt
  | index _, key _ => .lt

end Step

/-- A way into a value. -/
abbrev Place := List Step

namespace Place

/-- Whether a character is an ASCII letter, a digit or an underscore. -/
def isWordChar (c : Char) : Bool := c.isAlphanum || c == '_'

/-- Whether a key is written plainly; one line feed at its end does not count. -/
def isPlain : List Char → Bool
  | [] => false
  | c :: s =>
    let rest := if s.getLast? = some '\n' then s.dropLast else s
    c.isAlpha && rest.all isWordChar

/-- A character between single quotes. -/
def escaped (c : Char) : List Char := if c = '\\' ∨ c = '\'' then ['\\', c] else [c]

/-- The written form of a step. -/
def renderStep : Step → String
  | .index i => "[" ++ toString i ++ "]"
  | .key name =>
    if isPlain name.toList then "." ++ name
    else "['" ++ String.ofList (name.toList.flatMap escaped) ++ "']"

/-- The written form of a place. -/
def render (place : Place) : String := place.foldl (fun text step => text ++ renderStep step) "$"

/-- The order of places of one length: by the first step in which they differ. -/
def compareTo : Place → Place → Ordering
  | [], [] => .eq
  | [], _ :: _ => .lt
  | _ :: _, [] => .gt
  | a :: p, b :: q => (a.compareTo b).then (compareTo p q)

end Place

end ApiTools
