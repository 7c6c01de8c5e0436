/-!
# Planes of characters

A set of many characters arranges them in a plane: a first number leads to a row, and a second one
to a character in it. Both count from a start of their own. A dot in a row stands for no character,
and so does every place after its end.

A plane is laid over another one where a later set adds to an earlier one. What a plane lacks of a
range of Unicode may follow in another set, in the order of Unicode.

## Main definitions

* `Plane` — rows of characters.
* `Plane.char?` — the character at two numbers.
* `Plane.find?` — the same for planes laid over each other.
* `Plane.others` — the characters of a range that a plane lacks.
-/

namespace ApiTools

/-- Rows of characters. -/
structure Plane where
  /-- The first number of the first row. -/
  firstLead : Nat
  /-- The second number of the first character of a row. -/
  firstTrail : Nat
  /-- The rows. -/
  rows : List String

namespace Plane

/-- The sign for a place without a character. -/
def gap : Char := '.'

/-- The character at two numbers. -/
def char? (plane : Plane) (lead trail : Nat) : Option Char := do
  if lead < plane.firstLead ∨ trail < plane.firstTrail then none
  let row ← plane.rows[lead - plane.firstLead]?
  let c ← row.toList[trail - plane.firstTrail]?
  if c = gap then none else c

/-- The character at two numbers in the first plane that has one there. -/
def find? (planes : List Plane) (lead trail : Nat) : Option Char :=
  planes.findSome? fun plane => plane.char? lead trail

/-- The characters of a plane in order. -/
def letters (plane : Plane) : List Char :=
  plane.rows.flatMap fun row => row.toList.filter (· != gap)

/-- The characters from one code to another one that a plane lacks, in order. -/
def others (plane : Plane) (first last : Nat) : List Char :=
  let missing := plane.letters.foldl (fun (marks : Array Bool) c =>
    if first ≤ c.toNat then marks.setIfInBounds (c.toNat - first) false else marks)
    (Array.replicate (last + 1 - first) true)
  ((List.range (last + 1 - first)).filter fun k => missing.getD k false).map fun k =>
    Char.ofNat (first + k)

end Plane

end ApiTools
