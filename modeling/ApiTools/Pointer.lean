import ApiTools.Text.Digit
import ApiTools.Text.Split
import ApiTools.Value.Access

/-!
# Pointers into a document

A reference `#/a/b/c` names a node of the document by the keys and indices on the way to it. In a
segment, `~1` stands for a slash and `~0` for a tilde.

## Main definitions

* `Pointer.segments?` — the segments of a reference into the document.
* `Pointer.step` — the node that one segment leads to.
* `Pointer.resolve` — the node that a reference leads to.
-/

namespace ApiTools

namespace Pointer

/-- Replaces each `~` with the given mark after it. -/
def unescapeMark (mark result : Char) : List Char → List Char
  | '~' :: c :: s =>
    if c = mark then result :: unescapeMark mark result s
    else '~' :: unescapeMark mark result (c :: s)
  | c :: s => c :: unescapeMark mark result s
  | [] => []

/-- A segment with its escapes undone: first those of the slash, then those of the tilde. -/
def unescape (segment : List Char) : List Char :=
  unescapeMark '0' '~' (unescapeMark '1' '/' segment)

/-- The segments of a reference into the document. -/
def segments? : List Char → Option (List (List Char))
  | '#' :: '/' :: s => some ((Text.split '/' s).map unescape)
  | _ => none

/-- The index that digits denote. Digit signs denote none, and there must not be too many digits in
front of one. -/
def index (segment : List Char) : Except Fault Nat :=
  let decimals := segment.takeWhile fun c => (Text.decimalValue? c).isSome
  if Text.maxDigits < decimals.length then .error (.tooManyDigits decimals.length)
  else
    match Text.naturalOf? segment with
    | none => .error (.notANumeral 10 (String.ofList segment))
    | some i => .ok i

/-- The node that one segment leads to: the value at a key of a map, or the item at an index of a
list. An index may be written in the digits of any script. -/
def step (ref : String) (node : Value) (segment : List Char) : Except Fault Value :=
  match node.bare with
  | .map entries =>
    match Entries.get? entries (String.ofList segment) with
    | some v => .ok v
    | none => .error (.unresolvableReference ref)
  | .list items =>
    if segment.isEmpty || !segment.all Text.isDigit then .error (.unresolvableReference ref)
    else do
      match items[← index segment]? with
      | some v => return v
      | none => throw (.unresolvableReference ref)
  | _ => .error (.unresolvableReference ref)

/-- The node that a reference leads to. -/
def resolve (document : Value) (ref : String) : Except Fault Value :=
  match segments? ref.toList with
  | none => .error (.unsupportedReference ref)
  | some segments => segments.foldlM (step ref) document

/-- The node that a reference of unknown kind leads to. -/
def resolveValue (document : Value) (ref : Value) : Except Fault Value := do
  resolve document (← ref.textOrFail)

end Pointer

end ApiTools
