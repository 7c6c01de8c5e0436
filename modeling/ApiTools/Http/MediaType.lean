import ApiTools.Fault
import ApiTools.Text.Digit
import ApiTools.Url.Basic

/-!
# Parameters of a media type

A media type is followed by parameters with semicolons between them, each a name and a value with an
equals sign between them. A value may stand in quotes or angle brackets. A long value is given in
numbered pieces, under a name with an asterisk and the number; an asterisk at the end says that
bytes may be written after percent signs, and that the value begins with a set of characters and a
language, each before a single quote.

## Main definitions

* `MediaType.parameters` — the names and values in order.
* `MediaType.charset` — the set of characters that is named.
-/

namespace ApiTools

namespace MediaType

/-! ### Parts -/

/-- The parts between semicolons, after a part of which some characters are known: in reverse, with
whether they end within quotes. -/
def partsFrom (done : List Char) (isQuoted : Bool) : List Char → List (List Char)
  | [] => [done.reverse]
  | c :: s =>
    if c = ';' ∧ ¬ isQuoted then done.reverse :: partsFrom [] false s
    else partsFrom (c :: done) (isQuoted != (c == '"' && done.head? != some '\\')) s

/-- The parts between semicolons that do not stand in quotes. -/
def parts (s : List Char) : List (List Char) := partsFrom [] false s

/-- The name and the value of a part. A part without a value is a name as it is written. -/
def pair (part : List Char) : List Char × List Char :=
  let (name, rest) := part.span (· != '=')
  match rest with
  | _ :: value => ((Text.trim name).map Char.toLower, Text.trim value)
  | [] => (Text.trim name, [])

/-- Escaped backslashes or quotes, without their escapes. -/
def unescaped (c : Char) : List Char → List Char
  | '\\' :: d :: s => if d = c then c :: unescaped c s else '\\' :: unescaped c (d :: s)
  | d :: s => d :: unescaped c s
  | [] => []

/-- A value without the quotes or brackets around it. -/
def bare (value : List Char) : List Char :=
  let inner := (value.drop 1).dropLast
  if value.length < 2 then value
  else if value.head? == some '"' && value.getLast? == some '"' then
    unescaped '"' (unescaped '\\' inner)
  else if value.head? == some '<' && value.getLast? == some '>' then inner
  else value

/-! ### Pieces -/

/-- A piece of a value. -/
structure Piece where
  /-- The name of the value. -/
  name : List Char
  /-- Which piece it is. -/
  number : Option Nat
  /-- What it says. -/
  text : List Char
  /-- Whether bytes may be written after percent signs. -/
  isExtended : Bool

/-- Whether a character may be in the name of a value in pieces. -/
def isNameChar (c : Char) : Bool := c.isAlphanum || c == '_'

/-- The piece that a name and a value are: the name has an asterisk after it, with or without a
number and a second asterisk. -/
def piece? (parameter : List Char × List Char) : Option Piece :=
  let (name, rest) := parameter.1.span isNameChar
  let text := bare parameter.2
  match name, rest with
  | _ :: _, '*' :: rest =>
    let (digits, rest) := rest.span Char.isDigit
    if digits.isEmpty then if rest.isEmpty then some ⟨name, none, text, true⟩ else none
    else if rest.isEmpty then some ⟨name, Text.naturalOf? digits, text, false⟩
    else if rest == ['*'] then some ⟨name, Text.naturalOf? digits, text, true⟩
    else none
  | _, _ => none

/-- What a piece says, with bytes taken as characters. -/
def Piece.content (piece : Piece) : List Char :=
  if piece.isExtended then (Url.unquotedBytes piece.text).map fun b => Char.ofNat b.toNat
  else piece.text

/-- Whether a piece comes before another one. -/
def Piece.precedes (a b : Piece) : Bool :=
  match a.number, b.number with
  | some m, some n =>
    m < n || (m == n && (a.text < b.text || (a.text == b.text && (!a.isExtended || b.isExtended))))
  | _, _ => a.text < b.text || (a.text == b.text && (!a.isExtended || b.isExtended))

/-- What comes after the set of characters and the language, where they are given. -/
def afterMarks (s : List Char) : List Char :=
  match (s.dropWhile (· != '\'')).drop 1 with
  | [] => s
  | rest =>
    match rest.dropWhile (· != '\'') with
    | _ :: value => value
    | [] => s

/-- The value in pieces of one name. Pieces with and without a number have no order. -/
def joined (pieces : List Piece) : Except Fault (List Char) :=
  let numbered := pieces.filter (·.number.isSome)
  if !numbered.isEmpty && numbered.length < pieces.length then .error .illTyped
  else
    let text := (pieces.mergeSort Piece.precedes).flatMap Piece.content
    .ok (if pieces.any (·.isExtended) then afterMarks text else text)

/-! ### Parameters -/

/-- The names and values in order, those in pieces last. The part in front is never in pieces. -/
def parameters (text : String) : Except Fault (List (List Char × List Char)) :=
  match (parts text.toList).map pair with
  | [] => .ok []
  | first :: rest => do
    let pieces := rest.filterMap piece?
    let whole := rest.filter fun p => (piece? p).isNone
    let names := (pieces.map (·.name)).eraseDups
    let long ← names.mapM fun name => do
      return (name, ← joined (pieces.filter (·.name == name)))
    return (first.1, bare first.2) :: whole.map (fun p => (p.1, bare p.2)) ++ long

/-- The set of characters that is named. -/
def charset (text : String) : Except Fault (Option String) := do
  let isCharset := fun (p : List Char × List Char) => p.1.map Char.toLower == "charset".toList
  match (← parameters text).find? isCharset with
  | some (_, value) =>
    return if value.all (·.toNat < 128) then some (String.ofList (value.map Char.toLower)) else none
  | none => return none

end MediaType

end ApiTools
