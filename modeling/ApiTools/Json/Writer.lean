import ApiTools.Value.Access

/-!
# Writing JSON

A document is written in one line without spaces, or with one item a line and an indentation. Texts
keep their code points, or escape every one beyond printable ASCII. Two escapes next to each other
for the halves of a pair are read back as one character. A key that is no text is
written as the text of its value; a stamp has no such text as a key and is a text as a value, as
are bytes and sets. A pair is a list. A value that contains itself cannot be written, nor an integer
of very many digits.

## Main definitions

* `Json.quoted` — a text between double quotes.
* `Json.write` — a document in a style.
* `Json.plain` — a document as it reads back after writing: texts as keys, no stamps, no pairs in
  halves.
-/

namespace ApiTools

namespace Json

/-- How a document is laid out. -/
structure Style where
  /-- The width of one level of indentation; none for a document in one line. -/
  indent : Option Nat
  /-- Whether code points beyond printable ASCII are escaped. -/
  ascii : Bool

/-- One line without spaces, code points kept. -/
def compact : Style := ⟨none, false⟩

/-- Two columns a level, code points escaped. -/
def indented : Style := ⟨some 2, true⟩

/-- The escape of a character by its one or two 16-bit units. -/
def unitEscape (c : Char) : List Char :=
  let n := c.toNat
  if n < 0x10000 then '\\' :: 'u' :: Text.hex 4 n
  else
    '\\' :: 'u' :: (Text.hex 4 (0xD800 + (n - 0x10000) / 0x400)
      ++ '\\' :: 'u' :: Text.hex 4 (0xDC00 + (n - 0x10000) % 0x400))

/-- One character between quotes. -/
def escaped (ascii : Bool) (c : Char) : List Char :=
  if c = '"' ∨ c = '\\' then ['\\', c]
  else if c = '\n' then ['\\', 'n']
  else if c = '\r' then ['\\', 'r']
  else if c = '\t' then ['\\', 't']
  else if c = '\x08' then ['\\', 'b']
  else if c = '\x0c' then ['\\', 'f']
  else if c.toNat < 0x20 ∨ (ascii ∧ 0x7E < c.toNat) then unitEscape c
  else (CodePoint.char c).spelled

/-- One code point between quotes. -/
def escapedPoint (ascii : Bool) : CodePoint → List Char
  | .char c => escaped ascii c
  | .half n =>
    if ascii then '\\' :: 'u' :: Text.hex 4 (CodePoint.half n).code else (CodePoint.half n).spelled
  | .stray => [CodePoint.sign]

/-- A text between double quotes. -/
def quoted (ascii : Bool) (s : String) : String :=
  String.ofList ('"' :: ((Text.codePoints s.toList).flatMap (escapedPoint ascii) ++ ['"']))

/-- The text of a number with a point or an exponent. -/
def doubleText : Double → String
  | .nan => "NaN"
  | .infinite false => "Infinity"
  | .infinite true => "-Infinity"
  | d => d.toText

/-- The text of an integer, which must not have too many digits. -/
def intText (n : Int) : Except Fault String := (Value.int n).shown

/-- The text of a scalar as a key. -/
def keyText : Scalar → Except Fault String
  | .null => .ok "null"
  | .bool true => .ok "true"
  | .bool false => .ok "false"
  | .int n => intText n
  | .double d => .ok (doubleText d)
  | .text s => .ok s
  | .stamp _ | .bytes _ => .error .illTyped

/-- A scalar as a value. -/
def scalarText (ascii : Bool) : Scalar → Except Fault String
  | .null => .ok "null"
  | .bool true => .ok "true"
  | .bool false => .ok "false"
  | .int n => intText n
  | .double d => .ok (doubleText d)
  | .text s => .ok (quoted ascii s)
  | .stamp t => .ok (quoted ascii t.toText)
  | .bytes b => .ok (quoted ascii (quoteBytes b))

/-- The start of a line at a level. -/
def lineStart (width level : Nat) : String :=
  "\n" ++ String.ofList (List.replicate (width * level) ' ')

/-- Parts between an opening and a closing bracket. -/
def bracketed (style : Style) (level : Nat) (opening closing : String) (parts : List String) :
    String :=
  match style.indent, parts with
  | _, [] => opening ++ closing
  | none, _ => opening ++ ",".intercalate parts ++ closing
  | some width, _ =>
    opening ++ lineStart width (level + 1) ++ ("," ++ lineStart width (level + 1)).intercalate parts
      ++ lineStart width level ++ closing

mutual

/-- A value at a level of indentation. -/
def writeAt (style : Style) (level : Nat) : Value → Except Fault String
  | .scalar s => scalarText style.ascii s
  | .list items | .group .pair items => do
    return bracketed style level "[" "]" (← writeItems style (level + 1) items)
  | .map entries => do
    return bracketed style level "\x7b" "\x7d" (← writeMembers style (level + 1) entries)
  | .group .set items => .ok (quoted style.ascii (Value.group .set items).toLiteral)
  | .knot _ inside => do
    let _ ← writeAt style level inside
    throw .circular

/-- The items of a list. -/
def writeItems (style : Style) (level : Nat) : List Value → Except Fault (List String)
  | [] => .ok []
  | x :: xs => do
    let first ← writeAt style level x
    return first :: (← writeItems style level xs)

/-- The members of a map. -/
def writeMembers (style : Style) (level : Nat) : List (Scalar × Value) → Except Fault (List String)
  | [] => .ok []
  | (key, x) :: es => do
    let name := quoted style.ascii (← keyText key)
    let first ← writeAt style level x
    let separator := if style.indent.isSome then ": " else ":"
    return (name ++ separator ++ first) :: (← writeMembers style level es)

end

/-- A document in a style. -/
def write (style : Style) (v : Value) : Except Fault String := writeAt style 0 v

/-! ### What a document reads back as -/

/-- A scalar as it reads back: a stamp is its text, bytes are their literal, and the halves of a pair
next to each other are one character. -/
def plainScalar : Scalar → Except Fault Scalar
  | .text s => .ok (.text (Text.joined s))
  | .stamp t => .ok (.text t.toText)
  | .bytes b => .ok (.text (quoteBytes b))
  | .int n => do
    let _ ← intText n
    return .int n
  | s => .ok s

mutual

/-- A value as it reads back after writing. -/
def plain : Value → Except Fault Value
  | .scalar s => do return .scalar (← plainScalar s)
  | .list items | .group .pair items => do return .list (← plainItems items)
  | .map entries => do return .map (← plainEntries [] entries)
  | .group .set items => .ok (.text (Value.group .set items).toLiteral)
  | .knot _ inside => do
    let _ ← plain inside
    throw .circular

/-- The items of a list as they read back. -/
def plainItems : List Value → Except Fault (List Value)
  | [] => .ok []
  | x :: xs => do
    let first ← plain x
    return first :: (← plainItems xs)

/-- The entries of a map as they read back, after those already read. -/
def plainEntries (done : Entries) : List (Scalar × Value) → Except Fault Entries
  | [] => .ok done
  | (key, x) :: es => do
    let name ← keyText key
    let value ← plain x
    plainEntries (Entries.insert done (.text (Text.joined name)) value) es

end

/-! ### Numbers that cannot be sent -/

/-- Whether a scalar is no infinity and no non-number. -/
def isFiniteScalar : Scalar → Bool
  | .double .nan | .double (.infinite _) => false
  | _ => true

mutual

/-- Whether every number of a value is finite. -/
def isFinite : Value → Bool
  | .scalar s => isFiniteScalar s
  | .list items | .group _ items => allFinite items
  | .map entries => allFiniteEntries entries
  | .knot _ inside => isFinite inside

/-- Whether every number of a list is finite. -/
def allFinite : List Value → Bool
  | [] => true
  | x :: xs => isFinite x && allFinite xs

/-- Whether every number of the entries of a map is finite. -/
def allFiniteEntries : List (Scalar × Value) → Bool
  | [] => true
  | (key, x) :: es => isFiniteScalar key && isFinite x && allFiniteEntries es

end

end Json

end ApiTools
