import ApiTools.Yaml.Text

/-!
# Tokens of a YAML text

A YAML text is a sequence of tokens: scalars, the signs of collections, what is written in front of
a node, and the marks of documents. The start of a block collection and its end have no sign; the
layout gives them.

## Main definitions

* `Directive`, `Token` — the tokens.
* `Token.readName`, `Token.readTag`, `Token.readDirective` — tokens of more than one part.
-/

namespace ApiTools

namespace Yaml

/-- A line that says how a document is to be read. -/
inductive Directive where
  /-- The version of the format, by its major number. -/
  | version (major : Nat)
  /-- A handle, and what it stands for. -/
  | handle (handle meaning : String)
  /-- Any other directive. -/
  | other
  deriving DecidableEq

/-- One token. -/
inductive Token where
  /-- A directive. -/
  | directive (directive : Directive)
  /-- The mark of a document's start. -/
  | documentStart
  /-- The mark of a document's end. -/
  | documentEnd
  /-- The start of a block sequence. -/
  | sequenceStart
  /-- The start of a block mapping. -/
  | mappingStart
  /-- The end of a block collection. -/
  | blockEnd
  /-- The opening bracket of a flow sequence. -/
  | flowSequenceStart
  /-- The closing bracket of a flow sequence. -/
  | flowSequenceEnd
  /-- The opening brace of a flow mapping. -/
  | flowMappingStart
  /-- The closing brace of a flow mapping. -/
  | flowMappingEnd
  /-- The dash of a block sequence. -/
  | entry
  /-- The comma of a flow collection. -/
  | flowEntry
  /-- What follows is a key. -/
  | key
  /-- What follows is the value of a key. -/
  | value
  /-- A node named before. -/
  | alias (name : String)
  /-- The name of the node that follows. -/
  | anchor (name : String)
  /-- The tag of the node that follows: its handle, if it has one, and the rest. -/
  | tag (handle : Option String) (suffix : String)
  /-- A scalar, and whether it is plain. -/
  | scalar (text : String) (plain : Bool)
  /-- A quoted text with an escape that no character has the code of; reading ends here. -/
  | broken
  deriving DecidableEq

namespace Token

/-- Whether the name of an anchor or an alias may end before these characters. -/
def endsName : List Char → Bool
  | [] => true
  | c :: _ => isBlank c || "?:,]\x7d%@`".toList.contains c

/-- The name after the sign of an anchor or an alias. -/
def readName (k : Cursor) : Option (String × Cursor) :=
  match k.next.span isNameChar with
  | ([], _) => none
  | (name, k) => if endsName k.rest then some (String.ofList name, k) else none

/-! ### Tags -/

/-- Whether a character may stand in the rest of a tag. -/
def isTagChar (c : Char) : Bool := c.isAlphanum || "-;/?:@&=+$,_.!~*'()[]".toList.contains c

/-- The byte of an escape after its percent sign. -/
def escapedByte? : List Char → Option UInt8
  | a :: b :: _ => (Quoted.hexValue? [a, b]).map Nat.toUInt8
  | _ => none

/-- The bytes of the escapes that come next. -/
def readBytes : Nat → Cursor → Option (List UInt8 × Cursor)
  | 0, k => some ([], k)
  | fuel + 1, k =>
    match k.rest with
    | '%' :: s =>
      match escapedByte? s with
      | none => none
      | some byte => (readBytes fuel (k.skip 3)).map fun (bytes, k) => (byte :: bytes, k)
    | _ => some ([], k)

/-- The rest of a tag, which may be empty here. -/
def readTagRest : Nat → Cursor → Option (List Char × Cursor)
  | 0, k => some ([], k)
  | fuel + 1, k =>
    match k.rest with
    | '%' :: _ =>
      match readBytes fuel k with
      | none => none
      | some (bytes, k) =>
        match String.fromUTF8? (ByteArray.mk bytes.toArray) with
        | none => none
        | some text => (readTagRest fuel k).map fun (others, k) => (text.toList ++ others, k)
    | _ =>
      match k.span isTagChar with
      | ([], k) => some ([], k)
      | (taken, k) => (readTagRest fuel k).map fun (others, k) => (taken ++ others, k)

/-- The rest of a tag. -/
def readTagText (bound : Nat) (k : Cursor) : Option (String × Cursor) :=
  match readTagRest (bound + 1) k with
  | none | some ([], _) => none
  | some (text, k) => some (String.ofList text, k)

/-- A handle: two exclamation marks with a name between them, or a single one before a space. -/
def readHandle (k : Cursor) : Option (String × Cursor) :=
  match k.rest with
  | '!' :: s =>
    if s.head? = some ' ' then some ("!", k.next)
    else
      let (name, k) := k.next.span isNameChar
      match k.rest with
      | '!' :: _ => some ("!" ++ String.ofList name ++ "!", k.next)
      | _ => none
  | _ => none

/-- Whether another exclamation mark comes before the next space. -/
def hasHandle : List Char → Bool
  | [] => false
  | c :: s => c == '!' || (!(c == ' ' || isBreak c) && hasHandle s)

/-- A tag. -/
def readTag (bound : Nat) (k : Cursor) : Option (Token × Cursor) := do
  let (token, k) ←
    match k.rest.drop 1 with
    | '<' :: _ => do
      let (text, k) ← readTagText bound (k.skip 2)
      if k.rest.head? = some '>' then some (Token.tag none text, k.next) else none
    | s =>
      if atBlank s then some (Token.tag none "!", k.next)
      else do
        let (handle, k) ← if hasHandle s then readHandle k else some ("!", k.next)
        let (text, k) ← readTagText bound k
        some (Token.tag (some handle) text, k)
  if atSpace k.rest then some (token, k) else none

/-! ### Directives -/

/-- The number of a version. -/
def readVersionNumber (k : Cursor) : Option (Nat × Cursor) :=
  match k.span Char.isDigit with
  | ([], _) => none
  | (digits, k) => some (Json.digitsValue 0 digits, k)

/-- The version of the format. -/
def readVersion (k : Cursor) : Option (Directive × Cursor) := do
  let (major, k) ← readVersionNumber k.skipSpaces
  if k.rest.head? ≠ some '.' then none
  let (_, k) ← readVersionNumber k.next
  if atSpace k.rest then some (.version major, k) else none

/-- A handle and what it stands for. -/
def readHandleDirective (bound : Nat) (k : Cursor) : Option (Directive × Cursor) := do
  let (handle, k) ← readHandle k.skipSpaces
  if k.rest.head? ≠ some ' ' then none
  let (meaning, k) ← readTagText bound k.skipSpaces
  if atSpace k.rest then some (.handle handle meaning, k) else none

/-- A directive with its line. -/
def readDirective (bound : Nat) (k : Cursor) : Option (Directive × Cursor) := do
  let (name, k) := k.next.span isNameChar
  if name.isEmpty || !atSpace k.rest then none
  let (found, k) ←
    if name = "YAML".toList then readVersion k
    else if name = "TAG".toList then readHandleDirective bound k
    else some (.other, k.skipWhile fun c => !isBreak c)
  return (found, ← k.skipRestOfLine)

end Token

end Yaml

end ApiTools
