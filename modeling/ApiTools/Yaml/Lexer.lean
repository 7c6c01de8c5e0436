import ApiTools.Yaml.Token

/-!
# The tokens of a YAML text

The tokens are read from the front, one at a time, up to the end or a text that is broken. Two
things make this more than a split of the text. Indentation opens and closes block collections: a
stack holds the columns of those that are open. And a key is only recognized as such at the colon
after it: each node that might be a key is remembered with the number of tokens before it, so that
the token for a key can be put there later. A node can be a key only on one line and within 1024
characters.

Each token but the last ones takes a character, so the length of the text bounds their number.

## Main definitions

* `Lexer` — the state of reading.
* `Lexer.step` — one more token.
* `Token.ofText?` — all tokens of a text.
-/

namespace ApiTools

namespace Yaml

/-- A node that might be a key. -/
structure PossibleKey where
  /-- How many flow collections are open around it. -/
  level : Nat
  /-- How many tokens come before it. -/
  before : Nat
  /-- Whether it has to be a key, since it starts a line of an open block mapping. -/
  required : Bool
  /-- Where it starts. -/
  position : Position

/-- The state of reading. -/
structure Lexer where
  /-- What is left. -/
  cursor : Cursor
  /-- The length of the text. -/
  bound : Nat
  /-- The column of the innermost open block collection. -/
  indent : Int
  /-- The columns of those around it. -/
  outer : List Int
  /-- How many flow collections are open. -/
  level : Nat
  /-- Whether a key may start here. -/
  keyAllowed : Bool
  /-- The nodes that might be keys, one for each level at most. -/
  possible : List PossibleKey
  /-- The tokens read, in reverse. -/
  tokens : List Token
  /-- How many these are. -/
  count : Nat

namespace Lexer

/-- The start of a text. -/
def start (text : List Char) : Lexer :=
  { cursor := .start text, bound := text.length, indent := -1, outer := [], level := 0
    keyAllowed := true, possible := [], tokens := [], count := 0 }

/-- One more token. -/
def emit (token : Token) (l : Lexer) : Lexer :=
  { l with tokens := token :: l.tokens, count := l.count + 1 }

/-- One more token, with what is left after it. -/
def emitAt (token : Token) (k : Cursor) (l : Lexer) : Lexer := { l.emit token with cursor := k }

/-- A token put in after the given number of tokens. -/
def insertAt (before : Nat) (token : Token) (l : Lexer) : Lexer :=
  let later := l.count - before
  { l with tokens := l.tokens.take later ++ token :: l.tokens.drop later, count := l.count + 1 }

/-- Whether no flow collection is open. -/
def inBlock (l : Lexer) : Bool := l.level == 0

/-! ### Keys -/

/-- Whether a node can no longer be a key. -/
def isStale (l : Lexer) (key : PossibleKey) : Bool :=
  key.position.line != l.cursor.position.line || 1024 < l.cursor.position.index - key.position.index

/-- Forgets the nodes that can no longer be keys; none of them may have had to be one. -/
def dropStale (l : Lexer) : Option Lexer :=
  if l.possible.any fun key => l.isStale key && key.required then none
  else some { l with possible := l.possible.filter fun key => !l.isStale key }

/-- The node of this level that might be a key. -/
def possibleKey? (l : Lexer) : Option PossibleKey := l.possible.find? (·.level == l.level)

/-- Forgets the node of this level that might be a key; it must not have had to be one. -/
def dropKey (l : Lexer) : Option Lexer :=
  if l.possibleKey?.any (·.required) then none
  else some { l with possible := l.possible.filter (·.level != l.level) }

/-- Remembers the node that starts here, if a key may start here. -/
def saveKey (l : Lexer) : Option Lexer :=
  if l.keyAllowed then do
    let l ← l.dropKey
    let key : PossibleKey :=
      { level := l.level, before := l.count, position := l.cursor.position
        required := l.inBlock && l.indent == (l.cursor.column : Int) }
    return { l with possible := key :: l.possible }
  else some l

/-! ### Indentation -/

/-- Closes block collections as long as they are further in than a column. -/
def closeFrom (column indent : Int) (tokens : List Token) (count : Nat) :
    List Int → Int × List Int × List Token × Nat
  | [] =>
    if column < indent then (-1, [], .blockEnd :: tokens, count + 1)
    else (indent, [], tokens, count)
  | i :: outer =>
    if column < indent then closeFrom column i (.blockEnd :: tokens) (count + 1) outer
    else (indent, i :: outer, tokens, count)

/-- Closes the block collections that are further in than a column; a flow collection keeps them
open. -/
def unwind (column : Int) (l : Lexer) : Lexer :=
  if l.inBlock then
    let (indent, outer, tokens, count) := closeFrom column l.indent l.tokens l.count l.outer
    { l with indent, outer, tokens, count }
  else l

/-- Whether a block collection opens at a column. -/
def opensAt (l : Lexer) (column : Nat) : Bool := l.indent < (column : Int)

/-- The state in a block collection at a column. -/
def enter (column : Nat) (l : Lexer) : Lexer :=
  { l with indent := column, outer := l.indent :: l.outer }

/-- Opens a block collection here, if none is open at this column. -/
def openHere (token : Token) (l : Lexer) : Lexer :=
  if l.opensAt l.cursor.column then (l.enter l.cursor.column).emit token else l

/-! ### One token -/

/-- Past blanks, comments and line ends. After a line end in a block, a key may start. -/
def skipBlanks : Nat → Lexer → Lexer
  | 0, l => l
  | fuel + 1, l =>
    match l.cursor.skipSpaces.skipComment.lineBreak with
    | ([], k) => { l with cursor := k }
    | (_, k) => skipBlanks fuel { l with cursor := k, keyAllowed := l.keyAllowed || l.inBlock }

/-- A mark that stands at the start of a line and ends what was open. -/
def atMark (l : Lexer) : Option Lexer := do
  let l ← (l.unwind (-1)).dropKey
  return { l with keyAllowed := false }

/-- The sign that opens a flow collection. -/
def openFlow (token : Token) (l : Lexer) : Option Lexer := do
  let l ← l.saveKey
  return { l.emitAt token l.cursor.next with level := l.level + 1, keyAllowed := true }

/-- The sign that closes a flow collection. -/
def closeFlow (token : Token) (l : Lexer) : Option Lexer := do
  let l ← l.dropKey
  return { l.emitAt token l.cursor.next with level := l.level - 1, keyAllowed := false }

/-- The comma between items of a flow collection. -/
def flowEntry (l : Lexer) : Option Lexer := do
  let l ← l.dropKey
  return { l.emitAt .flowEntry l.cursor.next with keyAllowed := true }

/-- The dash before an item of a block sequence. -/
def blockEntry (l : Lexer) : Option Lexer := do
  if l.inBlock && !l.keyAllowed then none
  let l := if l.inBlock then l.openHere .sequenceStart else l
  let l ← l.dropKey
  return { l.emitAt .entry l.cursor.next with keyAllowed := true }

/-- The question mark before a key. -/
def keySign (l : Lexer) : Option Lexer := do
  if l.inBlock && !l.keyAllowed then none
  let l := if l.inBlock then l.openHere .mappingStart else l
  let l ← l.dropKey
  return { l.emitAt .key l.cursor.next with keyAllowed := l.inBlock }

/-- The colon before a value. If a node before it might be a key, it is one. -/
def valueSign (l : Lexer) : Option Lexer :=
  match l.possibleKey? with
  | some key =>
    let l := { l with possible := l.possible.filter (·.level != l.level), keyAllowed := false }
    let opens := l.inBlock && l.opensAt key.position.column
    let l := l.insertAt key.before .key
    let l := if opens then (l.enter key.position.column).insertAt key.before .mappingStart else l
    some (l.emitAt .value l.cursor.next)
  | none => do
    if l.inBlock && !l.keyAllowed then none
    let l := if l.inBlock then l.openHere .mappingStart else l
    let l ← { l with keyAllowed := l.inBlock }.dropKey
    return l.emitAt .value l.cursor.next

/-- A token that is part of a node, or a node, and might be a key. -/
def nodePart (read : Cursor → Option (Token × Cursor)) (l : Lexer) : Option Lexer := do
  let l ← l.saveKey
  let (token, k) ← read l.cursor
  return { l.emitAt token k with keyAllowed := false }

/-- A block of lines. -/
def block (folded : Bool) (l : Lexer) : Option Lexer := do
  let l ← { l with keyAllowed := true }.dropKey
  let (text, k) ← Block.read folded l.indent l.bound l.cursor.next
  return l.emitAt (.scalar (Text.spelled (String.ofList text)) false) k

/-- Quoted text. -/
def quoted (isDouble : Bool) (l : Lexer) : Option Lexer :=
  l.nodePart fun k =>
    match Quoted.read isDouble l.bound k.next with
    | .ok (text, k) => some (.scalar (String.ofList text) false, k)
    | .error .noCharacter => some (.broken, k)
    | .error _ => none

/-- Whether reading has ended at a text that is broken. -/
def isBroken (l : Lexer) : Bool := l.tokens.head? == some .broken

/-- Plain text; after a line end in it, a key may start. -/
def plain (l : Lexer) : Option Lexer := do
  let l ← l.saveKey
  let r := Plain.read (!l.inBlock) (l.indent + 1) l.bound l.cursor
  let token := Token.scalar (Text.spelled (String.ofList r.text)) true
  return { l.emitAt token r.cursor with keyAllowed := r.crossed }

/-- Whether plain text may start with a character, given what comes after it. -/
def startsPlain (l : Lexer) (c : Char) (s : List Char) : Bool :=
  !(isBlank c || "-?:,[]\x7b\x7d#&*!|>'\"%@`".toList.contains c)
    || (!atBlank s && (c == '-' || (l.inBlock && (c == '?' || c == ':'))))

/-- Whether a sign stands for itself here: before a blank, or anywhere in a flow collection. -/
def isSign (l : Lexer) (s : List Char) : Bool := !l.inBlock || atBlank s

/-- The token that starts with a character. -/
def readToken (l : Lexer) (c : Char) (s : List Char) : Option Lexer :=
  let atStart := l.cursor.column == 0
  let name := fun (make : String → Token) (k : Cursor) =>
    (Token.readName k).map fun (name, k) => (make name, k)
  if c = '%' ∧ atStart then do
    let l ← l.atMark
    let (directive, k) ← Token.readDirective l.bound l.cursor
    return l.emitAt (.directive directive) k
  else if atStart && atMarker '-' (c :: s) then do
    let l ← l.atMark
    return l.emitAt .documentStart (l.cursor.skip 3)
  else if atStart && atMarker '.' (c :: s) then do
    let l ← l.atMark
    return l.emitAt .documentEnd (l.cursor.skip 3)
  else if c = '[' then l.openFlow .flowSequenceStart
  else if c = '\x7b' then l.openFlow .flowMappingStart
  else if c = ']' then l.closeFlow .flowSequenceEnd
  else if c = '\x7d' then l.closeFlow .flowMappingEnd
  else if c = ',' then l.flowEntry
  else if c = '-' ∧ atBlank s then l.blockEntry
  else if c = '?' ∧ l.isSign s then l.keySign
  else if c = ':' ∧ l.isSign s then l.valueSign
  else if c = '*' then l.nodePart (name .alias)
  else if c = '&' then l.nodePart (name .anchor)
  else if c = '!' then l.nodePart (Token.readTag l.bound)
  else if c = '|' ∧ l.inBlock then l.block false
  else if c = '>' ∧ l.inBlock then l.block true
  else if c = '\'' then l.quoted false
  else if c = '"' then l.quoted true
  else if l.startsPlain c s then l.plain
  else none

/-- The state after one more token, or after the last one. -/
def step (l : Lexer) : Option (Lexer ⊕ Lexer) := do
  let l ← (l.skipBlanks (l.bound + 1)).dropStale
  let l := l.unwind l.cursor.column
  match l.cursor.rest with
  | [] => return .inr (← (l.unwind (-1)).dropKey)
  | c :: s => return .inl (← l.readToken c s)

/-- The tokens from a state on, in reverse. -/
def run : Nat → Lexer → Option (List Token)
  | 0, _ => none
  | fuel + 1, l =>
    match l.step with
    | none => none
    | some (.inl l) => if l.isBroken then some l.tokens else run fuel l
    | some (.inr l) => some l.tokens

end Lexer

/-- The tokens of a text. A byte order mark may stand in front. -/
def Token.ofText? (text : List Char) : Option (List Token) :=
  if text.all isAllowed then
    let l := Lexer.start text
    let l := if text.head? = some '\ufeff' then { l with cursor := l.cursor.next } else l
    (l.run (text.length + 2)).map List.reverse
  else none

end Yaml

end ApiTools
