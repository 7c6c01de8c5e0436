import ApiTools.Yaml.Lexer
import ApiTools.Yaml.Tag

/-!
# The nodes of a YAML text

The tokens of a text are read into a table of nodes, in which a node gives its parts by their
places. A node may be named, and the name then stands for it further on, inside the node itself as
well, so that a node may hold itself. Names are not given twice. A text has one document at most.

Each call of a reader takes a token or goes one level down, so twice the number of tokens bounds
the recursion.

## Main definitions

* `Node` — the nodes.
* `Node.read` — a node at the front of the tokens.
* `Node.ofTokens` — the nodes of a document.
-/

namespace ApiTools

namespace Yaml

/-- What a node holds; its parts are given by their places in the table. -/
inductive Content where
  /-- A text. -/
  | scalar (text : String)
  /-- A sequence. -/
  | sequence (items : List Nat)
  /-- A mapping; its keys are nodes as well. -/
  | mapping (entries : List (Nat × Nat))
  deriving DecidableEq, Inhabited

/-- A node of a document: what it holds, and the type it is of. -/
structure Node where
  /-- The type. -/
  tag : Tag
  /-- What the node holds. -/
  content : Content
  deriving DecidableEq

namespace Node

/-- The node of a place where nothing stands. -/
def blank : Node := ⟨.null, .scalar ""⟩

instance : Inhabited Node := ⟨blank⟩

/-- What is left to read, and what was read. -/
structure State where
  /-- The tokens left. -/
  tokens : List Token
  /-- The nodes so far; one that is still being read is blank. -/
  nodes : Array Node
  /-- The places of the named nodes. -/
  anchors : List (String × Nat)
  /-- The handles of tags and what they stand for. -/
  handles : List (String × String)

namespace State

/-- Without the first token. -/
def drop (st : State) : State := { st with tokens := st.tokens.drop 1 }

/-- The first token. -/
def first (st : State) : Option Token := st.tokens.head?

/-- Nothing can be read here; the cause is the text that is broken, if reading has come to it. -/
def refuse {α : Type} (st : State) : Except Fault α :=
  .error (if st.first = some .broken then .noCharacter else .malformedYaml)

/-- A node with a place of its own. -/
def add (node : Node) (st : State) : Nat × State :=
  (st.nodes.size, { st with nodes := st.nodes.push node })

/-- A place for a node that is about to be read, under its name. A name is given once. -/
def reserve (name : Option String) (st : State) : Except Fault (Nat × State) :=
  match name with
  | none => .ok (st.add blank)
  | some name =>
    if st.anchors.any (·.1 == name) then st.refuse
    else .ok ({ st with anchors := (name, st.nodes.size) :: st.anchors }.add blank)

/-- A node put at its place. -/
def fill (place : Nat) (node : Node) (st : State) : State :=
  { st with nodes := st.nodes.setIfInBounds place node }

end State

/-! ### What is written in front of a node -/

/-- The name and the tag of a node. -/
structure Properties where
  /-- The name. -/
  anchor : Option String
  /-- The full tag. -/
  tag : Option String

/-- The full tag of a handle and the rest. -/
def fullTag (st : State) (handle : Option String) (suffix : String) : Except Fault String :=
  match handle with
  | none => .ok suffix
  | some handle =>
    match st.handles.lookup handle with
    | some meaning => .ok (meaning ++ suffix)
    | none => st.refuse

/-- The properties of a node, in either order. -/
def readProperties (st : State) : Except Fault (Properties × State) :=
  match st.tokens with
  | .anchor name :: .tag handle suffix :: rest | .tag handle suffix :: .anchor name :: rest => do
    return (⟨some name, some (← fullTag st handle suffix)⟩, { st with tokens := rest })
  | .anchor name :: rest => .ok (⟨some name, none⟩, { st with tokens := rest })
  | .tag handle suffix :: rest => do
    return (⟨none, some (← fullTag st handle suffix)⟩, { st with tokens := rest })
  | _ => .ok (⟨none, none⟩, st)

namespace Properties

/-- Whether the tag leaves the type open. -/
def isOpen (p : Properties) : Bool := p.tag.isNone || p.tag == some "!"

/-- The type of a scalar: that of its tag, or else what a plain one looks like. -/
def scalarTag (p : Properties) (text : String) (plain : Bool) : Tag :=
  match p.tag with
  | none => if plain then Tag.ofText text else .text
  | some "!" => Tag.ofText text
  | some name => Tag.ofName name

/-- The type of a collection: that of its tag, or else the usual one. -/
def collectionTag (p : Properties) (usual : Tag) : Tag :=
  if p.isOpen then usual else Tag.ofName (p.tag.getD "")

/-- Whether there is a name or a tag. -/
def isGiven (p : Properties) : Bool := p.anchor.isSome || p.tag.isSome

end Properties

/-! ### Nodes -/

/-- Whether the key or the value of a block mapping is left out here. -/
def endsBlockPart : Option Token → Bool
  | some .key | some .value | some .blockEnd => true
  | _ => false

/-- Whether an item of a sequence that has no indentation of its own is left out here. -/
def endsItem : Option Token → Bool
  | some .entry => true
  | token => endsBlockPart token

/-- Whether the key or the value in a flow collection with the given end is left out here. -/
def endsFlowPart (closing : Token) : Option Token → Bool
  | some .value => true
  | some .flowEntry => true
  | token => token == some closing

mutual

/-- A node, by its place. Block collections are read only in a block, and a sequence without
indentation of its own only as part of a mapping. -/
def read (inBlock asPart : Bool) : Nat → State → Except Fault (Nat × State)
  | 0, st => st.refuse
  | fuel + 1, st =>
    match st.first with
    | some (.alias name) =>
      match st.anchors.lookup name with
      | some place => .ok (place, st.drop)
      | none => st.refuse
    | _ => do
      let (p, st) ← readProperties st
      let (place, st) ← st.reserve p.anchor
      let bare : State → Except Fault (Node × State) := fun st =>
        if p.isGiven then .ok (⟨p.scalarTag "" true, .scalar ""⟩, st) else st.refuse
      let (node, st) ←
        match st.first with
        | some .entry =>
          if asPart then do
            let (items, st) ← readItems fuel st
            pure (⟨p.collectionTag .sequence, .sequence items⟩, st)
          else bare st
        | some (.scalar text plain) => pure (⟨p.scalarTag text plain, .scalar text⟩, st.drop)
        | some .flowSequenceStart => do
          let (items, st) ← readFlowItems true fuel st.drop
          pure (⟨p.collectionTag .sequence, .sequence items⟩, st)
        | some .flowMappingStart => do
          let (entries, st) ← readFlowEntries true fuel st.drop
          pure (⟨p.collectionTag .mapping, .mapping entries⟩, st)
        | some .sequenceStart =>
          if inBlock then do
            let (items, st) ← readBlockItems fuel st.drop
            pure (⟨p.collectionTag .sequence, .sequence items⟩, st)
          else bare st
        | some .mappingStart =>
          if inBlock then do
            let (entries, st) ← readBlockEntries fuel st.drop
            pure (⟨p.collectionTag .mapping, .mapping entries⟩, st)
          else bare st
        | _ => bare st
      return (place, st.fill place node)

/-- The items of a sequence without indentation of its own. -/
def readItems : Nat → State → Except Fault (List Nat × State)
  | 0, st => st.refuse
  | fuel + 1, st =>
    match st.first with
    | some .entry => do
      let st := st.drop
      let (item, st) ← if endsItem st.first then pure (st.add blank) else read true false fuel st
      let (items, st) ← readItems fuel st
      return (item :: items, st)
    | _ => .ok ([], st)

/-- The items of a block sequence and its end. -/
def readBlockItems : Nat → State → Except Fault (List Nat × State)
  | 0, st => st.refuse
  | fuel + 1, st =>
    match st.first with
    | some .entry => do
      let st := st.drop
      let (item, st) ←
        if st.first = some .entry ∨ st.first = some .blockEnd then pure (st.add blank)
        else read true false fuel st
      let (items, st) ← readBlockItems fuel st
      return (item :: items, st)
    | some .blockEnd => .ok ([], st.drop)
    | _ => st.refuse

/-- The entries of a block mapping and its end. -/
def readBlockEntries : Nat → State → Except Fault (List (Nat × Nat) × State)
  | 0, st => st.refuse
  | fuel + 1, st =>
    match st.first with
    | some .blockEnd => .ok ([], st.drop)
    | some .key => do
      let st := st.drop
      let (key, st) ← if endsBlockPart st.first then pure (st.add blank) else read true true fuel st
      let (value, st) ← readBlockValue fuel st
      let (entries, st) ← readBlockEntries fuel st
      return ((key, value) :: entries, st)
    | _ => st.refuse

/-- The value of an entry of a block mapping. -/
def readBlockValue : Nat → State → Except Fault (Nat × State)
  | 0, st => st.refuse
  | fuel + 1, st =>
    match st.first with
    | some .value =>
      let st := st.drop
      if endsBlockPart st.first then .ok (st.add blank) else read true true fuel st
    | _ => .ok (st.add blank)

/-- The items of a flow sequence and its end. An item with a colon is a mapping of one entry. -/
def readFlowItems (isFirst : Bool) : Nat → State → Except Fault (List Nat × State)
  | 0, st => st.refuse
  | fuel + 1, st =>
    if st.first = some .flowSequenceEnd then .ok ([], st.drop)
    else do
      let st ←
        if isFirst then pure st
        else if st.first = some .flowEntry then pure st.drop
        else st.refuse
      if st.first = some .flowSequenceEnd then return ([], st.drop)
      else
        let (item, st) ←
          if st.first = some .key then do
            let (place, st) := st.drop.add blank
            let (key, st) ←
              if endsFlowPart .flowSequenceEnd st.first then pure (st.add blank)
              else read false false fuel st
            let (value, st) ← readFlowValue .flowSequenceEnd fuel st
            pure (place, st.fill place ⟨.mapping, .mapping [(key, value)]⟩)
          else read false false fuel st
        let (items, st) ← readFlowItems false fuel st
        return (item :: items, st)

/-- The value of an entry in a flow collection with the given end. -/
def readFlowValue (closing : Token) : Nat → State → Except Fault (Nat × State)
  | 0, st => st.refuse
  | fuel + 1, st =>
    match st.first with
    | some .value =>
      let st := st.drop
      if st.first = some .flowEntry ∨ st.first = some closing then .ok (st.add blank)
      else read false false fuel st
    | _ => .ok (st.add blank)

/-- The entries of a flow mapping and its end. A node alone is a key without a value. -/
def readFlowEntries (isFirst : Bool) : Nat → State → Except Fault (List (Nat × Nat) × State)
  | 0, st => st.refuse
  | fuel + 1, st =>
    if st.first = some .flowMappingEnd then .ok ([], st.drop)
    else do
      let st ←
        if isFirst then pure st
        else if st.first = some .flowEntry then pure st.drop
        else st.refuse
      if st.first = some .flowMappingEnd then return ([], st.drop)
      else
        let (entry, st) ←
          if st.first = some .key then do
            let st := st.drop
            let (key, st) ←
              if endsFlowPart .flowMappingEnd st.first then pure (st.add blank)
              else read false false fuel st
            let (value, st) ← readFlowValue .flowMappingEnd fuel st
            pure ((key, value), st)
          else do
            let (key, st) ← read false false fuel st
            let (value, st) := st.add blank
            pure ((key, value), st)
        let (entries, st) ← readFlowEntries false fuel st
        return (entry :: entries, st)

end

/-! ### Documents -/

/-- The usual handles. -/
def usualHandles : List (String × String) := [("!", "!"), ("!!", "tag:yaml.org,2002:")]

/-- The directives in front of a document: the handles, and whether a version was given. -/
def readDirectives (handles : List (String × String)) (versioned : Bool) :
    List Token → Option (List (String × String) × List Token)
  | .directive (.version major) :: tokens =>
    if versioned || major != 1 then none else readDirectives handles true tokens
  | .directive (.handle handle meaning) :: tokens =>
    if handles.any (·.1 == handle) then none
    else readDirectives ((handle, meaning) :: handles) versioned tokens
  | .directive .other :: tokens => readDirectives handles versioned tokens
  | tokens => some (handles ++ usualHandles, tokens)

/-- Whether a document has no content here. -/
def endsDocument : List Token → Bool
  | [] | .directive _ :: _ | .documentStart :: _ | .documentEnd :: _ => true
  | _ => false

/-- The content of a document: its place, and the state after it. -/
def readContent (st : State) : Except Fault (Nat × State) :=
  if endsDocument st.tokens then .ok (st.add blank)
  else read true false (2 * st.tokens.length + 2) st

/-- The end of a text, behind the marks of the end of its document. -/
def finish (st : State) : Except Fault Unit :=
  let st := { st with tokens := st.tokens.dropWhile (· == Token.documentEnd) }
  if st.tokens.isEmpty then .ok () else st.refuse

/-- The nodes of the only document of a text and the place of the first one, if there is one. -/
def ofTokens (tokens : List Token) : Except Fault (Option (Nat × Array Node)) := do
  let start : State := ⟨tokens, #[], [], usualHandles⟩
  match tokens with
  | [] => return none
  | .directive _ :: _ | .documentStart :: _ =>
    match readDirectives [] false tokens with
    | some (handles, .documentStart :: tokens) => do
      let (place, st) ← readContent { start with tokens, handles }
      finish st
      return some (place, st.nodes)
    | some (_, tokens) => State.refuse { start with tokens }
    | none => start.refuse
  | _ => do
    let (place, st) ← read true false (2 * tokens.length + 2) start
    finish st
    return some (place, st.nodes)

end Node

end Yaml

end ApiTools
