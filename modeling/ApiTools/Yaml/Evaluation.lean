import ApiTools.Yaml.Node
import ApiTools.Yaml.Scalar

/-!
# The values of YAML nodes

The nodes of a document are read level by level: scalars where they are met, the parts of a
collection after everything that is no deeper than it. So of two faults the one that is less deep
counts, and else the first one. In a mapping, the entries of another one can be taken over; they
come first, and its own entries overrule them. Keys have to be scalars.

What a node holds is then known, and values are put together from below. A node that holds itself
never gets to its last value: it is laid open level by level, as a knot, to a depth that no reading
goes below.

## Main definitions

* `Form` — what a node holds, read.
* `Evaluation.takeOver` — a mapping with the entries taken over in place.
* `Evaluation.forms` — what each node of a document holds.
* `Form.settle` — the values of the nodes.
-/

namespace ApiTools

namespace Yaml

/-- What a node holds: a scalar, or the places of the values in it. -/
inductive Form where
  /-- A scalar. -/
  | scalar (s : Scalar)
  /-- A list. -/
  | list (items : List Nat)
  /-- A map. -/
  | map (entries : List (Scalar × Nat))
  /-- A set. -/
  | set (keys : List Scalar)
  /-- A list of pairs. -/
  | pairs (parts : List (Nat × Nat))
  deriving Inhabited

/-- The nodes on the way to their values. -/
structure Evaluation where
  /-- The nodes. Types of keys and entries change on the way. -/
  nodes : Array Node
  /-- What the nodes hold, as far as they were met. -/
  forms : Array (Option Form)
  /-- The collections that were met and not yet opened, in reverse. -/
  waiting : List Nat

namespace Evaluation

/-- The node at a place. -/
def node (e : Evaluation) (place : Nat) : Node := e.nodes.getD place .blank

/-- With a form at a place. -/
def record (place : Nat) (form : Form) (e : Evaluation) : Evaluation :=
  { e with forms := e.forms.setIfInBounds place (some form) }

/-! ### Nodes as they are met -/

/-- The text of a node: its own, or that of the default value of a mapping. -/
def textOf (e : Evaluation) : Nat → Nat → Except Fault String
  | 0, _ => .error .endless
  | fuel + 1, place =>
    match (e.node place).content with
    | .scalar text => .ok text
    | .sequence _ => .error .malformedYaml
    | .mapping entries =>
      match entries.find? fun entry => (e.node entry.1).tag = .default with
      | some (_, value) => e.textOf fuel value
      | none => .error .malformedYaml

/-- The scalar of a node of no collection type. A stamp has to stand in a text of its own. -/
def scalarOf (e : Evaluation) (place : Nat) : Except Fault Scalar := do
  let node := e.node place
  if node.tag ∈ [.merge, .default, .other] then throw .malformedYaml
  let text ← e.textOf (e.nodes.size + 1) place
  match node.tag, node.content with
  | .stamp, .mapping _ => throw .illTyped
  | tag, _ => scalarValue tag text

/-- Meets a node: a scalar is read, a collection waits. -/
def visit (place : Nat) (e : Evaluation) : Except Fault Evaluation :=
  if (e.forms.getD place none).isSome then .ok e
  else if (e.node place).tag ∈ [.sequence, .mapping, .set, .pairs] then
    .ok { e.record place (.list []) with waiting := place :: e.waiting }
  else do return e.record place (.scalar (← e.scalarOf place))

/-- The key that a node is, once it was met. -/
def keyOf (e : Evaluation) (place : Nat) : Except Fault Scalar :=
  match e.forms.getD place none with
  | some (.scalar s) => .ok s
  | _ => .error .malformedYaml

/-! ### Entries taken over -/

/-- The entries of a mapping. -/
def entriesAt (e : Evaluation) (place : Nat) : Option (List (Nat × Nat)) :=
  match (e.node place).content with
  | .mapping entries => some entries
  | _ => none

/-- With other entries in a mapping. -/
def setEntries (place : Nat) (entries : List (Nat × Nat)) (e : Evaluation) : Evaluation :=
  { e with nodes := e.nodes.modify place ({ · with content := .mapping entries }) }

/-- The key of the default value is a text as a key. -/
def plainKey (place : Nat) (e : Evaluation) : Evaluation :=
  if (e.node place).tag = .default then
    { e with nodes := e.nodes.modify place ({ · with tag := .text }) }
  else e

/-- A mapping on the way to have the entries taken over in place. -/
structure Taking where
  /-- The nodes. -/
  state : Evaluation
  /-- Its own entries so far, in reverse. -/
  own : List (Nat × Nat)
  /-- The entries taken over so far. -/
  taken : List (Nat × Nat)
  /-- Whether it was completed on the way, since it takes over from itself. -/
  complete : Bool

/-- The entries that a value of a mapping gives over: those of a mapping, or of all mappings of a
sequence, the first of which overrules the others. -/
def given (finish : Nat → Evaluation → Except Fault Evaluation) (value : Nat) (e : Evaluation) :
    Except Fault (List (Nat × Nat) × Evaluation) :=
  match (e.node value).content with
  | .scalar _ => .error .malformedYaml
  | .mapping _ => do
    let e ← finish value e
    return ((e.entriesAt value).getD [], e)
  | .sequence items => do
    let (parts, e) ← items.foldlM (fun (parts, e) item => do
      if (e.entriesAt item).isNone then throw .malformedYaml
      let e ← finish item e
      return ((e.entriesAt item).getD [] :: parts, e)) (([] : List (List (Nat × Nat))), e)
    return (parts.flatten, e)

/-- A mapping after one more of its entries, with those that follow. -/
def Taking.step (finish : Nat → Evaluation → Except Fault Evaluation) (place : Nat) (t : Taking)
    (entry : Nat × Nat) (rest : List (Nat × Nat)) : Except Fault Taking :=
  if t.complete then .ok t
  else if (t.state.node entry.1).tag = .merge then do
    let left := t.own.reverse ++ rest
    let (taken, e) ← given finish entry.2 (t.state.setEntries place left)
    return { t with state := e, taken := t.taken ++ taken
                    complete := e.entriesAt place ≠ some left }
  else .ok { t with state := plainKey entry.1 t.state, own := entry :: t.own }

/-- A mapping with the entries taken over in place, after each of the given ones. -/
def Taking.steps (finish : Nat → Evaluation → Except Fault Evaluation) (place : Nat) (t : Taking) :
    List (Nat × Nat) → Except Fault Taking
  | [] => .ok t
  | entry :: rest => do (← t.step finish place entry rest).steps finish place rest

/-- A mapping with the entries taken over in place. Each entry that asks for this is taken out
before, so that their number bounds the depth of the search. -/
def takeOver : Nat → Nat → Evaluation → Except Fault Evaluation
  | 0, _, _ => .error .endless
  | fuel + 1, place, e => do
    let t ← Taking.steps (takeOver fuel) place ⟨e, [], [], false⟩ ((e.entriesAt place).getD [])
    let own := (t.state.entriesAt place).getD []
    return if t.taken.isEmpty then t.state else t.state.setEntries place (t.taken ++ own)

/-- The number of entries of all mappings. -/
def entryCount (e : Evaluation) : Nat :=
  e.nodes.foldl (fun n node => match node.content with
    | .mapping entries => n + entries.length
    | _ => n) 0

/-! ### Collections -/

/-- The entries of a map, each node met on the way. -/
def openEntries (e : Evaluation) (done : List (Scalar × Nat)) :
    List (Nat × Nat) → Except Fault (List (Scalar × Nat) × Evaluation)
  | [] => .ok (done, e)
  | (key, value) :: entries => do
    let e ← e.visit key
    let name ← e.keyOf key
    let e ← e.visit value
    e.openEntries (name.putIn value done) entries

/-- The pairs of a sequence of mappings that have one entry each. -/
def openPairs (e : Evaluation) (done : List (Nat × Nat)) :
    List Nat → Except Fault (List (Nat × Nat) × Evaluation)
  | [] => .ok (done.reverse, e)
  | item :: items => do
    match e.entriesAt item with
    | some [(key, value)] => do
      let e ← (← e.visit key).visit value
      e.openPairs ((key, value) :: done) items
    | _ => throw .malformedYaml

/-- Reads the parts of a collection. -/
def openNode (e : Evaluation) (place : Nat) : Except Fault Evaluation := do
  let node := e.node place
  match node.tag, node.content with
  | .sequence, .sequence items => do
    let e ← items.foldlM (fun e item => visit item e) e
    return e.record place (.list items)
  | .mapping, .mapping _ | .set, .mapping _ => do
    let e ← takeOver (e.entryCount + 1) place e
    let (entries, e) ← e.openEntries [] ((e.entriesAt place).getD [])
    return e.record place (if node.tag = .set then .set (entries.map (·.1)) else .map entries)
  | Tag.pairs, .sequence items => do
    let (pairs, e) ← e.openPairs [] items
    return e.record place (.pairs pairs)
  | _, _ => throw .malformedYaml

/-- Opens the collections that wait, level by level. Each node waits once, so that their number
bounds that of the levels. -/
def openAll : Nat → Evaluation → Except Fault Evaluation
  | 0, e => .ok e
  | fuel + 1, e =>
    match e.waiting.reverse with
    | [] => .ok e
    | level => do openAll fuel (← level.foldlM openNode { e with waiting := [] })

/-- What each node that is part of the value of a document holds. -/
def forms? (root : Nat) (nodes : Array Node) : Except Fault (Array (Option Form)) := do
  let e ← visit root ⟨nodes, .replicate nodes.size none, []⟩
  return (← openAll (nodes.size + 1) e).forms

end Evaluation

/-! ### Values -/

/-- What is known of the value of a node. -/
structure Known where
  /-- The value, as far as it is laid open. -/
  value : Value
  /-- Whether that is all of it. -/
  whole : Bool
  deriving Inhabited

namespace Form

/-- What is known of a collection, given what is known of the nodes. -/
def look (known : Array Known) (place : Nat) (form : Form) : Known :=
  let part := fun (i : Nat) => known.getD i ⟨.null, true⟩
  let close := fun (value : Value) (whole : Bool) =>
    (⟨if whole then value else .knot place value, whole⟩ : Known)
  match form with
  | .scalar s => ⟨.scalar s, true⟩
  | .set keys => ⟨.group .set (keys.map .scalar), true⟩
  | .list items =>
    close (.list (items.map fun i => (part i).value)) (items.all fun i => (part i).whole)
  | .map entries =>
    close (.map (entries.map fun (key, i) => (key, (part i).value)))
      (entries.all fun (_, i) => (part i).whole)
  | .pairs parts =>
    close (.list (parts.map fun (i, j) => .group .pair [(part i).value, (part j).value]))
      (parts.all fun (i, j) => (part i).whole && (part j).whole)

/-- What is known of a node before anything is known of others. -/
def first (place : Nat) : Option Form → Known
  | none => ⟨.null, true⟩
  | some form =>
    match form with
    | .scalar _ | .set _ => form.look #[] place
    | .map _ => ⟨.knot place (.map []), false⟩
    | .list _ | .pairs _ => ⟨.knot place (.list []), false⟩

/-- Looks once more at each node of which not all is known, from the last one to the first. -/
def lookAgain (forms : Array (Option Form)) (known : Array Known) : Array Known :=
  (List.range forms.size).reverse.foldl (fun known i =>
    if (known.getD i ⟨.null, true⟩).whole then known
    else
      match forms.getD i none with
      | some form => known.setIfInBounds i (form.look known i)
      | none => known) known

/-- The values of the nodes, knots laid open to a depth. -/
def settle (forms : Array (Option Form)) : Nat → Array Known → Array Known
  | 0, known => known
  | depth + 1, known =>
    if known.all (·.whole) then known else settle forms depth (lookAgain forms known)

/-- The value of a node, a knot laid open to a depth. A chain of nodes that hold each other without
a knot is no longer than their number. -/
def valueOf (forms : Array (Option Form)) (depth root : Nat) : Value :=
  let start := forms.mapIdx first
  ((settle forms (forms.size + depth) start).getD root ⟨.null, true⟩).value

end Form

end Yaml

end ApiTools
