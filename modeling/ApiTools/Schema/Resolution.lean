import ApiTools.Pointer
import ApiTools.Schema.Kind

/-!
# Resolution of schemas

A schema node that names another node stands for it, and one that composes several nodes stands
for the map that has the properties of all. Resolution follows both until a node is neither.

References may run in circles, so a node is cut, that is, resolved to the empty node, when its
reference was already followed on the way to it, and when the way is longer than a bound. The
depth counts up to the bound; the recursion is on the room that is left below it.

## Main definitions

* `Schema.Resolution` — a resolved node, with the references followed on the way to it.
* `Schema.resolve` — the resolution of a node.
-/

namespace ApiTools

namespace Schema

/-- The greatest depth at which a node is looked at. -/
def maxDepth : Int := 8

/-- How many levels are left from a depth on. -/
def room (depth : Int) : Nat := (maxDepth + 1 - depth).toNat

/-- A resolved node, and the references followed on the way to it. -/
structure Resolution where
  /-- The node; the empty one if it was cut. -/
  node : Entries
  /-- The references followed. -/
  visited : List String
  deriving Inhabited

/-- The references with one more. -/
def visit (visited : List String) (ref : String) : List String :=
  if ref ∈ visited then visited else visited ++ [ref]

/-- The references of either list. -/
def visitAll (visited others : List String) : List String := others.foldl visit visited

/-- Whether a reference was followed. What cannot be a member of a set cannot be asked for, other
than a set itself. -/
def isVisited (visited : List String) (ref : Value) : Except Fault Bool := do
  if let .group .set _ := ref then return false
  match ← Value.members [ref] with
  | [.text name] => return visited.contains name
  | _ => return false

/-- The entry that an item stands for: its two elements. -/
def pairOf (index : Nat) (item : Value) : Except Fault (Scalar × Value) := do
  match ← item.elements with
  | [key, value] => return (← key.key, value)
  | parts => throw (.notAPair index parts.length)

/-- The entries that stand for properties: those of a map, or the pairs of a sequence. -/
def propertyEntries (v : Value) : Except Fault Entries :=
  match v.bare with
  | .map entries => .ok entries
  | _ => do (← v.elements).zipIdx.mapM fun (item, index) => pairOf index item

/-- What the branches of a composition add up to. -/
structure Merge where
  /-- The properties of the branches so far; a later branch overrules an earlier one. -/
  properties : Entries
  /-- The required names of the branches so far, repetitions kept. -/
  required : List Value
  /-- The references followed by the branches so far. -/
  visited : List String

/-- A merge with one more branch. -/
def Merge.add (merge : Merge) (branch : Resolution) : Except Fault Merge := do
  let properties ← propertyEntries (((branch.node.get? "properties").getD .null).orElse (.map []))
  let required ← (((branch.node.get? "required").getD .null).orElse (.list [])).elements
  return ⟨merge.properties.merge properties, merge.required ++ required,
    visitAll merge.visited branch.visited⟩

/-- The node that a merge describes. -/
def Merge.node (merge : Merge) : Entries :=
  [(.text "type", .text "object"), (.text "properties", .map merge.properties)]
    ++ if merge.required.isEmpty then [] else [(.text "required", .list merge.required)]

/-- The merge of branches, each resolved on its own from the references visited so far. -/
def mergeAll (resolveBranch : Value → Except Fault Resolution) (visited : List String)
    (branches : List Value) : Except Fault Merge :=
  branches.foldlM (fun merge branch => do merge.add (← resolveBranch branch)) ⟨[], [], visited⟩

/-- The resolution of a node with the given room. -/
def resolveWithin (document : Value) : Nat → Value → List String → Except Fault Resolution
  | 0, _, visited => .ok ⟨[], visited⟩
  | room + 1, schema, visited =>
    match schema.bare with
    | .map node => do
      match (Entries.get? node "$ref").getD .null with
      | .null =>
        match Entries.get? node "allOf" with
        | some branches =>
          let branches ← (branches.orElse (.list [])).elements
          let resolveBranch := fun branch => resolveWithin document room branch visited
          let merge ← mergeAll resolveBranch visited branches
          return ⟨merge.node, merge.visited⟩
        | none => return ⟨node, visited⟩
      | ref =>
        if ← isVisited visited ref then return ⟨[], visited⟩
        let target ← Pointer.resolveValue document ref
        resolveWithin document room target (visit visited (ref.text?.getD ""))
    | _ => .ok ⟨[], visited⟩

/-- The resolution of a node at a depth. -/
def resolve (document schema : Value) (visited : List String) (depth : Int) :
    Except Fault Resolution :=
  resolveWithin document (room depth) schema visited

end Schema

end ApiTools
