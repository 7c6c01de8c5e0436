import ApiTools.Proofs.Schema.Form
import ApiTools.Proofs.Schema.Reference

/-!
# What is met on the way

A run of resolution or compilation follows references, and it may come to nodes beyond the greatest
depth.  These events are listed here in their order, up to the step that fails, if one does: a
composition stops at the first branch that cannot be read, and a node at the first schema in it
that cannot be compiled.

## Main definitions

* `Schema.Event` — what is met: a reference that is followed, or a node that is out of bounds.
* `Schema.resolutionTrace`, `Schema.compilationTrace` — what a run meets.
* `Schema.NodePair` — two nodes that are read alike, up to the schemas in them.

## Main results

* `Schema.mem_compilationTrace_of_resolution`, `Schema.mem_compilationTrace_of_inner` — a
  compilation meets what its parts meet.
-/

namespace ApiTools

namespace Schema

variable {document schema : Value} {mode : Mode} {room : Nat} {visited : List String}

/-! ### What is met -/

/-- What is met on the way through a schema. -/
inductive Event where
  /-- A reference is followed. -/
  | follows (name : String)
  /-- A node is beyond the greatest depth. -/
  | overflows
  deriving DecidableEq

/-- What the resolution of a node meets with the given room. -/
def resolutionTrace (document : Value) : Nat → Value → List String → List Event
  | 0, _, _ => [.overflows]
  | room + 1, schema, visited =>
    match schema.bare with
    | .map node =>
      match refOf node with
      | .null =>
        let addBranch := fun (merge : Merge) branch => do
          merge.add (← resolveWithin document room branch visited)
        (Except.reached addBranch ⟨[], [], visited⟩
          ((Entries.get? node "allOf").elim [] branchesOf)).flatMap fun branch =>
            resolutionTrace document room branch visited
      | .text name =>
        if name ∈ visited then []
        else
          .follows name :: match Pointer.resolveValue document (.text name) with
            | .ok target => resolutionTrace document room target (visit visited name)
            | .error _ => []
      | _ => []
    | _ => []

/-- The schemas in a node that are compiled before one of them fails. -/
def innerReached (compileChild : Value → Except Fault Validator) (mode : Mode) (node : Entries) :
    List Value :=
  match kind node, requiredKeys node with
  | .object, .error _ => []
  | _, _ => Except.reachedBy compileChild (innerSchemas mode node)

/-- What the compilation of a node meets with the given room. -/
def compilationTrace (document : Value) (mode : Mode) : Nat → Value → List String → List Event
  | 0, _, _ => [.overflows]
  | room + 1, schema, visited =>
    resolutionTrace document (room + 1) schema visited ++
      match resolveWithin document (room + 1) schema visited with
      | .ok r =>
        (innerReached (fun inner => compileWithin document mode room inner r.visited) mode
          r.node).flatMap fun inner => compilationTrace document mode room inner r.visited
      | .error _ => []

section

variable {node : Entries} {branches : Value} {name : String}

/-- A composition meets what the branches meet that are merged before one fails. -/
theorem resolutionTrace_composed (hbare : schema.bare = .map node) (href : refOf node = .null)
    (hallOf : node.get? "allOf" = some branches) {items : List Value}
    (hitems : (branches.orElse (.list [])).elements = .ok items) :
    resolutionTrace document (room + 1) schema visited =
      (Except.reached (fun (merge : Merge) branch => do
        merge.add (← resolveWithin document room branch visited)) ⟨[], [], visited⟩ items).flatMap
          fun branch => resolutionTrace document room branch visited := by
  rw [resolutionTrace]
  simp only [hbare, href, hallOf, Option.elim_some, branchesOf, hitems]
  rfl

/-- A reference that was not followed before is followed, and then its target is met. -/
theorem resolutionTrace_followed (hbare : schema.bare = .map node) (href : refOf node = .text name)
    (hvisited : name ∉ visited) {target : Value}
    (htarget : Pointer.resolveValue document (.text name) = .ok target) :
    resolutionTrace document (room + 1) schema visited =
      .follows name :: resolutionTrace document room target (visit visited name) := by
  rw [resolutionTrace]
  simp only [hbare, href, if_neg hvisited, htarget]

theorem follows_mem_resolutionTrace (hbare : schema.bare = .map node)
    (href : refOf node = .text name) (hvisited : name ∉ visited) :
    .follows name ∈ resolutionTrace document (room + 1) schema visited := by
  rw [resolutionTrace]
  simp only [hbare, href, if_neg hvisited]
  exact List.mem_cons_self

end

/-- **No reference is followed from a schema that does not count as given.** -/
theorem not_follows_of_falsy (h : schema.isTruthy = false) (name : String) :
    .follows name ∉ compilationTrace document mode room schema visited := by
  cases room with
  | zero => simp [compilationTrace]
  | succ room =>
    have hnone : resolutionTrace document (room + 1) schema visited = [] := by
      rw [resolutionTrace]
      split
      · next node hbare =>
        obtain rfl := eq_nil_of_falsy h hbare
        rfl
      · rfl
    rw [compilationTrace, hnone, resolveWithin_of_falsy h]
    exact List.not_mem_nil

/-! ### What the parts of a run meet -/

theorem mem_compilationTrace_of_resolution {e : Event}
    (h : e ∈ resolutionTrace document (room + 1) schema visited) :
    e ∈ compilationTrace document mode (room + 1) schema visited :=
  List.mem_append_left _ h

/-- A compilation meets what the compilations of the schemas meet that it reaches. -/
theorem mem_compilationTrace_of_inner {r : Resolution}
    (hr : resolveWithin document (room + 1) schema visited = .ok r) {c : Value}
    (hc : c ∈ innerReached (fun inner => compileWithin document mode room inner r.visited) mode
      r.node) {e : Event} (h : e ∈ compilationTrace document mode room c r.visited) :
    e ∈ compilationTrace document mode (room + 1) schema visited := by
  rw [compilationTrace, hr]
  exact List.mem_append_right _ (List.mem_flatMap.mpr ⟨c, hc, h⟩)

end Schema

end ApiTools
