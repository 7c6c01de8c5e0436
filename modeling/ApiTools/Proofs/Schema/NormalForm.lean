import ApiTools.Proofs.Schema.Compile
import ApiTools.Synthesis

/-!
# Resolved nodes

A resolved node neither names nor composes others, so there is nothing left to resolve in it: with
the references that were followed on the way to it, it is resolved to itself.  A schema is compiled
from its resolved node and these references alone.  What looks at the resolved node of a schema
before it compiles the schema has therefore seen the node that the validator is made from.

## Main definitions

* `Schema.IsResolved` — a node that neither names nor composes others.

## Main results

* `Schema.resolveWithin_self_iff` — **the resolved nodes are those that resolution leaves alone.**
* `Schema.isResolved_resolveWithin` — **every resolution ends at one.**
* `Schema.resolveWithin_resolved`, `Schema.compileWithin_resolved` — to resolve a node twice is to
  resolve it once, and compiling a node is compiling what it is resolved to.
* `Synthesis.inputValidator_eq`, `Synthesis.outputValidator_eq` — the validators of an operation
  are made from the node on which they are decided.
* `Schema.compiles_resolved_node` — **resolution is a normal form that compilation factors
  through**, in the validators of an operation as well.
-/

namespace ApiTools

namespace Schema

variable {document schema : Value} {mode : Mode} {room : Nat} {visited : List String}
variable {r : Resolution} {node : Entries}

/-! ### What resolution leaves alone -/

/-- A node that neither names nor composes others. -/
structure IsResolved (node : Entries) : Prop where
  /-- It names none. -/
  ref : refOf node = .null
  /-- It composes none. -/
  allOf : node.get? "allOf" = none

theorem isResolved_nil : IsResolved [] := ⟨rfl, rfl⟩

theorem Merge.isResolved_node (merge : Merge) : IsResolved merge.node := by
  refine ⟨?_, ?_⟩
  · unfold refOf
    rw [merge.get?_node]
    simp
  · rw [merge.get?_node]
    simp

/-- **Every resolution ends at a node that neither names nor composes others.** -/
theorem isResolved_resolveWithin (h : resolveWithin document room schema visited = .ok r) :
    IsResolved r.node := by
  induction room generalizing schema visited with
  | zero =>
    cases h
    exact isResolved_nil
  | succ room ih =>
    cases resolveWithin_succ h with
    | noNode _ hr | cut _ _ _ _ _ hr => exact hr ▸ isResolved_nil
    | itself node _ href hallOf hr => exact hr ▸ ⟨href, hallOf⟩
    | composed _ _ _ _ _ _ _ merge _ hr => exact hr ▸ merge.isResolved_node
    | followed _ _ _ _ _ _ _ hr => exact ih hr

/-- Without room every node is cut, and the references followed stay as they are. -/
theorem resolveWithin_zero : resolveWithin document 0 schema visited = .ok ⟨[], visited⟩ := rfl

/-- **The nodes that resolution leaves alone are those that neither name nor compose others.** -/
theorem resolveWithin_self_iff :
    resolveWithin document (room + 1) (.map node) visited = .ok ⟨node, visited⟩ ↔
      IsResolved node := by
  constructor
  · intro h
    exact isResolved_resolveWithin (r := ⟨node, visited⟩) h
  · intro h
    exact resolveWithin_of_step (.itself node rfl h.ref h.allOf rfl)

/-- To resolve a node twice is to resolve it once. -/
theorem resolveWithin_resolved (h : resolveWithin document room schema visited = .ok r) :
    resolveWithin document room (.map r.node) r.visited = .ok r := by
  cases room with
  | zero =>
    cases h
    exact resolveWithin_zero
  | succ room => exact resolveWithin_self_iff.mpr (isResolved_resolveWithin h)

/-- Compilation looks at a schema through its resolution only. -/
theorem compileWithin_congr {schema₁ schema₂ : Value} {visited₁ visited₂ : List String}
    (h : resolveWithin document room schema₁ visited₁ =
      resolveWithin document room schema₂ visited₂) :
    compileWithin document mode room schema₁ visited₁ =
      compileWithin document mode room schema₂ visited₂ := by
  cases room with
  | zero => rfl
  | succ room =>
    unfold compileWithin
    rw [h]

/-- Compiling a schema is compiling the node that it is resolved to. -/
theorem compileWithin_resolved (h : resolveWithin document room schema visited = .ok r) :
    compileWithin document mode room schema visited =
      compileWithin document mode room (.map r.node) r.visited :=
  compileWithin_congr (h.trans (resolveWithin_resolved h).symm)

end Schema

/-! ### The validators of an operation -/

namespace Synthesis

open Document Schema

variable {document operation schema : Value} {r : Resolution}

/-- The validator of arguments is made from the node that a request body is resolved to: it decides
whether they are put under a name, and is compiled. -/
theorem inputValidator_eq (hschema : requestSchema operation = .ok schema)
    (hgiven : schema.isTruthy = true) (h : resolve document schema [] 0 = .ok r) :
    inputValidator document operation = do
      let validator ← compile document (.map r.node) .input 0 r.visited
      if isObject r.node then return validator else return payloadValidator validator := by
  unfold inputValidator
  rw [hschema]
  change (if !schema.isTruthy then _ else _) = _
  rw [if_neg (by simp [hgiven]), h]
  unfold compile
  rw [compileWithin_resolved h]
  rfl

/-- The validator of an answer is made from the node that its schema is resolved to: it decides
whether there is one, and is compiled. -/
theorem outputValidator_eq (hschema : responseSchema operation successStatuses = .ok schema)
    (hgiven : schema.isTruthy = true) (h : resolve document schema [] 0 = .ok r) :
    outputValidator document operation =
      if isObject r.node then do return some (← compile document (.map r.node) .output 0 r.visited)
      else return none := by
  unfold outputValidator
  rw [hschema]
  change (if !schema.isTruthy then _ else _) = _
  rw [if_neg (by simp [hgiven]), h]
  unfold compile
  rw [compileWithin_resolved h]
  rfl

end Synthesis

/-! ### Compilation factors through resolution -/

namespace Schema

open Document Synthesis

variable {document schema : Value} {visited : List String} {depth : Int} {r : Resolution}

/-- **Resolution is a normal form that compilation factors through**, at any depth: the node that a
schema is resolved to is resolved to itself, with the references followed on the way, and in both
modes the schema is compiled like this node, whether that succeeds or not.  So the validators of an
operation are compiled from the node on which they are decided. -/
theorem compiles_resolved_node (h : resolve document schema visited depth = .ok r) :
    resolve document (.map r.node) r.visited depth = .ok r ∧
      (∀ mode, compile document schema mode depth visited =
        compile document (.map r.node) mode depth r.visited) ∧
      (visited = [] → depth = 0 → schema.isTruthy = true → ∀ operation,
        (requestSchema operation = .ok schema → inputValidator document operation = do
          let validator ← compile document (.map r.node) .input 0 r.visited
          if isObject r.node then return validator else return payloadValidator validator) ∧
        (responseSchema operation successStatuses = .ok schema →
          outputValidator document operation =
            if isObject r.node then do
              return some (← compile document (.map r.node) .output 0 r.visited)
            else return none)) := by
  refine ⟨resolveWithin_resolved h, fun _ => compileWithin_resolved h, ?_⟩
  rintro rfl rfl hgiven operation
  exact ⟨fun hschema => inputValidator_eq hschema hgiven h,
    fun hschema => outputValidator_eq hschema hgiven h⟩

/-- A reference to the schema of a document. -/
def toSchema (name : String) : Value := .record [("$ref", .text ("#/components/schemas/" ++ name))]

/-- A document in which a visit is a booking and has a guest. -/
def visitDocument : Value :=
  .record [("components", .record [("schemas", .record [
    ("Visit", .record [("allOf", .list [toSchema "Booking", .record [("type", .text "object"),
      ("properties", .record [("guest", .record [("type", .text "string")])])]])]),
    ("Booking", .record [("type", .text "object"), ("required", .list [.text "day"]),
      ("properties", .record [("day", .record [("type", .text "string")]),
        ("next", toSchema "Visit")])])])])]

/-- The node of a visit: the properties of a booking, whose schemas are not resolved yet, and the
guest. -/
def visitNode : Entries :=
  [(.text "type", .text "object"),
   (.text "properties", .record [("day", .record [("type", .text "string")]),
     ("next", toSchema "Visit"), ("guest", .record [("type", .text "string")])]),
   (.text "required", .list [.text "day"])]

/-- The references that are followed on the way to a visit. -/
def visitReferences : List String :=
  ["#/components/schemas/Visit", "#/components/schemas/Booking"]

/-- The operation that takes a visit. -/
def bookVisit : Value :=
  .record [("requestBody", .record [("content", .record [("application/json",
    .record [("schema", toSchema "Visit")])])])]

/-- A visit is compiled like its node, and both references are known by then, so that the visit
after it is cut. -/
theorem compiles_resolved_node_visit :
    resolve visitDocument (toSchema "Visit") [] 0 = .ok ⟨visitNode, visitReferences⟩ ∧
      resolve visitDocument (.map visitNode) visitReferences 0 =
        .ok ⟨visitNode, visitReferences⟩ ∧
      (∀ mode, compile visitDocument (toSchema "Visit") mode 0 [] =
        compile visitDocument (.map visitNode) mode 0 visitReferences) ∧
      inputValidator visitDocument bookVisit = do
        let validator ← compile visitDocument (.map visitNode) .input 0 visitReferences
        if isObject visitNode then return validator else return payloadValidator validator := by
  have hvisit : resolve visitDocument (toSchema "Visit") [] 0 =
      .ok ⟨visitNode, visitReferences⟩ := rfl
  obtain ⟨hself, hcompile, hoperation⟩ := compiles_resolved_node hvisit
  exact ⟨hvisit, hself, hcompile, (hoperation rfl rfl rfl bookVisit).1 rfl⟩

end Schema

end ApiTools
