import ApiTools.Proofs.Schema.Alike
import ApiTools.Proofs.Schema.Family

/-!
# The steps at which a compilation can fail

On schemas with parts of the right kinds, resolution and compilation can fail at two steps only: a
reference is followed that leads nowhere, or an example is written that JSON cannot hold.  These
steps are listed here in their order, and the fault of a compilation is that of the first one that
fails.

## Main definitions

* `Schema.Check` — a step that can fail, with the fault that it fails with.
* `Schema.resolutionChecks`, `Schema.compilationChecks` — the steps of a resolution and of a
  compilation.

## Main results

* `Schema.fault?_resolveWithin`, `Schema.fault?_compileWithin` — **a resolution or a compilation
  fails with the fault of the first step that fails**, and succeeds if none does.
-/

namespace ApiTools

namespace Schema

/-- A step that can fail. -/
inductive Check where
  /-- A reference is followed. -/
  | follows (name : String)
  /-- An example is written. -/
  | writes (sample : Value)

/-- The fault of a step, if it fails. -/
def Check.fault? (document : Value) : Check → Option Fault
  | follows name => (Pointer.resolve document name).fault?
  | writes sample => (Json.write Json.compact sample).fault?

/-- The steps of a resolution: it follows references. -/
def resolutionChecks (document : Value) (room : Nat) (schema : Value) (visited : List String) :
    List Check :=
  (resolutionRefs document room schema visited).map .follows

/-- The steps of a compilation: it resolves the node, compiles the schemas in it, and writes its
example. -/
def compilationChecks (document : Value) (mode : Mode) :
    Nat → Value → List String → List Check
  | 0, _, _ => []
  | room + 1, schema, visited =>
    resolutionChecks document (room + 1) schema visited ++
      match resolveWithin document (room + 1) schema visited with
      | .ok r =>
        (innerSchemas mode r.node).flatMap (fun inner =>
          compilationChecks document mode room inner r.visited) ++
          ((r.node.get? "example").map .writes).toList
      | .error _ => []

variable {document root schema : Value} {mode : Mode} {room : Nat} {visited : List String}
variable {node : Entries} {compileChild : Value → Except Fault Validator}

/-! ### Resolution -/

theorem resolutionChecks_noNode (hbare : ∀ node, schema.bare ≠ .map node) :
    resolutionChecks document (room + 1) schema visited = [] := by
  unfold resolutionChecks resolutionRefs
  split
  · next node hnode => exact absurd hnode (hbare node)
  · rfl

theorem resolutionChecks_itself (hbare : schema.bare = .map node) (href : refOf node = .null)
    (hallOf : node.get? "allOf" = none) :
    resolutionChecks document (room + 1) schema visited = [] := by
  unfold resolutionChecks
  rw [resolutionRefs, hbare]
  dsimp only
  rw [href, hallOf]
  rfl

/-- A reference that was followed before is cut: no step is taken. -/
theorem resolutionChecks_cut (hbare : schema.bare = .map node) {name : String}
    (href : refOf node = .text name) (hvisited : name ∈ visited) :
    resolutionChecks document (room + 1) schema visited = [] := by
  unfold resolutionChecks
  rw [resolutionRefs, hbare]
  dsimp only
  rw [href]
  dsimp only
  rw [if_pos hvisited]
  rfl

/-- The steps of a composition are those of its branches. -/
theorem resolutionChecks_composed (hbare : schema.bare = .map node) (href : refOf node = .null)
    {branches : Value} (hallOf : node.get? "allOf" = some branches) :
    resolutionChecks document (room + 1) schema visited =
      (branchesOf branches).flatMap fun branch => resolutionChecks document room branch visited := by
  unfold resolutionChecks
  rw [resolutionRefs, hbare]
  dsimp only
  rw [href, hallOf, Option.elim_some, List.map_flatMap]

/-- The first step of a reference is to follow it. -/
theorem resolutionChecks_reference (hbare : schema.bare = .map node) {name : String}
    (href : refOf node = .text name) (hvisited : name ∉ visited) :
    resolutionChecks document (room + 1) schema visited =
      .follows name :: match Pointer.resolve document name with
        | .ok target => resolutionChecks document room target (visit visited name)
        | .error _ => [] := by
  unfold resolutionChecks
  rw [resolutionRefs, hbare]
  dsimp only
  rw [href]
  dsimp only
  rw [if_neg hvisited, List.map_cons,
    show Pointer.resolveValue document (.text name) = Pointer.resolve document name from rfl]
  cases Pointer.resolve document name <;> rfl

/-- **A resolution fails with the fault of its first step that fails.** -/
theorem fault?_resolveWithin (hshaped : FamilyShaped document root)
    (hfamily : Family document root schema) :
    (resolveWithin document room schema visited).fault? =
      (resolutionChecks document room schema visited).findSome? (Check.fault? document) := by
  induction room generalizing schema visited with
  | zero => rfl
  | succ room ih =>
    -- A branch or a target is resolved with less room, so that its fault is known by induction.
    cases form schema with
    | noNode hbare =>
      rw [resolveWithin_noNode hbare, resolutionChecks_noNode hbare]
      rfl
    | itself node hbare href hallOf =>
      rw [resolveWithin_itself hbare href hallOf, resolutionChecks_itself hbare href hallOf]
      rfl
    | composed node hbare href branches hallOf =>
      have hnode := hshaped schema node hfamily hbare
      rw [resolveWithin_composed hbare href hallOf, resolutionChecks_composed hbare href hallOf,
        hnode.elements_branches hallOf, List.findSome?_flatMap]
      refine (Except.fault?_bind_pure _ _).trans
        (Except.fault?_foldlM (fun merge branch hmem => ?_) _)
      have hbranch := hfamily.next hbare (.branch branches hallOf branch hmem)
      -- What is legible can be added, so that a merge fails with the fault of a branch only.
      have hadded : ∀ r, resolveWithin document room branch visited = .ok r →
          (merge.add r).fault? = none := by
        intro r hr
        rw [(resolved_resolveWithin hshaped hbranch hr).legible.add]
        rfl
      rw [← ih hbranch]
      exact (Except.fault?_bind hadded).trans Option.or_none
    | reference node hbare name href =>
      rw [resolveWithin_reference hbare href]
      by_cases hvisited : name ∈ visited
      · rw [if_pos hvisited, resolutionChecks_cut hbare href hvisited]
        rfl
      · rw [if_neg hvisited, resolutionChecks_reference hbare href hvisited,
          List.findSome?_cons_eq_or]
        refine Except.fault?_bind fun target htarget => ?_
        rw [show Pointer.resolve document name = .ok target from htarget]
        exact ih (hfamily.next hbare (.target name href target htarget))
    | unreadable node hbare hnull htext =>
      rcases (hshaped schema node hfamily hbare).ref with href | ⟨name, href⟩
      · exact absurd href hnull
      · exact absurd href (htext name)

/-! ### Compilation -/

/-- A validator fails to be made for the first schema in the node that cannot be compiled, if the
required names are read. -/
theorem fault?_bareValidator (hkeys : ∃ keys, requiredKeys node = .ok keys) :
    (bareValidator compileChild mode node).fault? =
      (innerSchemas mode node).findSome? fun c => (compileChild c).fault? := by
  unfold bareValidator innerSchemas
  cases hkind : kind node with
  | object =>
    -- The properties come first, then the schema of undeclared keys, if they have one.
    obtain ⟨keys, hkeys⟩ := hkeys
    have hrules : (rulesOf compileChild mode keys (declaredProperties node)).fault? =
        ((declaredProperties node).map Prod.snd).findSome? fun c => (compileChild c).fault? := by
      unfold rulesOf
      rw [Except.fault?_mapM, List.findSome?_map]
      simp only [Except.fault?_bind_pure]
      rfl
    dsimp only
    rw [objectValidator_eq_bind, Except.fault?_bind_ok hkeys, List.findSome?_append, ← hrules]
    refine Except.fault?_bind fun rules _ => (Except.fault?_bind_pure _ _).trans ?_
    unfold extrasOf
    cases mode with
    | output => rfl
    | input =>
      cases (extraSchema node).bare with
      | scalar s =>
        cases s with
        | bool b => cases b <;> rfl
        | null | int | double | text | stamp | bytes => rfl
      | map es =>
        dsimp only
        cases h : compileChild (extraSchema node) <;> simp [Except.fault?, h]
      | list | group | knot => rfl
  | array =>
    dsimp only
    rw [show (node.get? "items").getD .null = itemSchema node from rfl]
    split
    · rw [List.findSome?_cons_eq_or, List.findSome?_nil, Option.or_none]
      exact Except.fault?_bind_pure _ _
    · rfl
  | enumeration => cases mode <;> rfl
  | string | number | boolean | reference | composite | union | unresolved => rfl

/-- A legible node fails to be documented where its example cannot be written. -/
theorem fault?_described (h : Legible node) (v : Validator) :
    (described node v).fault? =
      ((node.get? "example").map .writes).toList.findSome? (Check.fault? document) := by
  have hdescription : ∃ text?, ((node.get? "description").filter Value.isTruthy).mapM Value.shown =
      .ok text? := by
    cases hv : node.get? "description" with
    | none => exact ⟨none, rfl⟩
    | some v =>
      rcases h.description v hv with rfl | ⟨s, rfl⟩
      · exact ⟨none, rfl⟩
      · cases hs : (Value.text s).isTruthy with
        | false => exact ⟨none, by rw [Option.filter_some, if_neg (by simp [hs])]; rfl⟩
        | true => exact ⟨some s, by rw [Option.filter_some, if_pos hs]; rfl⟩
  obtain ⟨text?, htext⟩ := hdescription
  have hdocumentation : (documentation node).fault? =
      ((node.get? "example").mapM (Json.write Json.compact)).fault? := by
    unfold documentation
    rw [Except.fault?_bind_ok htext]
    exact Except.fault?_bind_pure _ _
  have hdescribed : (described node v).fault? = (documentation node).fault? := by
    refine (Except.fault?_bind fun text? _ => ?_).trans Option.or_none
    cases text? <;> rfl
  rw [hdescribed, hdocumentation]
  cases node.get? "example" with
  | none => rfl
  | some sample =>
    cases h : Json.write Json.compact sample <;> simp [Except.fault?, Check.fault?, h]

/-- **A compilation fails with the fault of its first step that fails.** -/
theorem fault?_compileWithin (hshaped : FamilyShaped document root)
    (hfamily : Family document root schema) :
    (compileWithin document mode room schema visited).fault? =
      (compilationChecks document mode room schema visited).findSome? (Check.fault? document) := by
  induction room generalizing schema visited with
  | zero => rfl
  | succ room ih =>
    rw [compileWithin, compilationChecks, List.findSome?_append,
      ← fault?_resolveWithin hshaped hfamily]
    -- Past its resolution the node is legible, and the schemas in it belong to the family.
    refine Except.fault?_bind fun r hr => ?_
    have hresolved := resolved_resolveWithin hshaped hfamily hr
    rw [hr]
    dsimp only
    rw [List.findSome?_append, List.findSome?_flatMap]
    split
    · next hnil =>
      rw [List.isEmpty_iff.mp hnil]
      rfl
    · have hinner : ∀ inner ∈ innerSchemas mode r.node,
          (compilationChecks document mode room inner r.visited).findSome?
            (Check.fault? document) =
          (compileWithin document mode room inner r.visited).fault? := fun inner hmem =>
        (ih (hresolved.family inner (mem_innerSchemas_iff.mp hmem).standsIn)).symm
      rw [List.findSome?_congr hinner,
        ← fault?_bareValidator hresolved.legible.exists_requiredKeys]
      refine Except.fault?_bind fun bare _ => ?_
      rw [← fault?_described hresolved.legible bare]
      exact Except.fault?_bind_pure _ _

end Schema

end ApiTools
