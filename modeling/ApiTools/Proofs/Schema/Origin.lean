import ApiTools.Proofs.Schema.Cut

/-!
# Where resolved nodes come from

A resolved node stands in the document or in the schema as it is, or it is the node of a merge.  In
the first case it inherits what is said of the document and the schema.  The node of a merge need
not: its properties may come from lists of pairs, and then their names are keys that no map of the
document has.  But each name, each schema and each required name of it is one that a branch brought.

## Main definitions

* `Schema.Inherits` — a hereditary property of values, with what it says of the names of properties.
* `Schema.Origin` — a node has the property, or is merged from what has it.

## Main results

* `Schema.origin_resolveWithin` — **a resolved node inherits the hereditary properties of the
  document and the schema, or is merged from what inherits them.**
* `Schema.Origin.inner` — the schemas in a resolved node inherit them in either case.
-/

namespace ApiTools

namespace Schema

variable {document schema : Value} {mode : Mode} {room : Nat} {visited : List String}
variable {r : Resolution} {K : Scalar → Prop} {P : Value → Prop} {node : Entries}

/-- A hereditary property of values, and what it says of the names of the properties that a node
with it brings into a merge. -/
structure Inherits (K : Scalar → Prop) (P : Value → Prop) : Prop extends Value.Hereditary P where
  /-- The names are as said. -/
  names : ∀ {node properties : Entries}, P (.map node) → broughtProperties node = .ok properties →
    ∀ p ∈ properties, K p.1

/-- A name inherits the property as a value. -/
theorem inherits_of_hereditary (hP : Value.Hereditary P) :
    Inherits (fun name => P (.scalar name)) P :=
  ⟨hP, fun h hproperties p hp => (of_mem_broughtProperties hP h hproperties p hp).1⟩

/-- The names and the schemas of the properties of a merge are as said, and its required names
too. -/
structure Merge.MadeOf (K : Scalar → Prop) (P : Value → Prop) (merge : Merge) : Prop where
  /-- The properties are. -/
  properties : ∀ p ∈ merge.properties, K p.1 ∧ P p.2
  /-- The required names are. -/
  required : ∀ name ∈ merge.required, P name

/-- A node has a property, or is the node of a merge of what has it. -/
inductive Origin (K : Scalar → Prop) (P : Value → Prop) (node : Entries) : Prop where
  /-- The node has it. -/
  | given (h : P (.map node))
  /-- The node is that of a merge. -/
  | merged (merge : Merge) (hmade : merge.MadeOf K P) (hnode : node = merge.node)

/-- The properties that a node declares are those that it brings into a merge, if there are any. -/
theorem broughtProperties_of_declared {p : Scalar × Value} (hp : p ∈ declaredProperties node) :
    broughtProperties node = .ok (declaredProperties node) := by
  unfold declaredProperties at hp ⊢
  split at hp
  · next properties hproperties =>
    obtain ⟨v, hv, hbare⟩ := Option.map_eq_some_iff.mp hproperties
    have htruthy : v.isTruthy = true := by
      cases v with
      | map es =>
        cases hbare
        simpa [Value.isTruthy] using List.ne_nil_of_mem hp
      | knot label inside =>
        cases hbare
        simpa [Value.isTruthy] using List.ne_nil_of_mem hp
      | scalar | list | group => cases hbare
    rw [broughtProperties, hv, Option.getD_some, Value.orElse, if_pos htruthy, propertyEntries,
      hbare]
  · cases hp

variable (hP : Inherits K P)

include hP

/-! ### Resolution -/

/-- What a branch brings into a merge is as said. -/
theorem Origin.brought (h : Origin K P node) {properties : Entries} {required : List Value}
    (hproperties : broughtProperties node = .ok properties)
    (hrequired : broughtRequired node = .ok required) :
    Merge.MadeOf K P ⟨properties, required, []⟩ := by
  cases h with
  | given h =>
    have hschemas := of_mem_broughtProperties hP.toHereditary h hproperties
    exact ⟨fun p hp => ⟨hP.names h hproperties p hp, (hschemas p hp).2⟩,
      of_mem_broughtRequired hP.toHereditary h hrequired⟩
  | merged merge hmade hnode =>
    subst hnode
    obtain rfl := Except.ok.inj (merge.broughtProperties_node.symm.trans hproperties)
    obtain rfl := Except.ok.inj (merge.broughtRequired_node.symm.trans hrequired)
    exact ⟨hmade.properties, hmade.required⟩

/-- One step: a merge stays made of what has the property. -/
theorem Merge.MadeOf.add {merge merge' : Merge} {branch : Resolution} (h : merge.MadeOf K P)
    (hbranch : Origin K P branch.node) (hadd : merge.add branch = .ok merge') :
    merge'.MadeOf K P := by
  obtain ⟨properties, required, hproperties, hrequired, rfl⟩ := Merge.add_eq_ok_iff.mp hadd
  have hbrought := hbranch.brought hP hproperties hrequired
  have heither := List.forall_mem_append.mpr ⟨h.properties, hbrought.properties⟩
  refine ⟨fun p hp => ?_, List.forall_mem_append.mpr ⟨h.required, hbrought.required⟩⟩
  obtain ⟨⟨e, he, hkey⟩, f, hf, hvalue⟩ := Entries.mem_merge hp
  rw [← hkey, ← hvalue]
  exact ⟨(heither e he).1, (heither f hf).2⟩

/-- **A resolved node inherits the hereditary properties of the document and the schema, or is
merged from what inherits them.** -/
theorem origin_resolveWithin (hdocument : P document) (hschema : P schema)
    (h : resolveWithin document room schema visited = .ok r) : Origin K P r.node := by
  induction room generalizing schema visited r with
  | zero =>
    cases h
    exact .given hP.noEntries
  | succ room ih =>
    cases resolveWithin_succ h with
    | noNode _ hr | cut _ _ _ _ _ hr =>
      rw [hr]
      exact .given hP.noEntries
    | itself node hbare _ _ hr =>
      rw [Value.bare_of_isPlain (hP.isPlain hschema)] at hbare
      rw [hr]
      exact .given (hbare ▸ hschema)
    | composed node hbare _ branches hallOf items hitems merge hmerge hr =>
      rw [Value.bare_of_isPlain (hP.isPlain hschema)] at hbare
      subst hbare
      have hbranches : P (branches.orElse (.list [])) :=
        Value.orElse_cases (hP.part hschema (Value.part_find? hallOf)) hP.noItems
      -- The branches are merged one by one, and what the merge is made of so far is the invariant.
      have hmade : merge.MadeOf K P := by
        refine Except.foldlM_keeps (P := Merge.MadeOf K P) ?_ ⟨by simp, by simp⟩ hmerge
        intro merge item hitem merge' hmade hstep
        obtain ⟨branch, hbranch, hadd⟩ := Except.bind_eq_ok_iff.mp hstep
        exact hmade.add hP (ih (hP.elements hbranches hitems item hitem) hbranch) hadd
      rw [hr]
      exact .merged merge hmade rfl
    | followed _ _ _ _ _ target htarget hr =>
      exact ih (hP.of_holds hdocument (Pointer.holds_resolveValue htarget)) hr

/-! ### What is in a node -/

namespace Origin

/-- The names and the schemas of the properties that a node declares are as said. -/
theorem declared (h : Origin K P node) : ∀ p ∈ declaredProperties node, K p.1 ∧ P p.2 := by
  cases h with
  | merged merge hmade hnode =>
    rw [hnode, Merge.declaredProperties_node]
    exact hmade.properties
  | given h =>
    intro p hp
    have hbrought := broughtProperties_of_declared hp
    exact ⟨hP.names h hbrought p hp, (of_mem_broughtProperties hP.toHereditary h hbrought p hp).2⟩

/-- **The schemas in a node have the property.** -/
theorem inner (h : Origin K P node) {c : Value} (hc : Inner mode node c) : P c := by
  cases h with
  | given h => exact hP.of_holds h (holds_of_inner hc)
  | merged merge hmade hnode =>
    subst hnode
    cases hc with
    | property _ p hp =>
      rw [Merge.declaredProperties_node] at hp
      exact (hmade.properties p hp).2
    | extra _ _ es hbare =>
      rw [Merge.extraSchema_node] at hbare
      cases hbare
    | item hkind => exact absurd (merge.kind_node.symm.trans hkind) (by decide)

/-- The values that a node lists have the property. -/
theorem members (h : Origin K P node) : ∀ v ∈ Schema.members node, P v := by
  cases h with
  | given h => exact of_mem_members hP.toHereditary h
  | merged merge hmade hnode =>
    intro v hv
    unfold Schema.members at hv
    rw [hnode, Merge.get?_node] at hv
    cases hv

end Origin

end Schema

end ApiTools
