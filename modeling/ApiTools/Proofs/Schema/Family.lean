import ApiTools.Proofs.Schema.Composition

/-!
# The schemas that a schema leads to

A schema leads to the schemas in it, to the branches that it composes and to the node that it names.
When each of these has its parts of the right kinds, so has everything that is resolved on the way:
what a node is resolved to is one of them, or it is merged from some of them.

## Main definitions

* `Schema.Legible`, `Schema.SchemaShaped` — a node has its parts of the right kinds.
* `Schema.StandsIn`, `Schema.LeadsTo` — the schemas in a node, and those that it leads to.
* `Schema.Family`, `Schema.FamilyShaped` — all schemas that one leads to, and whether each has its
  parts of the right kinds.
* `Schema.Resolved` — a legible node with schemas of a family in it.

## Main results

* `Schema.resolved_resolveWithin` — **what a schema of a shaped family is resolved to is legible, and
  the schemas in it belong to the family.**
-/

namespace ApiTools

namespace Schema

variable {document root schema : Value} {room : Nat} {visited : List String} {node : Entries}

/-! ### Nodes with parts of the right kinds -/

/-- A node has a map of properties, a list of texts as required names and a text as description, if
it has them. -/
structure Legible (node : Entries) : Prop extends WellShaped node where
  /-- The required names are texts. -/
  names : ∀ name ∈ listedNames node, ∃ s, name = .text s
  /-- The description is a text. -/
  description : ∀ v, node.get? "description" = some v → v = .null ∨ ∃ s, v = .text s

/-- Beside this, its reference is a text, and what it composes is a list. -/
structure SchemaShaped (node : Entries) : Prop extends Legible node where
  /-- The reference is a text. -/
  ref : refOf node = .null ∨ ∃ name, refOf node = .text name
  /-- What it composes is a list. -/
  branches : ∀ v, node.get? "allOf" = some v → v = .null ∨ ∃ items, v.bare = .list items

theorem legible_nil : Legible [] where
  toWellShaped := ⟨nofun, nofun⟩
  names := List.forall_mem_nil _
  description := nofun

/-- The branches that such a node composes are read. -/
theorem SchemaShaped.elements_branches (h : SchemaShaped node) {branches : Value}
    (hallOf : node.get? "allOf" = some branches) :
    (branches.orElse (.list [])).elements = .ok (branchesOf branches) := by
  obtain ⟨items, hitems⟩ : ∃ items, (branches.orElse (.list [])).elements = .ok items := by
    unfold Value.elements
    rcases h.branches branches hallOf with rfl | ⟨items, hbare⟩
    · exact ⟨_, rfl⟩
    · rw [Value.bare_orElse_list hbare]
      exact ⟨_, rfl⟩
  rw [branchesOf, hitems]
  rfl

/-- Texts may be members of a set. -/
theorem areMembers_of_texts {values : List Value} (h : ∀ v ∈ values, ∃ s, v = .text s) :
    Value.areMembers values = true := by
  induction values with
  | nil => rw [Value.areMembers]
  | cons v values ih =>
    obtain ⟨⟨s, rfl⟩, hrest⟩ := List.forall_mem_cons.mp h
    rw [Value.areMembers, Value.isMember, ih hrest]
    rfl

/-- The required names of a legible node are read. -/
theorem Legible.exists_requiredKeys (h : Legible node) :
    ∃ keys, requiredKeys node = .ok keys := by
  refine ⟨(listedNames node).filterMap Value.scalar?,
    Except.bind_eq_ok_iff.mpr ⟨_, h.broughtRequired, ?_⟩⟩
  unfold Value.members
  rw [if_pos (areMembers_of_texts h.names)]

/-- A legible branch is added to every merge. -/
theorem Legible.add {branch : Resolution} (h : Legible branch.node) (merge : Merge) :
    merge.add branch = .ok ⟨merge.properties.merge (declaredProperties branch.node),
      merge.required ++ listedNames branch.node, visitAll merge.visited branch.visited⟩ :=
  Merge.add_eq_ok_iff.mpr ⟨_, _, h.broughtProperties, h.broughtRequired, rfl⟩

/-! ### Families of schemas -/

/-- The schemas that stand in a node. -/
inductive StandsIn (node : Entries) : Value → Prop where
  /-- The schema of a property. -/
  | property (p : Scalar × Value) (hp : p ∈ declaredProperties node) : StandsIn node p.2
  /-- The schema of items. -/
  | item (c : Value) (h : node.get? "items" = some c) : StandsIn node c
  /-- The schema of undeclared keys. -/
  | extra (c : Value) (h : node.get? "additionalProperties" = some c) : StandsIn node c

/-- The schemas that a node leads to. -/
inductive LeadsTo (document : Value) (node : Entries) : Value → Prop where
  /-- A schema in it. -/
  | inside (c : Value) (h : StandsIn node c) : LeadsTo document node c
  /-- A schema that it composes. -/
  | branch (branches : Value) (hallOf : node.get? "allOf" = some branches) (c : Value)
    (hc : c ∈ branchesOf branches) : LeadsTo document node c
  /-- The node that it names. -/
  | target (name : String) (href : refOf node = .text name) (c : Value)
    (hc : Pointer.resolve document name = .ok c) : LeadsTo document node c

/-- A schema, and one that its node leads to. -/
def Next (document v c : Value) : Prop := ∃ node, v.bare = .map node ∧ LeadsTo document node c

/-- The schemas that a schema leads to over any number of steps, itself among them. -/
def Family (document root : Value) : Value → Prop := Relation.ReflTransGen (Next document) root

/-- Every node of a family has its parts of the right kinds. -/
def FamilyShaped (document root : Value) : Prop :=
  ∀ v node, Family document root v → v.bare = .map node → SchemaShaped node

theorem Family.next (h : Family document root schema) (hbare : schema.bare = .map node) {c : Value}
    (hc : LeadsTo document node c) : Family document root c := h.tail ⟨node, hbare, hc⟩

/-- A family is shaped when its members are found in a class of shaped nodes that leads nowhere
else. -/
theorem familyShaped_of_closed {P : Value → Prop} (hroot : P root)
    (hclosed : ∀ v node, P v → v.bare = .map node →
      SchemaShaped node ∧ ∀ c, LeadsTo document node c → P c) : FamilyShaped document root := by
  intro v node hfamily hbare
  refine (hclosed v node ?_ hbare).1
  induction hfamily generalizing node with
  | refl => exact hroot
  | tail _ hnext ih =>
    obtain ⟨other, hother, hc⟩ := hnext
    exact (hclosed _ other (ih other hother) hother).2 _ hc

/-- A node without parts has them of the right kinds, and leads to what it names only. -/
theorem schemaShaped_of_partless
    (hnone : ∀ name ∈ ["properties", "required", "description", "allOf", "items",
      "additionalProperties"], node.get? name = none)
    (href : refOf node = .null ∨ ∃ name, refOf node = .text name) :
    SchemaShaped node ∧ ∀ document c, LeadsTo document node c →
      ∃ name, refOf node = .text name ∧ Pointer.resolve document name = .ok c := by
  simp only [List.forall_mem_cons] at hnone
  obtain ⟨hproperties, hrequired, hdescription, hallOf, hitems, hextra, -⟩ := hnone
  refine ⟨⟨⟨⟨?_, ?_⟩, ?_, ?_⟩, href, ?_⟩, fun document c hc => ?_⟩
  · simp [hproperties]
  · simp [hrequired]
  · simp [listedNames, hrequired]
  · simp [hdescription]
  · simp [hallOf]
  · cases hc with
    | inside c hc =>
      cases hc with
      | property p hp => simp [declaredProperties, hproperties] at hp
      | item c h => cases hitems.symm.trans h
      | extra c h => cases hextra.symm.trans h
    | branch branches h => cases hallOf.symm.trans h
    | target name href c hc => exact ⟨name, href, hc⟩

/-- What is no node leads nowhere. -/
theorem familyShaped_of_noNode (hbare : ∀ node, schema.bare ≠ .map node) :
    FamilyShaped document schema := by
  intro v node hfamily hnode
  rcases hfamily.cases_head with rfl | ⟨c, ⟨other, hother, -⟩, -⟩
  · exact absurd hnode (hbare node)
  · exact absurd hother (hbare other)

/-- The schemas that a validator is made from stand in the node. -/
theorem Inner.standsIn {mode : Mode} {c : Value} (h : Inner mode node c) : StandsIn node c := by
  -- What is absent is no schema.
  have hgiven : ∀ name, (node.get? name).getD .null ≠ .null →
      node.get? name = some ((node.get? name).getD .null) := by
    intro name hne
    cases hv : node.get? name with
    | none => exact absurd (by rw [hv]; rfl) hne
    | some v => rfl
  cases h with
  | property _ p hp => exact .property p hp
  | extra _ _ es hbare =>
    refine .extra _ (hgiven _ fun hnull => ?_)
    unfold extraSchema at hbare
    rw [hnull] at hbare
    cases hbare
  | item _ htruthy =>
    refine .item _ (hgiven _ fun hnull => ?_)
    unfold itemSchema at htruthy
    rw [hnull] at htruthy
    cases htruthy

/-! ### Resolved nodes -/

/-- A legible node with schemas of a family in it. -/
structure Resolved (document root : Value) (node : Entries) : Prop where
  /-- The node is legible. -/
  legible : Legible node
  /-- The schemas in it belong to the family. -/
  family : ∀ c, StandsIn node c → Family document root c

theorem resolved_nil : Resolved document root [] where
  legible := legible_nil
  family := fun c hc => by cases hc <;> contradiction

/-- A merge of texts as required names and of schemas of a family. -/
structure Merge.FromFamily (document root : Value) (merge : Merge) : Prop where
  /-- The schemas of its properties belong to the family. -/
  properties : ∀ p ∈ merge.properties, Family document root p.2
  /-- The required names are texts. -/
  names : ∀ name ∈ merge.required, ∃ s, name = .text s

/-- A merge with one more resolved branch is of the family, too. -/
theorem Merge.FromFamily.add {merge merge' : Merge} {branch : Resolution}
    (h : merge.FromFamily document root) (hbranch : Resolved document root branch.node)
    (hadd : merge.add branch = .ok merge') : merge'.FromFamily document root := by
  obtain rfl := Except.ok.inj ((hbranch.legible.add merge).symm.trans hadd)
  refine ⟨fun p hp => ?_, List.forall_mem_append.mpr ⟨h.names, hbranch.legible.names⟩⟩
  obtain ⟨-, f, hf, hvalue⟩ := Entries.mem_merge hp
  rw [← hvalue]
  rcases List.mem_append.mp hf with hf | hf
  · exact h.properties f hf
  · exact hbranch.family _ (.property f hf)

/-- The node of a merge of a family. -/
theorem Merge.FromFamily.resolved {merge : Merge} (h : merge.FromFamily document root) :
    Resolved document root merge.node := by
  have hproperties : merge.node.get? "properties" = some (.map merge.properties) := by
    simp [merge.get?_node]
  have hrequired : ∀ v, merge.node.get? "required" = some v → v = .list merge.required := by
    intro v hv
    have hlist : ¬merge.required = [] ∧ Value.list merge.required = v := by
      simpa [merge.get?_node] using hv
    exact hlist.2.symm
  refine ⟨⟨⟨fun v hv => ?_, fun v hv => ?_⟩, fun name hname => ?_, fun v hv => ?_⟩, fun c hc => ?_⟩
  · exact Or.inr ⟨merge.properties, by rw [← Option.some.inj (hproperties.symm.trans hv)]; rfl⟩
  · exact Or.inr ⟨merge.required, by rw [hrequired v hv]; rfl⟩
  · unfold listedNames at hname
    split at hname
    · next names hlist =>
      obtain ⟨v, hv, hbare⟩ := Option.map_eq_some_iff.mp hlist
      rw [hrequired v hv] at hbare
      cases hbare
      exact h.names name hname
    · cases hname
  · simp [merge.get?_node] at hv
  · cases hc with
    | property p hp =>
      unfold declaredProperties at hp
      rw [hproperties] at hp
      exact h.properties p hp
    | item c hc | extra c hc => simp [merge.get?_node] at hc

/-- **What a schema of a shaped family is resolved to is legible, and the schemas in it belong to
the family.** -/
theorem resolved_resolveWithin (hshaped : FamilyShaped document root)
    (hfamily : Family document root schema) {r : Resolution}
    (h : resolveWithin document room schema visited = .ok r) : Resolved document root r.node := by
  induction room generalizing schema visited r with
  | zero =>
    cases h
    exact resolved_nil
  | succ room ih =>
    cases resolveWithin_succ h with
    | noNode _ hr | cut _ _ _ _ _ hr =>
      rw [hr]
      exact resolved_nil
    | itself node hbare href hallOf hr =>
      rw [hr]
      exact ⟨(hshaped schema node hfamily hbare).toLegible,
        fun c hc => hfamily.next hbare (.inside c hc)⟩
    | composed node hbare href branches hallOf items hitems merge hmerge hr =>
      have hnode := hshaped schema node hfamily hbare
      obtain rfl := Except.ok.inj ((hnode.elements_branches hallOf).symm.trans hitems)
      rw [hr]
      refine (Except.foldlM_keeps ?_ ⟨List.forall_mem_nil _, List.forall_mem_nil _⟩ hmerge :
        merge.FromFamily document root).resolved
      intro merge branch hbranch merge' hmerge hstep
      obtain ⟨r, hr, hadd⟩ := Except.bind_eq_ok_iff.mp hstep
      exact hmerge.add (ih (hfamily.next hbare (.branch branches hallOf branch hbranch)) hr) hadd
    | followed node hbare name href hvisited target htarget hr =>
      exact ih (hfamily.next hbare (.target name href target htarget)) hr

end Schema

end ApiTools
