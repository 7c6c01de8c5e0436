import ApiTools.Proofs.Schema.Alike
import Mathlib.Data.Option.Basic

/-!
# Nodes that agree

Two schemas can differ in what no check looks at: the way in which a type is spelled, a text, a key
that nobody reads.  Then their nodes agree: they have the same references, lists of values and
required names, and properties, items and branches that agree again.  Nodes that agree are of one
kind, and they bring the same into a merge.

So a run of resolution over one document is followed step by step by a run over another one, through
references and compositions, as long as references lead to schemas that agree.

## Main definitions

* `Schema.MapPair`, `Schema.ListPair` — two maps, or lists, of related schemas.
* `Schema.NodeAgreement` — two nodes that agree, up to the schemas in them.
* `Schema.MergePair` — two merges that agree.
* `Schema.Companion` — a relation of schemas that comes down to one of nodes that agree.

## Main results

* `Schema.NodeAgreement.nodeReading` — **validators are made alike from nodes that agree.**
* `Schema.MergePair.add`, `Schema.MergePair.agreement` — one branch keeps two merges in agreement,
  and then their nodes agree.
* `Schema.resolveWithin_of_companion` — **two runs over schemas that agree give nodes that do.**
-/

namespace ApiTools

namespace Schema

/-! ### Nodes -/

/-- Two maps with the same keys and related values, or one value twice. -/
inductive MapPair (T : Value → Value → Prop) : Value → Value → Prop where
  /-- Maps. -/
  | map {es fs : Entries} (h : EntriesPair T es fs) : MapPair T (.map es) (.map fs)
  /-- A value. -/
  | refl (v : Value) : MapPair T v v

/-- Two lists with related items, or one value twice. -/
inductive ListPair (T : Value → Value → Prop) : Value → Value → Prop where
  /-- Lists. -/
  | list {xs ys : List Value} (h : List.Forall₂ T xs ys) : ListPair T (.list xs) (.list ys)
  /-- A value. -/
  | refl (v : Value) : ListPair T v v

/-- The keys at which a node has a value that is read as it is. -/
def valueKeys : List String := ["$ref", "enum", "required"]

/-- The keys at which a node leaves a choice, whatever stands there. -/
def choiceKeys : List String := ["oneOf", "anyOf"]

/-- Two nodes that agree in what is checked, up to the schemas in them. -/
structure NodeAgreement (T : Value → Value → Prop) (node other : Entries) : Prop where
  /-- They have the same values that are read as they are. -/
  get? : ∀ name ∈ valueKeys, other.get? name = node.get? name
  /-- Both leave a choice, or neither does. -/
  choice : ∀ name ∈ choiceKeys, node.hasKey (.text name) = other.hasKey (.text name)
  /-- They have the same types, but that null alone may be no type. -/
  types : (declaredTypes node).1 = (declaredTypes other).1 ∨
    ((declaredTypes node).1 = ["null"] ∧ (declaredTypes other).1 = [])
  /-- Both admit null, or neither does. -/
  isNullable : isNullable node = isNullable other
  /-- They declare the same properties. -/
  properties : Option.Rel (MapPair T) (node.get? "properties") (other.get? "properties")
  /-- The schemas of items are related. -/
  items : Option.Rel T (node.get? "items") (other.get? "items")
  /-- What they say of undeclared keys is related. -/
  extra : Option.Rel T (node.get? "additionalProperties") (other.get? "additionalProperties")
  /-- They compose related branches. -/
  branches : Option.Rel (ListPair T) (node.get? "allOf") (other.get? "allOf")

theorem hasKey_text (es : Entries) (name : String) :
    es.hasKey (.text name) = (es.get? name).isSome := Entries.hasKey_eq_isSome_find? es _

theorem rel_refl {R : Value → Value → Prop} (hR : ∀ v, R v v) (o : Option Value) :
    Option.Rel R o o := by
  cases o with
  | none => exact .none
  | some v => exact .some (hR v)

theorem rel_imp {R S : Value → Value → Prop} {v w : Option Value} (h : Option.Rel R v w)
    (hRS : ∀ a b, R a b → S a b) : Option.Rel S v w := by
  cases h with
  | none => exact .none
  | some h => exact .some (hRS _ _ h)

theorem isSome_eq_of_rel {R : Value → Value → Prop} {v w : Option Value} (h : Option.Rel R v w) :
    v.isSome = w.isSome := by
  cases h <;> rfl

theorem rel_getD {T : Value → Value → Prop} (hrefl : ∀ c, T c c) {v w : Option Value}
    (h : Option.Rel T v w) : T (v.getD .null) (w.getD .null) := by
  cases h with
  | none => exact hrefl _
  | some h => exact h

/-- The branches of a composition are related, if they can be read. -/
theorem ListPair.elements {T : Value → Value → Prop} (hrefl : ∀ c, T c c) {v w : Value}
    (h : ListPair T v w) :
    Except.Relates (List.Forall₂ T) ((v.orElse (.list [])).elements)
      ((w.orElse (.list [])).elements) := by
  cases h with
  | refl v => exact .refl _ fun _ _ => List.forall₂_same.mpr fun _ _ => hrefl _
  | @list xs ys hforall =>
    cases hforall with
    | nil => exact .ok .nil
    | cons hhead htail => exact .ok (.cons hhead htail)

/-- The kind of the empty node is what its missing keys make it. -/
theorem kind_eq (node : Entries) :
    kind node =
      if node.hasKey (.text "$ref") then .reference
      else if node.hasKey (.text "allOf") then .composite
      else if node.hasKey (.text "oneOf") || node.hasKey (.text "anyOf") then .union
      else if 1 < (declaredTypes node).1.length then .union
      else if isObject node then .object
      else
        match (declaredTypes node).1.head?.bind primitiveKind? with
        | some kind => kind
        | none => if (members node).isEmpty then .unresolved else .enumeration := by
  cases node with
  | nil => rfl
  | cons e es => rfl

namespace NodeAgreement

variable {T : Value → Value → Prop} {node other : Entries}

theorem refl (hrefl : ∀ c, T c c) (node : Entries) : NodeAgreement T node node :=
  ⟨fun _ _ => rfl, fun _ _ => rfl, .inl rfl, rfl, rel_refl .refl _, rel_refl hrefl _,
    rel_refl hrefl _, rel_refl .refl _⟩

theorem refOf (h : NodeAgreement T node other) : refOf other = refOf node := by
  unfold Schema.refOf
  rw [h.get? "$ref" (by decide)]

theorem hasProperties (h : NodeAgreement T node other) :
    hasProperties node = hasProperties other := by
  have hproperties := h.properties
  unfold Schema.hasProperties
  generalize node.get? "properties" = v?, other.get? "properties" = w? at hproperties ⊢
  cases hproperties with
  | none => rfl
  | some hvw => cases hvw <;> rfl

theorem isObject (h : NodeAgreement T node other) : isObject node = isObject other := by
  unfold Schema.isObject
  rcases h.types with heq | ⟨hnode, hother⟩
  · rw [heq, h.hasProperties]
  · rw [hnode, hother, h.hasProperties]
    rfl

theorem members (h : NodeAgreement T node other) : members node = members other := by
  unfold Schema.members
  rw [h.get? "enum" (by decide)]

/-- Nodes that agree are of one kind. -/
theorem kind (h : NodeAgreement T node other) : kind node = kind other := by
  have hlength : 1 < (declaredTypes node).1.length ↔ 1 < (declaredTypes other).1.length := by
    rcases h.types with heq | ⟨hnode, hother⟩
    · rw [heq]
    · rw [hnode, hother]
      decide
  have hprimitive : (declaredTypes node).1.head?.bind primitiveKind? =
      (declaredTypes other).1.head?.bind primitiveKind? := by
    rcases h.types with heq | ⟨hnode, hother⟩
    · rw [heq]
    · rw [hnode, hother]
      rfl
  have href : node.hasKey (.text "$ref") = other.hasKey (.text "$ref") := by
    rw [hasKey_text, hasKey_text, h.get? "$ref" (by decide)]
  have hallOf : node.hasKey (.text "allOf") = other.hasKey (.text "allOf") := by
    rw [hasKey_text, hasKey_text, isSome_eq_of_rel h.branches]
  have honeOf := h.choice "oneOf" (by decide)
  have hanyOf := h.choice "anyOf" (by decide)
  simp only [kind_eq, href, hallOf, honeOf, hanyOf, hlength, h.isObject, hprimitive, h.members]

/-- Both compose nothing, or neither does. -/
theorem allOf_eq_none (h : NodeAgreement T node other) (hallOf : node.get? "allOf" = none) :
    other.get? "allOf" = none := by
  have hsome := isSome_eq_of_rel h.branches
  rw [hallOf] at hsome
  exact Option.isNone_iff_eq_none.mp (Option.isSome_eq_false_iff.mp hsome.symm)

/-- They compose related branches. -/
theorem exists_allOf (h : NodeAgreement T node other) {branches : Value}
    (hallOf : node.get? "allOf" = some branches) :
    ∃ others, other.get? "allOf" = some others ∧ ListPair T branches others := by
  have hbranches := h.branches
  rw [hallOf] at hbranches
  generalize other.get? "allOf" = found at hbranches ⊢
  cases hbranches with
  | some hpair => exact ⟨_, rfl, hpair⟩

/-- They require the same names. -/
theorem broughtRequired (h : NodeAgreement T node other) :
    broughtRequired node = broughtRequired other := by
  unfold Schema.broughtRequired
  rw [h.get? "required" (by decide)]

/-- They bring the same properties into a merge, with related schemas. -/
theorem broughtProperties (hrefl : ∀ c, T c c) (h : NodeAgreement T node other) :
    Except.Relates (EntriesPair T) (broughtProperties node) (broughtProperties other) := by
  have hproperties := h.properties
  unfold Schema.broughtProperties
  generalize node.get? "properties" = v?, other.get? "properties" = w? at hproperties ⊢
  cases hproperties with
  | none => exact .refl _ fun es _ => EntriesPair.refl hrefl es
  | some hvw =>
    cases hvw with
    | refl v => exact .refl _ fun es _ => EntriesPair.refl hrefl es
    | @map es fs hforall =>
      cases hforall with
      | nil => exact .refl _ fun es _ => EntriesPair.refl hrefl es
      | cons hhead htail => exact .ok (.cons hhead htail)

theorem declaredProperties (hrefl : ∀ c, T c c) (h : NodeAgreement T node other) :
    EntriesPair T (declaredProperties node) (declaredProperties other) := by
  have hproperties := h.properties
  unfold Schema.declaredProperties
  generalize node.get? "properties" = v?, other.get? "properties" = w? at hproperties ⊢
  cases hproperties with
  | none => exact .nil
  | some hvw =>
    cases hvw with
    | refl v => exact EntriesPair.refl hrefl _
    | map hforall => exact hforall

/-- **Validators are made alike from nodes that agree.** -/
theorem nodeReading (hrefl : ∀ c, T c c) (h : NodeAgreement T node other) :
    NodeReading T node other where
  kind := h.kind
  isNullable := h.isNullable
  members := h.members
  required := by
    unfold requiredKeys
    rw [h.get? "required" (by decide)]
  properties := h.declaredProperties hrefl
  items := rel_getD hrefl h.items
  extra := rel_getD hrefl h.extra

end NodeAgreement

/-! ### Merges -/

theorem entriesPair_insert {T : Value → Value → Prop} {es fs : Entries} (h : EntriesPair T es fs)
    (key : Scalar) {v w : Value} (hvw : T v w) :
    EntriesPair T (es.insert key v) (fs.insert key w) := by
  have hany : es.any (fun e => e.1.alike key) = fs.any fun e => e.1.alike key := by
    induction h with
    | nil => rfl
    | cons hef _ ih => rw [List.any_cons, List.any_cons, hef.1, ih]
  unfold Entries.insert Scalar.putIn
  rw [hany]
  split
  · refine List.rel_map (fun e f hef => ?_) h
    rw [hef.1]
    split
    · exact ⟨rfl, hvw⟩
    · exact hef
  · exact List.rel_append h (.cons ⟨rfl, hvw⟩ .nil)

theorem entriesPair_merge {T : Value → Value → Prop} {es fs es' fs' : Entries}
    (h : EntriesPair T es fs) (h' : EntriesPair T es' fs') :
    EntriesPair T (es.merge es') (fs.merge fs') := by
  unfold Entries.merge
  induction h' generalizing es fs with
  | nil => exact h
  | @cons e f _ _ hef _ ih =>
    rw [List.foldl_cons, List.foldl_cons, hef.1]
    exact ih (entriesPair_insert h f.1 hef.2)

/-- Two merges that agree. -/
structure MergePair (T : Value → Value → Prop) (merge other : Merge) : Prop where
  /-- They have the same properties, with related schemas. -/
  properties : EntriesPair T merge.properties other.properties
  /-- They have the same required names. -/
  required : merge.required = other.required
  /-- They have followed the same references. -/
  visited : merge.visited = other.visited

namespace MergePair

variable {T : Value → Value → Prop} {merge other : Merge}

/-- One branch keeps two merges in agreement. -/
theorem add (hrefl : ∀ c, T c c) (h : MergePair T merge other) {r s : Resolution}
    (hnode : NodeAgreement T r.node s.node) (hvisited : r.visited = s.visited) :
    Except.Relates (MergePair T) (merge.add r) (other.add s) := by
  refine (hnode.broughtProperties hrefl).bind fun properties properties' _ _ hproperties => ?_
  have hrequired : Except.Relates Eq (broughtRequired r.node) (broughtRequired s.node) :=
    hnode.broughtRequired ▸ .refl _ fun _ _ => rfl
  refine hrequired.bind fun required required' _ _ heq => .ok ⟨?_, ?_, ?_⟩
  · exact entriesPair_merge h.properties hproperties
  · exact congrArg₂ _ h.required heq
  · exact congrArg₂ _ h.visited hvisited

/-- The nodes of such merges have the same at every key, but for their properties. -/
theorem get?_node (h : MergePair T merge other) {name : String} (hname : name ≠ "properties") :
    other.node.get? name = merge.node.get? name := by
  rw [merge.get?_node, other.get?_node, h.required, if_neg hname, if_neg hname]

/-- The nodes of such merges agree. -/
theorem agreement (h : MergePair T merge other) : NodeAgreement T merge.node other.node where
  get? := fun name hname => h.get?_node fun heq => absurd (heq ▸ hname) (by decide)
  choice := by
    intro name hname
    rw [hasKey_text, hasKey_text, h.get?_node fun heq => absurd (heq ▸ hname) (by decide)]
  types := by
    unfold declaredTypes
    rw [h.get?_node (by decide)]
    exact .inl rfl
  isNullable := by
    unfold Schema.isNullable declaredTypes
    rw [h.get?_node (by decide), h.get?_node (by decide)]
  properties := by
    rw [merge.get?_node, other.get?_node]
    exact .some (.map h.properties)
  items := by
    rw [merge.get?_node, other.get?_node]
    exact .none
  extra := by
    rw [merge.get?_node, other.get?_node]
    exact .none
  branches := by
    rw [merge.get?_node, other.get?_node]
    exact .none

end MergePair

/-! ### Two runs side by side -/

/-- A relation of schemas that comes down to a relation of nodes that agree. -/
structure Companion (T : Value → Value → Prop) (N : Entries → Entries → Prop) : Prop where
  /-- Each schema is related to itself. -/
  refl : ∀ c, T c c
  /-- What is no map is the same. -/
  other : ∀ {c d}, T c d → (∀ es, c.bare ≠ .map es) → c = d
  /-- Where one is a node, the other one is a related node. -/
  node : ∀ {c d es}, T c d → c.bare = .map es → ∃ fs, d.bare = .map fs ∧ N es fs
  /-- Related nodes agree. -/
  agreement : ∀ {es fs}, N es fs → NodeAgreement T es fs
  /-- The empty node is related to itself. -/
  empty : N [] []
  /-- The nodes of merges that agree are related. -/
  merge : ∀ {merge other : Merge}, MergePair T merge other → N merge.node other.node

namespace Companion

variable {T : Value → Value → Prop} {N : Entries → Entries → Prop}

theorem keepsMaps (h : Companion T N) : KeepsMaps T where
  map := by
    intro c d es hcd hbare
    obtain ⟨fs, hfs, -⟩ := h.node hcd hbare
    exact ⟨fs, hfs⟩
  other := h.other

end Companion

section

variable {T : Value → Value → Prop} {N : Entries → Entries → Prop}
variable {document other schema schema' : Value} {room : Nat} {visited : List String}

/-- **Two runs over related schemas give related nodes**, or fail alike, where the references that
are followed lead to related schemas. -/
theorem resolveWithin_of_companion (hN : Companion T N) (h : T schema schema')
    (hrefs : ∀ name, .follows name ∈ resolutionTrace document room schema visited →
      Except.Relates T (Pointer.resolveValue document (.text name))
        (Pointer.resolveValue other (.text name))) :
    Except.Relates (fun r s => N r.node s.node ∧ r.visited = s.visited)
      (resolveWithin document room schema visited) (resolveWithin other room schema' visited) := by
  -- The form of the one schema decides on each step, because the node of the other one agrees.
  induction room generalizing schema schema' visited with
  | zero => exact .ok ⟨hN.empty, rfl⟩
  | succ room ih =>
    cases form schema with
    | noNode hbare =>
      obtain rfl := hN.other h hbare
      rw [resolveWithin_noNode hbare, resolveWithin_noNode hbare]
      exact .ok ⟨hN.empty, rfl⟩
    | itself node hbare href hallOf =>
      obtain ⟨node', hbare', hnode⟩ := hN.node h hbare
      have hagree := hN.agreement hnode
      rw [resolveWithin_itself hbare href hallOf,
        resolveWithin_itself hbare' (hagree.refOf.trans href) (hagree.allOf_eq_none hallOf)]
      exact .ok ⟨hnode, rfl⟩
    | unreadable node hbare hnull htext =>
      obtain ⟨node', hbare', hnode⟩ := hN.node h hbare
      obtain ⟨e, he⟩ := resolveWithin_unreadable hnull htext
      rw [he document schema node hbare rfl, he other schema' node' hbare' (hN.agreement hnode).refOf]
      exact .error e
    | composed node hbare href branches hallOf =>
      obtain ⟨node', hbare', hnode⟩ := hN.node h hbare
      have hagree := hN.agreement hnode
      obtain ⟨branches', hallOf', hbranches⟩ := hagree.exists_allOf hallOf
      rw [resolveWithin_composed hbare href hallOf,
        resolveWithin_composed hbare' (hagree.refOf.trans href) hallOf']
      refine (hbranches.elements hN.refl).bind fun items items' hitems _ hforall => ?_
      rw [resolutionTrace_composed hbare href hallOf hitems] at hrefs
      -- The merges agree from branch to branch, up to the first one that cannot be resolved.
      have hmerge : Except.Relates (MergePair T)
          (mergeAll (fun branch => resolveWithin document room branch visited) visited items)
          (mergeAll (fun branch => resolveWithin other room branch visited) visited items') := by
        refine Except.Relates.foldlM (P := fun branch =>
          ∀ name, .follows name ∈ resolutionTrace document room branch visited → _)
          (Q := fun _ => True) hforall ?_ (fun branch hbranch name hname => hrefs name
            (List.mem_flatMap.mpr ⟨branch, hbranch, hname⟩)) (fun _ _ => trivial) ⟨.nil, rfl, rfl⟩
        intro merge merge' branch branch' hrefs _ hbranch hsame
        exact (ih hbranch hrefs).bind fun r s _ _ hrs =>
          hsame.add hN.refl (hN.agreement hrs.1) hrs.2
      exact hmerge.bind fun merge merge' _ _ hsame => .ok ⟨hN.merge hsame, hsame.visited⟩
    | reference node hbare name href =>
      obtain ⟨node', hbare', hnode⟩ := hN.node h hbare
      rw [resolveWithin_reference hbare href,
        resolveWithin_reference hbare' ((hN.agreement hnode).refOf.trans href)]
      split
      · exact .ok ⟨hN.empty, rfl⟩
      · next hfresh =>
        have hname : .follows name ∈ resolutionTrace document (room + 1) schema visited :=
          follows_mem_resolutionTrace hbare href hfresh
        refine (hrefs name hname).bind fun target target' htarget _ hpair => ih hpair ?_
        rw [resolutionTrace_followed hbare href hfresh htarget] at hrefs
        exact fun ref href => hrefs ref (List.mem_cons_of_mem _ href)

end

end Schema

end ApiTools
