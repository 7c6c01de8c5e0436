import ApiTools.Proofs.Schema.Form
import ApiTools.Proofs.Schema.Reading

/-!
# Cutting more

The same node, resolved with less room or after more references, is cut in more places.  It may be
cut as a whole, or stay as it is.  A composition is cut branch by branch: it stays a node of its
own, with no property and no required name that it did not have before.

## Main definitions

* `Schema.Merge.Within` — a merge that may have lost branches, beside the whole one.
* `Schema.ResolvePair` — how two resolutions of a node compare.
* `Schema.Uncomposed` — no node in a value composes others.

## Main results

* `Schema.Merge.Within.add` — one step: a merge that may have lost branches stays so.
* `Schema.resolveWithin_pair` — **cutting more empties a node, or leaves it, or takes branches from
  its composition.**
* `Schema.uncomposed_resolveWithin` — without compositions, resolution finds none.
-/

namespace ApiTools

namespace Schema

variable {document schema : Value} {mode : Mode} {room room' : Nat} {visited visited' : List String}
variable {r r' : Resolution}

/-! ### The node of a merge -/

namespace Merge

theorem node_ne_nil (merge : Merge) : merge.node ≠ [] := by simp [node]

theorem broughtProperties_node (merge : Merge) :
    broughtProperties merge.node = .ok merge.properties := by
  unfold broughtProperties
  rw [get?_node, if_neg (by simp), if_pos rfl, Option.getD_some, Value.orElse]
  split
  · rfl
  · next h =>
    have : merge.properties = [] := by simpa [Value.isTruthy] using h
    rw [this]
    rfl

theorem broughtRequired_node (merge : Merge) :
    broughtRequired merge.node = .ok merge.required := by
  unfold broughtRequired
  by_cases h : merge.required = []
  · rw [get?_node, if_neg (by simp), if_neg (by simp), if_neg (by simp [h]), h]
    rfl
  · have htruthy : (Value.list merge.required).isTruthy = true := by simpa [Value.isTruthy] using h
    rw [get?_node, if_neg (by simp), if_neg (by simp), if_pos ⟨rfl, h⟩, Option.getD_some,
      Value.orElse, if_pos htruthy]
    rfl

/-- The only type of the node of a merge is that of maps. -/
theorem declaredTypes_node (merge : Merge) : declaredTypes merge.node = (["object"], false) := by
  unfold declaredTypes
  rw [get?_node, if_pos rfl]
  rfl

@[simp] theorem declaredProperties_node (merge : Merge) :
    declaredProperties merge.node = merge.properties := by
  unfold declaredProperties
  rw [get?_node, if_neg (by simp), if_pos rfl]
  rfl

@[simp] theorem isNullable_node (merge : Merge) : isNullable merge.node = false := by
  unfold isNullable
  rw [declaredTypes_node, get?_node]
  simp

theorem documentation_node (merge : Merge) : documentation merge.node = .ok none := by
  unfold documentation
  rw [merge.get?_node "description", merge.get?_node "example"]
  simp
  rfl

@[simp] theorem extraSchema_node (merge : Merge) : extraSchema merge.node = .null := by
  unfold extraSchema
  rw [get?_node]
  simp

theorem isObject_node (merge : Merge) : isObject merge.node = true := by
  unfold isObject
  rw [declaredTypes_node]
  rfl

@[simp] theorem kind_node (merge : Merge) : kind merge.node = .object := by
  rw [kind_eq_object_iff merge.isObject_node]
  intro name hname
  have hother : name ≠ "type" ∧ name ≠ "properties" ∧ name ≠ "required" := by
    simp only [overridingKeys, List.mem_cons, List.not_mem_nil, or_false] at hname
    rcases hname with rfl | rfl | rfl | rfl <;> simp
  rw [Entries.hasKey_eq_isSome_find?, ← Entries.get?, get?_node, if_neg hother.1,
    if_neg hother.2.1, if_neg fun h => hother.2.2 h.1]
  rfl

/-- A merge that has lost branches, beside the whole one. -/
structure Within (part whole : Merge) : Prop where
  /-- No property is new. -/
  properties : ∀ key, part.properties.hasKey key = true → whole.properties.hasKey key = true
  /-- No required name is new. -/
  required : part.required ⊆ whole.required

/-- What a merge that has lost branches requires, the whole one requires. -/
theorem Within.requires {part whole : Merge} (h : part.Within whole) {names : List Scalar}
    (hnames : requiredKeys whole.node = .ok names) {name : Scalar}
    (hrequires : Requires part.node name) : Requires whole.node name := by
  obtain ⟨few, hfew, hname⟩ := hrequires
  refine ⟨names, hnames, ?_⟩
  -- The scalars among the required names are the names.
  have hscalars : ∀ (merge : Merge) (keys : List Scalar), requiredKeys merge.node = .ok keys →
      keys = merge.required.filterMap Value.scalar? := by
    intro merge keys hkeys
    obtain ⟨values, hvalues, hkeys⟩ := Except.bind_eq_ok_iff.mp hkeys
    obtain rfl := Except.ok.inj ((broughtRequired_node merge).symm.trans hvalues)
    unfold Value.members at hkeys
    split at hkeys
    · exact (Except.ok.inj hkeys).symm
    · cases hkeys
  rw [hscalars part few hfew] at hname
  rw [hscalars whole names hnames]
  obtain ⟨key, hkey, halike⟩ := List.any_eq_true.mp hname
  obtain ⟨v, hv, hscalar⟩ := List.mem_filterMap.mp hkey
  exact List.any_eq_true.mpr ⟨key, List.mem_filterMap.mpr ⟨v, h.required hv, hscalar⟩, halike⟩

end Merge

/-! ### Values without compositions -/

/-- No node in a value composes others. -/
def Uncomposed (v : Value) : Prop := ∀ node, v.Holds (.map node) → Entries.get? node "allOf" = none

theorem Uncomposed.of_holds {v w : Value} (h : Uncomposed v) (hw : v.Holds w) : Uncomposed w :=
  fun node hnode => h node (hw.trans hnode)

theorem uncomposed_nil : Uncomposed (.map []) := by
  intro node hnode
  cases Value.eq_of_holds_nil hnode
  rfl

/-- **Without compositions, resolution finds none.** -/
theorem uncomposed_resolveWithin (hdocument : Uncomposed document) (hschema : Uncomposed schema)
    (h : resolveWithin document room schema visited = .ok r) : Uncomposed (.map r.node) := by
  induction room generalizing schema visited r with
  | zero =>
    cases h
    exact uncomposed_nil
  | succ room ih =>
    cases resolveWithin_succ h with
    | noNode _ hr | cut _ _ _ _ _ hr =>
      rw [hr]
      exact uncomposed_nil
    | itself node hbare _ _ hr =>
      rw [hr, ← hbare]
      exact hschema.of_holds (Value.holds_bare schema)
    | composed node hbare _ branches hallOf =>
      -- The schema would hold a composition, namely itself.
      have hnone := hschema node (hbare ▸ Value.holds_bare schema)
      cases hnone.symm.trans hallOf
    | followed node _ name _ _ target htarget hr =>
      exact ih (hdocument.of_holds (Pointer.holds_resolveValue htarget)) hr

/-! ### Two resolutions of a node -/

/-- How the resolutions of a node compare, the second one with less room or more references. -/
inductive ResolvePair (document schema : Value) (r r' : Resolution) : Prop where
  /-- The node is cut. -/
  | cut (hnil : r'.node = [])
  /-- The node is the same. -/
  | same (hnode : r'.node = r.node) (hvisited : r.visited ⊆ r'.visited)
  /-- The node is a composition that may have lost branches. -/
  | composed (whole part : Merge) (hwhole : r.node = whole.node) (hpart : r'.node = part.node)
    (hwithin : part.Within whole) (hcomposed : ¬ (Uncomposed document ∧ Uncomposed schema))

/-- Of two branches that compare, the second one brings nothing new into a merge. -/
theorem ResolvePair.brings (h : ResolvePair document schema r r') {ps ps' : Entries}
    {ns ns' : List Value} (hps : broughtProperties r.node = .ok ps)
    (hps' : broughtProperties r'.node = .ok ps')
    (hns : broughtRequired r.node = .ok ns) (hns' : broughtRequired r'.node = .ok ns') :
    (∀ key, ps'.hasKey key = true → ps.hasKey key = true) ∧ ns' ⊆ ns := by
  cases h with
  | cut hnil =>
    rw [hnil] at hps' hns'
    cases hps'
    cases hns'
    exact ⟨nofun, nofun⟩
  | same hnode _ =>
    rw [hnode] at hps' hns'
    obtain rfl := Except.ok.inj (hps.symm.trans hps')
    obtain rfl := Except.ok.inj (hns.symm.trans hns')
    exact ⟨fun _ => id, List.Subset.refl _⟩
  | composed whole part hwhole hpart hwithin _ =>
    rw [hwhole, Merge.broughtProperties_node] at hps
    rw [hpart, Merge.broughtProperties_node] at hps'
    rw [hwhole, Merge.broughtRequired_node] at hns
    rw [hpart, Merge.broughtRequired_node] at hns'
    cases hps
    cases hps'
    cases hns
    cases hns'
    exact ⟨hwithin.properties, hwithin.required⟩

/-- A merge that has lost branches stays so when it adds a branch that compares. -/
theorem Merge.Within.add {part whole part' whole' : Merge} (h : part.Within whole)
    (hpair : ResolvePair document schema r r') (hwhole : whole.add r = .ok whole')
    (hpart : part.add r' = .ok part') : part'.Within whole' := by
  obtain ⟨ps, ns, hps, hns, rfl⟩ := Merge.add_eq_ok_iff.mp hwhole
  obtain ⟨ps', ns', hps', hns', rfl⟩ := Merge.add_eq_ok_iff.mp hpart
  obtain ⟨hproperties, hrequired⟩ := hpair.brings hps hps' hns hns'
  refine ⟨fun key hkey => ?_, ?_⟩
  · rw [Entries.hasKey_merge, Bool.or_eq_true] at hkey ⊢
    exact hkey.imp (h.properties key) (hproperties key)
  · exact List.append_subset.mpr ⟨List.subset_append_of_subset_left _ h.required,
      List.subset_append_of_subset_right _ hrequired⟩

/-- **With less room and more references, a node is cut, stays, or loses branches.** -/
theorem resolveWithin_pair (hroom : room' ≤ room) (hvisited : visited ⊆ visited')
    (hr : resolveWithin document room schema visited = .ok r)
    (hr' : resolveWithin document room' schema visited' = .ok r') :
    ResolvePair document schema r r' := by
  induction room generalizing room' schema visited visited' r r' with
  | zero =>
    obtain rfl := Nat.le_zero.mp hroom
    cases hr'
    exact .cut rfl
  | succ room ih =>
    cases room' with
    | zero =>
      cases hr'
      exact .cut rfl
    | succ room' =>
      have hroom := Nat.le_of_succ_le_succ hroom
      cases form schema with
      | noNode hbare =>
        rw [resolveWithin_noNode hbare] at hr'
        cases hr'
        exact .cut rfl
      | itself node hbare href hallOf =>
        rw [resolveWithin_itself hbare href hallOf] at hr hr'
        cases hr
        cases hr'
        exact .same rfl hvisited
      | unreadable node hbare hnull htext =>
        obtain ⟨e, he⟩ := resolveWithin_unreadable hnull htext
        rw [he document schema node hbare rfl] at hr
        cases hr
      | composed node hbare href branches hallOf =>
        rw [resolveWithin_composed hbare href hallOf] at hr hr'
        obtain ⟨items, hitems, hr⟩ := Except.bind_eq_ok_iff.mp hr
        obtain ⟨items₂, hitems₂, hr'⟩ := Except.bind_eq_ok_iff.mp hr'
        obtain rfl := Except.ok.inj (hitems.symm.trans hitems₂)
        obtain ⟨whole, hwhole, rfl⟩ := Except.bind_pure_eq_ok_iff.mp hr
        obtain ⟨part, hpart, rfl⟩ := Except.bind_pure_eq_ok_iff.mp hr'
        have hcomposed : ¬ (Uncomposed document ∧ Uncomposed schema) := fun ⟨_, hnone⟩ => by
          cases (hnone node (hbare ▸ Value.holds_bare schema)).symm.trans hallOf
        refine .composed whole part rfl rfl ?_ hcomposed
        -- Branch by branch, the second merge stays within the first one.
        refine Except.foldlM_relates (R := fun whole part => part.Within whole) ?_
          ⟨fun _ => id, List.Subset.refl _⟩ hwhole hpart
        intro whole part item hitem whole' part' hwithin hwhole hpart
        obtain ⟨branch, hbranch, hwhole⟩ := Except.bind_eq_ok_iff.mp hwhole
        obtain ⟨branch', hbranch', hpart⟩ := Except.bind_eq_ok_iff.mp hpart
        exact hwithin.add (ih hroom hvisited hbranch hbranch') hwhole hpart
      | reference node hbare name href =>
        rw [resolveWithin_reference hbare href] at hr hr'
        by_cases hname' : name ∈ visited'
        · rw [if_pos hname'] at hr'
          cases hr'
          exact .cut rfl
        · -- What is cut for a reference stays cut when more references were followed.
          rw [if_neg fun hname => hname' (hvisited hname)] at hr
          rw [if_neg hname'] at hr'
          obtain ⟨target, htarget, hr⟩ := Except.bind_eq_ok_iff.mp hr
          obtain ⟨target₂, htarget₂, hr'⟩ := Except.bind_eq_ok_iff.mp hr'
          obtain rfl := Except.ok.inj (htarget.symm.trans htarget₂)
          have hvisited : visit visited name ⊆ visit visited' name := fun seen hseen => by
            rw [mem_visit] at hseen ⊢
            exact hseen.imp_left fun h => hvisited h
          cases ih hroom hvisited hr hr' with
          | cut hnil => exact .cut hnil
          | same hnode hvisited => exact .same hnode hvisited
          | composed whole part hwhole hpart hwithin hcomposed =>
            refine .composed whole part hwhole hpart hwithin fun ⟨hdocument, _⟩ => hcomposed ?_
            exact ⟨hdocument, hdocument.of_holds (Pointer.holds_resolveValue htarget)⟩

end Schema

end ApiTools
