import ApiTools.Proofs.Schema.Composition
import ApiTools.Proofs.Validator.Tree

/-!
# Keys beside a composition

A node that composes others is resolved to the merge of its branches.  Whatever else stands in the
node is not read: properties, required names, nullability and documentation beside the branches are
lost, and with them nothing that a branch declares.

## Main definitions

* `Schema.Declares`, `Schema.Lists` — a node brings a property, or a required name, into a merge.
* `Schema.SomeBranch` — some branch of a composition is resolved to a node as described.

## Main results

* `Schema.compile_composition` — **a composition is compiled from its branches alone**, and each
  property and each required name of a branch is kept.
* `Schema.beside_is_lost` — what stands beside the branches is lost.
-/

namespace ApiTools

namespace Schema

variable {document schema : Value} {mode : Mode} {depth : Int} {visited : List String}
variable {node : Entries} {items : List Value} {v : Validator}

/-- A node brings a property with a name into a merge. -/
def Declares (node : Entries) (name : Scalar) : Prop :=
  ∃ properties, broughtProperties node = .ok properties ∧ properties.hasKey name = true

/-- A node brings a required name into a merge. -/
def Lists (node : Entries) (name : Scalar) : Prop :=
  ∃ required, broughtRequired node = .ok required ∧
    ∃ key, .scalar key ∈ required ∧ key.alike name = true

/-- Some branch of a composition at a depth is resolved to a node as described. -/
def SomeBranch (document : Value) (depth : Int) (visited : List String) (items : List Value)
    (P : Entries → Prop) : Prop :=
  ∃ branch ∈ items, ∃ r, resolve document branch visited (depth + 1) = .ok r ∧ P r.node

/-- The node of a merge is read as a map. -/
theorem Merge.bareValidator_node (merge : Merge) {compileChild : Value → Except Fault Validator} :
    bareValidator compileChild mode merge.node = objectValidator compileChild mode merge.node :=
  bareValidator_of_object merge.kind_node

/-- A node that is resolved to a merge is compiled as a map, and nothing is added. -/
theorem compileWithin_merge {room : Nat} {merge : Merge}
    (hr : resolveWithin document (room + 1) schema visited = .ok ⟨merge.node, merge.visited⟩) :
    compileWithin document mode (room + 1) schema visited =
      objectValidator (fun child => compileWithin document mode room child merge.visited) mode
        merge.node := by
  have hne : merge.node.isEmpty = false := by simpa using merge.node_ne_nil
  have hdescribed : ∀ v, described merge.node v = .ok v := fun v =>
    described_eq_ok_iff.mpr ⟨none, merge.documentation_node, rfl⟩
  have hnull : ∀ v, withNull merge.node v = v := fun v => by
    rw [withNull, merge.isNullable_node]
    rfl
  rw [compileWithin, hr, ← merge.bareValidator_node]
  simp only [bind, Except.bind, hne, hdescribed, hnull]
  cases bareValidator (fun child => compileWithin document mode room child merge.visited) mode
    merge.node <;> rfl

/-- **The validator of a composition**: a merge has a rule for each property that a part has, which
is required when a part lists it, and nothing is said of null. -/
theorem compile_merge {room : Nat} {merge : Merge}
    (hr : resolveWithin document (room + 1) schema visited = .ok ⟨merge.node, merge.visited⟩)
    (hv : compileWithin document mode (room + 1) schema visited = .ok v) :
    ∃ keys rules extras, requiredKeys merge.node = .ok keys ∧ v = .object .null rules extras ∧
      List.Forall₂ (fun p rule => ∃ w, rule = ruleFor mode keys p.1 w) merge.properties rules := by
  rw [compileWithin_merge hr] at hv
  obtain ⟨keys, rules, extras, hkeys, hrules, -, rfl⟩ := objectValidator_eq_ok_iff.mp hv
  rw [merge.declaredProperties_node] at hrules
  exact ⟨keys, rules, extras, hkeys, rfl, hrules.imp fun p rule ⟨w, _, hrule⟩ => ⟨w, hrule⟩⟩

section

variable {keys : List Scalar} {properties : Entries} {rules : List Rule} {name : Scalar}

/-- A rule is for a name that a property has. -/
theorem exists_declares_iff
    (h : List.Forall₂ (fun p rule => ∃ w, rule = ruleFor mode keys p.1 w) properties rules) :
    (∃ rule ∈ rules, rule.declares name = true) ↔ properties.hasKey name = true := by
  rw [Entries.hasKey_iff]
  constructor
  · rintro ⟨rule, hrule, hname⟩
    obtain ⟨p, hp, w, rfl⟩ := List.exists_of_mem_forall₂ h.flip hrule
    exact ⟨p, hp, hname⟩
  · rintro ⟨p, hp, hname⟩
    obtain ⟨rule, hrule, w, rfl⟩ := List.exists_of_mem_forall₂ h hp
    exact ⟨_, hrule, hname⟩

/-- A rule for a name requires it when it is listed. -/
theorem isRequired_iff_of_declares
    (h : List.Forall₂ (fun p rule => ∃ w, rule = ruleFor mode keys p.1 w) properties rules)
    {rule : Rule} (hrule : rule ∈ rules) (hname : rule.declares name = true) :
    rule.isRequired = true ↔ ∃ key ∈ keys, key.alike name = true := by
  obtain ⟨p, -, w, rfl⟩ := List.exists_of_mem_forall₂ h.flip hrule
  have halike : p.1.alike name = true := hname
  rw [isRequired_ruleFor, List.any_eq_true]
  simp only [Scalar.alike_congr halike]

end

/-- The names that are read as required are the scalars that are listed. -/
theorem mem_requiredKeys_node {merge : Merge} {keys : List Scalar}
    (h : requiredKeys merge.node = .ok keys) {key : Scalar} :
    key ∈ keys ↔ .scalar key ∈ merge.required := by
  obtain ⟨values, hvalues, h⟩ := Except.bind_eq_ok_iff.mp h
  obtain rfl := Except.ok.inj (merge.broughtRequired_node.symm.trans hvalues)
  unfold Value.members at h
  split at h
  · obtain rfl := Except.ok.inj h
    rw [List.mem_filterMap]
    constructor
    · rintro ⟨v, hv, hscalar⟩
      cases v with
      | scalar s =>
        cases hscalar
        exact hv
      | list | map | group | knot => cases hscalar
    · exact fun hv => ⟨_, hv, rfl⟩
  · cases h

/-- Some branch is resolved as described when some part of the merge comes from such a node. -/
theorem someBranch_iff {parts : List Merge} {P : Entries → Prop} {Q : Merge → Prop}
    (h : List.Forall₂ (fun branch part => ∃ r,
      resolve document branch visited (depth + 1) = .ok r ∧ r.brings = .ok part) items parts)
    (hPQ : ∀ (r : Resolution) part, r.brings = .ok part → (P r.node ↔ Q part)) :
    SomeBranch document depth visited items P ↔ ∃ part ∈ parts, Q part := by
  constructor
  · rintro ⟨branch, hbranch, r, hr, hP⟩
    obtain ⟨part, hpart, r', hr', hbrings⟩ := List.exists_of_mem_forall₂ h hbranch
    cases hr.symm.trans hr'
    exact ⟨part, hpart, (hPQ r part hbrings).mp hP⟩
  · rintro ⟨part, hpart, hQ⟩
    obtain ⟨branch, hbranch, r, hr, hbrings⟩ := List.exists_of_mem_forall₂ h.flip hpart
    exact ⟨branch, hbranch, r, hr, (hPQ r part hbrings).mpr hQ⟩

theorem declares_iff_of_brings {r : Resolution} {part : Merge} (h : r.brings = .ok part)
    (name : Scalar) : Declares r.node name ↔ part.properties.hasKey name = true := by
  simp [Declares, (brings_eq_ok_iff.mp h).1]

theorem lists_iff_of_brings {r : Resolution} {part : Merge} (h : r.brings = .ok part)
    (name : Scalar) :
    Lists r.node name ↔ ∃ key, .scalar key ∈ part.required ∧ key.alike name = true := by
  simp [Lists, (brings_eq_ok_iff.mp h).2.1]

/-- **A composition is compiled from its branches alone.**  The validator of a node with branches
has a rule for a name exactly when some branch is resolved to a node that declares it, and the rule
requires it exactly when some branch is resolved to a node that lists it.  It refuses null, and it is
that of the branches with nothing beside them. -/
theorem compile_composition (hbare : schema.bare = .map node) (href : node.get? "$ref" = none)
    (hallOf : node.get? "allOf" = some (.list items)) (hdepth : depth ≤ maxDepth)
    (hv : compile document schema mode depth visited = .ok v) :
    (∃ rules extras, v = .object .null rules extras ∧ ∀ name,
      ((∃ rule ∈ rules, rule.declares name = true) ↔
        SomeBranch document depth visited items fun branch => Declares branch name) ∧
      ∀ rule ∈ rules, rule.declares name = true → (rule.isRequired = true ↔
        SomeBranch document depth visited items fun branch => Lists branch name)) ∧
    v.isValid .null = false ∧
    compile document (composition items) mode depth visited = .ok v := by
  obtain ⟨left, hroom, hleft⟩ : ∃ left, Schema.room depth = left + 1 ∧
      Schema.room (depth + 1) = left :=
    ⟨_, by unfold Schema.room; omega, rfl⟩
  have hnull : refOf node = .null := by
    unfold refOf
    rw [href]
    rfl
  have hitems : ((Value.list items).orElse (.list [])).elements = .ok items := by
    cases items <;> rfl
  have hends : EndsIn document (left + 1) schema visited left items visited :=
    .composed node hbare hnull _ hallOf hitems
  have hresolve := resolveWithin_of_endsIn hends
  have halone := resolveWithin_of_endsIn (endsIn_composition document left items visited)
  unfold compile at hv ⊢
  rw [hroom] at hv ⊢
  -- The node is resolved, as it is compiled.
  obtain ⟨r, hr, -⟩ := Except.bind_eq_ok_iff.mp hv
  obtain ⟨merge, hmerge, hnode⟩ := Except.bind_eq_ok_iff.mp (hresolve.symm.trans hr)
  have hr := hr.trans hnode.symm
  obtain ⟨keys, rules, extras, hkeys, rfl, hrules⟩ := compile_merge hr hv
  obtain ⟨parts, hparts, hsum⟩ := mergeAll_eq_ok_iff.mp hmerge
  rw [← hleft] at hparts
  refine ⟨⟨rules, extras, rfl, fun name => ⟨?_, fun rule hrule hname => ?_⟩⟩, ?_, ?_⟩
  · rw [exists_declares_iff hrules, hsum, Merge.hasKey_foldl,
      someBranch_iff hparts fun r part h => declares_iff_of_brings h name]
    simp [Entries.hasKey]
  · rw [isRequired_iff_of_declares hrules hrule hname,
      someBranch_iff hparts fun r part h => lists_iff_of_brings h name]
    simp only [mem_requiredKeys_node hkeys, hsum, Merge.mem_required_foldl]
    simp only [List.not_mem_nil, false_or]
    constructor
    · rintro ⟨key, ⟨part, hpart, hkey⟩, halike⟩
      exact ⟨part, hpart, key, hkey, halike⟩
    · rintro ⟨part, hpart, key, hkey, halike⟩
      exact ⟨key, ⟨part, hpart, hkey⟩, halike⟩
  · rw [← Bool.not_eq_true]
    intro hnull
    obtain ⟨es, hes⟩ := Validator.exists_map_of_isValid_object hnull
    cases hes
  · rw [compileWithin, halone, ← hresolve, ← compileWithin]
    exact hv

/-- A composition of one branch, with a property beside it that is required, and nullable. -/
def nodeBeside (branch : Value) : Entries :=
  [(.text "allOf", .list [branch]), (.text "properties", .record [("name", .record [("type",
    .text "string")])]), (.text "required", .list [.text "name"]), (.text "nullable", .bool true)]

/-- The composition keeps the identifier that its branch declares and lists. -/
theorem compile_nodeBeside :
    compile (.map []) (.map (nodeBeside (.map (textHolder "id")))) .input 0 [] =
        .ok (.object .null [.mk (.text "id") (.string .null none) (.bool true) (.bool false)]
          (.reject none)) ∧
      compile (.map []) (composition [.map (textHolder "id")]) .input 0 [] =
        .ok (.object .null [.mk (.text "id") (.string .null none) (.bool true) (.bool false)]
          (.reject none)) ∧
      SomeBranch (.map []) 0 [] [.map (textHolder "id")] fun branch => Declares branch (.text "id") := by
  have hv : compile (.map []) (.map (nodeBeside (.map (textHolder "id")))) .input 0 [] =
      .ok (.object .null [.mk (.text "id") (.string .null none) (.bool true) (.bool false)]
        (.reject none)) := rfl
  obtain ⟨⟨rules, extras, heq, hrules⟩, -, halone⟩ :=
    compile_composition rfl rfl rfl (by decide) hv
  obtain ⟨-, rfl, -⟩ := Validator.object.inj heq
  exact ⟨hv, halone, (hrules (.text "id")).1.mp ⟨_, List.mem_cons_self, rfl⟩⟩

/-- **What stands beside the branches is lost**: the node declares a name, requires it and admits
null, but its validator refuses both. -/
theorem beside_is_lost :
    Declares (nodeBeside (.map [])) (.text "name") ∧ Lists (nodeBeside (.map [])) (.text "name") ∧
      isNullable (nodeBeside (.map [])) = true ∧
      ∃ v, compile (.map []) (.map (nodeBeside (.map []))) .input 0 [] = .ok v ∧
        v = .object .null [] (.reject none) ∧
        v.isValid (.record [("name", .text "a")]) = false ∧ v.isValid .null = false :=
  ⟨⟨_, rfl, rfl⟩, ⟨_, rfl, _, List.mem_cons_self, rfl⟩, rfl, _, rfl, rfl, by decide, by decide⟩

end Schema

end ApiTools
