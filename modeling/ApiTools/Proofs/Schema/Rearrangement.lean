import ApiTools.Proofs.Schema.Beside
import ApiTools.Proofs.Schema.Siblings
import ApiTools.Proofs.Validator.Order

/-!
# Branches in another order

The branches of a composition are merged one after the other: a later one overrules the properties of
an earlier one, required names are listed with their repetitions, and the references followed are
joined.  Where branches that share a property give it one schema, the merge has the same at every name
whatever the order is, and required names and references count as sets.  So the branches may be
rearranged, and repeated.

## Main definitions

* `Schema.Composes` — a node composes branches.
* `Schema.Gives` — a node gives a name a schema in a merge.
* `Schema.Compatible` — branches that share a name give it one schema.
* `Schema.Merge.Rearranges` — two merges have the same, in another order.

## Main results

* `Schema.Merge.rearranges` — compatible parts add up to the same in any order.
* `Schema.exists_compile_merge_iff` — when a merge is compiled.
* `Schema.compile_rearranged` — **the order of compatible branches does not matter, and neither do
  repetitions.**
-/

namespace ApiTools

namespace Schema

variable {document schema other : Value} {mode : Mode} {depth : Int} {room : Nat}
variable {visited : List String} {node : Entries} {items others : List Value}

/-! ### Compositions -/

/-- A node names no other one, and composes branches. -/
def Composes (schema : Value) (items : List Value) : Prop :=
  ∃ (node : Entries) (branches : Value), schema.bare = .map node ∧ refOf node = .null ∧
    node.get? "allOf" = some branches ∧ (branches.orElse (.list [])).elements = .ok items

/-- A node gives a name a schema in a merge; of several schemas that it has for the name, the last
one. -/
def Gives (node : Entries) (name : Scalar) (schema : Value) : Prop :=
  ∃ properties, broughtProperties node = .ok properties ∧
    (Entries.merge [] properties).find? name = some schema

/-- The branches of a composition at a depth give one schema to each name that two of them share,
once they are resolved. -/
def Compatible (document : Value) (depth : Int) (visited : List String) (items : List Value) : Prop :=
  ∀ a ∈ items, ∀ b ∈ items, ∀ r s, resolve document a visited (depth + 1) = .ok r →
    resolve document b visited (depth + 1) = .ok s →
      ∀ name c d, Gives r.node name c → Gives s.node name d → c = d

theorem composes_composition (items : List Value) : Composes (composition items) items := by
  refine ⟨_, _, rfl, rfl, rfl, ?_⟩
  cases items <;> rfl

theorem Composes.resolveWithin (h : Composes schema items) :
    resolveWithin document (room + 1) schema visited =
      mergeAll (fun branch => Schema.resolveWithin document room branch visited) visited items >>=
        fun merge => .ok ⟨merge.node, merge.visited⟩ := by
  obtain ⟨node, branches, hbare, href, hallOf, hitems⟩ := h
  exact resolveWithin_of_endsIn (.composed node hbare href branches hallOf hitems)

/-! ### Parts in another order -/

namespace Merge

/-- What a part has at a name. -/
def part? (part : Merge) (name : Scalar) : Option Value := (Entries.merge [] part.properties).find? name

/-- Parts that share a name have the same there. -/
def Agree (parts : List Merge) : Prop :=
  ∀ p ∈ parts, ∀ q ∈ parts, ∀ name c d, p.part? name = some c → q.part? name = some d → c = d

/-- Two merges have the same, in another order: the same schema for every name, and the same required
names and references. -/
structure Rearranges (merge other : Merge) : Prop where
  /-- They have the same at every name. -/
  find? : ∀ name, merge.properties.find? name = other.properties.find? name
  /-- They require the same names. -/
  required : ∀ v, v ∈ merge.required ↔ v ∈ other.required
  /-- They have followed the same references. -/
  visited : ∀ name, name ∈ merge.visited ↔ name ∈ other.visited

/-- What parts that agree add up to has at a name what some part has there. -/
theorem find?_foldl_eq_some_iff {parts : List Merge} (h : Agree parts) {name : Scalar} {c : Value} :
    (parts.foldl plus ⟨[], [], visited⟩).properties.find? name = some c ↔
      ∃ part ∈ parts, part.part? name = some c := by
  induction parts using List.reverseRecOn with
  | nil => simp [Entries.find?]
  | append_singleton parts last ih =>
    have hparts : Agree parts := fun p hp q hq =>
      h p (List.mem_append_left _ hp) q (List.mem_append_left _ hq)
    have hlast : last ∈ parts ++ [last] := List.mem_append_right _ List.mem_cons_self
    rw [List.foldl_append, List.foldl_cons, List.foldl_nil, plus]
    simp only [List.mem_append, List.mem_singleton, or_and_right, exists_or, exists_eq_left]
    cases hkey : last.properties.hasKey name with
    | false =>
      have hnone : last.part? name = none := Entries.find?_merge_of_not_hasKey hkey []
      rw [Entries.find?_merge_of_not_hasKey hkey, ih hparts, hnone]
      simp
    | true =>
      -- The last part has the name, and overrules the others with what they have.
      have hsome : (last.part? name).isSome = true := by
        rw [part?, ← Entries.hasKey_eq_isSome_find?, Entries.hasKey_merge, hkey, Bool.or_true]
      obtain ⟨d, hd⟩ := Option.isSome_iff_exists.mp hsome
      rw [Entries.find?_merge_of_hasKey hkey]
      refine ⟨Or.inr, ?_⟩
      rintro (⟨part, hpart, hc⟩ | hc)
      · rw [h part (List.mem_append_left _ hpart) last hlast name c d hc hd]
        exact hd
      · exact hc

/-- **Compatible parts add up to the same in any order**, and repeated. -/
theorem rearranges {parts others : List Merge} (h : Agree parts)
    (hmem : ∀ part, part ∈ parts ↔ part ∈ others) :
    Rearranges (parts.foldl plus ⟨[], [], visited⟩) (others.foldl plus ⟨[], [], visited⟩) := by
  have hothers : Agree others := fun p hp q hq => h p ((hmem p).mpr hp) q ((hmem q).mpr hq)
  constructor
  · intro name
    ext c
    rw [find?_foldl_eq_some_iff h, find?_foldl_eq_some_iff hothers]
    simp only [hmem]
  · intro v
    rw [mem_required_foldl, mem_required_foldl]
    simp only [hmem]
  · intro name
    rw [mem_visited_foldl, mem_visited_foldl]
    simp only [hmem]

end Merge

/-! ### Merges as maps -/

section

variable {merge more : Merge} {compileChild : Value → Except Fault Validator} {v w : Validator}

/-- The required names of a merge are read when each of them can be a member of a set. -/
theorem exists_requiredKeys_iff :
    (∃ keys, requiredKeys merge.node = .ok keys) ↔ ∀ v ∈ merge.required, v.isMember = true := by
  have hread : requiredKeys merge.node = Value.members merge.required := by
    change broughtRequired merge.node >>= Value.members = _
    rw [merge.broughtRequired_node]
    rfl
  have hall : ∀ values : List Value,
      Value.areMembers values = true ↔ ∀ v ∈ values, v.isMember = true := fun values => by
    induction values with
    | nil => simp [Value.areMembers]
    | cons v values ih => rw [Value.areMembers, Bool.and_eq_true, ih, List.forall_mem_cons]
  rw [hread, ← hall, Value.members]
  split <;> simp_all

/-- The schemas in a merge are those of its properties. -/
theorem inner_node_iff {c : Value} : Inner mode merge.node c ↔ ∃ p ∈ merge.properties, p.2 = c := by
  constructor
  · intro h
    cases h with
    | property _ p hp => exact ⟨p, merge.declaredProperties_node ▸ hp, rfl⟩
    | extra _ _ es hbare =>
      rw [merge.extraSchema_node] at hbare
      cases hbare
    | item hkind => exact absurd (hkind.symm.trans merge.kind_node) (by simp)
  · rintro ⟨p, hp, rfl⟩
    exact .property merge.kind_node p (merge.declaredProperties_node.symm ▸ hp)

/-- A merge is compiled when its required names are read and each of its schemas is compiled. -/
theorem exists_compile_merge_iff :
    (∃ v, objectValidator compileChild mode merge.node = .ok v) ↔
      (∀ v ∈ merge.required, v.isMember = true) ∧
        ∀ p ∈ merge.properties, ∃ v, compileChild p.2 = .ok v := by
  rw [← merge.bareValidator_node, exists_bareValidator_iff, exists_requiredKeys_iff]
  simp only [merge.kind_node, true_imp_iff, inner_node_iff]
  exact and_congr_right fun _ =>
    ⟨fun h p hp => h p.2 ⟨p, hp, rfl⟩, fun h c ⟨p, hp, hc⟩ => hc ▸ h p hp⟩

/-- What a merge says of undeclared keys. -/
theorem extras_of_node {extras extras' : Extras}
    (h : ExtrasOf compileChild mode merge.node extras)
    (h' : ExtrasOf compileChild mode more.node extras') : extras = extras' := by
  have hpolicy : ∀ {merge : Merge} {extras : Extras}, ExtrasOf compileChild mode merge.node extras →
      extras = if mode = .output then .allow none else .reject none := by
    intro merge extras h
    cases h with
    | answer hmode hextras => rw [hextras, if_pos hmode]
    | free _ hbare => cases (merge.extraSchema_node ▸ hbare)
    | typed _ es hbare => cases (merge.extraSchema_node ▸ hbare)
    | refused hmode _ _ hextras => rw [hextras, if_neg (by simp [hmode])]
  rw [hpolicy h, hpolicy h']

/-- A name is required in either of two merges that have the same. -/
theorem Merge.Rearranges.ruleFor_same (h : merge.Rearranges more) {keys keys' : List Scalar}
    (hkeys : requiredKeys merge.node = .ok keys) (hkeys' : requiredKeys more.node = .ok keys')
    {k l : Scalar} (halike : k.alike l = true) (v : Validator) :
    (ruleFor mode keys k v).Same (ruleFor mode keys' l v) := by
  have hany : keys.any (·.alike k) = keys'.any (·.alike l) := by
    have hmem : ∀ key, key ∈ keys ↔ key ∈ keys' := fun key => by
      rw [mem_requiredKeys_node hkeys, mem_requiredKeys_node hkeys', h.required]
    rw [Bool.eq_iff_iff, List.any_eq_true, List.any_eq_true]
    simp only [hmem, Scalar.alike_congr halike]
  refine ⟨⟨k, l, rfl, rfl, halike⟩, rfl, ?_, ?_⟩
  · simp only [ruleFor, Rule.required, hany]
  · simp only [ruleFor, Rule.nullable, hany]

/-- **Merges that have the same are compiled to the same rules**, up to their order. -/
theorem Merge.Rearranges.objectValidator (h : merge.Rearranges more)
    (hmerge : Scalar.DistinctKeys merge.properties) (hmore : Scalar.DistinctKeys more.properties)
    (hv : Schema.objectValidator compileChild mode merge.node = .ok v) :
    ∃ rules others extras, v = .object .null rules extras ∧
      Schema.objectValidator compileChild mode more.node = .ok (.object .null others extras) ∧
      Rule.Distinct rules ∧ Rule.Distinct others ∧ Rule.SameUpToOrder rules others := by
  obtain ⟨gs, hperm, hmatch⟩ := Entries.exists_perm_of_find? hmerge hmore h.find?
  obtain ⟨w, hw⟩ : ∃ w, Schema.objectValidator compileChild mode more.node = .ok w := by
    obtain ⟨hrequired, hproperties⟩ := exists_compile_merge_iff.mp ⟨v, hv⟩
    refine exists_compile_merge_iff.mpr ⟨fun u hu => hrequired u ((h.required u).mpr hu), ?_⟩
    intro q hq
    obtain ⟨p, hp, -, hvalue⟩ := List.exists_of_mem_forall₂ hmatch.flip (hperm.mem_iff.mpr hq)
    exact hvalue ▸ hproperties p hp
  obtain ⟨keys, rules, extras, hkeys, hrules, hextras, rfl⟩ := objectValidator_eq_ok_iff.mp hv
  obtain ⟨keys', others, extras', hkeys', hothers, hextras', rfl⟩ := objectValidator_eq_ok_iff.mp hw
  obtain rfl := extras_of_node hextras hextras'
  have hdistinct : Rule.Distinct rules := by
    rw [Rule.Distinct, keys_of_forall₂ hrules, List.pairwise_map, merge.declaredProperties_node]
    exact hmerge
  have hdistinct' : Rule.Distinct others := by
    rw [Rule.Distinct, keys_of_forall₂ hothers, List.pairwise_map, more.declaredProperties_node]
    exact hmore
  refine ⟨rules, others, extras, rfl, hw, hdistinct, hdistinct', ?_⟩
  rw [merge.declaredProperties_node] at hrules
  rw [more.declaredProperties_node] at hothers
  -- The rules for the second merge are put in the order of the properties of the first one.
  obtain ⟨ordered, hordered, hperm'⟩ := List.perm_comp_forall₂ hperm hothers
  refine ⟨ordered, hperm', ?_⟩
  refine List.forall₂_of_forall₂ hmatch hrules hordered ?_
  rintro p q rule other ⟨halike, hvalue⟩ ⟨u, hu, rfl⟩ ⟨u', hu', rfl⟩
  obtain rfl : u = u' := Except.ok.inj (hu.symm.trans (hvalue ▸ hu'))
  exact h.ruleFor_same hkeys hkeys' halike u

end

/-! ### Compositions in another order -/

/-- The branches of a composition, and what they add up to, in another order. -/
theorem exists_mergeAll_rearranges {f : Value → Except Fault Resolution} {merge : Merge}
    (hagree : ∀ a ∈ items, ∀ b ∈ items, ∀ r s, f a = .ok r → f b = .ok s →
      ∀ name c d, Gives r.node name c → Gives s.node name d → c = d)
    (hmem : ∀ branch, branch ∈ items ↔ branch ∈ others)
    (hmerge : mergeAll f visited items = .ok merge) :
    ∃ more, mergeAll f visited others = .ok more ∧ merge.Rearranges more ∧
      Scalar.DistinctKeys merge.properties ∧ Scalar.DistinctKeys more.properties := by
  obtain ⟨parts, hparts, rfl⟩ := mergeAll_eq_ok_iff.mp hmerge
  obtain ⟨more, hmore⟩ : ∃ more, List.Forall₂ (fun branch part => ∃ r, f branch = .ok r ∧
      r.brings = .ok part) others more := by
    refine List.exists_forall₂ fun branch hbranch => ?_
    obtain ⟨part, -, hpart⟩ := List.exists_of_mem_forall₂ hparts ((hmem branch).mpr hbranch)
    exact ⟨part, hpart⟩
  -- A branch brings one part, so that both lists have the same parts.
  have hsame : ∀ {as bs : List Value} {ps qs : List Merge},
      (∀ b, b ∈ as → b ∈ bs) →
      List.Forall₂ (fun branch part => ∃ r, f branch = .ok r ∧ r.brings = .ok part) as ps →
      List.Forall₂ (fun branch part => ∃ r, f branch = .ok r ∧ r.brings = .ok part) bs qs →
        ∀ p ∈ ps, p ∈ qs := by
    intro as bs ps qs hsub hps hqs p hp
    obtain ⟨a, ha, r, hr, hbrings⟩ := List.exists_of_mem_forall₂ hps.flip hp
    obtain ⟨q, hq, r', hr', hbrings'⟩ := List.exists_of_mem_forall₂ hqs (hsub a ha)
    cases hr.symm.trans hr'
    cases hbrings.symm.trans hbrings'
    exact hq
  have hpart : ∀ p ∈ parts, ∃ a ∈ items, ∃ r, f a = .ok r ∧
      ∀ name c, p.part? name = some c → Gives r.node name c := by
    intro p hp
    obtain ⟨a, ha, r, hr, hbrings⟩ := List.exists_of_mem_forall₂ hparts.flip hp
    exact ⟨a, ha, r, hr, fun name c hc => ⟨p.properties, (brings_eq_ok_iff.mp hbrings).1, hc⟩⟩
  have hagree : Merge.Agree parts := by
    intro p hp q hq name c d hc hd
    obtain ⟨a, ha, r, hr, hgives⟩ := hpart p hp
    obtain ⟨b, hb, s, hs, hgives'⟩ := hpart q hq
    exact hagree a ha b hb r s hr hs name c d (hgives name c hc) (hgives' name d hd)
  refine ⟨_, mergeAll_eq_ok_iff.mpr ⟨more, hmore, rfl⟩, Merge.rearranges hagree fun p => ?_,
    Merge.distinctKeys_foldl Scalar.distinctKeys_nil,
    Merge.distinctKeys_foldl Scalar.distinctKeys_nil⟩
  exact ⟨hsame (fun b => (hmem b).mp) hparts hmore p, hsame (fun b => (hmem b).mpr) hmore hparts p⟩

/-- A composition that is compiled at a depth that is looked at is compiled to the same rules in
another order. -/
theorem exists_compile_rearranged (hschema : Composes schema items) (hother : Composes other others)
    (hmem : ∀ branch, branch ∈ items ↔ branch ∈ others)
    (hcompatible : Compatible document depth visited items) (hdepth : depth ≤ maxDepth)
    {v : Validator} (hv : compile document schema mode depth visited = .ok v) :
    ∃ rules more extras, v = .object .null rules extras ∧
      compile document other mode depth visited = .ok (.object .null more extras) ∧
      Rule.Distinct rules ∧ Rule.Distinct more ∧ Rule.SameUpToOrder rules more := by
  obtain ⟨left, hroom, hleft⟩ : ∃ left, Schema.room depth = left + 1 ∧
      Schema.room (depth + 1) = left :=
    ⟨_, by unfold Schema.room; omega, rfl⟩
  unfold Compatible resolve at hcompatible
  rw [hleft] at hcompatible
  unfold compile at hv ⊢
  rw [hroom] at hv ⊢
  -- The node is resolved, as it is compiled.
  obtain ⟨r, hr, -⟩ := Except.bind_eq_ok_iff.mp hv
  obtain ⟨merge, hmerge, -⟩ := Except.bind_eq_ok_iff.mp (hschema.resolveWithin.symm.trans hr)
  obtain ⟨more, hmore, hrearranges, hdistinct, hdistinct'⟩ :=
    exists_mergeAll_rearranges hcompatible hmem hmerge
  have hresolve : resolveWithin document (left + 1) schema visited =
      .ok ⟨merge.node, merge.visited⟩ := by
    rw [hschema.resolveWithin, hmerge]
    rfl
  have hresolve' : resolveWithin document (left + 1) other visited =
      .ok ⟨more.node, more.visited⟩ := by
    rw [hother.resolveWithin, hmore]
    rfl
  have hchild : (fun child => compileWithin document mode left child merge.visited) =
      fun child => compileWithin document mode left child more.visited :=
    funext fun child => compileWithin_of_mem_iff hrearranges.visited
  rw [compileWithin_merge hresolve, hchild] at hv
  rw [compileWithin_merge hresolve']
  exact hrearranges.objectValidator hdistinct hdistinct' hv

/-- **The order of compatible branches does not matter, and neither do repetitions.**  A composition is
compiled exactly when one of the same branches in another order is.  If it is looked at at all, both
are compiled to the same rules up to their order; with texts as names, the rules are a rearrangement.
They accept the same values. -/
theorem compile_rearranged (hschema : Composes schema items) (hother : Composes other others)
    (hmem : ∀ branch, branch ∈ items ↔ branch ∈ others)
    (hcompatible : Compatible document depth visited items) :
    ((∃ v, compile document schema mode depth visited = .ok v) ↔
      ∃ w, compile document other mode depth visited = .ok w) ∧
    ∀ v w, compile document schema mode depth visited = .ok v →
      compile document other mode depth visited = .ok w →
        (depth ≤ maxDepth → ∃ rules more extras, v = .object .null rules extras ∧
          w = .object .null more extras ∧ Rule.SameUpToOrder rules more ∧
          ((∀ rule ∈ rules, ∃ s, rule.name = .text s) → rules.Perm more)) ∧
        ∀ x, v.isValid x = w.isValid x := by
  by_cases hdepth : depth ≤ maxDepth
  · have hcompatible' : Compatible document depth visited others := fun a ha b hb =>
      hcompatible a ((hmem a).mpr ha) b ((hmem b).mpr hb)
    refine ⟨⟨?_, ?_⟩, fun v w hv hw => ?_⟩
    · rintro ⟨v, hv⟩
      obtain ⟨-, more, extras, -, hw, -⟩ :=
        exists_compile_rearranged hschema hother hmem hcompatible hdepth hv
      exact ⟨_, hw⟩
    · rintro ⟨w, hw⟩
      obtain ⟨-, rules, extras, -, hv, -⟩ :=
        exists_compile_rearranged hother hschema (fun b => (hmem b).symm) hcompatible' hdepth hw
      exact ⟨_, hv⟩
    · obtain ⟨rules, more, extras, rfl, hw', hdistinct, hdistinct', hsame⟩ :=
        exists_compile_rearranged hschema hother hmem hcompatible hdepth hv
      obtain rfl := Except.ok.inj (hw'.symm.trans hw)
      exact ⟨fun _ => ⟨rules, more, extras, rfl, rfl, hsame, hsame.perm⟩, fun x =>
        Validator.isValid_object_of_sameUpToOrder hsame hdistinct hdistinct' _ _ extras x⟩
  · -- A node that is too deep is not looked at.
    have hroom : Schema.room depth = 0 := by
      unfold Schema.room
      omega
    unfold compile
    rw [hroom]
    refine ⟨Iff.rfl, fun v w hv hw => ⟨fun h => absurd h hdepth, fun x => ?_⟩⟩
    cases hv
    cases hw
    rfl

/-- Branches of which two have a property in common. -/
def holders : List Value :=
  [reference "#/Named", .map (textHolder "id"), .map (textHolder "text")]

/-- The same branches in another order, one of them twice. -/
def rearrangedHolders : List Value :=
  [.map (textHolder "text"), reference "#/Named", .map (textHolder "id"), reference "#/Named"]

/-- The rule for a text that has to be there. -/
def textRule (name : String) : Rule := .mk (.text name) (.string .null none) (.bool true) (.bool false)

/-- All that these branches say of a name is that it has a text. -/
theorem compatible_holders : Compatible holderDocument 0 [] holders := by
  have hgives : ∀ branch ∈ holders, ∀ r, resolve holderDocument branch [] 1 = .ok r →
      ∀ name c, Gives r.node name c → c = .record [("type", .text "string")] := by
    intro branch hbranch r hr name c hc
    obtain ⟨properties, hproperties, hc⟩ := hc
    obtain ⟨e, he, -, rfl⟩ := Entries.exists_mem_of_find? hc
    simp only [holders, List.mem_cons, List.not_mem_nil, or_false] at hbranch
    rcases hbranch with rfl | rfl | rfl
    all_goals
      obtain rfl := Except.ok.inj (hr.symm.trans rfl)
      obtain rfl := Except.ok.inj (hproperties.symm.trans rfl)
    · rcases List.mem_cons.mp he with rfl | he
      · rfl
      · rcases List.mem_singleton.mp he with rfl
        rfl
    · rcases List.mem_singleton.mp he with rfl
      rfl
    · rcases List.mem_singleton.mp he with rfl
      rfl
  intro a ha b hb r s hr hs name c d hc hd
  rw [hgives a ha r hr name c hc, hgives b hb s hs name d hd]

/-- The branches are compiled to the same rules in either order. -/
theorem compile_rearranged_holders :
    compile holderDocument (composition holders) .input 0 [] =
        .ok (.object .null [textRule "id", textRule "name", textRule "text"] (.reject none)) ∧
      compile holderDocument (composition rearrangedHolders) .input 0 [] =
        .ok (.object .null [textRule "text", textRule "id", textRule "name"] (.reject none)) ∧
      [textRule "id", textRule "name", textRule "text"].Perm
        [textRule "text", textRule "id", textRule "name"] := by
  have hmem : ∀ branch, branch ∈ holders ↔ branch ∈ rearrangedHolders := by
    intro branch
    simp only [holders, rearrangedHolders, List.mem_cons, List.not_mem_nil, or_false]
    tauto
  have hv : compile holderDocument (composition holders) .input 0 [] =
      .ok (.object .null [textRule "id", textRule "name", textRule "text"] (.reject none)) := rfl
  have hw : compile holderDocument (composition rearrangedHolders) .input 0 [] =
      .ok (.object .null [textRule "text", textRule "id", textRule "name"] (.reject none)) := rfl
  refine ⟨hv, hw, ?_⟩
  obtain ⟨rules, more, extras, hrules, hmore, -, hperm⟩ := ((compile_rearranged
    (composes_composition _) (composes_composition _) hmem compatible_holders).2 _ _ hv hw).1
    (by decide)
  cases hrules
  cases hmore
  refine hperm ?_
  simp [textRule, Rule.name]

end Schema

end ApiTools
