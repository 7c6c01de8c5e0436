import ApiTools.Proofs.Schema.Trace

/-!
# Nodes that are read alike

The validator of a node depends on the schemas in it only through the validators of those that are
reached, and on the rest of the node only through a few readings.  Two nodes for which these are the
same have one validator, or fail with one fault.

## Main definitions

* `Schema.KeepsMaps`, `Schema.KeepsShape` — a relation of schemas that changes maps only, and one of
  schemas that are read alike as parts of a node.
* `Schema.NodeReading`, `Schema.NodePair` — two nodes from which validators are made alike, up to the
  schemas in them, and two that are read alike in every way.
* `Schema.rulesOf`, `Schema.extrasOf` — the two parts of the validator of a map.
* `Schema.listOf` — the validator of a list.

## Main results

* `Schema.bareValidator_of_nodeReading`, `Schema.bareValidator_of_nodePair` — **two nodes that are
  read alike have one validator, if the schemas in them that are reached have.**
* `Schema.compileWithin_of_relates` — so have two schemas whose resolved nodes are read alike.
-/

namespace ApiTools

namespace Schema

variable {document schema : Value} {mode : Mode} {room : Nat} {visited : List String}

/-! ### Nodes that are read alike -/

/-- A relation of schemas that changes maps only, and keeps them maps. -/
structure KeepsMaps (T : Value → Value → Prop) : Prop where
  /-- Where one is a map, the other one is. -/
  map : ∀ {c d es}, T c d → c.bare = .map es → ∃ fs, d.bare = .map fs
  /-- What is no map is the same. -/
  other : ∀ {c d}, T c d → (∀ es, c.bare ≠ .map es) → c = d

/-- A relation of schemas that are read alike as parts of a node. -/
structure KeepsShape (T : Value → Value → Prop) : Prop extends KeepsMaps T where
  /-- Both count as given, or neither does. -/
  truthy : ∀ {c d}, T c d → c.isTruthy = d.isTruthy

theorem KeepsShape.eq : KeepsShape Eq where
  map := by
    rintro c _ es rfl h
    exact ⟨es, h⟩
  other := fun h _ => h
  truthy := by
    rintro c _ rfl
    rfl

/-- Two maps with the same keys in one order, and related values. -/
abbrev EntriesPair (T : Value → Value → Prop) (es fs : Entries) : Prop :=
  List.Forall₂ (fun e f => e.1 = f.1 ∧ T e.2 f.2) es fs

/-- Two nodes from which validators are made alike, with related schemas in them. -/
structure NodeReading (T : Value → Value → Prop) (node other : Entries) : Prop where
  /-- They are of one kind. -/
  kind : kind node = kind other
  /-- Both admit null, or neither does. -/
  isNullable : isNullable node = isNullable other
  /-- They list the same values. -/
  members : members node = members other
  /-- They require the same names. -/
  required : requiredKeys node = requiredKeys other
  /-- They declare the same properties, with related schemas. -/
  properties : EntriesPair T (declaredProperties node) (declaredProperties other)
  /-- The schemas of their items are related. -/
  items : T (itemSchema node) (itemSchema other)
  /-- So is what they say of undeclared keys. -/
  extra : T (extraSchema node) (extraSchema other)

/-- Two nodes that are read alike, with related schemas in them. -/
structure NodePair (T : Value → Value → Prop) (node other : Entries) : Prop
    extends NodeReading T node other where
  /-- Both are empty, or neither is. -/
  isEmpty : node.isEmpty = other.isEmpty
  /-- They are documented alike. -/
  documentation : documentation node = documentation other

section

variable {T : Value → Value → Prop} {node other : Entries}
variable {compileChild compileOther : Value → Except Fault Validator}

theorem EntriesPair.refl (hT : ∀ c, T c c) (es : Entries) : EntriesPair T es es :=
  List.forall₂_same.mpr fun _ _ => ⟨rfl, hT _⟩

/-- A node pairs with itself when the schemas in it are related to themselves. -/
theorem NodePair.refl (hT : ∀ c, T c c) (node : Entries) : NodePair T node node :=
  ⟨⟨rfl, rfl, rfl, rfl, EntriesPair.refl hT _, hT _, hT _⟩, rfl, rfl⟩

/-- The policy for undeclared keys, given how to read the schemas in a node. -/
def extrasOf (compileChild : Value → Except Fault Validator) (mode : Mode) (node : Entries) :
    Except Fault Extras :=
  match mode, (extraSchema node).bare with
  | .output, _ => .ok (.allow none)
  | .input, .bool true => .ok (.allow none)
  | .input, .map _ => .typed <$> compileChild (extraSchema node)
  | .input, _ => .ok (.reject none)

/-- The validator of a list, given how to read the schemas in a node. -/
def listOf (compileChild : Value → Except Fault Validator) (node : Entries) :
    Except Fault Validator :=
  if (itemSchema node).isTruthy then do return .array .null (← compileChild (itemSchema node))
  else .ok (.array .null (.any .null))

/-- The rules for the declared properties, given how to read the schemas in a node. -/
def rulesOf (compileChild : Value → Except Fault Validator) (mode : Mode) (required : List Scalar)
    (properties : Entries) : Except Fault (List Rule) :=
  properties.mapM fun p => do return ruleFor mode required p.1 (← compileChild p.2)

/-- The validator of a map is put together from its rules and its policy. -/
theorem objectValidator_eq_bind : objectValidator compileChild mode node = (do
    let required ← requiredKeys node
    let rules ← rulesOf compileChild mode required (declaredProperties node)
    let extras ← extrasOf compileChild mode node
    return .object .null rules extras) := by
  unfold objectValidator rulesOf extrasOf
  refine bind_congr fun required => bind_congr fun rules => ?_
  cases mode with
  | output => rfl
  | input =>
    rw [show (node.get? "additionalProperties").getD .null = extraSchema node from rfl]
    dsimp only
    cases (extraSchema node).bare with
    | scalar s =>
      cases s with
      | bool b => cases b <;> rfl
      | null | int | double | text | stamp | bytes => rfl
    | map es => cases compileChild (extraSchema node) <;> rfl
    | list | group | knot => rfl

/-- The rules that are reached are those for the schemas that are reached. -/
theorem reachedBy_ruleFor (required : List Scalar) (properties : Entries) :
    (Except.reachedBy (fun p : Scalar × Value =>
      (do return ruleFor mode required p.1 (← compileChild p.2) : Except Fault Rule))
        properties).map Prod.snd = Except.reachedBy compileChild (properties.map Prod.snd) := by
  refine Except.map_reachedBy (fun p e => ?_) _
  cases compileChild p.2 with
  | ok => exact iff_of_false nofun nofun
  | error d => simp [bind, Except.bind]

/-- Rules fail to be made where a schema cannot be compiled. -/
theorem exists_mapM_of_rulesOf {required : List Scalar} {properties : Entries} {rules : List Rule}
    (h : rulesOf compileChild mode required properties = .ok rules) :
    ∃ validators, (properties.map Prod.snd).mapM compileChild = .ok validators := by
  have hcompiled : ∀ c ∈ properties.map Prod.snd, ∃ v, compileChild c = .ok v := by
    intro c hc
    obtain ⟨p, hp, rfl⟩ := List.mem_map.mp hc
    obtain ⟨rule, -, hrule⟩ := List.exists_of_mem_forall₂ (Except.mapM_eq_ok_iff.mp h) hp
    obtain ⟨v, hv, -⟩ := Except.bind_eq_ok_iff.mp hrule
    exact ⟨v, hv⟩
  obtain ⟨validators, hvalidators⟩ := List.exists_forall₂ hcompiled
  exact ⟨validators, Except.mapM_eq_ok_iff.mpr hvalidators⟩

/-! ### Which schemas in a node are reached -/

/-- The properties of a map come first, and then what its undeclared keys have. -/
theorem innerReached_object (compileChild : Value → Except Fault Validator) (mode : Mode)
    (hkind : Schema.kind node = .object) {required : List Scalar}
    (hrequired : requiredKeys node = .ok required) :
    ∃ extras, innerReached compileChild mode node = Except.reachedBy compileChild
      ((declaredProperties node).map Prod.snd ++ extras) ∧
      (mode = .input → ∀ es, (extraSchema node).bare = .map es → extras = [extraSchema node]) := by
  simp only [innerReached, innerSchemas, hkind, hrequired]
  refine ⟨_, rfl, fun hmode es hbare => ?_⟩
  subst hmode
  rw [hbare]

theorem mem_innerReached_of_property (hkind : Schema.kind node = .object) {required : List Scalar}
    (hrequired : requiredKeys node = .ok required) {c : Value}
    (hc : c ∈ Except.reachedBy compileChild ((declaredProperties node).map Prod.snd)) :
    c ∈ innerReached compileChild mode node := by
  obtain ⟨extras, hinner, -⟩ := innerReached_object compileChild mode hkind hrequired
  rw [hinner]
  exact Except.reachedBy_subset_append _ _ _ hc

/-- What undeclared keys have is reached when all properties could be compiled. -/
theorem extraSchema_mem_innerReached (hkind : Schema.kind node = .object) {required : List Scalar}
    (hrequired : requiredKeys node = .ok required) {rules : List Rule}
    (hrules : rulesOf compileChild mode required (declaredProperties node) = .ok rules)
    (hmode : mode = .input) {es : Entries} (hbare : (extraSchema node).bare = .map es) :
    extraSchema node ∈ innerReached compileChild mode node := by
  obtain ⟨extras, hinner, hextras⟩ := innerReached_object compileChild mode hkind hrequired
  obtain ⟨validators, hvalidators⟩ := exists_mapM_of_rulesOf hrules
  rw [hinner, hextras hmode es hbare, Except.reachedBy_append hvalidators]
  exact List.mem_append_right _ (Except.mem_reachedBy_self _ _ _)

theorem itemSchema_mem_innerReached (hkind : Schema.kind node = .array)
    (htruthy : (itemSchema node).isTruthy = true) :
    itemSchema node ∈ innerReached compileChild mode node := by
  simp only [innerReached, innerSchemas, hkind, if_pos htruthy]
  exact Except.mem_reachedBy_self _ _ _

/-- What is reached is a schema in the node. -/
theorem inner_of_mem_innerReached {c : Value} (hc : c ∈ innerReached compileChild mode node) :
    Inner mode node c := by
  refine mem_innerSchemas_iff.mp ?_
  unfold innerReached at hc
  split at hc
  · cases hc
  · exact Except.reached_subset _ _ _ hc

/-! ### One validator for two nodes -/

/-- The rules are the same when the schemas that are reached have one validator. -/
theorem rulesOf_of_entriesPair {required : List Scalar} {properties others : Entries}
    (h : EntriesPair T properties others)
    (hchild : ∀ c ∈ Except.reachedBy compileChild (properties.map Prod.snd),
      ∀ d ∈ Except.reachedBy compileOther (others.map Prod.snd), T c d →
        compileChild c = compileOther d) :
    rulesOf compileChild mode required properties = rulesOf compileOther mode required others := by
  have hrules : Except.Relates (List.Forall₂ Eq) (rulesOf compileChild mode required properties)
      (rulesOf compileOther mode required others) := by
    refine Except.Relates.mapM h fun p hp q hq hpq => ?_
    have hp := reachedBy_ruleFor required properties ▸ List.mem_map_of_mem hp
    have hq := reachedBy_ruleFor required others ▸ List.mem_map_of_mem hq
    rw [hchild p.2 hp q.2 hq hpq.2, hpq.1]
    exact .refl _ fun _ _ => rfl
  exact (hrules.mono fun rules others _ _ heq => List.forall₂_eq_eq_eq ▸ heq).eq

/-- The policy is the same when the schema of undeclared keys has one validator. -/
theorem extrasOf_of_keepsMaps (hT : KeepsMaps T) (h : T (extraSchema node) (extraSchema other))
    (hchild : mode = .input → ∀ es, (extraSchema node).bare = .map es →
      compileChild (extraSchema node) = compileOther (extraSchema other)) :
    extrasOf compileChild mode node = extrasOf compileOther mode other := by
  unfold extrasOf
  cases mode with
  | output => rfl
  | input =>
    by_cases hmap : ∃ es, (extraSchema node).bare = .map es
    · obtain ⟨es, hes⟩ := hmap
      obtain ⟨fs, hfs⟩ := hT.map h hes
      rw [hes, hfs]
      dsimp only
      rw [hchild rfl es hes]
    · have hmap : ∀ es, (extraSchema node).bare ≠ .map es := fun es hes => hmap ⟨es, hes⟩
      rw [← hT.other h hmap]
      cases hbare : (extraSchema node).bare with
      | map es => exact absurd hbare (hmap es)
      | scalar s =>
        cases s with
        | bool b => cases b <;> rfl
        | null | int | double | text | stamp | bytes => rfl
      | list | group | knot => rfl

/-- The validators of maps are the same when the schemas that are reached have the same. -/
theorem objectValidator_of_nodeReading (hT : KeepsMaps T) (h : NodeReading T node other)
    (hkind : Schema.kind node = .object)
    (hchild : ∀ c ∈ innerReached compileChild mode node,
      ∀ d ∈ innerReached compileOther mode other, T c d → compileChild c = compileOther d) :
    objectValidator compileChild mode node = objectValidator compileOther mode other := by
  rw [objectValidator_eq_bind, objectValidator_eq_bind, ← h.required]
  cases hrequired : requiredKeys node with
  | error e => rfl
  | ok required =>
    have hother : Schema.kind other = .object := h.kind ▸ hkind
    have hrequired' : requiredKeys other = .ok required := h.required ▸ hrequired
    have hrules : rulesOf compileChild mode required (declaredProperties node) =
        rulesOf compileOther mode required (declaredProperties other) :=
      rulesOf_of_entriesPair h.properties fun c hc d hd =>
        hchild c (mem_innerReached_of_property hkind hrequired hc) d
          (mem_innerReached_of_property hother hrequired' hd)
    change (rulesOf compileChild mode required (declaredProperties node) >>= _) =
      (rulesOf compileOther mode required (declaredProperties other) >>= _)
    rw [← hrules]
    cases hok : rulesOf compileChild mode required (declaredProperties node) with
    | error e => rfl
    | ok rules =>
      have hpolicy : extrasOf compileChild mode node = extrasOf compileOther mode other := by
        refine extrasOf_of_keepsMaps hT h.extra fun hmode es hbare => ?_
        obtain ⟨fs, hfs⟩ := hT.map h.extra hbare
        exact hchild _ (extraSchema_mem_innerReached hkind hrequired hok hmode hbare) _
          (extraSchema_mem_innerReached hother hrequired' (hrules ▸ hok) hmode hfs) h.extra
      change (extrasOf compileChild mode node >>= _) = (extrasOf compileOther mode other >>= _)
      rw [hpolicy]

/-- **Two nodes from which validators are made alike have one validator**, if the schemas in them
that are reached have, and if the nodes have one validator as lists. -/
theorem bareValidator_of_nodeReading (hT : KeepsMaps T) (h : NodeReading T node other)
    (hchild : ∀ c ∈ innerReached compileChild mode node,
      ∀ d ∈ innerReached compileOther mode other, T c d → compileChild c = compileOther d)
    (hlist : Schema.kind node = .array → listOf compileChild node = listOf compileOther other) :
    bareValidator compileChild mode node = bareValidator compileOther mode other := by
  unfold bareValidator
  rw [← h.kind, ← h.members]
  cases hkind : Schema.kind node with
  | object => exact objectValidator_of_nodeReading hT h hkind hchild
  | array => exact hlist hkind
  | string | number | boolean | enumeration | reference | composite | union | unresolved => rfl

/-- **Two nodes that are read alike have one validator**, if the schemas in them that are reached
have. -/
theorem bareValidator_of_nodePair (hT : KeepsShape T) (h : NodePair T node other)
    (hchild : ∀ c ∈ innerReached compileChild mode node,
      ∀ d ∈ innerReached compileOther mode other, T c d → compileChild c = compileOther d) :
    bareValidator compileChild mode node = bareValidator compileOther mode other := by
  refine bareValidator_of_nodeReading hT.toKeepsMaps h.toNodeReading hchild fun hkind => ?_
  have hitems := hT.truthy h.items
  unfold listOf
  rw [← hitems]
  split
  · next htruthy =>
    rw [hchild _ (itemSchema_mem_innerReached hkind htruthy) _
      (itemSchema_mem_innerReached (h.kind ▸ hkind) (hitems ▸ htruthy)) h.items]
  · rfl

end

/-- **Two schemas have one validator** if their resolved nodes are read alike, and the schemas in
the nodes that are reached have one validator each. -/
theorem compileWithin_of_relates {T : Value → Value → Prop} {other schema' : Value}
    {visited' : List String} (hT : KeepsShape T)
    (hresolve : Except.Relates (fun r s => NodePair T r.node s.node)
      (resolveWithin document (room + 1) schema visited)
      (resolveWithin other (room + 1) schema' visited'))
    (hchild : ∀ r s, resolveWithin document (room + 1) schema visited = .ok r →
      resolveWithin other (room + 1) schema' visited' = .ok s →
      ∀ c ∈ innerReached (fun inner => compileWithin document mode room inner r.visited) mode r.node,
        ∀ d ∈ innerReached (fun inner => compileWithin other mode room inner s.visited) mode s.node,
          T c d →
            compileWithin document mode room c r.visited =
              compileWithin other mode room d s.visited) :
    compileWithin document mode (room + 1) schema visited =
      compileWithin other mode (room + 1) schema' visited' := by
  rw [compileWithin, compileWithin]
  refine (hresolve.bind (Q := Eq) fun r s hr hs hpair => ?_).eq
  have hbare := bareValidator_of_nodePair hT hpair (hchild r s hr hs)
  have hdescribed : described r.node = described s.node := by
    funext v
    unfold described
    rw [hpair.documentation]
  have hnull : withNull r.node = withNull s.node := by
    funext v
    unfold withNull
    rw [hpair.isNullable]
  dsimp only
  rw [hpair.isEmpty, hbare, hdescribed, hnull]
  exact .refl _ fun _ _ => rfl

end Schema

end ApiTools
