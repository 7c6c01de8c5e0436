import ApiTools.Proofs.Schema.Cut
import ApiTools.Proofs.Schema.Probe

/-!
# What cutting a node does

The same schema, compiled at a greater depth or after more references, is cut in more places.  A
node that stands alone accepts everything once it is cut.  A branch of a composition does not: when
it is cut, its properties are gone from the node that is left, which refuses them in a request; a
property that it overruled is read as an earlier branch has it; and the references that it followed
count as not followed any more.  So cutting makes a validator accept more exactly when none of this
shows.

## Main definitions

* `Schema.ObjectLoosens`, `Schema.KindLoosens` — a later reading of a node asks for no more.
* `Schema.Loosens` — a later reading of a schema asks for no more.

## Main results

* `Schema.satisfies_null_mono` — null is never lost.
* `Schema.satisfies_of_loosens`, `Schema.loosens_of_satisfies` — what loosening means.
* `Schema.later_accepts_iff_loosens` — **cutting accepts more exactly when the schema loosens.**
* `Schema.loosens_of_uncomposed` — **it does where nothing is composed.**
-/

namespace ApiTools

namespace Schema

variable {document schema : Value} {mode : Mode} {room room' : Nat} {visited visited' : List String}

/-! ### What a validator needs -/

variable {v w : Validator}

/-- What is compiled is resolved, its required names are read and the schemas in it are compiled. -/
theorem exists_resolution_of_compile
    (h : compileWithin document mode (room + 1) schema visited = .ok v) :
    ∃ r, resolveWithin document (room + 1) schema visited = .ok r ∧
      (kind r.node = .object → ∃ names, requiredKeys r.node = .ok names) ∧
      ∀ c, Inner mode r.node c → ∃ w, compileWithin document mode room c r.visited = .ok w := by
  cases compileWithin_succ_iff.mp h with
  | cut r hr hnil =>
    refine ⟨r, hr, fun hkind => ?_, fun c hc => absurd hnil hc.ne_nil⟩
    rw [hnil] at hkind
    cases hkind
  | built r hr _ bare _ hbare => exact ⟨r, hr, exists_bareValidator_iff.mp ⟨bare, hbare⟩⟩

/-- **Null is never lost**: what null satisfies it satisfies with less room and more references. -/
theorem satisfies_null_mono (hroom : room' ≤ room) (hvisited : visited ⊆ visited')
    (hw : compileWithin document mode room' schema visited' = .ok w)
    (h : Satisfies document mode room schema visited .null) :
    Satisfies document mode room' schema visited' .null := by
  cases room' with
  | zero => trivial
  | succ room' =>
    obtain ⟨room, rfl⟩ : ∃ n, room = n + 1 := ⟨room - 1, by omega⟩
    obtain ⟨r, hr, h⟩ := h
    obtain ⟨r', hr', -, -⟩ := exists_resolution_of_compile hw
    refine ⟨r', hr', ?_⟩
    cases resolveWithin_pair hroom hvisited hr hr' with
    | cut hnil => exact Or.inl hnil
    | same hnode _ =>
      -- Null has no parts, so that nothing depends on the schemas in the node.
      rw [hnode]
      refine h.imp_right (Or.imp_right ?_)
      exact kindSatisfies_mono (Or.inl rfl) fun c _ y hy => nomatch hy
    | composed whole part hwhole =>
      -- The node of a merge does not admit null.
      rw [hwhole] at h
      rcases h with hnil | ⟨-, hnull⟩ | hkind
      · exact absurd hnil whole.node_ne_nil
      · rw [whole.isNullable_node] at hnull
        cases hnull
      · unfold KindSatisfies at hkind
        rw [whole.kind_node] at hkind
        obtain ⟨es, hes, -⟩ := hkind
        cases hes

/-! ### When a later reading asks for no more -/

section

variable (loosens : Value → Prop) (remembered : Prop) (first second : Value → Value → Prop)
variable (mode : Mode) (node node' : Entries)

/-- A second reading of a map asks for no more than the first one, given which schemas in both nodes
do so, whether it has all references that the first one has, and what satisfies the schemas. -/
structure ObjectLoosens : Prop where
  /-- No property is lost that would then be refused. -/
  found : mode = .input → ∀ p ∈ declaredProperties node,
    ∃ q ∈ declaredProperties node', p.1.alike q.1 = true
  /-- A property that has its schema, no reference being forgotten, is asked for no more. -/
  kept : remembered → ∀ p ∈ declaredProperties node, ∀ q ∈ declaredProperties node',
    p.1.alike q.1 = true → q.2 = p.2 → loosens p.2
  /-- Any other property that is there in both has no value that is lost. -/
  changed : ∀ p ∈ declaredProperties node, ∀ q ∈ declaredProperties node',
    p.1.alike q.1 = true → ¬(remembered ∧ q.2 = p.2) → ∀ y, y.isPlain = true →
      PropertySatisfies first mode node p.1 p.2 y → PropertySatisfies second mode node' q.1 q.2 y
  /-- The schema of undeclared keys asks for no more. -/
  extra : mode = .input → ∀ es, (extraSchema node).bare = .map es → loosens (extraSchema node)

/-- A second reading of a node asks for no more than the first one. -/
def KindLoosens : Prop :=
  match kind node with
  | .object => ObjectLoosens loosens remembered first second mode node node'
  | .array => (itemSchema node).isTruthy = true → loosens (itemSchema node)
  | _ => True

end

/-- A schema read with the second room and references asks for no more than with the first ones,
unless the nodes in it say otherwise. -/
def Loosens (document : Value) (mode : Mode) :
    Nat → Nat → Value → List String → List String → Prop
  | room + 1, room' + 1, schema, visited, visited' =>
    ∀ r r', resolveWithin document (room + 1) schema visited = .ok r →
      resolveWithin document (room' + 1) schema visited' = .ok r' →
      r'.node = [] ∨
        KindLoosens (fun child => Loosens document mode room room' child r.visited r'.visited)
          (r.visited ⊆ r'.visited)
          (fun child y => Satisfies document mode room child r.visited y)
          (fun child y => Satisfies document mode room' child r'.visited y) mode r.node r'.node
  | _, _, _, _, _ => True

section

variable {loosens : Value → Prop} {remembered : Prop} {first second : Value → Value → Prop}
variable {node : Entries}

/-- A node that stays loosens when the schemas in it do. -/
theorem kindLoosens_self_iff (hnode : (Value.map node).isPlain = true) (hremembered : remembered) :
    KindLoosens loosens remembered first second mode node node ↔
      ∀ c, Inner mode node c → loosens c := by
  unfold KindLoosens
  constructor
  · intro h c hc
    cases hc with
    | property hkind p hp =>
      rw [hkind] at h
      exact h.kept hremembered p hp p hp (Scalar.alike_refl p.1) rfl
    | extra hkind hmode es hbare =>
      rw [hkind] at h
      exact h.extra hmode es hbare
    | item hkind htruthy =>
      rw [hkind] at h
      exact h htruthy
  · intro h
    have hdistinct := (Value.isPlain_map.mp (isPlain_declaredProperties hnode)).1
    split
    · next hkind =>
      refine ⟨fun _ p hp => ⟨p, hp, Scalar.alike_refl p.1⟩, fun _ p hp _ _ _ _ => ?_, ?_, ?_⟩
      · exact h p.2 (.property hkind p hp)
      · -- Two properties with one name are the same.
        intro p hp q hq halike hchanged
        have hp := Entries.find?_eq_some hdistinct hp
        have hq := Entries.find?_eq_some hdistinct hq
        rw [Entries.find?_congr halike] at hp
        exact absurd ⟨hremembered, Option.some.inj (hq.symm.trans hp)⟩ hchanged
      · exact fun hmode es hbare => h _ (.extra hkind hmode es hbare)
    · next hkind => exact fun htruthy => h _ (.item hkind htruthy)
    · trivial

/-! ### Compositions that lost branches -/

variable {whole part : Merge}

/-- A merge has a property for each one that is left of it. -/
theorem Merge.Within.exists_property (h : part.Within whole) {q : Scalar × Value}
    (hq : q ∈ part.properties) : ∃ p ∈ whole.properties, p.1.alike q.1 = true := by
  rw [← Entries.hasKey_iff]
  exact h.properties q.1 (Entries.hasKey_iff.mpr ⟨q, hq, Scalar.alike_refl q.1⟩)

/-- What is as a merge asks is as its rest asks, when that loosens. -/
theorem objectSatisfies_part (hwithin : part.Within whole) {names : List Scalar}
    (hnames : requiredKeys whole.node = .ok names)
    (h : ObjectLoosens loosens remembered first second mode whole.node part.node)
    (hloosens : remembered → ∀ c, Inner mode whole.node c → Inner mode part.node c → loosens c →
      ∀ y, y.isPlain = true → first c y → second c y)
    {es : Entries} (hplain : (Value.map es).isPlain = true)
    (hes : ObjectSatisfies first mode whole.node es) :
    ObjectSatisfies second mode part.node es where
  present q hq hrequires := by
    rw [part.declaredProperties_node] at hq
    obtain ⟨p, hp, halike⟩ := hwithin.exists_property hq
    rw [← whole.declaredProperties_node] at hp
    rw [← Entries.hasKey_congr halike]
    exact hes.present p hp ((requires_congr halike).mpr (hwithin.requires hnames hrequires))
  declared q hq y hy := by
    have hmem := part.declaredProperties_node ▸ hq
    obtain ⟨p, hp, halike⟩ := hwithin.exists_property hmem
    rw [← whole.declaredProperties_node] at hp
    rw [← Entries.find?_congr halike] at hy
    have hsat := hes.declared p hp y hy
    have hy := Value.isPlain_find? hplain hy
    by_cases hsame : remembered ∧ q.2 = p.2
    · rcases hsat with hsat | ⟨hmode, hnot, hnull⟩
      · have hwhole : Inner mode whole.node p.2 := .property whole.kind_node p hp
        have hp := h.kept hsame.1 p hp q hq halike hsame.2
        rw [← hsame.2] at hwhole hp hsat
        exact Or.inl (hloosens hsame.1 q.2 hwhole (.property part.kind_node q hq) hp y hy hsat)
      · refine Or.inr ⟨hmode, fun hrequires => hnot ?_, hnull⟩
        exact (requires_congr halike).mpr (hwithin.requires hnames hrequires)
    · exact h.changed p hp q hq halike hsame y hy hsat
  undeclared e he hundeclared := by
    cases mode with
    | output => exact Or.inl rfl
    | input =>
      refine absurd (hes.undeclared e he fun p hp => ?_) (by simp [ExtraSatisfies, Value.bare])
      obtain ⟨q, hq, halike⟩ := h.found rfl p hp
      refine Bool.eq_false_iff.mpr fun hpe => ?_
      exact Bool.false_ne_true ((hundeclared q hq).symm.trans
        (Scalar.alike_trans (Scalar.alike_symm halike) hpe))

/-- Where all that is as a merge asks is as its rest asks, the rest loosens. -/
theorem objectLoosens_part (hplain : (Value.map whole.node).isPlain = true)
    (hinner : ∀ c, Inner mode whole.node c → ∃ y, y.isPlain = true ∧ first c y)
    (hnull : remembered → ∀ c, Inner mode part.node c → first c .null → second c .null)
    (hloosens : remembered → ∀ c, Inner mode whole.node c → Inner mode part.node c →
      (∀ y, y.isPlain = true → first c y → second c y) → loosens c)
    (h : ∀ es : Entries, (Value.map es).isPlain = true → ObjectSatisfies first mode whole.node es →
      ObjectSatisfies second mode part.node es) :
    ObjectLoosens loosens remembered first second mode whole.node part.node := by
  -- Any value of a property shows in a map that is as the merge asks.
  have hproperty : ∀ p ∈ declaredProperties whole.node, ∀ y, y.isPlain = true →
      PropertySatisfies first mode whole.node p.1 p.2 y →
      ∃ es : Entries, es.find? p.1 = some y ∧ ObjectSatisfies second mode part.node es := by
    intro p hp y hy hsat
    obtain ⟨es, hes, hfirst, hfind⟩ :=
      exists_object_with_property hplain hinner whole.kind_node hp hy hsat
    exact ⟨es, hfind, h es hes hfirst⟩
  have hchanged : ∀ p ∈ declaredProperties whole.node, ∀ q ∈ declaredProperties part.node,
      p.1.alike q.1 = true → ∀ y, y.isPlain = true →
      PropertySatisfies first mode whole.node p.1 p.2 y →
      PropertySatisfies second mode part.node q.1 q.2 y := by
    intro p hp q hq halike y hy hsat
    obtain ⟨es, hfind, hes⟩ := hproperty p hp y hy hsat
    exact hes.declared q hq y (Entries.find?_congr halike es ▸ hfind)
  refine ⟨fun hmode p hp => ?_, fun hremembered p hp q hq halike hsame => ?_,
    fun p hp q hq halike _ => hchanged p hp q hq halike, fun _ es hbare => ?_⟩
  · -- A property that is lost is refused.
    obtain ⟨y, hy, hsat⟩ := hinner p.2 (.property whole.kind_node p hp)
    obtain ⟨es, hfind, hes⟩ := hproperty p hp y hy (Or.inl hsat)
    obtain ⟨e, he, halike, -⟩ := Entries.exists_mem_of_find? hfind
    by_contra hlost
    push Not at hlost
    refine absurd (hes.undeclared e he fun q hq => ?_) (by simp [ExtraSatisfies, Value.bare, hmode])
    refine Bool.eq_false_iff.mpr fun hqe => hlost q hq ?_
    exact Scalar.alike_symm (Scalar.alike_trans hqe halike)
  · have hpart : Inner mode part.node q.2 := .property part.kind_node q hq
    rw [hsame] at hpart
    refine hloosens hremembered p.2 (.property whole.kind_node p hp) hpart fun y hy hsat => ?_
    rcases hchanged p hp q hq halike y hy (Or.inl hsat) with hsecond | ⟨-, -, rfl⟩
    · exact hsame ▸ hsecond
    · exact hnull hremembered p.2 hpart hsat
  · rw [whole.extraSchema_node] at hbare
    cases hbare

end

/-! ### Whole schemas -/

section

variable (hdocument : document.isPlain = true) (hschema : schema.isPlain = true)
variable (hroom : room' ≤ room) (hvisited : visited ⊆ visited')
variable (hv : compileWithin document mode room schema visited = .ok v)
variable (hw : compileWithin document mode room' schema visited' = .ok w)

include hdocument hschema hroom hvisited hv hw

/-- **What satisfies a schema satisfies its later reading, when that loosens.** -/
theorem satisfies_of_loosens (h : Loosens document mode room room' schema visited visited')
    {x : Value} (hx : x.isPlain = true) (hsat : Satisfies document mode room schema visited x) :
    Satisfies document mode room' schema visited' x := by
  induction room' generalizing room schema visited visited' v w x with
  | zero => trivial
  | succ room' ih =>
    obtain ⟨room, rfl⟩ : ∃ n, room = n + 1 := ⟨room - 1, by omega⟩
    have hle := Nat.le_of_succ_le_succ hroom
    obtain ⟨r, hr, hnames, hinner⟩ := exists_resolution_of_compile hv
    obtain ⟨r', hr', -, hinner'⟩ := exists_resolution_of_compile hw
    have hnode := isPlain_resolveWithin hdocument hschema hr
    obtain ⟨r₂, hr₂, hsat⟩ := hsat
    obtain rfl := Except.ok.inj (hr.symm.trans hr₂)
    refine ⟨r', hr', or_iff_not_imp_left.mpr fun hne' => ?_⟩
    have hloosens := (h r r' hr hr').resolve_left hne'
    -- A schema that is in both nodes and loosens asks for no more, if no reference is forgotten.
    have hchild : r.visited ⊆ r'.visited → ∀ c, Inner mode r.node c → Inner mode r'.node c →
        Loosens document mode room room' c r.visited r'.visited → ∀ y, y.isPlain = true →
        Satisfies document mode room c r.visited y →
        Satisfies document mode room' c r'.visited y := by
      intro hremembered c hc hc' hloosens y hy hsat
      obtain ⟨vc, hvc⟩ := hinner c hc
      obtain ⟨wc, hwc⟩ := hinner' c hc'
      exact ih (isPlain_of_inner hnode hc) hle hremembered hvc hwc hloosens hy hsat
    cases resolveWithin_pair hroom hvisited hr hr' with
    | cut hnil => exact absurd hnil hne'
    | same hsame hremembered =>
      rw [hsame] at hloosens hchild hne' ⊢
      rw [kindLoosens_self_iff hnode hremembered] at hloosens
      refine (hsat.resolve_left hne').imp_right (kindSatisfies_mono (Or.inl rfl) ?_)
      intro c hc y hy
      exact hchild hremembered c hc hc (hloosens c hc) y (Value.isPlain_part hx hy)
    | composed whole part hwhole hpart hwithin =>
      rw [hwhole] at hloosens hchild hnames hsat
      rw [hpart] at hloosens hchild ⊢
      obtain ⟨names, hnames⟩ := hnames whole.kind_node
      rw [whole.isNullable_node] at hsat
      unfold KindLoosens at hloosens
      unfold KindSatisfies at hsat ⊢
      rw [whole.kind_node] at hloosens hsat
      rw [part.kind_node]
      obtain ⟨es, rfl, hes⟩ := (hsat.resolve_left whole.node_ne_nil).resolve_left (by simp)
      exact Or.inr ⟨es, rfl, objectSatisfies_part hwithin hnames hloosens hchild hx hes⟩

/-- **Where all that satisfies a schema satisfies its later reading, that loosens.** -/
theorem loosens_of_satisfies
    (h : ∀ x, x.isPlain = true → Satisfies document mode room schema visited x →
      Satisfies document mode room' schema visited' x) :
    Loosens document mode room room' schema visited visited' := by
  induction room' generalizing room schema visited visited' v w with
  | zero => cases room <;> trivial
  | succ room' ih =>
    obtain ⟨room, rfl⟩ : ∃ n, room = n + 1 := ⟨room - 1, by omega⟩
    have hle := Nat.le_of_succ_le_succ hroom
    unfold Loosens
    intro r r' hr hr'
    refine or_iff_not_imp_left.mpr fun hne' => ?_
    obtain ⟨r₂, hr₂, -, hinner⟩ := exists_resolution_of_compile hv
    obtain rfl := Except.ok.inj (hr.symm.trans hr₂)
    obtain ⟨r₂, hr₂, -, hinner'⟩ := exists_resolution_of_compile hw
    obtain rfl := Except.ok.inj (hr'.symm.trans hr₂)
    have hnode := isPlain_resolveWithin hdocument hschema hr
    have hvalue : ∀ c, Inner mode r.node c →
        ∃ y, y.isPlain = true ∧ Satisfies document mode room c r.visited y := by
      intro c hc
      obtain ⟨vc, hvc⟩ := hinner c hc
      exact exists_satisfies hdocument (isPlain_of_inner hnode hc) hvc
    have hnull : r.visited ⊆ r'.visited → ∀ c, Inner mode r'.node c →
        Satisfies document mode room c r.visited .null →
        Satisfies document mode room' c r'.visited .null := by
      intro hremembered c hc' hsat
      obtain ⟨wc, hwc⟩ := hinner' c hc'
      exact satisfies_null_mono hle hremembered hwc hsat
    have hchild : r.visited ⊆ r'.visited → ∀ c, Inner mode r.node c → Inner mode r'.node c →
        (∀ y, y.isPlain = true → Satisfies document mode room c r.visited y →
          Satisfies document mode room' c r'.visited y) →
        Loosens document mode room room' c r.visited r'.visited := by
      intro hremembered c hc hc' hsat
      obtain ⟨vc, hvc⟩ := hinner c hc
      obtain ⟨wc, hwc⟩ := hinner' c hc'
      exact ih (isPlain_of_inner hnode hc) hle hremembered hvc hwc hsat
    -- What is as the first node asks, and is not null, is as the second one asks.
    have hkind : ∀ x, x.isPlain = true → x ≠ .null →
        KindSatisfies (fun child y => Satisfies document mode room child r.visited y) mode r.node
          x →
        KindSatisfies (fun child y => Satisfies document mode room' child r'.visited y) mode r'.node
          x := by
      intro x hx hnull hkind
      obtain ⟨r₂, hr₂, hsat⟩ := h x hx ⟨r, hr, Or.inr (Or.inr hkind)⟩
      obtain rfl := Except.ok.inj (hr'.symm.trans hr₂)
      exact (hsat.resolve_left hne').resolve_left fun hx => hnull hx.1
    cases resolveWithin_pair hroom hvisited hr hr' with
    | cut hnil => exact absurd hnil hne'
    | same hsame hremembered =>
      rw [hsame] at hkind hnull hchild ⊢
      rw [kindLoosens_self_iff hnode hremembered]
      -- What a schema in the node loses would show in the values that probe it.
      refine fun c hc => hchild hremembered c hc hc fun y hy hsat => ?_
      obtain ⟨x, hx, hsatx, hxnull, hprobe⟩ := exists_probe hnode hvalue hc hy hsat
      rcases hprobe _ (hkind x hx hxnull hsatx) with hsecond | ⟨-, rfl⟩
      · exact hsecond
      · exact hnull hremembered c hc hsat
    | composed whole part hwhole hpart hwithin =>
      rw [hwhole] at hkind hvalue hchild hnode ⊢
      rw [hpart] at hkind hnull hchild ⊢
      unfold KindLoosens
      unfold KindSatisfies at hkind
      rw [whole.kind_node] at hkind ⊢
      rw [part.kind_node] at hkind
      refine objectLoosens_part hnode hvalue hnull hchild fun es hplain hes => ?_
      obtain ⟨fs, hfs, hes⟩ := hkind (.map es) hplain nofun ⟨es, rfl, hes⟩
      cases hfs
      exact hes

end

/-- **Where nothing is composed, cutting only loosens.** -/
theorem loosens_of_uncomposed (hdocument : document.isPlain = true)
    (hschema : schema.isPlain = true) (hbase : Uncomposed document)
    (huncomposed : Uncomposed schema) (hroom : room' ≤ room) (hvisited : visited ⊆ visited') :
    Loosens document mode room room' schema visited visited' := by
  induction room' generalizing room schema visited visited' with
  | zero => cases room <;> trivial
  | succ room' ih =>
    obtain ⟨room, rfl⟩ : ∃ n, room = n + 1 := ⟨room - 1, by omega⟩
    unfold Loosens
    intro r r' hr hr'
    have hnode := isPlain_resolveWithin hdocument hschema hr
    cases resolveWithin_pair hroom hvisited hr hr' with
    | cut hnil => exact Or.inl hnil
    | same hsame hremembered =>
      rw [hsame, kindLoosens_self_iff hnode hremembered]
      refine Or.inr fun c hc => ?_
      have hc' := (uncomposed_resolveWithin hbase huncomposed hr).of_holds (holds_of_inner hc)
      exact ih (isPlain_of_inner hnode hc) hc' (Nat.le_of_succ_le_succ hroom) hremembered
    | composed _ _ _ _ _ hcomposed => exact absurd ⟨hbase, huncomposed⟩ hcomposed

/-- **Cutting more never refuses what was accepted before exactly when no composition loses by it**:
of the two validators of one schema, the second one compiled at a greater depth and after more
references, the second accepts every plain value that the first does if and only if the schema
loosens. -/
theorem later_accepts_iff_loosens (hdocument : document.isPlain = true)
    (hschema : schema.isPlain = true) {depth depth' : Int} (hdepth : depth ≤ depth')
    (hvisited : visited ⊆ visited') (hv : compile document schema mode depth visited = .ok v)
    (hw : compile document schema mode depth' visited' = .ok w) :
    (∀ x, x.isPlain = true → v.isValid x = true → w.isValid x = true) ↔
      Loosens document mode (Schema.room depth) (Schema.room depth') schema visited visited' := by
  have hroom : Schema.room depth' ≤ Schema.room depth := by
    unfold Schema.room
    omega
  simp only [isValid_compileWithin_iff hdocument hschema hv,
    isValid_compileWithin_iff hdocument hschema hw]
  constructor
  · exact loosens_of_satisfies hdocument hschema hroom hvisited hv hw
  · exact fun h x => satisfies_of_loosens hdocument hschema hroom hvisited hv hw h

/-- The composition does not loosen when its named branch is cut. -/
theorem not_loosens_extendedSchema :
    baseDocument.isPlain = true ∧ extendedSchema.isPlain = true ∧ (0 : Int) ≤ 0 ∧
      [] ⊆ [baseReference] ∧
      compile baseDocument extendedSchema .input 0 [] = .ok extendedValidator ∧
      compile baseDocument extendedSchema .input 0 [baseReference] =
        .ok (.object .null [optionalText "name"] (.reject none)) ∧
      ¬ Loosens baseDocument .input (Schema.room 0) (Schema.room 0) extendedSchema []
        [baseReference] := by
  have hv : compile baseDocument extendedSchema .input 0 [] = .ok extendedValidator := rfl
  have hw : compile baseDocument extendedSchema .input 0 [baseReference] =
      .ok (.object .null [optionalText "name"] (.reject none)) := rfl
  refine ⟨by decide, by decide, by decide, by simp, hv, hw, fun h => ?_⟩
  have haccepts :=
    (later_accepts_iff_loosens (by decide) (by decide) (by decide) (by simp) hv hw).mpr h
  exact absurd (haccepts (.record [("id", .text "x")]) (by decide) (by decide)) (by decide)

/-- **A branch that is cut takes its properties with it**: the identifier that the composition
allows is refused once the reference to the named schema was followed before. -/
theorem cut_branch_refuses :
    compile baseDocument extendedSchema .input 0 [] = .ok extendedValidator ∧
      extendedValidator.isValid (.record [("id", .text "x")]) = true ∧
      ∃ w, compile baseDocument extendedSchema .input 0 [baseReference] = .ok w ∧
        w.isValid (.record [("id", .text "x")]) = false :=
  ⟨rfl, by decide, _, rfl, by decide⟩

end Schema

end ApiTools
