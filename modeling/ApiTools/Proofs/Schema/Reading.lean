import ApiTools.Proofs.Schema.Compile

/-!
# Reading schemas directly

A schema says which values satisfy it without a validator being built: the node is resolved, and
the value is looked at as the kind of the node asks.  Compilation keeps this meaning.  The reading
follows the depth of nodes as compilation does, and a node that was cut is satisfied by everything.

## Main definitions

* `Schema.ObjectSatisfies` — what a node asks of the entries of a map.
* `Schema.KindSatisfies` — what a node asks of a value by its kind.
* `Schema.Satisfies` — a value satisfies a schema.

## Main results

* `Schema.satisfies_iff_of_le`, `Schema.satisfies_of_lt` — the reading in terms of depth.
* `Schema.isValid_bareValidator_iff` — one step of compilation keeps the meaning.
* `Schema.kindSatisfies_mono` — one step of reading is monotone in the readings of the schemas in a
  node, and an answer is asked for less than a request.
* `Schema.isValid_compile_iff` — **the validator of a schema accepts the values that satisfy it.**
-/

namespace ApiTools

namespace Schema

/-! ### The reading -/

/-- Whether a node requires a property. -/
def Requires (node : Entries) (name : Scalar) : Prop :=
  ∃ names, requiredKeys node = .ok names ∧ names.any (·.alike name) = true

/-- What a node asks of a value by listing others; an answer need not be one of them. -/
def Listed (mode : Mode) (values : List Value) (x : Value) : Prop :=
  mode = .output ∨ ∃ v ∈ values, v.equals x = true

section

variable (satisfies : Value → Value → Prop) (mode : Mode) (node : Entries)

/-- What a node asks of the value of a declared property, given what satisfies the schemas in it.
In an answer, null stands for a property that need not be there. -/
def PropertySatisfies (name : Scalar) (schema y : Value) : Prop :=
  satisfies schema y ∨ (mode = .output ∧ ¬Requires node name ∧ y = .null)

/-- What a node asks of the value of an undeclared key. -/
def ExtraSatisfies (y : Value) : Prop :=
  mode = .output ∨ (extraSchema node).bare = .bool true ∨
    ((∃ es, (extraSchema node).bare = .map es) ∧ satisfies (extraSchema node) y)

/-- What a node asks of the entries of a map. -/
structure ObjectSatisfies (es : Entries) : Prop where
  /-- Each declared property that is required is there. -/
  present : ∀ p ∈ declaredProperties node, Requires node p.1 → es.hasKey p.1 = true
  /-- Each declared property that is there has a value as its schema asks. -/
  declared : ∀ p ∈ declaredProperties node, ∀ y, es.find? p.1 = some y →
    PropertySatisfies satisfies mode node p.1 p.2 y
  /-- Each other key has a value as the node asks of undeclared keys. -/
  undeclared : ∀ e ∈ es, (∀ p ∈ declaredProperties node, p.1.alike e.1 = false) →
    ExtraSatisfies satisfies mode node e.2

/-- What a node asks of a value by its kind. -/
def KindSatisfies (x : Value) : Prop :=
  match kind node with
  | .object => ∃ es, x = .map es ∧ ObjectSatisfies satisfies mode node es
  | .array =>
    ∃ items, x = .list items ∧
      ((itemSchema node).isTruthy = true → ∀ y ∈ items, satisfies (itemSchema node) y)
  | .string =>
    if allTexts (members node) then
      (∃ s, x = .text s) ∧ (members node = [] ∨ Listed mode (members node) x)
    else Listed mode (members node) x
  | .number => (∃ n, x = .int n) ∨ ∃ d, x = .double d
  | .boolean => ∃ b, x = .bool b
  | .enumeration => Listed mode (members node) x
  | .reference | .composite | .union | .unresolved => True

end

/-- A value satisfies a schema that is read with the given room, where the given references were
followed. -/
def Satisfies (document : Value) (mode : Mode) : Nat → Value → List String → Value → Prop
  | 0, _, _, _ => True
  | room + 1, schema, visited, x =>
    ∃ r, resolveWithin document (room + 1) schema visited = .ok r ∧
      (r.node = [] ∨ (x = .null ∧ isNullable r.node = true) ∨
        KindSatisfies (fun child y => Satisfies document mode room child r.visited y) mode r.node x)

variable {document schema x : Value} {mode : Mode} {depth : Int} {visited : List String}

/-- Below the greatest depth everything satisfies a schema. -/
theorem satisfies_of_lt (h : maxDepth < depth) :
    Satisfies document mode (room depth) schema visited x := by
  have hroom : room depth = 0 := by
    unfold room
    omega
  rw [hroom]
  trivial

/-- **The reading of a node down to the greatest depth**: a value satisfies a schema when the node
was cut, when the value is null and the node admits it, or when it is what the kind of the node asks
for, the schemas in the node being read one level deeper. -/
theorem satisfies_iff_of_le (h : depth ≤ maxDepth) :
    Satisfies document mode (room depth) schema visited x ↔
      ∃ r, resolve document schema visited depth = .ok r ∧
        (r.node = [] ∨ (x = .null ∧ isNullable r.node = true) ∨
          KindSatisfies
            (fun child y => Satisfies document mode (room (depth + 1)) child r.visited y)
            mode r.node x) := by
  have hroom : room depth = room (depth + 1) + 1 := by
    unfold room
    omega
  rw [resolve, hroom, Satisfies]

/-! ### Rules -/

theorem isRequired_ruleFor {required : List Scalar} {name : Scalar} {v : Validator} :
    (ruleFor mode required name v).isRequired = required.any (·.alike name) := by
  cases h : required.any (·.alike name) <;>
    simp [ruleFor, Rule.isRequired, Rule.required, Value.isTruthy, h]

theorem admitsNull_ruleFor {required : List Scalar} {name : Scalar} {v : Validator} :
    (ruleFor mode required name v).admitsNull = true ↔
      mode = .output ∧ required.any (·.alike name) = false := by
  rw [Rule.admitsNull, isRequired_ruleFor]
  cases h : required.any (·.alike name) <;> cases mode <;>
    simp [ruleFor, Rule.nullable, Value.isTruthy, h]

theorem accepts_ruleFor_iff {required : List Scalar} {name : Scalar} {v : Validator}
    {es : Entries} :
    (ruleFor mode required name v).Accepts es ↔
      (required.any (·.alike name) = true → es.hasKey name = true) ∧
      ∀ y, es.find? name = some y → v.isValid y = true ∨
        (mode = .output ∧ required.any (·.alike name) = false ∧ y = .null) := by
  rw [Rule.Accepts, isRequired_ruleFor, admitsNull_ruleFor]
  simp [ruleFor, Rule.name, Rule.validator, Value.scalar?, and_assoc]

/-! ### One step -/

theorem requires_iff {node : Entries} {names : List Scalar} (h : requiredKeys node = .ok names)
    (name : Scalar) : Requires node name ↔ names.any (·.alike name) = true := by
  simp [Requires, h]

/-- A property is required under all spellings of its name. -/
theorem requires_congr {node : Entries} {a b : Scalar} (h : a.alike b = true) :
    Requires node a ↔ Requires node b := by
  simp only [Requires, Scalar.alike_congr h]

theorem isPlain_declaredProperties {node : Entries} (h : (Value.map node).isPlain = true) :
    (Value.map (declaredProperties node)).isPlain = true := by
  unfold declaredProperties
  cases hproperties : node.get? "properties" with
  | none => rfl
  | some v =>
    have hv : v.isPlain = true := Value.isPlain_find? h hproperties
    rw [Option.map_some, Value.bare_of_isPlain hv]
    cases v with
    | map properties => exact hv
    | scalar | list | group | knot => rfl

section

variable {compileChild : Value → Except Fault Validator} {satisfies : Value → Value → Prop}
variable {node : Entries} {w : Validator}

theorem keys_of_forall₂ {required : List Scalar} {properties : Entries} {rules : List Rule}
    (h : List.Forall₂ (fun p rule => ∃ v, compileChild p.2 = .ok v ∧
      rule = ruleFor mode required p.1 v) properties rules) :
    Rule.keys rules = properties.map (·.1) := by
  induction h with
  | nil => rfl
  | cons hp _ ih =>
    obtain ⟨v, -, rfl⟩ := hp
    rw [List.map_cons, ← ih]
    rfl

/-- The policy of a node asks of undeclared keys what the node asks. -/
theorem accepts_extras_iff {es : Entries} (hnode : (Value.map node).isPlain = true)
    (hchild : ∀ c v, c.isPlain = true → compileChild c = .ok v →
      ∀ y, v.isValid y = true ↔ satisfies c y)
    {extras : Extras} (h : ExtrasOf compileChild mode node extras) :
    extras.Accepts ((declaredProperties node).map (·.1)) es ↔
      ∀ e ∈ es, (∀ p ∈ declaredProperties node, p.1.alike e.1 = false) →
        ExtraSatisfies satisfies mode node e.2 := by
  have hundeclared : ∀ Q : Value → Prop,
      (∀ e ∈ JsonSchema.undeclared ((declaredProperties node).map (·.1)) es, Q e.2) ↔
        ∀ e ∈ es, (∀ p ∈ declaredProperties node, p.1.alike e.1 = false) → Q e.2 := by
    intro Q
    simp only [JsonSchema.mem_undeclared_iff, List.forall_mem_map, and_imp]
  rw [← hundeclared]
  cases h with
  | answer hmode hextras =>
    subst hmode hextras
    simp [Extras.Accepts, ExtraSatisfies]
  | free hmode hbare hextras =>
    subst hmode hextras
    simp [Extras.Accepts, ExtraSatisfies, hbare]
  | typed hmode fs hbare v hv hextras =>
    subst hmode hextras
    have hiff : ∀ y, v.isValid y = true ↔ satisfies (extraSchema node) y :=
      hchild _ v (Value.isPlain_getD hnode _) hv
    simp [Extras.Accepts, ExtraSatisfies, hbare, hiff]
  | refused hmode hfree htyped hextras =>
    subst hmode hextras
    simp [Extras.Accepts, ExtraSatisfies, hfree, htyped, List.eq_nil_iff_forall_not_mem]

/-- **One step for maps**: a validator of maps accepts what the node asks for. -/
theorem isValid_objectValidator_iff (hnode : (Value.map node).isPlain = true)
    (hchild : ∀ c v, c.isPlain = true → compileChild c = .ok v →
      ∀ y, v.isValid y = true ↔ satisfies c y)
    (h : objectValidator compileChild mode node = .ok w) :
    w.isValid x = true ↔ ∃ es, x = .map es ∧ ObjectSatisfies satisfies mode node es := by
  obtain ⟨required, rules, extras, hrequired, hrules, hextras, rfl⟩ :=
    objectValidator_eq_ok_iff.mp h
  have hdeclared := Value.isPlain_map.mp (isPlain_declaredProperties hnode)
  have hkeys : Rule.keys rules = (declaredProperties node).map (·.1) := keys_of_forall₂ hrules
  have hdistinct : Rule.Distinct rules := by
    rw [Rule.Distinct, hkeys, List.pairwise_map]
    exact hdeclared.1
  rw [Validator.isValid_object hdistinct, hkeys]
  refine exists_congr fun (es : Entries) => and_congr_right fun _ => ?_
  -- A rule asks of the entries what the node asks of the property.
  have hrule : (∀ p ∈ declaredProperties node, (Requires node p.1 → es.hasKey p.1 = true) ∧
      ∀ y, es.find? p.1 = some y → PropertySatisfies satisfies mode node p.1 p.2 y) ↔
      ∀ rule ∈ rules, rule.Accepts es := by
    refine List.forall_mem_iff_of_forall₂ hrules ?_
    rintro p hp rule ⟨v, hv, rfl⟩
    rw [accepts_ruleFor_iff]
    simp only [requires_iff hrequired, PropertySatisfies, Bool.not_eq_true,
      hchild p.2 v (hdeclared.2 p hp) hv]
  have hextra : extras.Accepts ((declaredProperties node).map (·.1)) es ↔ _ :=
    accepts_extras_iff hnode hchild hextras
  constructor
  · rintro ⟨hrules, hextras⟩
    have hproperties := hrule.mpr hrules
    exact ⟨fun p hp => (hproperties p hp).1, fun p hp => (hproperties p hp).2, hextra.mp hextras⟩
  · rintro ⟨hpresent, hdeclared, hundeclared⟩
    exact ⟨hrule.mp fun p hp => ⟨hpresent p hp, hdeclared p hp⟩, hextra.mpr hundeclared⟩

theorem isValid_stringValidator_iff {values : List Value} :
    (stringValidator mode values).isValid x = true ↔
      if allTexts values then (∃ s, x = .text s) ∧ (values = [] ∨ Listed mode values x)
      else Listed mode values x := by
  unfold stringValidator
  cases values with
  | nil => simp [Validator.isValid_string, Validator.admits_string_iff, allTexts]
  | cons v values =>
    cases mode <;> cases hall : allTexts (v :: values) <;>
      simp [Validator.isValid_string, Validator.isValid_string_some, Validator.isValid_literal,
        Validator.isValid_any, Validator.admits_string_iff, Listed]

/-- **One step of compilation keeps the meaning**: if the validators of the schemas in a node accept
what satisfies these, then the validator of the node accepts what the kind of the node asks for. -/
theorem isValid_bareValidator_iff (hnode : (Value.map node).isPlain = true)
    (hchild : ∀ c v, c.isPlain = true → compileChild c = .ok v →
      ∀ y, v.isValid y = true ↔ satisfies c y)
    (h : bareValidator compileChild mode node = .ok w) :
    w.isValid x = true ↔ KindSatisfies satisfies mode node x := by
  unfold KindSatisfies
  cases bareValidator_eq_ok_iff.mp h with
  | object hkind required rules extras hrequired hrules hextras hw =>
    rw [hkind]
    exact isValid_objectValidator_iff hnode hchild (objectValidator_eq_ok_iff.mpr
      ⟨required, rules, extras, hrequired, hrules, hextras, hw⟩)
  | items hkind htruthy v hv hw =>
    have hiff : ∀ y, v.isValid y = true ↔ satisfies (itemSchema node) y :=
      hchild _ v (Value.isPlain_getD hnode _) hv
    rw [hkind, hw]
    simp [Validator.isValid_array, hiff, htruthy]
  | freeItems hkind hfalsy hw =>
    rw [hkind, hw]
    simp [Validator.isValid_array, Validator.isValid_any, hfalsy]
  | string hkind hw =>
    rw [hkind, hw]
    exact isValid_stringValidator_iff
  | number hkind hw =>
    rw [hkind, hw]
    exact Validator.isValid_number.trans Validator.admits_number_iff
  | boolean hkind hw =>
    rw [hkind, hw]
    exact Validator.isValid_boolean.trans Validator.admits_boolean_iff
  | listed hkind hmode hw | unlisted hkind hmode hw =>
    rw [hkind, hw]
    simp [Validator.isValid_literal, Validator.isValid_any, Listed, hmode]
  | free hkind hw =>
    subst hw
    refine iff_of_true Validator.isValid_any ?_
    rcases hkind with hkind | hkind | hkind | hkind <;> rw [hkind] <;> trivial

end

/-! ### Less strict readings -/

section

variable {node : Entries}

/-- A value at a name that is not null is held by the node. -/
theorem holds_getD {name : String} (h : (node.get? name).getD .null ≠ .null) :
    (Value.map node).Holds ((node.get? name).getD .null) := by
  cases hv : node.get? name with
  | none => exact absurd (by rw [hv]; rfl) h
  | some v => exact (Value.Holds.refl _).part (Value.part_find? hv)

/-- The schemas in a node are held by it. -/
theorem holds_of_inner {c : Value} (hc : Inner mode node c) : (Value.map node).Holds c := by
  cases hc with
  | property _ p hp =>
    unfold declaredProperties at hp
    split at hp
    · next properties hproperties =>
      obtain ⟨v, hv, hbare⟩ := Option.map_eq_some_iff.mp hproperties
      have hholds := ((Value.Holds.refl _).part (Value.part_find? hv)).trans (Value.holds_bare v)
      rw [hbare] at hholds
      exact hholds.part (.entry hp)
    · cases hp
  | extra _ _ es hbare =>
    refine holds_getD fun hnull => ?_
    rw [extraSchema, hnull] at hbare
    cases hbare
  | item _ htruthy =>
    refine holds_getD fun hnull => ?_
    rw [itemSchema, hnull] at htruthy
    cases htruthy

theorem isPlain_of_inner (hnode : (Value.map node).isPlain = true) {c : Value}
    (hc : Inner mode node c) : c.isPlain = true :=
  Value.isPlain_of_holds hnode (holds_of_inner hc)

variable {strict loose : Value → Value → Prop} {mode' : Mode}

theorem objectSatisfies_mono (hmode : mode' = mode ∨ mode' = .output)
    (hkind : kind node = .object) {es : Entries}
    (h : ∀ c, Inner mode' node c → ∀ y, (Value.map es).Part y → strict c y → loose c y)
    (hes : ObjectSatisfies strict mode node es) : ObjectSatisfies loose mode' node es where
  present := hes.present
  declared p hp y hy := by
    obtain ⟨e, he, -, rfl⟩ := Entries.exists_mem_of_find? hy
    rcases hes.declared p hp e.2 hy with hsat | ⟨houtput, hnull⟩
    · exact Or.inl (h p.2 (.property hkind p hp) e.2 (.entry he) hsat)
    · exact Or.inr ⟨hmode.elim (fun heq => heq.trans houtput) id, hnull⟩
  undeclared e he hdeclared := by
    cases mode' with
    | output => exact Or.inl rfl
    | input =>
      -- What is read as a request now was read as one before.
      obtain rfl : Mode.input = mode := hmode.elim id nofun
      rcases hes.undeclared e he hdeclared with houtput | hfree | ⟨⟨fs, hbare⟩, hsat⟩
      · cases houtput
      · exact Or.inr (Or.inl hfree)
      · exact Or.inr (Or.inr
          ⟨⟨fs, hbare⟩, h _ (.extra hkind rfl fs hbare) e.2 (.entry he) hsat⟩)

/-- **A node asks for less when the schemas in it do, or when it is read as an answer.** -/
theorem kindSatisfies_mono (hmode : mode' = mode ∨ mode' = .output)
    (h : ∀ c, Inner mode' node c → ∀ y, x.Part y → strict c y → loose c y)
    (hx : KindSatisfies strict mode node x) : KindSatisfies loose mode' node x := by
  have hlisted : ∀ values, Listed mode values x → Listed mode' values x := by
    rintro values (houtput | hmem)
    · exact Or.inl (hmode.elim (fun heq => heq.trans houtput) id)
    · exact Or.inr hmem
  unfold KindSatisfies at hx ⊢
  cases hkind : kind node with
  | object =>
    rw [hkind] at hx
    obtain ⟨es, rfl, hes⟩ := hx
    exact ⟨es, rfl, objectSatisfies_mono hmode hkind h hes⟩
  | array =>
    rw [hkind] at hx
    obtain ⟨items, rfl, hitems⟩ := hx
    refine ⟨items, rfl, fun htruthy y hy => ?_⟩
    exact h _ (.item hkind htruthy) y (.item hy) (hitems htruthy y hy)
  | string =>
    rw [hkind] at hx
    dsimp only at hx ⊢
    split
    · next hall =>
      rw [if_pos hall] at hx
      exact hx.imp_right (Or.imp_right (hlisted _))
    · next hall =>
      rw [if_neg hall] at hx
      exact hlisted _ hx
  | enumeration =>
    rw [hkind] at hx
    exact hlisted _ hx
  | number | boolean =>
    rw [hkind] at hx
    exact hx
  | reference | composite | union | unresolved => trivial

end

/-! ### Whole schemas -/

/-- The validator of a schema accepts what satisfies it, whatever room is left. -/
theorem isValid_compileWithin_iff {room : Nat} {v : Validator} (hdocument : document.isPlain = true)
    (hschema : schema.isPlain = true) (h : compileWithin document mode room schema visited = .ok v)
    (x : Value) : v.isValid x = true ↔ Satisfies document mode room schema visited x := by
  -- The schemas in a node are read with one level less, so that the induction is on the room.
  induction room generalizing schema visited v x with
  | zero =>
    cases h
    exact iff_of_true Validator.isValid_any trivial
  | succ room ih =>
    rw [Satisfies]
    cases compileWithin_succ_iff.mp h with
    | cut r hr hnil hv =>
      subst hv
      exact iff_of_true Validator.isValid_any ⟨r, hr, Or.inl hnil⟩
    | built r hr hne bare described hbare hdescribed hv =>
      subst hv
      have hnode := isPlain_resolveWithin hdocument hschema hr
      have hbare := isValid_bareValidator_iff (x := x) hnode (fun c v hc hv => ih hc hv) hbare
      rw [isValid_withNull_described hdescribed, hbare]
      simp [hr, hne]

/-- **The validator of a schema accepts exactly the values that satisfy the schema**, for every
plain document and at every depth and set of references followed. -/
theorem isValid_compile_iff (hdocument : document.isPlain = true) (hschema : schema.isPlain = true)
    {v : Validator} (h : compile document schema mode depth visited = .ok v) (x : Value) :
    v.isValid x = true ↔ Satisfies document mode (room depth) schema visited x :=
  isValid_compileWithin_iff hdocument hschema h x

/-! ### A composition with a named schema -/

/-- A document with one named schema, of maps that may have an identifier. -/
def baseDocument : Value :=
  .record [("components", .record [("schemas", .record [("Base",
    .record [("type", .text "object"),
      ("properties", .record [("id", .record [("type", .text "string")])])])])])]

/-- The reference to the named schema. -/
def baseReference : String := "#/components/schemas/Base"

/-- The named schema, composed with one of maps that may have a name. -/
def extendedSchema : Value :=
  .record [("allOf", .list [.record [("$ref", .text baseReference)],
    .record [("type", .text "object"),
      ("properties", .record [("name", .record [("type", .text "string")])])]])]

/-- The rule of a text that need not be there. -/
def optionalText (name : String) : Rule :=
  .mk (.text name) (.string .null none) (.bool false) (.bool false)

/-- The strict validator of the composition. -/
def extendedValidator : Validator :=
  .object .null [optionalText "id", optionalText "name"] (.reject none)

/-- A map with an identifier satisfies the composition, one with null in its place does not. -/
theorem satisfies_extendedSchema :
    baseDocument.isPlain = true ∧ extendedSchema.isPlain = true ∧
      compile baseDocument extendedSchema .input 0 [] = .ok extendedValidator ∧
      Satisfies baseDocument .input (room 0) extendedSchema [] (.record [("id", .text "x")]) ∧
      ¬ Satisfies baseDocument .input (room 0) extendedSchema [] (.record [("id", .null)]) := by
  have hcompile : compile baseDocument extendedSchema .input 0 [] = .ok extendedValidator := rfl
  have hiff := isValid_compile_iff (by decide) (by decide) hcompile
  refine ⟨by decide, by decide, hcompile, (hiff _).mp (by decide), fun h => ?_⟩
  exact absurd ((hiff _).mpr h) (by decide)

end Schema

end ApiTools
