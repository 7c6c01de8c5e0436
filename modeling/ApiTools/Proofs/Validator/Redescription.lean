import ApiTools.Proofs.Validator.Parts
import ApiTools.Proofs.Validator.Record

/-!
# Other descriptions all over a validator

The descriptions of a validator and of all its parts can be replaced at once.  That leaves the tree as
it is: the same parts, names and flags.  So it leaves what is accepted as it is, also where several
rules of a map share a name and only one of them becomes a property of the schema.

To put null for every description that does not count as given is one such change, and a small one:
neither the record nor the schema of a validator shows it.

## Main definitions

* `Validator.redescribe` — the validator with every description replaced.

## Main results

* `Validator.redescribe_eq_self_iff` — which validators a change of descriptions leaves alone.
* `Validator.isValid_redescribe` — **no change of descriptions changes what is accepted.**
* `Validator.toRecord_tidy`, `Validator.schema?_tidy` — **a tidy validator has the same record and
  the same schema.**
-/

namespace ApiTools

namespace Validator

/-! ### Replacing descriptions -/

mutual

/-- The validator with every description in it replaced. -/
def redescribe (f : Value → Value) : Validator → Validator
  | .any d => .any (f d)
  | .string d allowed => .string (f d) allowed
  | .literal d values => .literal (f d) values
  | .number d => .number (f d)
  | .boolean d => .boolean (f d)
  | .array d items => .array (f d) (redescribe f items)
  | .nullable d inner => .nullable (f d) (redescribe f inner)
  | .object d rules extras => .object (f d) (redescribeRules f rules) (redescribeExtras f extras)

/-- The rules with the descriptions of their validators replaced. -/
def redescribeRules (f : Value → Value) : List Rule → List Rule
  | [] => []
  | .mk name validator req nul :: rules =>
    .mk name (redescribe f validator) req nul :: redescribeRules f rules

/-- The policy with the descriptions of its validator replaced. -/
def redescribeExtras (f : Value → Value) : Extras → Extras
  | .reject none => .reject none
  | .reject (some validator) => .reject (some (redescribe f validator))
  | .allow none => .allow none
  | .allow (some validator) => .allow (some (redescribe f validator))
  | .typed validator => .typed (redescribe f validator)

end

end Validator

/-- The rule with the descriptions of its validator replaced. -/
def Rule.redescribe (f : Value → Value) (rule : Rule) : Rule :=
  .mk rule.name (rule.validator.redescribe f) rule.required rule.nullable

/-- The policy with the descriptions of its validator replaced. -/
def Extras.redescribe (f : Value → Value) (extras : Extras) : Extras :=
  Validator.redescribeExtras f extras

section

variable {f : Value → Value}

@[simp]
theorem Rule.name_redescribe (rule : Rule) : (rule.redescribe f).name = rule.name := rfl

@[simp]
theorem Rule.validator_redescribe (rule : Rule) :
    (rule.redescribe f).validator = rule.validator.redescribe f := rfl

@[simp]
theorem Rule.isRequired_redescribe (rule : Rule) :
    (rule.redescribe f).isRequired = rule.isRequired := rfl

@[simp]
theorem Rule.admitsNull_redescribe (rule : Rule) :
    (rule.redescribe f).admitsNull = rule.admitsNull := rfl

/-- A rule stays as it is when its validator does. -/
theorem Rule.redescribe_eq_self_iff {rule : Rule} :
    rule.redescribe f = rule ↔ rule.validator.redescribe f = rule.validator := by
  obtain ⟨name, v, req, nul⟩ := rule
  simp [Rule.redescribe, Rule.validator, Rule.name, Rule.required, Rule.nullable]

@[simp]
theorem Extras.policy_redescribe (extras : Extras) :
    (extras.redescribe f).policy = extras.policy := by
  rcases extras with (_ | v) | (_ | v) | v <;> rfl

@[simp]
theorem Extras.validator?_redescribe (extras : Extras) :
    (extras.redescribe f).validator? = extras.validator?.map (Validator.redescribe f) := by
  rcases extras with (_ | v) | (_ | v) | v <;> rfl

/-- A policy stays as it is when its validator does. -/
theorem Extras.redescribe_eq_self_iff {extras : Extras} :
    extras.redescribe f = extras ↔
      ∀ v, extras.validator? = some v → v.redescribe f = v := by
  rcases extras with (_ | v) | (_ | v) | v <;>
    simp [Extras.redescribe, Validator.redescribeExtras, Extras.validator?]

end

namespace Validator

section

variable {f : Value → Value} {v : Validator}

theorem redescribeRules_eq_map (rules : List Rule) :
    redescribeRules f rules = rules.map (Rule.redescribe f) := by
  induction rules with
  | nil => rfl
  | cons rule rules ih =>
    obtain ⟨name, v, req, nul⟩ := rule
    rw [redescribeRules, ih]
    rfl

/-- A validator of maps is redescribed rule by rule. -/
theorem redescribe_object (d : Value) (rules : List Rule) (extras : Extras) :
    (object d rules extras).redescribe f =
      .object (f d) (rules.map (Rule.redescribe f)) (extras.redescribe f) := by
  rw [redescribe, redescribeRules_eq_map]
  rfl

theorem kindName_redescribe (v : Validator) : (v.redescribe f).kindName = v.kindName := by
  cases v <;> simp [redescribe, kindName]

theorem description_redescribe (v : Validator) :
    (v.redescribe f).description = f v.description := by
  cases v <;> simp [redescribe, description]

/-- Another description above is lost. -/
theorem redescribe_withDescription {d : Value} (h : f d = f v.description) :
    (v.withDescription d).redescribe f = v.redescribe f := by
  cases v <;> simp [withDescription, redescribe, h, description]

/-- **A change of descriptions leaves a validator alone when it leaves the description of each part
alone.** -/
theorem redescribe_eq_self_iff :
    v.redescribe f = v ↔ ∀ w, v.Part w → f w.description = w.description := by
  induction v using inductionOn with
  | any d | string d allowed | literal d values | number d | boolean d =>
    rw [forall_part_iff]
    simp [redescribe, description, children]
  | array d items ih =>
    rw [forall_part_iff, redescribe, array.injEq, ih]
    simp [description, children]
  | nullable d inner ih =>
    rw [forall_part_iff, redescribe, nullable.injEq, ih]
    simp [description, children]
  | object d rules extras ihRules ihExtras =>
    have hrules : rules.map (Rule.redescribe f) = rules ↔
        ∀ rule ∈ rules, ∀ w, rule.validator.Part w → f w.description = w.description := by
      have hmap : rules.map (Rule.redescribe f) = rules ↔
          ∀ rule ∈ rules, rule.redescribe f = rule := by
        simpa using List.map_inj_left (l := rules) (f := Rule.redescribe f) (g := id)
      rw [hmap]
      refine forall₂_congr fun rule hrule => ?_
      rw [Rule.redescribe_eq_self_iff, ihRules rule hrule]
    have hextras : extras.redescribe f = extras ↔ ∀ v, extras.validator? = some v →
        ∀ w, v.Part w → f w.description = w.description := by
      rw [Extras.redescribe_eq_self_iff]
      exact forall₂_congr fun v hv => ihExtras v hv
    rw [forall_part_iff, redescribe_object, object.injEq, hrules, hextras]
    refine and_congr Iff.rfl ?_
    simp only [mem_children_object]
    constructor
    · rintro ⟨hrules, hextras⟩ c (⟨rule, hrule, rfl⟩ | hc)
      · exact hrules rule hrule
      · exact hextras c hc
    · intro h
      exact ⟨fun rule hrule => h _ (.inl ⟨rule, hrule, rfl⟩), fun v hv => h v (.inr hv)⟩

/-! ### Names and keys -/

theorem rulesHaveKeys_iff {rules : List Rule} :
    rulesHaveKeys rules = true ↔
      ∀ rule ∈ rules, rule.name.scalar?.isSome = true ∧ rule.validator.hasKeys = true := by
  induction rules with
  | nil => simp [rulesHaveKeys]
  | cons rule rules ih =>
    obtain ⟨name, v, req, nul⟩ := rule
    rw [rulesHaveKeys, Bool.and_eq_true, Bool.and_eq_true, ih, List.forall_mem_cons]
    exact Iff.rfl

/-- Names do not change with descriptions. -/
theorem hasKeys_redescribe (v : Validator) : (v.redescribe f).hasKeys = v.hasKeys := by
  induction v using inductionOn with
  | any d | string d allowed | literal d values | number d | boolean d =>
    simp [redescribe, hasKeys]
  | array d items ih | nullable d inner ih => simpa [redescribe, hasKeys] using ih
  | object d rules extras ihRules ihExtras =>
    have hrules : rulesHaveKeys (rules.map (Rule.redescribe f)) = rulesHaveKeys rules := by
      rw [Bool.eq_iff_iff, rulesHaveKeys_iff, rulesHaveKeys_iff, List.forall_mem_map]
      refine forall₂_congr fun rule hrule => ?_
      rw [Rule.name_redescribe, Rule.validator_redescribe, ihRules rule hrule]
    have hextras : extrasHaveKeys (extras.redescribe f) = extrasHaveKeys extras := by
      rcases extras with (_ | v) | (_ | v) | v
      · rfl
      · rfl
      · rfl
      · rfl
      · exact ihExtras v rfl
    rw [redescribe_object, hasKeys, hasKeys, hrules, hextras]

theorem requiredKeywords_redescribe (rules : List Rule) :
    requiredKeywords (rules.map (Rule.redescribe f)) = requiredKeywords rules := by
  have hnames : requiredNames (rules.map (Rule.redescribe f)) = requiredNames rules := by
    rw [requiredNames, requiredNames, List.filter_map, List.map_map]
    rfl
  rw [requiredKeywords, requiredKeywords, hnames]

/-! ### What is accepted -/

/-- A policy asks the same of undeclared keys. -/
theorem accepts_redescribe {extras : Extras} {declared : List Scalar} {es : Entries}
    (h : ∀ v, extras.validator? = some v → ∀ x, (v.redescribe f).isValid x = v.isValid x) :
    (extras.redescribe f).Accepts declared es ↔ extras.Accepts declared es := by
  rcases extras with (_ | v) | (_ | v) | v
  · exact Iff.rfl
  · exact Iff.rfl
  · exact Iff.rfl
  · exact Iff.rfl
  · exact forall₂_congr fun e _ => by rw [h v rfl]

/-! ### The schema -/

/-- Two properties are checked alike: they have one key, and their schemas accept the same. -/
def ChecksAlike (p q : Scalar × JsonSchema) : Prop :=
  p.1 = q.1 ∧ ∀ x, p.2.isValid x = q.2.isValid x

theorem checksAlike_putSchema {schemas others : List (Scalar × JsonSchema)}
    {p q : Scalar × JsonSchema} (h : List.Forall₂ ChecksAlike schemas others)
    (hpq : ChecksAlike p q) :
    List.Forall₂ ChecksAlike (putSchema schemas p.1 p.2) (putSchema others q.1 q.2) := by
  obtain ⟨key, schema⟩ := p
  obtain ⟨key', schema'⟩ := q
  obtain ⟨rfl, hsame⟩ : key = key' ∧ _ := hpq
  have hany : (schemas.any fun e => e.1.alike key) = others.any fun e => e.1.alike key := by
    induction h with
    | nil => rfl
    | cons hhead _ ih => rw [List.any_cons, List.any_cons, ih, hhead.1]
  unfold putSchema
  rw [hany]
  split
  · -- The key is there: the schema at it is replaced in both.
    refine List.forall₂_map_left_iff.mpr (List.forall₂_map_right_iff.mpr (h.imp ?_))
    rintro ⟨k, own⟩ ⟨k', own'⟩ ⟨rfl, hown⟩
    dsimp only
    split
    · exact ⟨rfl, hsame⟩
    · exact ⟨rfl, hown⟩
  · exact List.rel_append h (.cons ⟨rfl, hsame⟩ .nil)

/-- Properties that are checked alike are still so once they have been put in one after the
other. -/
theorem checksAlike_collectSchemas {schemas others : List (Scalar × JsonSchema)}
    (h : List.Forall₂ ChecksAlike schemas others) :
    List.Forall₂ ChecksAlike (collectSchemas schemas) (collectSchemas others) := by
  have key : ∀ {done done' : List (Scalar × JsonSchema)}, List.Forall₂ ChecksAlike done done' →
      List.Forall₂ ChecksAlike (schemas.foldl (fun all e => putSchema all e.1 e.2) done)
        (others.foldl (fun all e => putSchema all e.1 e.2) done') := by
    induction h with
    | nil => exact id
    | cons hhead _ ih => exact fun hdone => ih (checksAlike_putSchema hdone hhead)
  exact key .nil

/-- The properties of rules are checked alike when their validators accept the same. -/
theorem checksAlike_ruleSchemas {rules : List Rule}
    (h : ∀ rule ∈ rules, ∀ x, (rule.validator.redescribe f).isValid x = rule.validator.isValid x) :
    List.Forall₂ ChecksAlike (ruleSchemas (rules.map (Rule.redescribe f))) (ruleSchemas rules) := by
  induction rules with
  | nil => exact .nil
  | cons rule rules ih =>
    obtain ⟨hrule, hrules⟩ := List.forall_mem_cons.mp h
    have hschema : ∀ x, (rule.redescribe f).schema.isValid x = rule.schema.isValid x := by
      intro x
      rw [Bool.eq_iff_iff, isValid_ruleSchema, isValid_ruleSchema, Rule.validator_redescribe,
        Rule.admitsNull_redescribe, hrule x]
    have ih := ih hrules
    rw [ruleSchemas_eq, ruleSchemas_eq] at ih ⊢
    rw [List.map_cons, List.filterMap_cons, List.filterMap_cons, Rule.name_redescribe]
    cases rule.name.scalar? with
    | none => exact ih
    | some key => exact .cons ⟨rfl, hschema⟩ ih

theorem map_fst_eq_of_checksAlike {schemas others : List (Scalar × JsonSchema)}
    (h : List.Forall₂ ChecksAlike schemas others) : schemas.map (·.1) = others.map (·.1) := by
  induction h with
  | nil => rfl
  | cons hhead _ ih => rw [List.map_cons, List.map_cons, ih, hhead.1]

theorem holds_of_checksAlike {schemas others : List (Scalar × JsonSchema)} {es : Entries}
    (h : List.Forall₂ ChecksAlike schemas others) :
    (∀ p ∈ schemas, ∀ y, es.find? p.1 = some y → p.2.isValid y = true) ↔
      ∀ p ∈ others, ∀ y, es.find? p.1 = some y → p.2.isValid y = true := by
  induction h with
  | nil => simp
  | cons hhead _ ih =>
    obtain ⟨hkey, hsame⟩ := hhead
    rw [List.forall_mem_cons, List.forall_mem_cons, ih, hkey]
    simp only [hsame]

/-- A map is accepted by what its rules, as properties of the schema, and its policy ask for. -/
theorem isValid_object_map_iff {d : Value} {rules : List Rule} {extras : Extras} {es : Entries} :
    (object d rules extras).isValid (.map es) = true ↔
      (∀ p ∈ collectSchemas (ruleSchemas rules), ∀ y, es.find? p.1 = some y →
        p.2.isValid y = true) ∧
      (∀ rule ∈ rules, rule.isRequired = true → rule.name.scalar?.any es.hasKey = true) ∧
      extras.Accepts ((collectSchemas (ruleSchemas rules)).map (·.1)) es := by
  rw [isValid_iff_of_schema (schema_object rules extras), List.forall_mem_cons,
    List.forall_mem_cons, List.forall_mem_append, holds_requiredKeywords_iff,
    holds_extrasKeywords_iff]
  exact and_iff_right rfl

/-- **No change of descriptions changes what is accepted.** -/
theorem isValid_redescribe (v : Validator) (x : Value) :
    (v.redescribe f).isValid x = v.isValid x := by
  rw [Bool.eq_iff_iff]
  induction v using inductionOn generalizing x with
  | any d => exact iff_of_true isValid_any isValid_any
  | string d allowed =>
    cases allowed with
    | none => exact isValid_string.trans isValid_string.symm
    | some allowed => exact isValid_string_some.trans isValid_string_some.symm
  | literal d values => exact isValid_literal.trans isValid_literal.symm
  | number d => exact isValid_number.trans isValid_number.symm
  | boolean d => exact isValid_boolean.trans isValid_boolean.symm
  | array d items ih =>
    rw [redescribe, isValid_array, isValid_array]
    simp only [ih]
  | nullable d inner ih =>
    rw [redescribe, isValid_nullable, isValid_nullable, ih]
  | object d rules extras ihRules ihExtras =>
    rw [redescribe_object]
    have hsame := checksAlike_collectSchemas (checksAlike_ruleSchemas (f := f) fun rule hrule x =>
      Bool.eq_iff_iff.mpr (ihRules rule hrule x))
    by_cases hx : ∃ es, x = .map es
    · obtain ⟨es, rfl⟩ := hx
      rw [isValid_object_map_iff, isValid_object_map_iff]
      refine and_congr (holds_of_checksAlike hsame) (and_congr ?_ ?_)
      · rw [List.forall_mem_map]
        exact Iff.rfl
      · rw [map_fst_eq_of_checksAlike hsame]
        exact accepts_redescribe fun v hv x => Bool.eq_iff_iff.mpr (ihExtras v hv x)
    · -- What is no map is accepted by neither.
      exact iff_of_false (fun h => hx (exists_map_of_isValid_object h))
        fun h => hx (exists_map_of_isValid_object h)

/-- A change that leaves the keyword of each description alone leaves the schema alone. -/
theorem schema_redescribe (hf : ∀ d, descriptionKeywords (f d) = descriptionKeywords d)
    (v : Validator) : (v.redescribe f).schema = v.schema := by
  induction v using inductionOn with
  | any d | literal d values | number d | boolean d => simp [redescribe, schema, hf]
  | string d allowed => cases allowed <;> simp [redescribe, schema, hf]
  | array d items ih | nullable d inner ih => simp [redescribe, schema, hf, ih]
  | object d rules extras ihRules ihExtras =>
    have hrules : ruleSchemas (rules.map (Rule.redescribe f)) = ruleSchemas rules := by
      rw [ruleSchemas_eq, ruleSchemas_eq, List.filterMap_map]
      refine List.filterMap_congr fun rule hrule => ?_
      simp [Rule.schema, ihRules rule hrule]
    have hextras : extrasKeywords (extras.redescribe f) = extrasKeywords extras := by
      rcases extras with (_ | v) | (_ | v) | v
      · rfl
      · rfl
      · rfl
      · rfl
      · exact congrArg (fun schema => [Keyword.additional schema]) (ihExtras v rfl)
    rw [redescribe_object, schema_object, schema_object, hrules, hextras,
      requiredKeywords_redescribe, hf]

/-- Then the schema can be written as before, or fails as before. -/
theorem schema?_redescribe (hf : ∀ d, descriptionKeywords (f d) = descriptionKeywords d)
    (v : Validator) : (v.redescribe f).schema? = v.schema? := by
  rw [schema?, schema?, hasKeys_redescribe, schema_redescribe hf]

/-! ### Records -/

/-- A change that keeps the descriptions that count as given, and makes up none, leaves the record
alone. -/
theorem toRecord_redescribe
    (hf : ∀ d, (f d).isTruthy = d.isTruthy ∧ (d.isTruthy = true → f d = d)) (v : Validator) :
    (v.redescribe f).toRecord = v.toRecord := by
  have hhead : ∀ v, headFields (redescribe f v) = headFields v := by
    intro v
    obtain ⟨htruthy, hsame⟩ := hf v.description
    rw [headFields, headFields, kindName_redescribe, description_redescribe, htruthy]
    cases hd : v.description.isTruthy with
    | false => rfl
    | true => rw [hsame hd]
  -- The fields behind the head hold the records of the parts.
  induction v using inductionOn with
  | any d | string d allowed | literal d values | number d | boolean d =>
    rw [toRecord_eq_map, toRecord_eq_map, recordEntries, recordEntries, hhead]
    rfl
  | array d items ih | nullable d inner ih =>
    rw [toRecord_eq_map, toRecord_eq_map, recordEntries, recordEntries, hhead, redescribe, tailFields,
      tailFields, ih]
  | object d rules extras ihRules ihExtras =>
    have hrules : ruleRecords (rules.map (Rule.redescribe f)) = ruleRecords rules := by
      rw [ruleRecords_eq_map, ruleRecords_eq_map, List.map_map]
      refine List.map_congr_left fun rule hrule => ?_
      rw [Function.comp_apply, Rule.toRecord, Rule.validator_redescribe, ihRules rule hrule]
      rfl
    have hextras : extrasFields (extras.redescribe f) = extrasFields extras := by
      rw [extrasFields_eq, extrasFields_eq, Extras.validator?_redescribe]
      cases hv : extras.validator? with
      | none => rfl
      | some v => simp [ihExtras v hv]
    rw [toRecord_eq_map, toRecord_eq_map, recordEntries, recordEntries, hhead, redescribe_object,
      tailFields, tailFields, hrules, hextras, Extras.policy_redescribe]

/-! ### Tidy validators -/

/-- Tidying is a change of descriptions. -/
theorem tidy_eq_redescribe (v : Validator) : v.tidy = v.redescribe (·.orElse .null) := by
  induction v using inductionOn with
  | any | string | literal | number | boolean => simp [tidy, redescribe]
  | array d items ih | nullable d inner ih => rw [tidy, redescribe, ih]
  | object d rules extras ihRules ihExtras =>
    have hrules : rules.map Rule.tidy = rules.map (Rule.redescribe (·.orElse .null)) := by
      refine List.map_congr_left fun rule hrule => ?_
      rw [Rule.tidy, Rule.redescribe, ihRules rule hrule]
    have hextras : tidyExtras extras = extras.redescribe (·.orElse .null) := by
      rcases extras with (_ | v) | (_ | v) | v
      · rfl
      · exact congrArg (fun v => Extras.reject (some v)) (ihExtras v rfl)
      · rfl
      · exact congrArg (fun v => Extras.allow (some v)) (ihExtras v rfl)
      · exact congrArg Extras.typed (ihExtras v rfl)
    rw [tidy, redescribe_object, tidyRules_eq_map, hrules, hextras]

/-- A validator is tidy when no part has a description that is neither null nor counts as given. -/
theorem tidy_eq_self_iff :
    v.tidy = v ↔ ∀ w, v.Part w → w.description = .null ∨ w.description.isTruthy = true := by
  rw [tidy_eq_redescribe, redescribe_eq_self_iff]
  refine forall₂_congr fun w _ => ?_
  unfold Value.orElse
  cases w.description.isTruthy with
  | true => simp
  | false => simp [eq_comm]

/-- **A tidy validator has the same record.** -/
theorem toRecord_tidy (v : Validator) : v.tidy.toRecord = v.toRecord := by
  rw [tidy_eq_redescribe]
  refine toRecord_redescribe (fun d => ?_) v
  unfold Value.orElse
  cases hd : d.isTruthy with
  | true => simp [hd]
  | false => simp [Value.isTruthy]

/-- **A tidy validator has the same schema**, or none if there was none. -/
theorem schema?_tidy (v : Validator) : v.tidy.schema? = v.schema? := by
  rw [tidy_eq_redescribe]
  refine schema?_redescribe (fun d => ?_) v
  unfold Value.orElse descriptionKeywords
  cases hd : d.isTruthy with
  | true => simp [hd]
  | false => simp [Value.isTruthy]

end

end Validator

end ApiTools
