import ApiTools.Proofs.JsonSchema.Meaning
import ApiTools.Proofs.Value.Entries
import ApiTools.Validator.Schema

/-!
# What a validator accepts

A value is checked through the schema of a validator.  Read off the keywords of that schema, a
validator accepts a value according to its kind: there is one statement for each kind, and none of
them mentions a schema any more.

A map of rules becomes a map of properties in the schema, so it says what the rules say only while
no two rules have one name.

## Main definitions

* `Rule.keys`, `Rule.Distinct` — the names of rules, and that no two are alike.
* `Rule.Accepts`, `Extras.Accepts` — what a rule and a policy ask of the entries of a map.

## Main results

* `Validator.isValid_string`, …, `Validator.isValid_nullable` — the kinds other than maps.
* `Validator.isValid_object` — **a map is accepted when it keeps each rule and the policy.**
* `Validator.isValid_withDescription` — a description is no check.
-/

namespace ApiTools

open JsonSchema

namespace Rule

/-- The names of rules, as keys. -/
def keys (rules : List Rule) : List Scalar := rules.filterMap (·.name.scalar?)

/-- No two rules have one name. -/
def Distinct (rules : List Rule) : Prop := (keys rules).Pairwise fun k l => k.alike l = false

/-- What a rule asks of the entries of a map: its property is there if it has to be, and has a value
that is accepted, or null in its place. -/
def Accepts (rule : Rule) (es : Entries) : Prop :=
  (rule.isRequired = true → rule.name.scalar?.any es.hasKey = true) ∧
  ∀ key ∈ rule.name.scalar?, ∀ y, es.find? key = some y →
    rule.validator.isValid y = true ∨ (rule.admitsNull = true ∧ y = .null)

/-- The schema of the property of a rule. -/
def schema (rule : Rule) : JsonSchema :=
  if rule.admitsNull then .mk [.anyOf [rule.validator.schema, Validator.nullSchema]]
  else rule.validator.schema

end Rule

/-- What a policy asks of the entries of a map that are not declared. -/
def Extras.Accepts (declared : List Scalar) (es : Entries) : Extras → Prop
  | .reject _ => undeclared declared es = []
  | .allow _ => True
  | .typed v => ∀ e ∈ undeclared declared es, v.isValid e.2 = true

namespace Validator

/-! ### Schemas and descriptions -/

theorem isValid_nullSchema {x : Value} : nullSchema.isValid x = true ↔ x = .null := by
  rw [nullSchema, JsonSchema.isValid_iff, List.forall_mem_singleton, Keyword.Holds]
  cases x with
  | scalar s => cases s <;> simp [TypeName.admits]
  | list | map | group | knot => simp [TypeName.admits]

/-- A description is no check. -/
theorem holds_descriptionKeywords {d : Value} {declared : List Scalar} {x : Value} :
    ∀ k ∈ descriptionKeywords d, k.Holds declared x := by
  intro k hk
  unfold descriptionKeywords at hk
  split at hk
  · rw [List.mem_singleton.mp hk]
    trivial
  · cases hk

theorem forall_mem_append_description {keywords : List Keyword} {d : Value}
    {declared : List Scalar} {x : Value} :
    (∀ k ∈ keywords ++ descriptionKeywords d, k.Holds declared x) ↔
      ∀ k ∈ keywords, k.Holds declared x := by
  rw [List.forall_mem_append]
  exact and_iff_left holds_descriptionKeywords

/-- Only the keywords beside the description are a check. -/
theorem isValid_iff_of_schema {v : Validator} {keywords : List Keyword} {d : Value}
    (h : v.schema = .mk (keywords ++ descriptionKeywords d)) (x : Value) :
    v.isValid x = true ↔
      ∀ k ∈ keywords, k.Holds (declaredKeys (keywords ++ descriptionKeywords d)) x := by
  rw [isValid, h, JsonSchema.isValid_iff, forall_mem_append_description]

/-! ### The kinds other than maps -/

variable {d x : Value}

theorem isValid_any : (any d).isValid x = true := by
  have h : (any d).schema = .mk ([] ++ descriptionKeywords d) := rfl
  rw [isValid_iff_of_schema h]
  exact List.forall_mem_nil _

theorem isValid_string :
    (string d none).isValid x = true ↔ TypeName.string.admits x = true := by
  have h : (string d none).schema = .mk ([Keyword.type .string] ++ descriptionKeywords d) := rfl
  rw [isValid_iff_of_schema h, List.forall_mem_singleton]
  exact Iff.rfl

theorem isValid_string_some {allowed : List Value} :
    (string d (some allowed)).isValid x = true ↔
      TypeName.string.admits x = true ∧ ∃ m ∈ allowed, m.equals x = true := by
  have h : (string d (some allowed)).schema =
      .mk ([Keyword.type .string, .enum allowed] ++ descriptionKeywords d) := rfl
  rw [isValid_iff_of_schema h, List.forall_mem_cons, List.forall_mem_singleton]
  exact Iff.rfl

theorem isValid_literal {values : List Value} :
    (literal d values).isValid x = true ↔ ∃ m ∈ values, m.equals x = true := by
  have h : (literal d values).schema = .mk ([Keyword.enum values] ++ descriptionKeywords d) := rfl
  rw [isValid_iff_of_schema h, List.forall_mem_singleton]
  exact Iff.rfl

theorem isValid_number :
    (number d).isValid x = true ↔ TypeName.number.admits x = true := by
  have h : (number d).schema = .mk ([Keyword.type .number] ++ descriptionKeywords d) := rfl
  rw [isValid_iff_of_schema h, List.forall_mem_singleton]
  exact Iff.rfl

theorem isValid_boolean :
    (boolean d).isValid x = true ↔ TypeName.boolean.admits x = true := by
  have h : (boolean d).schema = .mk ([Keyword.type .boolean] ++ descriptionKeywords d) := rfl
  rw [isValid_iff_of_schema h, List.forall_mem_singleton]
  exact Iff.rfl

theorem admits_string_iff : TypeName.string.admits x = true ↔ ∃ s, x = .text s := by
  cases x with
  | scalar s => cases s <;> simp [TypeName.admits]
  | list | map | group | knot => simp [TypeName.admits]

theorem admits_number_iff :
    TypeName.number.admits x = true ↔ (∃ n, x = .int n) ∨ ∃ a, x = .double a := by
  cases x with
  | scalar s => cases s <;> simp [TypeName.admits]
  | list | map | group | knot => simp [TypeName.admits]

theorem admits_boolean_iff : TypeName.boolean.admits x = true ↔ ∃ b, x = .bool b := by
  cases x with
  | scalar s => cases s <;> simp [TypeName.admits]
  | list | map | group | knot => simp [TypeName.admits]

theorem admits_array_iff : TypeName.array.admits x = true ↔ ∃ items, x = .list items := by
  cases x <;> simp [TypeName.admits]

theorem admits_object_iff : TypeName.object.admits x = true ↔ ∃ es, x = .map es := by
  cases x <;> simp [TypeName.admits]

theorem isValid_array {items : Validator} :
    (array d items).isValid x = true ↔
      ∃ ys, x = .list ys ∧ ∀ y ∈ ys, items.isValid y = true := by
  have h : (array d items).schema =
      .mk ([Keyword.type .array, .items items.schema] ++ descriptionKeywords d) := rfl
  have hkeywords : (array d items).isValid x = true ↔
      TypeName.array.admits x = true ∧ ∀ y ∈ itemsOf x, items.isValid y = true := by
    rw [isValid_iff_of_schema h, List.forall_mem_cons, List.forall_mem_singleton]
    exact Iff.rfl
  rw [hkeywords, admits_array_iff]
  constructor
  · rintro ⟨⟨ys, rfl⟩, h⟩
    exact ⟨ys, rfl, h⟩
  · rintro ⟨ys, rfl, h⟩
    exact ⟨⟨ys, rfl⟩, h⟩

theorem isValid_nullable {inner : Validator} :
    (nullable d inner).isValid x = true ↔ x = .null ∨ inner.isValid x = true := by
  have h : (nullable d inner).schema =
      .mk ([Keyword.anyOf [inner.schema, nullSchema]] ++ descriptionKeywords d) := rfl
  have hkeywords : (nullable d inner).isValid x = true ↔
      ∃ schema ∈ [inner.schema, nullSchema], schema.isValid x = true := by
    rw [isValid_iff_of_schema h, List.forall_mem_singleton]
    exact Iff.rfl
  rw [hkeywords, List.exists_mem_cons_iff, List.exists_mem_cons_iff, isValid_nullSchema, or_comm]
  simp [isValid]

/-! ### Maps -/

theorem isValid_ruleSchema {rule : Rule} :
    rule.schema.isValid x = true ↔
      rule.validator.isValid x = true ∨ (rule.admitsNull = true ∧ x = .null) := by
  unfold Rule.schema
  split
  · next h =>
    rw [JsonSchema.isValid_iff, List.forall_mem_singleton, Keyword.Holds]
    simp [isValid_nullSchema, isValid, h]
  · next h => simp [isValid, h]

theorem ruleSchemas_eq (rules : List Rule) :
    ruleSchemas rules =
      rules.filterMap fun rule => rule.name.scalar?.map fun key => (key, rule.schema) := by
  induction rules with
  | nil => rfl
  | cons rule rules ih =>
    obtain ⟨name, v, req, nul⟩ := rule
    rw [ruleSchemas, ih, List.filterMap_cons]
    cases hname : name.scalar? with
    | none => simp [Rule.name, hname]
    | some key => simp [Rule.name, hname, Rule.schema, Rule.validator]

theorem map_fst_ruleSchemas (rules : List Rule) :
    (ruleSchemas rules).map (·.1) = Rule.keys rules := by
  rw [ruleSchemas_eq, List.map_filterMap]
  simp [Rule.keys, Function.comp_def]

/-- Properties with distinct keys are taken over as they are. -/
theorem collectSchemas_eq_self {schemas : List (Scalar × JsonSchema)}
    (h : schemas.Pairwise fun p q => p.1.alike q.1 = false) : collectSchemas schemas = schemas := by
  have key : ∀ done, (done ++ schemas).Pairwise (fun p q => p.1.alike q.1 = false) →
      schemas.foldl (fun all e => putSchema all e.1 e.2) done = done ++ schemas := by
    clear h
    induction schemas with
    | nil => simp
    | cons p schemas ih =>
      intro done hdone
      have hnone : (done.any fun e => e.1.alike p.1) = false := by
        rw [List.any_eq_false]
        intro e he
        rw [(List.pairwise_append.mp hdone).2.2 e he p List.mem_cons_self]
        exact Bool.false_ne_true
      rw [List.foldl_cons, putSchema, if_neg (by simp [hnone]), ih, List.append_assoc]
      · rfl
      · rwa [List.append_assoc]
  exact key [] h

theorem holds_properties_iff {rules : List Rule} {declared : List Scalar} {es : Entries} :
    (Keyword.properties (ruleSchemas rules)).Holds declared (.map es) ↔
      ∀ rule ∈ rules, ∀ key ∈ rule.name.scalar?, ∀ y, es.find? key = some y →
        rule.validator.isValid y = true ∨ (rule.admitsNull = true ∧ y = .null) := by
  simp only [Keyword.Holds, entriesOf, ruleSchemas_eq, List.mem_filterMap, Option.map_eq_some_iff,
    ← isValid_ruleSchema]
  constructor
  · intro h rule hrule key hkey
    exact h (key, rule.schema) ⟨rule, hrule, key, hkey, rfl⟩
  · rintro h p ⟨rule, hrule, key, hkey, rfl⟩
    exact h rule hrule key hkey

theorem holds_requiredKeywords_iff {rules : List Rule} {declared : List Scalar} {es : Entries} :
    (∀ k ∈ requiredKeywords rules, k.Holds declared (.map es)) ↔
      ∀ rule ∈ rules, rule.isRequired = true → rule.name.scalar?.any es.hasKey = true := by
  have hnames : (∀ k ∈ requiredKeywords rules, k.Holds declared (.map es)) ↔
      ∀ name ∈ requiredNames rules, name.scalar?.any es.hasKey = true := by
    unfold requiredKeywords
    split
    · next hnil => simp [hnil]
    · rw [List.forall_mem_singleton, Keyword.Holds]
      simp
  rw [hnames, requiredNames, List.forall_mem_map]
  simp only [List.mem_filter, and_imp]

theorem holds_extrasKeywords_iff {extras : Extras} {declared : List Scalar} {es : Entries} :
    (∀ k ∈ extrasKeywords extras, k.Holds declared (.map es)) ↔ extras.Accepts declared es := by
  cases extras with
  | reject spare => rw [extrasKeywords, List.forall_mem_singleton]; rfl
  | allow spare => simp [extrasKeywords, Extras.Accepts]
  | typed v => rw [extrasKeywords, List.forall_mem_singleton]; rfl

/-- The keywords of a validator of maps, its description at the end. -/
theorem schema_object (rules : List Rule) (extras : Extras) :
    (object d rules extras).schema =
      .mk (Keyword.type .object :: Keyword.properties (collectSchemas (ruleSchemas rules))
        :: (requiredKeywords rules ++ extrasKeywords extras) ++ descriptionKeywords d) := by
  rw [List.cons_append, List.cons_append, List.append_assoc]
  rfl

/-- **A map is accepted when it keeps each rule and the policy.** -/
theorem isValid_object {rules : List Rule} {extras : Extras} (h : Rule.Distinct rules) :
    (object d rules extras).isValid x = true ↔
      ∃ es, x = .map es ∧ (∀ rule ∈ rules, rule.Accepts es) ∧
        extras.Accepts (Rule.keys rules) es := by
  have hdistinct : (ruleSchemas rules).Pairwise fun p q => p.1.alike q.1 = false := by
    rw [Rule.Distinct, ← map_fst_ruleSchemas, List.pairwise_map] at h
    exact h
  have hkeywords : (object d rules extras).isValid x = true ↔
      TypeName.object.admits x = true ∧
      ∀ k ∈ Keyword.properties (ruleSchemas rules) ::
          (requiredKeywords rules ++ extrasKeywords extras),
        k.Holds (Rule.keys rules) x := by
    have hdeclared : ∀ ks, declaredKeys
        (Keyword.type .object :: Keyword.properties (ruleSchemas rules) :: ks) = Rule.keys rules :=
      fun _ => map_fst_ruleSchemas rules
    rw [isValid_iff_of_schema (schema_object rules extras), collectSchemas_eq_self hdistinct,
      List.cons_append, List.cons_append, hdeclared, List.forall_mem_cons]
    exact Iff.rfl
  rw [hkeywords, admits_object_iff]
  constructor
  · rintro ⟨⟨es, rfl⟩, hall⟩
    rw [List.forall_mem_cons, List.forall_mem_append, holds_properties_iff,
      holds_requiredKeywords_iff, holds_extrasKeywords_iff] at hall
    obtain ⟨hproperties, hrequired, hextras⟩ := hall
    exact ⟨es, rfl, fun r hr => ⟨hrequired r hr, hproperties r hr⟩, hextras⟩
  · rintro ⟨es, rfl, hrules, hextras⟩
    refine ⟨⟨es, rfl⟩, ?_⟩
    rw [List.forall_mem_cons, List.forall_mem_append, holds_properties_iff,
      holds_requiredKeywords_iff, holds_extrasKeywords_iff]
    exact ⟨fun r hr => (hrules r hr).2, fun r hr => (hrules r hr).1, hextras⟩

/-- A validator of maps accepts maps only, whatever its rules. -/
theorem exists_map_of_isValid_object {rules : List Rule} {extras : Extras}
    (h : (object d rules extras).isValid x = true) : ∃ es, x = .map es := by
  have hall := (isValid_iff_of_schema (schema_object rules extras) x).mp h
  exact admits_object_iff.mp (hall (.type .object) List.mem_cons_self)

/-- **A description is no check.** -/
theorem isValid_withDescription (v : Validator) (e x : Value) :
    (v.withDescription e).isValid x = v.isValid x := by
  rw [Bool.eq_iff_iff]
  cases v with
  | any => exact iff_of_true isValid_any isValid_any
  | string d allowed =>
    cases allowed with
    | none => exact isValid_string.trans isValid_string.symm
    | some allowed => exact isValid_string_some.trans isValid_string_some.symm
  | literal => exact isValid_literal.trans isValid_literal.symm
  | number => exact isValid_number.trans isValid_number.symm
  | boolean => exact isValid_boolean.trans isValid_boolean.symm
  | array => exact isValid_array.trans isValid_array.symm
  | nullable => exact isValid_nullable.trans isValid_nullable.symm
  | object d rules extras =>
    -- Rules that share a name give no simple form, but the keywords are the same.
    have hd := isValid_iff_of_schema (d := d) (schema_object rules extras) x
    have he := isValid_iff_of_schema (d := e) (schema_object rules extras) x
    exact he.trans hd.symm

end Validator

end ApiTools
