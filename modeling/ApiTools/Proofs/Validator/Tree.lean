import ApiTools.Proofs.Validator.Acceptance

/-!
# What a validator tree says

A validator is checked through its schema, but it can be read as it stands: a value is accepted by
rules that follow the tree, one for each kind of validator and each way to be accepted by it.  No
schema, no list of violations and no choice between them appears in these rules.

The names of rules become keys of the schema, where one of two equal names would be lost.  So the
schema means what the tree says as long as the names in each map of rules are keys, and no two of
them are alike.

## Main definitions

* `Rule.declares` — a rule is for the property at a key.
* `Validator.namesDistinct` — no map of rules in the tree has a name twice.
* `Validator.Accepts` — a value is accepted by the tree.

## Main results

* `Validator.isValid_iff_accepts` — the schema of a validator means what the tree says.
* `Validator.check_eq_ok_iff_accepts` — **checking succeeds on the accepted values, and reports a
  violation of every other.**
-/

namespace ApiTools

open JsonSchema

/-! ### Induction over the tree -/

/-- The validator of a rule is a part of it. -/
theorem Rule.sizeOf_validator_lt (rule : Rule) : sizeOf rule.validator < sizeOf rule := by
  obtain ⟨name, v, req, nul⟩ := rule
  simp [validator]
  omega

/-- A validator that comes with a policy is a part of it. -/
theorem Extras.sizeOf_lt_of_validator? {extras : Extras} {v : Validator}
    (h : extras.validator? = some v) : sizeOf v < sizeOf extras := by
  cases extras with
  | reject spare | allow spare =>
    obtain rfl : spare = some v := h
    simp
    omega
  | typed w =>
    obtain rfl := Option.some.inj h
    simp

/-- What holds of a validator when it holds of its parts holds of all. -/
@[elab_as_elim]
theorem Validator.inductionOn {motive : Validator → Prop} (any : ∀ d, motive (.any d))
    (string : ∀ d allowed, motive (.string d allowed))
    (literal : ∀ d values, motive (.literal d values)) (number : ∀ d, motive (.number d))
    (boolean : ∀ d, motive (.boolean d))
    (array : ∀ d items, motive items → motive (.array d items))
    (nullable : ∀ d inner, motive inner → motive (.nullable d inner))
    (object : ∀ d rules extras, (∀ rule ∈ rules, motive rule.validator) →
      (∀ v, extras.validator? = some v → motive v) → motive (.object d rules extras)) :
    ∀ v, motive v
  | .any d => any d
  | .string d allowed => string d allowed
  | .literal d values => literal d values
  | .number d => number d
  | .boolean d => boolean d
  | .array d items =>
    array d items (inductionOn any string literal number boolean array nullable object items)
  | .nullable d inner =>
    nullable d inner (inductionOn any string literal number boolean array nullable object inner)
  | .object d rules extras => by
    refine object d rules extras (fun rule hrule => ?_) fun v hv => ?_
    · have hlt : sizeOf rule.validator < sizeOf rules :=
        Nat.lt_trans rule.sizeOf_validator_lt (List.sizeOf_lt_of_mem hrule)
      exact inductionOn any string literal number boolean array nullable object rule.validator
    · have hlt := Extras.sizeOf_lt_of_validator? hv
      exact inductionOn any string literal number boolean array nullable object v
  termination_by v => sizeOf v
  decreasing_by
    all_goals
      simp only [Validator.array.sizeOf_spec, Validator.nullable.sizeOf_spec,
        Validator.object.sizeOf_spec]
      omega

/-! ### Rules for a key -/

namespace Rule

/-- Whether a rule is for the property at a key. -/
def declares (rule : Rule) (key : Scalar) : Bool := rule.name.scalar?.any (·.alike key)

theorem declares_iff {rule : Rule} {key : Scalar} :
    rule.declares key = true ↔ ∃ k ∈ rule.name.scalar?, k.alike key = true := by
  cases h : rule.name.scalar? <;> simp [declares, h]

theorem declares_eq_false_iff {rule : Rule} {key : Scalar} :
    rule.declares key = false ↔ ∀ k ∈ rule.name.scalar?, k.alike key = false := by
  cases h : rule.name.scalar? <;> simp [declares, h]

/-- The keys of a map that no rule declares. -/
theorem mem_undeclared_keys_iff {rules : List Rule} {es : Entries} {e : Scalar × Value} :
    e ∈ undeclared (keys rules) es ↔ e ∈ es ∧ ∀ rule ∈ rules, rule.declares e.1 = false := by
  simp only [mem_undeclared_iff, keys, List.mem_filterMap, declares_eq_false_iff]
  refine and_congr_right fun _ => ?_
  constructor
  · exact fun h rule hrule key hkey => h key ⟨rule, hrule, hkey⟩
  · rintro h key ⟨rule, hrule, hkey⟩
    exact h rule hrule key hkey

end Rule

namespace Validator

/-! ### Names of rules -/

mutual

/-- Whether the names in each map of rules of a validator are keys, no two of them alike. -/
def namesDistinct : Validator → Bool
  | .array _ items => namesDistinct items
  | .nullable _ inner => namesDistinct inner
  | .object _ rules extras => rulesNamesDistinct rules && extrasNamesDistinct extras
  | .any _ | .string _ _ | .literal _ _ | .number _ | .boolean _ => true

/-- Whether the names of rules, and those below them, are distinct keys. -/
def rulesNamesDistinct : List Rule → Bool
  | [] => true
  | .mk name validator _ _ :: rules =>
    name.scalar?.any (fun key => !(Rule.keys rules).any key.alike) && namesDistinct validator
      && rulesNamesDistinct rules

/-- Whether the names below a policy are distinct keys. -/
def extrasNamesDistinct : Extras → Bool
  | .typed validator => namesDistinct validator
  | .reject _ | .allow _ => true

end

theorem rulesNamesDistinct_iff {rules : List Rule} :
    rulesNamesDistinct rules = true ↔
      Rule.Distinct rules ∧ ∀ rule ∈ rules, rule.name.scalar?.isSome = true ∧
        rule.validator.namesDistinct = true := by
  induction rules with
  | nil => simp [rulesNamesDistinct, Rule.Distinct, Rule.keys]
  | cons rule rules ih =>
    obtain ⟨name, v, req, nul⟩ := rule
    rw [rulesNamesDistinct, Bool.and_eq_true, Bool.and_eq_true, ih, List.forall_mem_cons]
    cases hname : name.scalar? with
    | none => simp [Rule.name, hname]
    | some key =>
      have hkeys : Rule.keys (.mk name v req nul :: rules) = key :: Rule.keys rules := by
        simp [Rule.keys, Rule.name, hname]
      rw [Rule.Distinct, Rule.Distinct, hkeys, List.pairwise_cons]
      simp [Rule.name, Rule.validator, hname]
      tauto

mutual

/-- Distinct names can be keys. -/
theorem hasKeys_of_namesDistinct : ∀ {v : Validator}, v.namesDistinct = true → v.hasKeys = true
  | .array _ items, h => by
    rw [hasKeys]
    exact hasKeys_of_namesDistinct (v := items) h
  | .nullable _ inner, h => by
    rw [hasKeys]
    exact hasKeys_of_namesDistinct (v := inner) h
  | .object _ rules extras, h => by
    rw [namesDistinct, Bool.and_eq_true] at h
    rw [hasKeys, rulesHaveKeys_of_namesDistinct h.1, extrasHaveKeys_of_namesDistinct h.2]
    rfl
  | .any _, _ | .string _ _, _ | .literal _ _, _ | .number _, _ | .boolean _, _ => by rw [hasKeys]

theorem rulesHaveKeys_of_namesDistinct :
    ∀ {rules : List Rule}, rulesNamesDistinct rules = true → rulesHaveKeys rules = true
  | [], _ => by rw [rulesHaveKeys]
  | .mk name v _ _ :: rules, h => by
    rw [rulesNamesDistinct, Bool.and_eq_true, Bool.and_eq_true] at h
    obtain ⟨⟨hname, hv⟩, hrules⟩ := h
    obtain ⟨key, hkey, -⟩ := (Option.any_eq_true _ _).mp hname
    rw [rulesHaveKeys, hasKeys_of_namesDistinct hv, rulesHaveKeys_of_namesDistinct hrules, hkey]
    rfl

theorem extrasHaveKeys_of_namesDistinct :
    ∀ {extras : Extras}, extrasNamesDistinct extras = true → extrasHaveKeys extras = true
  | .typed v, h => by
    rw [extrasHaveKeys]
    exact hasKeys_of_namesDistinct (v := v) h
  | .reject _, _ | .allow _, _ => by rw [extrasHaveKeys]

end

/-! ### Acceptance by the tree -/

/-- A value is accepted by a validator. -/
inductive Accepts : Validator → Value → Prop where
  /-- Everything is accepted. -/
  | any {d x : Value} : Accepts (.any d) x
  /-- A text is accepted. -/
  | text {d : Value} {s : String} : Accepts (.string d none) (.text s)
  /-- A text that is equal to one of the list is accepted. -/
  | chosen {d m : Value} {allowed : List Value} {s : String} (hm : m ∈ allowed)
    (h : m.equals (.text s) = true) : Accepts (.string d (some allowed)) (.text s)
  /-- A value that is equal to one of the list is accepted. -/
  | literal {d m x : Value} {values : List Value} (hm : m ∈ values) (h : m.equals x = true) :
    Accepts (.literal d values) x
  /-- An integer is a number. -/
  | int {d : Value} {n : Int} : Accepts (.number d) (.int n)
  /-- So is a number with a point. -/
  | double {d : Value} {a : Double} : Accepts (.number d) (.double a)
  /-- A truth value is accepted. -/
  | bool {d : Value} {b : Bool} : Accepts (.boolean d) (.bool b)
  /-- A list is accepted when each of its items is. -/
  | list {d : Value} {v : Validator} {items : List Value} (h : ∀ y ∈ items, Accepts v y) :
    Accepts (.array d v) (.list items)
  /-- Null is accepted where it is allowed. -/
  | null {d : Value} {v : Validator} : Accepts (.nullable d v) .null
  /-- So is what is accepted otherwise. -/
  | inner {d x : Value} {v : Validator} (h : Accepts v x) : Accepts (.nullable d v) x
  /-- A map is accepted when the properties that have to be there are, each property that is there
  has an accepted value, or null where that stands for its absence, and the keys that no rule
  declares are as the policy asks. -/
  | map {d : Value} {rules : List Rule} {extras : Extras} {es : Entries}
    (required : ∀ rule ∈ rules, rule.isRequired = true →
      ∃ key ∈ rule.name.scalar?, es.hasKey key = true)
    (declared : ∀ rule ∈ rules, ∀ key ∈ rule.name.scalar?, ∀ y, es.find? key = some y →
      ¬(rule.admitsNull = true ∧ y = .null) → Accepts rule.validator y)
    (rejected : ∀ spare, extras = .reject spare →
      ∀ e ∈ es, ∃ rule ∈ rules, rule.declares e.1 = true)
    (typed : ∀ v, extras = .typed v →
      ∀ e ∈ es, (∀ rule ∈ rules, rule.declares e.1 = false) → Accepts v e.2) :
    Accepts (.object d rules extras) (.map es)

variable {v : Validator} {x : Value}

/-- No key is undeclared when each one is declared. -/
theorem undeclared_keys_eq_nil_iff {rules : List Rule} {es : Entries} :
    undeclared (Rule.keys rules) es = [] ↔ ∀ e ∈ es, ∃ rule ∈ rules, rule.declares e.1 = true := by
  simp only [List.eq_nil_iff_forall_not_mem, Rule.mem_undeclared_keys_iff, not_and, not_forall,
    Bool.not_eq_false, exists_prop]

/-- What the tree accepts, its schema does. -/
theorem isValid_of_accepts (h : v.Accepts x) (hv : v.namesDistinct = true) :
    v.isValid x = true := by
  induction h with
  | any => exact isValid_any
  | text => exact isValid_string.mpr rfl
  | chosen hm h => exact isValid_string_some.mpr ⟨rfl, _, hm, h⟩
  | literal hm h => exact isValid_literal.mpr ⟨_, hm, h⟩
  | int | double => exact isValid_number.mpr rfl
  | bool => exact isValid_boolean.mpr rfl
  | list h ih => exact isValid_array.mpr ⟨_, rfl, fun y hy => ih y hy hv⟩
  | null => exact isValid_nullable.mpr (Or.inl rfl)
  | inner h ih => exact isValid_nullable.mpr (Or.inr (ih hv))
  -- With distinct names one rule at most is for a key, so the schema asks what the rules ask.
  | @map d rules extras es required declared rejected typed ihDeclared ihTyped =>
    rw [namesDistinct, Bool.and_eq_true, rulesNamesDistinct_iff] at hv
    obtain ⟨⟨hdistinct, hnames⟩, hextras⟩ := hv
    refine (isValid_object hdistinct).mpr ⟨es, rfl, fun rule hrule => ⟨fun hrequired => ?_, ?_⟩, ?_⟩
    · obtain ⟨key, hkey, hhas⟩ := required rule hrule hrequired
      exact (Option.any_eq_true _ _).mpr ⟨key, hkey, hhas⟩
    · intro key hkey y hy
      by_cases hnull : rule.admitsNull = true ∧ y = .null
      · exact Or.inr hnull
      · exact Or.inl (ihDeclared rule hrule key hkey y hy hnull (hnames rule hrule).2)
    · cases extras with
      | reject spare => exact undeclared_keys_eq_nil_iff.mpr (rejected spare rfl)
      | allow spare => trivial
      | typed v =>
        intro e he
        rw [Rule.mem_undeclared_keys_iff] at he
        exact ihTyped v rfl e he.1 he.2 hextras

/-- What the schema of a tree accepts, the tree does. -/
theorem accepts_of_isValid (v : Validator) :
    ∀ x, v.namesDistinct = true → v.isValid x = true → v.Accepts x := by
  induction v using inductionOn with
  | any d => exact fun x _ _ => .any
  | string d allowed =>
    intro x _ h
    cases allowed with
    | none =>
      obtain ⟨s, rfl⟩ := admits_string_iff.mp (isValid_string.mp h)
      exact .text
    | some allowed =>
      obtain ⟨hadmits, m, hm, hequals⟩ := isValid_string_some.mp h
      obtain ⟨s, rfl⟩ := admits_string_iff.mp hadmits
      exact .chosen hm hequals
  | literal d values =>
    intro x _ h
    obtain ⟨m, hm, hequals⟩ := isValid_literal.mp h
    exact .literal hm hequals
  | number d =>
    intro x _ h
    rcases admits_number_iff.mp (isValid_number.mp h) with ⟨n, rfl⟩ | ⟨a, rfl⟩
    · exact .int
    · exact .double
  | boolean d =>
    intro x _ h
    obtain ⟨b, rfl⟩ := admits_boolean_iff.mp (isValid_boolean.mp h)
    exact .bool
  | array d items ih =>
    intro x hv h
    obtain ⟨ys, rfl, hys⟩ := isValid_array.mp h
    exact .list fun y hy => ih y hv (hys y hy)
  | nullable d inner ih =>
    intro x hv h
    rcases isValid_nullable.mp h with rfl | h
    · exact .null
    · exact .inner (ih x hv h)
  | object d rules extras ihRules ihExtras =>
    intro x hv h
    rw [namesDistinct, Bool.and_eq_true, rulesNamesDistinct_iff] at hv
    obtain ⟨⟨hdistinct, hnames⟩, hextras⟩ := hv
    -- With distinct names each rule has a property of the schema to itself.
    obtain ⟨es, rfl, hrules, hpolicy⟩ := (isValid_object hdistinct).mp h
    refine .map (fun rule hrule hrequired => ?_) (fun rule hrule key hkey y hy hnull => ?_)
      (fun spare heq => ?_) (fun v heq e he hundeclared => ?_)
    · exact (Option.any_eq_true _ _).mp ((hrules rule hrule).1 hrequired)
    · exact ihRules rule hrule y (hnames rule hrule).2
        (((hrules rule hrule).2 key hkey y hy).resolve_right hnull)
    · subst heq
      exact undeclared_keys_eq_nil_iff.mp hpolicy
    · subst heq
      exact ihExtras v rfl e.2 hextras
        (hpolicy e (Rule.mem_undeclared_keys_iff.mpr ⟨he, hundeclared⟩))

/-- **The schema of a validator means what the tree says.** -/
theorem isValid_iff_accepts (hv : v.namesDistinct = true) : v.isValid x = true ↔ v.Accepts x :=
  ⟨accepts_of_isValid v x hv, fun h => isValid_of_accepts h hv⟩

/-! ### Checking -/

/-- There is something to report exactly of the values that are not valid. -/
theorem finding?_eq_none_iff : v.finding? x = none ↔ v.isValid x = true := by
  rw [isValid, isValid_iff_violations_eq_nil, finding?]
  cases v.schema.violations x <;> simp [Violation.best?, Violation.firstBest]

/-- With names that can be keys, checking succeeds on the values that are accepted. -/
theorem check_eq_ok_iff (h : v.hasKeys = true) {x : Value} :
    v.check x = .ok () ↔ v.isValid x = true := by
  rw [← finding?_eq_none_iff, check, schema?, if_pos h]
  cases v.finding? x with
  | none => exact iff_of_true rfl rfl
  | some f => exact iff_of_false nofun nofun

/-- **Checking a value succeeds exactly when the tree accepts it**, and reports a violation of every
other value; the schema by itself gives the same answer. -/
theorem check_eq_ok_iff_accepts (hv : v.namesDistinct = true) (x : Value) :
    (v.check x = .ok () ↔ v.Accepts x) ∧
      (¬v.Accepts x → ∃ f, v.finding? x = some f ∧
        v.check x = .error (.violation f.renderPlace f.message)) ∧
      (v.isValid x = true ↔ v.Accepts x) := by
  have hschema : v.schema? = .ok v.schema := by
    rw [schema?, if_pos (hasKeys_of_namesDistinct hv)]
  rw [← isValid_iff_accepts hv, ← finding?_eq_none_iff, check, hschema]
  refine ⟨?_, fun hfound => ?_, Iff.rfl⟩
  · cases v.finding? x with
    | none => exact iff_of_true rfl rfl
    | some f => exact iff_of_false nofun nofun
  · obtain ⟨f, hf⟩ := Option.ne_none_iff_exists'.mp hfound
    rw [hf]
    exact ⟨f, rfl, rfl⟩

/-- A validator of maps with an identifier from a list, perhaps with numbers or null as tags, and
with the truth value or a list as the value of any other key. -/
def taggedValidator : Validator :=
  .object .null
    [.mk (.text "id") (.string .null (some [.text "a", .text "b"])) (.bool true) (.bool false),
      .mk (.text "tags") (.array .null (.number .null)) (.bool false) (.bool true)]
    (.typed (.literal .null [.bool true, .list [.int 1]]))

/-- A map with null as its tags and a list in another spelling. -/
def taggedValue : Value :=
  .record [("id", .text "b"), ("tags", .null), ("more", .list [.double (.finite false 1 0)])]

/-- A map with a number in the place of a truth value. -/
def countedValue : Value := .record [("id", .text "b"), ("more", .int 1)]

/-- Tags may be null, and the list may be spelled with a point; a number is no truth value. -/
theorem check_taggedValidator :
    taggedValidator.namesDistinct = true ∧
      (taggedValidator.check taggedValue = .ok () ∧ taggedValidator.Accepts taggedValue) ∧
      (¬taggedValidator.Accepts countedValue ∧ ∃ f, taggedValidator.finding? countedValue = some f ∧
        taggedValidator.check countedValue = .error (.violation f.renderPlace f.message)) := by
  have hv : taggedValidator.namesDistinct = true := by decide
  obtain ⟨hcheck, -, hvalid⟩ := check_eq_ok_iff_accepts hv taggedValue
  obtain ⟨-, hreport, hinvalid⟩ := check_eq_ok_iff_accepts hv countedValue
  have haccepts : taggedValidator.Accepts taggedValue := hvalid.mp (by decide)
  have hrefuses : ¬taggedValidator.Accepts countedValue := fun h =>
    absurd (hinvalid.mpr h) (by decide)
  exact ⟨hv, ⟨hcheck.mpr haccepts, haccepts⟩, hrefuses, hreport hrefuses⟩

end Validator

end ApiTools
