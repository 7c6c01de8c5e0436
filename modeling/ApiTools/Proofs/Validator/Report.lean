import ApiTools.Proofs.JsonSchema.Report
import ApiTools.Proofs.Validator.Tree

/-!
# What is reported of a value

A value that a validator refuses is reported with a place and a message.  The place leads into the
value and, in step with it, into the tree of the validator, to a validator there that refuses the part
for what the message says.  Where null is an alternative, the value is never reported for not being
null.

## Main definitions

* `Validator.Leads` — a place leads into a validator and a value, in step.
* `Rule.isMissing` — the property of a rule has to be there and is not.
* `Validator.RefusesFor` — a validator refuses a value for a cause.

## Main results

* `Validator.finds_focus` — **every violation comes down to one in the tree.**
* `Finding.message_eq_missing_iff`, `Finding.message_eq_unknown_iff`, `Finding.message_eq_null_iff` —
  what a message says of its cause.
* `Validator.exists_leads_of_not_accepts` — **what is reported is real.**
-/

namespace ApiTools

open JsonSchema Violation

/-! ### Into the tree and the value -/

/-- The property of a rule has to be there, and is not. -/
def Rule.isMissing (rule : Rule) (es : Entries) : Bool :=
  rule.isRequired && !rule.name.scalar?.any es.hasKey

namespace Validator

/-- A place leads from a validator and a value to a validator in its tree and a part of the value, in
step: through nullable validators without a step, and to the items of a list, to the properties of a
map that rules are for, and to those that are left to a policy with a validator. -/
inductive Leads : Validator → Value → Place → Validator → Value → Prop where
  /-- No step leads anywhere else. -/
  | here (v : Validator) (x : Value) : Leads v x [] v x
  /-- A nullable validator stands for the one in it. -/
  | nullable {d x y : Value} {inner w : Validator} {p : Place} (h : Leads inner x p w y) :
    Leads (.nullable d inner) x p w y
  /-- The items of a list have a validator. -/
  | item {d z y : Value} {items w : Validator} {zs : List Value} {i : Nat} {p : Place}
    (hz : zs[i]? = some z) (h : Leads items z p w y) :
    Leads (.array d items) (.list zs) (.index i :: p) w y
  /-- A property has the validator of its rule. -/
  | property {d z y : Value} {rules : List Rule} {extras : Extras} {w : Validator} {es : Entries}
    {name : String} {p : Place} {rule : Rule} (hrule : rule ∈ rules) (hname : rule.name = .text name)
    (hz : es.get? name = some z) (h : Leads rule.validator z p w y) :
    Leads (.object d rules extras) (.map es) (.key name :: p) w y
  /-- A property that no rule is for has the validator of the policy. -/
  | extra {d z y : Value} {rules : List Rule} {v w : Validator} {es : Entries} {name : String}
    {p : Place} (hname : ∀ rule ∈ rules, rule.declares (.text name) = false)
    (hz : es.get? name = some z) (h : Leads v z p w y) :
    Leads (.object d rules (.typed v)) (.map es) (.key name :: p) w y

/-- A validator refuses a value for a cause: the first property is missing that has to be there, the
first key is unknown that no rule is for, or the value is refused as a whole. -/
inductive RefusesFor (w : Validator) (y : Value) : Cause → Prop where
  /-- The value is not of a type, other than null. -/
  | wrongType {name : TypeName} (hname : name ≠ .null) (h : w.isValid y = false) :
    RefusesFor w y (.wrongType name)
  /-- The value is none of a list. -/
  | notMember {members : List Value} (h : w.isValid y = false) : RefusesFor w y (.notMember members)
  /-- The value satisfies no alternative. -/
  | noAlternative (h : w.isValid y = false) : RefusesFor w y .noAlternative
  /-- The first property is missing that has to be there. -/
  | missing {d : Value} {rules : List Rule} {extras : Extras} {es : Entries} {rule : Rule}
    (hw : w = .object d rules extras) (hy : y = .map es)
    (hrule : rules.find? (·.isMissing es) = some rule) : RefusesFor w y (.missing rule.name)
  /-- The first key is unknown that no rule is for. -/
  | unknown {d : Value} {rules : List Rule} {spare : Option Validator} {es : Entries}
    {entry : Scalar × Value} (hw : w = .object d rules (.reject spare)) (hy : y = .map es)
    (hentry : List.find? (fun e => !rules.any (·.declares e.1)) es = some entry) :
    RefusesFor w y (.unknown entry.1)

variable {v w : Validator} {x y : Value} {p : Place}

/-- What is neither missing nor unknown is refused as a whole. -/
theorem RefusesFor.isValid_eq_false {cause : Cause} (h : w.RefusesFor y cause)
    (hmissing : ∀ name, cause ≠ .missing name) (hunknown : ∀ key, cause ≠ .unknown key) :
    w.isValid y = false := by
  cases h with
  | wrongType hname hinvalid => exact hinvalid
  | notMember hinvalid => exact hinvalid
  | noAlternative hinvalid => exact hinvalid
  | missing => exact absurd rfl (hmissing _)
  | unknown => exact absurd rfl (hunknown _)

/-- Names that are distinct in a tree are distinct below. -/
theorem Leads.namesDistinct (h : v.Leads x p w y) (hv : v.namesDistinct = true) :
    w.namesDistinct = true := by
  induction h with
  | here => exact hv
  | nullable _ ih => exact ih hv
  | item _ _ ih => exact ih hv
  | property hrule _ _ _ ih =>
    rw [Validator.namesDistinct, Bool.and_eq_true, rulesNamesDistinct_iff] at hv
    exact ih (hv.1.2 _ hrule).2
  | extra _ _ _ ih =>
    rw [Validator.namesDistinct, Bool.and_eq_true] at hv
    exact ih hv.2

/-! ### Violations in the tree -/

/-- A finding is of a validator in the tree and a part of the value that its place leads to. -/
def Finds (v : Validator) (x : Value) (f : Finding) : Prop :=
  ∃ w, v.Leads x f.place w f.value ∧ w.RefusesFor f.value f.cause

theorem isValid_eq_false_of_mem {schema : JsonSchema} {e : Violation} (he : e ∈ schema.violations x) :
    schema.isValid x = false := by
  rw [← Bool.not_eq_true, isValid_iff_violations_eq_nil]
  exact List.ne_nil_of_mem he

/-- A violation is of one of the keywords beside the description. -/
theorem exists_fails_of_mem {keywords : List Keyword} {d : Value} {e : Violation}
    (h : v.schema = .mk (keywords ++ descriptionKeywords d)) (he : e ∈ v.schema.violations x) :
    ∃ k ∈ keywords, k.Fails (typeOf (keywords ++ descriptionKeywords d))
      (declaredKeys (keywords ++ descriptionKeywords d)) x e := by
  rw [h, mem_violations_iff] at he
  obtain ⟨k, hk, hfails⟩ := he
  rcases List.mem_append.mp hk with hk | hk
  · exact ⟨k, hk, hfails⟩
  · unfold descriptionKeywords at hk
    split at hk
    · obtain rfl := List.mem_singleton.mp hk
      cases hfails
    · cases hk

/-- A value is not null exactly when it violates the schema of null, in one way. -/
theorem violations_nullSchema (x : Value) :
    nullSchema.violations x =
      if TypeName.null.admits x then [] else [.mk (.wrongType .null) [] x false []] := by
  cases h : TypeName.null.admits x <;>
    simp [nullSchema, violations, keywordViolations, typeOf, JsonSchema.ofType, h]

/-- Such a violation is at no deeper place than any other one, and comes after it. -/
theorem compareTo_null_ne_lt (rank : Rank) : Rank.compareTo ⟨[], false, false⟩ rank ≠ .lt := by
  obtain ⟨place, isChoice, ofType⟩ := rank
  cases place with
  | nil => cases isChoice <;> cases ofType <;> decide
  | cons step place =>
    have hdeeper : compare (place.length + 1) 0 = .gt := Nat.compare_eq_gt.mpr (Nat.succ_pos _)
    simp [Rank.compareTo, hdeeper]

/-- **A choice with null at the end comes down to itself or to a violation of the other
alternative.** -/
theorem focus_choice_null {schema : JsonSchema} (ofType : Bool)
    (hall : ∀ s ∈ [schema, nullSchema], s.isValid x = false) :
    focus (.mk .noAlternative [] x ofType ([schema, nullSchema].flatMap (·.violations x))) =
        ⟨.noAlternative, [], x⟩ ∨
      ∃ e ∈ schema.violations x,
        focus (.mk .noAlternative [] x ofType ([schema, nullSchema].flatMap (·.violations x))) =
          focus e := by
  obtain ⟨hschema, hnull⟩ := List.forall_mem_cons.mp hall
  have hlast : nullSchema.violations x = [.mk (.wrongType .null) [] x false []] := by
    have hinvalid := hnull nullSchema (List.mem_singleton_self _)
    rw [← Bool.not_eq_true, isValid_iff_violations_eq_nil] at hinvalid
    rw [violations_nullSchema] at hinvalid ⊢
    split
    · next h => exact absurd (if_pos h) hinvalid
    · rfl
  rw [← Bool.not_eq_true, isValid_iff_violations_eq_nil] at hschema
  rw [List.flatMap_cons, List.flatMap_singleton, hlast]
  exact focus_concat _ x ofType hschema fun e _ => compareTo_null_ne_lt e.rank

/-- A finding about the whole of a value that is refused. -/
theorem finds_here {cause : Cause} (h : v.RefusesFor x cause) : v.Finds x ⟨cause, [], x⟩ :=
  ⟨v, .here v x, h⟩

/-- A violation of a choice with null at the end is one of the value as a whole, or it is found for
the other alternative. -/
theorem finds_of_fails_choice {schema : JsonSchema} {asked : Option TypeName}
    {declared : List Scalar} {e : Violation} (hinvalid : v.isValid x = false)
    (hschema : ∀ {e}, e ∈ schema.violations x → v.Finds x (focus e))
    (hfails : (Keyword.anyOf [schema, nullSchema]).Fails asked declared x e) :
    v.Finds x (focus e) := by
  cases hfails with
  | choice hall =>
    rcases focus_choice_null _ hall with hself | ⟨d, hd, hinner⟩
    · rw [hself]
      exact finds_here (.noAlternative hinvalid)
    · rw [hinner]
      exact hschema hd

/-- What is found for the validator of a rule is found for the schema of the rule, which may have null
as an alternative. -/
theorem finds_of_mem_schema {rule : Rule}
    (hrule : ∀ {e}, e ∈ rule.validator.schema.violations x → rule.validator.Finds x (focus e))
    {e : Violation} (he : e ∈ rule.schema.violations x) : rule.validator.Finds x (focus e) := by
  unfold Rule.schema at he
  split at he
  · obtain ⟨k, hk, hfails⟩ := mem_violations_iff.mp he
    obtain rfl := List.mem_singleton.mp hk
    have hinvalid : rule.validator.isValid x = false := by
      cases hfails with
      | choice hall => exact hall _ List.mem_cons_self
    exact finds_of_fails_choice hinvalid hrule hfails
  · exact hrule he

/-- Whether a keyword refuses a value as a whole. -/
def refusesWhole : Keyword → Bool
  | .type name => name != .null
  | .enum _ => true
  | _ => false

/-- The violation of a keyword that refuses a value as a whole is one of the validator. -/
theorem finds_of_refusesWhole {k : Keyword} (hk : refusesWhole k = true) {asked : Option TypeName}
    {declared : List Scalar} {e : Violation} (hinvalid : v.isValid x = false)
    (hfails : k.Fails asked declared x e) : v.Finds x (focus e) := by
  cases hfails with
  | type => exact finds_here (.wrongType (by simpa [refusesWhole] using hk) hinvalid)
  | enum => exact finds_here (.notMember hinvalid)
  | property | item | choice | required | closed | additional => cases hk

/-- A validator that only refuses values as a whole is found for each of its violations. -/
theorem finds_of_forall_refusesWhole {keywords : List Keyword} {d : Value} {e : Violation}
    (hschema : v.schema = .mk (keywords ++ descriptionKeywords d))
    (hwhole : ∀ k ∈ keywords, refusesWhole k = true) (he : e ∈ v.schema.violations x) :
    v.Finds x (focus e) := by
  obtain ⟨k, hk, hfails⟩ := exists_fails_of_mem hschema he
  exact finds_of_refusesWhole (hwhole k hk) (isValid_eq_false_of_mem he) hfails

/-- The first name that a map lacks is that of the first rule whose property is missing. -/
theorem head?_missing (rules : List Rule) (es : Entries) :
    (missing (requiredNames rules) es).head? = (rules.find? (·.isMissing es)).map Rule.name := by
  rw [missing, requiredNames, List.filter_map, List.filter_filter, List.head?_map, List.head?_filter]
  congr 2
  funext rule
  exact Bool.and_comm _ _

/-- The first entry that is not declared is the first one that no rule is for. -/
theorem head?_undeclared (rules : List Rule) (es : Entries) :
    (undeclared (Rule.keys rules) es).head? =
      List.find? (fun e => !rules.any (·.declares e.1)) es := by
  rw [undeclared, List.head?_filter]
  congr 1
  funext e
  rw [Rule.keys, List.any_filterMap]
  rfl

section

variable {d : Value} {rules : List Rule} {extras : Extras} {asked : Option TypeName}
variable {declared : List Scalar} {k : Keyword} {e : Violation}

/-- A violation at an item is one of the validator of the items. -/
theorem finds_of_fails_items {items : Validator} (hx : x.isJson = true)
    (hitems : ∀ {y : Value} {e : Violation}, y.isJson = true → e ∈ items.schema.violations y →
      items.Finds y (focus e))
    (hfails : (Keyword.items items.schema).Fails asked declared x e) :
    (array d items).Finds x (focus e) := by
  cases hfails with
  | item hy he =>
    obtain ⟨-, hjson⟩ := follow?_index hx hy
    obtain ⟨w, hleads, hrefuses⟩ := hitems hjson he
    rw [focus_under]
    cases x with
    | list zs => exact ⟨w, .item hy hleads, hrefuses⟩
    | scalar | map | group | knot => cases hy

/-- A violation at a property is one of the validator of a rule. -/
theorem finds_of_fails_properties (hx : x.isJson = true)
    (hrules : ∀ rule ∈ rules, ∀ {y : Value} {e : Violation}, y.isJson = true →
      e ∈ rule.validator.schema.violations y → rule.validator.Finds y (focus e))
    (hfails : (Keyword.properties (ruleSchemas rules)).Fails asked declared x e) :
    (object d rules extras).Finds x (focus e) := by
  cases hfails with
  | @property _ p hp y hy e he =>
    rw [ruleSchemas_eq] at hp
    obtain ⟨rule, hrule, hp⟩ := List.mem_filterMap.mp hp
    obtain ⟨key, hkey, rfl⟩ := Option.map_eq_some_iff.mp hp
    obtain ⟨⟨name, rfl⟩, hstep, hjson⟩ := follow?_key hx hy
    have hname : rule.name = .text name := Value.scalar?_eq_some_iff.mp hkey
    obtain ⟨w, hleads, hrefuses⟩ := finds_of_mem_schema (hrules rule hrule hjson) he
    rw [focus_under]
    cases x with
    | map es => exact ⟨w, .property hrule hname hy hleads, hrefuses⟩
    | scalar | list | group | knot => cases hy

/-- A violation of the names that are required is about the first property that is missing. -/
theorem finds_of_fails_required (hk : k ∈ requiredKeywords rules)
    (hfails : k.Fails asked declared x e) : (object d rules extras).Finds x (focus e) := by
  unfold requiredKeywords at hk
  split at hk
  · cases hk
  · obtain rfl := List.mem_singleton.mp hk
    cases hfails with
    | required hes hfirst =>
      rw [head?_missing] at hfirst
      obtain ⟨rule, hrule, rfl⟩ := Option.map_eq_some_iff.mp hfirst
      exact finds_here (.missing rfl hes hrule)

/-- A violation of the policy is about the first unknown key, or one of the validator of the
policy. -/
theorem finds_of_fails_extras (hx : x.isJson = true)
    (hextras : ∀ v, extras = .typed v → ∀ {y : Value} {e : Violation}, y.isJson = true →
      e ∈ v.schema.violations y → v.Finds y (focus e))
    (hk : k ∈ extrasKeywords extras) (hfails : k.Fails asked (Rule.keys rules) x e) :
    (object d rules extras).Finds x (focus e) := by
  cases extras with
  | allow spare => cases hk
  | reject spare =>
    obtain rfl := List.mem_singleton.mp hk
    cases hfails with
    | closed hentry =>
      rw [head?_undeclared] at hentry
      cases x with
      | map es => exact finds_here (.unknown rfl rfl hentry)
      | scalar | list | group | knot => cases hentry
  | typed v =>
    obtain rfl := List.mem_singleton.mp hk
    cases hfails with
    | @additional _ entry hentry e he =>
      obtain ⟨hmem, hname⟩ := Rule.mem_undeclared_keys_iff.mp hentry
      have hy := find?_of_mem_entriesOf hx hmem
      obtain ⟨⟨name, hkey⟩, -, hjson⟩ := follow?_key hx hy
      rw [hkey] at hy hname
      obtain ⟨w, hleads, hrefuses⟩ := hextras v rfl hjson he
      rw [focus_under, hkey]
      cases x with
      | map es => exact ⟨w, .extra hname hy hleads, hrefuses⟩
      | scalar | list | group | knot => cases hmem

end

/-- **Every violation comes down to one in the tree.** -/
theorem finds_focus (v : Validator) : ∀ {x : Value} {e : Violation}, v.namesDistinct = true →
    x.isJson = true → e ∈ v.schema.violations x → v.Finds x (focus e) := by
  induction v using inductionOn with
  | any d =>
    intro x e _ _ he
    have hschema : (any d).schema = .mk ([] ++ descriptionKeywords d) := rfl
    exact finds_of_forall_refusesWhole hschema (List.forall_mem_nil _) he
  | string d allowed =>
    intro x e _ _ he
    cases allowed with
    | none =>
      have hschema : (string d none).schema = .mk ([.type .string] ++ descriptionKeywords d) := rfl
      exact finds_of_forall_refusesWhole hschema (by simp [refusesWhole]) he
    | some allowed =>
      have hschema : (string d (some allowed)).schema =
          .mk ([.type .string, .enum allowed] ++ descriptionKeywords d) := rfl
      exact finds_of_forall_refusesWhole hschema (by simp [refusesWhole]) he
  | literal d values =>
    intro x e _ _ he
    have hschema : (literal d values).schema = .mk ([.enum values] ++ descriptionKeywords d) := rfl
    exact finds_of_forall_refusesWhole hschema (by simp [refusesWhole]) he
  | number d =>
    intro x e _ _ he
    have hschema : (number d).schema = .mk ([.type .number] ++ descriptionKeywords d) := rfl
    exact finds_of_forall_refusesWhole hschema (by simp [refusesWhole]) he
  | boolean d =>
    intro x e _ _ he
    have hschema : (boolean d).schema = .mk ([.type .boolean] ++ descriptionKeywords d) := rfl
    exact finds_of_forall_refusesWhole hschema (by simp [refusesWhole]) he
  | array d items ih =>
    intro x e hv hx he
    have hschema : (array d items).schema =
        .mk ([.type .array, .items items.schema] ++ descriptionKeywords d) := rfl
    obtain ⟨k, hk, hfails⟩ := exists_fails_of_mem hschema he
    rcases List.mem_cons.mp hk with rfl | hk
    · exact finds_of_refusesWhole rfl (isValid_eq_false_of_mem he) hfails
    · obtain rfl := List.mem_singleton.mp hk
      exact finds_of_fails_items hx (ih hv) hfails
  | nullable d inner ih =>
    intro x e hv hx he
    have hschema : (nullable d inner).schema =
        .mk ([.anyOf [inner.schema, nullSchema]] ++ descriptionKeywords d) := rfl
    obtain ⟨k, hk, hfails⟩ := exists_fails_of_mem hschema he
    obtain rfl := List.mem_singleton.mp hk
    refine finds_of_fails_choice (isValid_eq_false_of_mem he) (fun hd => ?_) hfails
    obtain ⟨w, hleads, hrefuses⟩ := ih hv hx hd
    exact ⟨w, .nullable hleads, hrefuses⟩
  | object d rules extras ihRules ihExtras =>
    intro x e hv hx he
    rw [namesDistinct, Bool.and_eq_true, rulesNamesDistinct_iff] at hv
    obtain ⟨⟨hdistinct, hnames⟩, hextras⟩ := hv
    have hpairwise : (ruleSchemas rules).Pairwise fun p q => p.1.alike q.1 = false := by
      rwa [Rule.Distinct, ← map_fst_ruleSchemas, List.pairwise_map] at hdistinct
    have hdeclared : declaredKeys (Keyword.type .object :: Keyword.properties (ruleSchemas rules) ::
        (requiredKeywords rules ++ extrasKeywords extras) ++ descriptionKeywords d) =
          Rule.keys rules := map_fst_ruleSchemas rules
    obtain ⟨k, hk, hfails⟩ := exists_fails_of_mem (schema_object rules extras) he
    -- With distinct names the schema lists each property once, under the name of its rule.
    rw [collectSchemas_eq_self hpairwise] at hk hfails
    rw [hdeclared] at hfails
    simp only [List.mem_cons, List.mem_append] at hk
    rcases hk with rfl | rfl | hk | hk
    · exact finds_of_refusesWhole rfl (isValid_eq_false_of_mem he) hfails
    · exact finds_of_fails_properties hx
        (fun rule hrule _ _ => ihRules rule hrule (hnames rule hrule).2) hfails
    · exact finds_of_fails_required hk hfails
    · refine finds_of_fails_extras hx (fun v hv _ _ => ?_) hk hfails
      subst hv
      exact ihExtras v rfl hextras

end Validator

/-! ### Messages -/

/-- The last character of the message for a cause. -/
def Cause.lastChar : Cause → Char
  | .wrongType _ => '\''
  | .notMember _ => ']'
  | .noAlternative => 's'
  | .missing _ => 'g'
  | .unknown _ => 'y'

namespace Finding

variable {f : Finding}

theorem getLast?_toList_append (s : String) {t : String} {c : Char}
    (h : t.toList.getLast? = some c) : (s ++ t).toList.getLast? = some c := by
  rw [String.toList_append, List.getLast?_append, h]
  rfl

/-- The messages for different checks end differently. -/
theorem getLast?_message (f : Finding) : f.message.toList.getLast? = some f.cause.lastChar := by
  unfold message
  cases f.cause with
  | wrongType name => exact getLast?_toList_append _ (by cases name <;> rfl)
  | notMember members =>
    have hlist : (Value.list members).toLiteral =
        "[" ++ ", ".intercalate (Value.itemLiterals [] members) ++ "]" := by
      rw [Value.toLiteral, Value.literalWithin]
    dsimp only
    rw [hlist]
    exact getLast?_toList_append _ (getLast?_toList_append _ rfl)
  | noAlternative => exact getLast?_toList_append _ rfl
  | missing | unknown =>
    dsimp only [Cause.lastChar]
    decide

theorem lastChar_eq {text : String} {c : Char} (h : f.message = text)
    (hc : text.toList.getLast? = some c) : f.cause.lastChar = c := by
  rw [← h, getLast?_message] at hc
  exact Option.some.inj hc

/-- **The message that a property is missing is for this cause only.** -/
theorem message_eq_missing_iff :
    f.message = "required property is missing" ↔ ∃ name, f.cause = .missing name := by
  constructor
  · intro h
    have hlast : f.cause.lastChar = 'g' := lastChar_eq h (by decide)
    cases hcause : f.cause with
    | missing name => exact ⟨name, rfl⟩
    | wrongType | notMember | noAlternative | unknown =>
      simp [hcause, Cause.lastChar] at hlast
  · rintro ⟨name, hcause⟩
    rw [message, hcause]

/-- **The message that a property is unknown is for this cause only.** -/
theorem message_eq_unknown_iff :
    f.message = "unknown property" ↔ ∃ key, f.cause = .unknown key := by
  constructor
  · intro h
    have hlast : f.cause.lastChar = 'y' := lastChar_eq h (by decide)
    cases hcause : f.cause with
    | unknown key => exact ⟨key, rfl⟩
    | wrongType | notMember | noAlternative | missing =>
      simp [hcause, Cause.lastChar] at hlast
  · rintro ⟨key, hcause⟩
    rw [message, hcause]

theorem take_reverse_append (s : String) {t : String} {n : Nat} (h : n ≤ t.toList.length) :
    (s ++ t).toList.reverse.take n = t.toList.reverse.take n := by
  rw [String.toList_append, List.reverse_append,
    List.take_append_of_le_length (by rwa [List.length_reverse])]

/-- **A message says at its end that a value is not null for this cause only.** -/
theorem message_eq_null_iff :
    (∃ text, f.message = text ++ " is not of type 'null'") ↔ f.cause = .wrongType .null := by
  constructor
  · rintro ⟨text, h⟩
    have hlast : f.cause.lastChar = '\'' := lastChar_eq h (getLast?_toList_append _ (by decide))
    cases hcause : f.cause with
    | wrongType name =>
      have hmessage : f.message = f.value.toLiteral ++ " is not of type " ++ quoteText name.word := by
        rw [message, hcause]
      -- the letter before the closing quote tells the types apart
      have hends := congrArg (·.toList.reverse.take 2) (hmessage.symm.trans h)
      rw [take_reverse_append _ (by cases name <;> decide), take_reverse_append _ (by decide)] at hends
      cases name with
      | null => rfl
      | string | number | boolean | array | object => exact absurd hends (by decide)
    | notMember | noAlternative | missing | unknown =>
      simp [hcause, Cause.lastChar] at hlast
  · intro hcause
    refine ⟨f.value.toLiteral, ?_⟩
    have hnull : " is not of type 'null'" = " is not of type " ++ quoteText TypeName.null.word := by
      decide
    rw [hnull, ← String.append_assoc, message, hcause]

end Finding

namespace Validator

variable {v : Validator} {x : Value}

/-! ### What is reported -/

/-- **What is reported of a value is real.**  Of every value of JSON that a tree does not accept, a
violation is reported whose place leads into the value and, in step, into the tree, to a validator
there that has the cause for what the message says.  No message says that a value is not null. -/
theorem exists_leads_of_not_accepts (hv : v.namesDistinct = true) (hx : x.isJson = true)
    (h : ¬v.Accepts x) :
    ∃ f w y, v.finding? x = some f ∧ v.check x = .error (.violation f.renderPlace f.message) ∧
      x.partAt? f.place = some y ∧ v.Leads x f.place w y ∧
      (f.message = "required property is missing" →
        ∃ d rules extras es rule, w = .object d rules extras ∧ y = .map es ∧
          rules.find? (·.isMissing es) = some rule ∧
          f.renderPlace = f.place.render ++ "." ++ rule.name.display) ∧
      (f.message = "unknown property" →
        ∃ d rules spare es entry, w = .object d rules (.reject spare) ∧ y = .map es ∧
          List.find? (fun e => !rules.any (·.declares e.1)) es = some entry ∧
          f.renderPlace = f.place.render ++ "." ++ entry.1.display) ∧
      (f.message ≠ "required property is missing" → f.message ≠ "unknown property" →
        ¬w.Accepts y ∧ f.renderPlace = f.place.render) ∧
      ¬∃ text, f.message = text ++ " is not of type 'null'" := by
  rw [← isValid_iff_accepts hv, ← finding?_eq_none_iff] at h
  obtain ⟨f, hf⟩ := Option.ne_none_iff_exists'.mp h
  have hpart : f.IsIn x := isIn_of_best? hx hf
  obtain ⟨e, he, rfl⟩ := exists_of_best? hf
  obtain ⟨w, hleads, hrefuses⟩ := finds_focus v hv hx he
  have hw : w.namesDistinct = true := hleads.namesDistinct hv
  have hcheck : v.check x = .error (.violation (focus e).renderPlace (focus e).message) := by
    rw [check, schema?, if_pos (hasKeys_of_namesDistinct hv), hf]
    rfl
  refine ⟨focus e, w, (focus e).value, hf, hcheck, hpart.part, hleads, ?_, ?_, ?_, ?_⟩
  · intro hmessage
    obtain ⟨name, hcause⟩ := Finding.message_eq_missing_iff.mp hmessage
    rw [hcause] at hrefuses
    cases hrefuses with
    | missing hobject hmap hrule =>
      exact ⟨_, _, _, _, _, hobject, hmap, hrule, by rw [Finding.renderPlace, hcause]⟩
  · intro hmessage
    obtain ⟨key, hcause⟩ := Finding.message_eq_unknown_iff.mp hmessage
    rw [hcause] at hrefuses
    cases hrefuses with
    | unknown hobject hmap hentry =>
      exact ⟨_, _, _, _, _, hobject, hmap, hentry, by rw [Finding.renderPlace, hcause]⟩
  · intro hmissing hunknown
    rw [Ne, Finding.message_eq_missing_iff, not_exists] at hmissing
    rw [Ne, Finding.message_eq_unknown_iff, not_exists] at hunknown
    constructor
    · rw [← isValid_iff_accepts hw, hrefuses.isValid_eq_false hmissing hunknown]
      exact Bool.false_ne_true
    · rw [Finding.renderPlace]
      cases hcause : (focus e).cause with
      | missing name => exact absurd hcause (hmissing name)
      | unknown key => exact absurd hcause (hunknown key)
      | wrongType | notMember | noAlternative => rfl
  · rw [Finding.message_eq_null_iff]
    intro hcause
    rw [hcause] at hrefuses
    cases hrefuses with
    | wrongType hname => exact hname rfl

/-- A validator of maps with boxes, each of them null or a map with an identifier. -/
def shelfValidator : Validator :=
  .object .null
    [.mk (.text "boxes")
      (.array .null (.nullable .null
        (.object .null [.mk (.text "id") (.string .null none) (.bool true) (.bool false)]
          (.reject none))))
      (.bool true) (.bool false)]
    (.reject none)

/-- A map with two boxes, one of them null and one without an identifier. -/
def shelfValue : Value := .record [("boxes", .list [.null, .record []])]

/-- The identifier is reported that the second box lacks, and not that the box is not null. -/
theorem exists_leads_shelfValidator :
    shelfValidator.namesDistinct = true ∧ shelfValue.isJson = true ∧
      ¬shelfValidator.Accepts shelfValue ∧
      shelfValidator.check shelfValue =
        .error (.violation "$.boxes[1].id" "required property is missing") ∧
      ∃ p d rules extras es rule,
        shelfValidator.Leads shelfValue p (.object d rules extras) (.map es) ∧
        rules.find? (·.isMissing es) = some rule ∧
        p.render ++ "." ++ rule.name.display = "$.boxes[1].id" := by
  have hv : shelfValidator.namesDistinct = true := by decide
  have hx : shelfValue.isJson = true := by decide
  have hreport : shelfValidator.check shelfValue =
      .error (.violation "$.boxes[1].id" "required property is missing") := rfl
  have hrefuses : ¬shelfValidator.Accepts shelfValue := by
    rw [← isValid_iff_accepts hv]
    decide
  obtain ⟨f, w, y, -, hcheck, -, hleads, hmissing, -⟩ := exists_leads_of_not_accepts hv hx hrefuses
  rw [hreport] at hcheck
  injection hcheck with hfault
  injection hfault with hplace hmessage
  obtain ⟨d, rules, extras, es, rule, rfl, rfl, hrule, hrender⟩ := hmissing hmessage.symm
  exact ⟨hv, hx, hrefuses, hreport, _, d, rules, extras, es, rule, hleads, hrule,
    hrender.symm.trans hplace.symm⟩

end Validator

end ApiTools
