import ApiTools.Proofs.Schema.Satisfiable
import ApiTools.Proofs.Synthesis.Arguments

/-!
# Advice on paging and the arguments for it

A tool is said to page when a limit or an offset is among the properties of its request body.  The
body may be of several types, and is no map then, so that it is put under a name, and a limit beside
that name is refused.  In all other cases a body with properties is read as a map, and the limit or
the offset is an argument of the tool.

## Main definitions

* `Validator.takesKey` — a key of a map is declared, or passes without that.

## Main results

* `Synthesis.exists_of_isPaginated` — what it takes to be said to page.
* `Schema.takesKey_compileWithin` — a node that describes a map takes the properties it declares.
* `Synthesis.takesPaging_iff` — **the arguments of a tool that is said to page have the limit or the
  offset exactly when the body is not of several types.**
-/

namespace ApiTools

/-! ### Keys that a validator takes -/

namespace Validator

/-- Whether a key of a map is not refused as unknown: a rule declares it, or keys need no rule. -/
def takesKey (v : Validator) (key : Scalar) : Bool :=
  match v.core with
  | .any _ | .object _ _ (.allow _) | .object _ _ (.typed _) => true
  | .object _ rules (.reject _) => rules.any (·.declares key)
  | _ => false

variable {v : Validator} {key : Scalar}

theorem takesKey_withDescription (d : Value) :
    (v.withDescription d).takesKey key = v.takesKey key := by
  cases v with
  | object _ _ extras => cases extras <;> rfl
  | any | string | literal | number | boolean | array | nullable => rfl

/-- A validator of maps takes the keys that its rules declare. -/
theorem takesKey_object {d : Value} {rules : List Rule} {rule : Rule} (hrule : rule ∈ rules)
    (hkey : rule.declares key = true) (extras : Extras) :
    (object d rules extras).takesKey key = true := by
  cases extras with
  | reject => exact List.any_eq_true.mpr ⟨rule, hrule, hkey⟩
  | allow | typed => rfl

end Validator

namespace Schema

variable {document schema : Value} {mode : Mode} {room : Nat} {visited : List String}
variable {node properties : Entries} {v w : Validator} {key : Scalar}

theorem takesKey_withNull : (withNull node v).takesKey key = v.takesKey key := by
  unfold withNull
  split <;> rfl

theorem takesKey_described (h : described node v = .ok w) : w.takesKey key = v.takesKey key := by
  obtain ⟨text?, -, rfl⟩ := described_eq_ok_iff.mp h
  cases text? with
  | none => rfl
  | some text => exact Validator.takesKey_withDescription _

/-! ### Nodes with properties -/

/-- A node with properties describes a map unless it is of several types. -/
theorem isObject_iff_of_properties (h : node.get? "properties" = some (.map properties)) :
    isObject node = true ↔ (declaredTypes node).1.length ≤ 1 := by
  have hproperties : hasProperties node = true := by
    unfold hasProperties
    rw [h]
    rfl
  unfold isObject
  split
  · next hnone => simp [hnone, hproperties]
  · next name hone => simp [hone, hproperties]
  · next hnone hone =>
    refine iff_of_false Bool.false_ne_true fun hlength => ?_
    cases hnames : (declaredTypes node).1 with
    | nil => exact hnone hnames
    | cons name names =>
      rw [hnames] at hlength hone
      cases names with
      | nil => exact hone name rfl
      | cons => simp at hlength

/-- The validator of a node that describes a map takes the properties that it declares. -/
theorem takesKey_bareValidator {compileChild : Value → Except Fault Validator}
    (h : isObject node = true) (hproperties : node.get? "properties" = some (.map properties))
    (hkey : properties.hasKey key = true) (hv : bareValidator compileChild mode node = .ok v) :
    v.takesKey key = true := by
  by_cases hkind : kind node = .object
  · rw [bareValidator_of_object hkind] at hv
    obtain ⟨required, rules, extras, -, hrules, -, rfl⟩ := objectValidator_eq_ok_iff.mp hv
    have hdeclared : declaredProperties node = properties := by
      unfold declaredProperties
      rw [hproperties]
      rfl
    rw [hdeclared] at hrules
    obtain ⟨p, hp, hname⟩ := List.any_eq_true.mp hkey
    obtain ⟨rule, hrule, w, -, rfl⟩ := List.exists_of_mem_forall₂ hrules hp
    exact Validator.takesKey_object hrule hname extras
  · rw [bareValidator_of_overridden h hkind] at hv
    obtain rfl := Except.ok.inj hv
    rfl

/-- **So does that of a schema that leads to such a node.** -/
theorem takesKey_compileWithin {r : Resolution}
    (hr : resolveWithin document (room + 1) schema visited = .ok r) (h : isObject r.node = true)
    (hproperties : r.node.get? "properties" = some (.map properties))
    (hkey : properties.hasKey key = true)
    (hv : compileWithin document mode (room + 1) schema visited = .ok v) :
    v.takesKey key = true := by
  obtain ⟨bare, described, hbare, hdescribed, rfl⟩ := exists_bare_of_isObject hr h hv
  rw [takesKey_withNull, takesKey_described hdescribed]
  exact takesKey_bareValidator h hproperties hkey hbare

end Schema

namespace Synthesis

/-! ### Tools that are said to page -/

variable {document operation schema : Value} {r : Schema.Resolution} {v : Validator}

/-- The arguments that the advice on paging names. -/
def pagingNames : List String := ["limit", "offset"]

/-- **A tool is said to page when its request body has one of the arguments as a property.** -/
theorem exists_of_isPaginated (hschema : Document.requestSchema operation = .ok schema)
    (hr : Schema.resolve document schema [] 0 = .ok r) (hmap : Schema.GivesMap r.node)
    (h : isPaginated document operation = .ok true) :
    schema.isTruthy = true ∧ ∃ (properties : Entries) (name : String),
      r.node.get? "properties" = some (.map properties) ∧ name ∈ pagingNames ∧
        properties.hasKey (.text name) = true := by
  obtain ⟨schema₂, hschema₂, h⟩ := Except.bind_eq_ok_iff.mp h
  obtain rfl := Except.ok.inj (hschema.symm.trans hschema₂)
  split at h
  · cases Except.ok.inj h
  · next htruthy =>
    refine ⟨by simpa using htruthy, ?_⟩
    obtain ⟨r₂, hr₂, h⟩ := Except.bind_eq_ok_iff.mp h
    obtain rfl := Except.ok.inj (hr.symm.trans hr₂)
    obtain ⟨limited, hlimited, h⟩ := Except.bind_eq_ok_iff.mp h
    have hfound : ∃ name ∈ pagingNames,
        (((r.node.get? "properties").getD .null).orElse (.map [])).contains name = .ok true := by
      split at h
      · next hlimit =>
        rw [hlimit] at hlimited
        exact ⟨"limit", by decide, hlimited⟩
      · exact ⟨"offset", by decide, h⟩
    obtain ⟨name, hname, hcontains⟩ := hfound
    -- What is no map does not count as given, and has no names then.
    cases hproperties : r.node.get? "properties" with
    | none =>
      rw [hproperties] at hcontains
      cases Except.ok.inj hcontains
    | some given =>
      rw [hproperties, Option.getD_some, Value.orElse] at hcontains
      split at hcontains
      · next hgiven =>
        obtain ⟨properties, rfl⟩ := hmap given hproperties hgiven
        exact ⟨properties, name, rfl, hname, Except.ok.inj hcontains⟩
      · cases Except.ok.inj hcontains

/-- A body under a name leaves no room for other arguments. -/
theorem isValid_payloadValidator {w : Validator} {es : Entries} {name : String}
    (hname : name ≠ payloadName) (hes : es.hasKey (.text name) = true) :
    (payloadValidator w).isValid (.map es) = false := by
  rw [← Bool.not_eq_true]
  intro hvalid
  have hdistinct : Rule.Distinct [.mk (.text payloadName) w (.bool true) (.bool false)] :=
    List.pairwise_singleton _ (Scalar.text payloadName)
  obtain ⟨fs, heq, -, hextras⟩ := (Validator.isValid_object hdistinct).mp hvalid
  obtain rfl := Value.map.inj heq
  obtain ⟨e, he, hkey⟩ := List.any_eq_true.mp hes
  obtain ⟨rule, hrule, hdeclares⟩ := Validator.undeclared_keys_eq_nil_iff.mp hextras e he
  obtain rfl := List.mem_singleton.mp hrule
  have halike : Scalar.alike (.text payloadName) (.text name) = true :=
    Scalar.alike_trans hdeclares hkey
  exact hname (beq_iff_eq.mp halike).symm

/-- **The advice on paging fits the arguments exactly when the request body is not of several
types.**  For a tool that is said to page, the limit or the offset is an argument then, declared or
as an undeclared key that passes.  A body of several types is put under a name, and both are
refused.  All that is asked of the description is that the properties of the body are a map, which
they are where all properties are given as maps (`Schema.givesMap_of_resolve`). -/
theorem takesPaging_iff (hschema : Document.requestSchema operation = .ok schema)
    (hr : Schema.resolve document schema [] 0 = .ok r) (hmap : Schema.GivesMap r.node)
    (hpaginated : isPaginated document operation = .ok true)
    (hv : inputValidator document operation = .ok v) :
    ((∃ name ∈ pagingNames, v.takesKey (.text name) = true) ↔
      (Schema.declaredTypes r.node).1.length ≤ 1) ∧
    (1 < (Schema.declaredTypes r.node).1.length →
      ∀ es : Entries, ∀ name ∈ pagingNames, es.hasKey (.text name) = true →
        v.isValid (.map es) = false) := by
  obtain ⟨htruthy, properties, name, hproperties, hname, hkey⟩ :=
    exists_of_isPaginated hschema hr hmap hpaginated
  rw [← not_le, ← Schema.isObject_iff_of_properties hproperties]
  cases inputValidator_eq_ok_iff.mp hv with
  | none schema₂ hschema₂ hfalsy =>
    obtain rfl := Except.ok.inj (hschema.symm.trans hschema₂)
    exact absurd htruthy (by simp [hfalsy])
  | body schema₂ hschema₂ _ r₂ hr₂ hobject hv =>
    obtain rfl := Except.ok.inj (hschema.symm.trans hschema₂)
    obtain rfl := Except.ok.inj (hr.symm.trans hr₂)
    refine ⟨iff_of_true ⟨name, hname, ?_⟩ hobject, fun hother => absurd hobject hother⟩
    exact Schema.takesKey_compileWithin hr hobject hproperties hkey hv
  | payload schema₂ hschema₂ _ r₂ hr₂ hother w _ hv =>
    obtain rfl := Except.ok.inj (hschema.symm.trans hschema₂)
    obtain rfl := Except.ok.inj (hr.symm.trans hr₂)
    subst hv
    have hnames : ∀ name ∈ pagingNames, name ≠ payloadName := by decide
    refine ⟨iff_of_false ?_ (by simp [hother]), fun _ es name hname => ?_⟩
    · rintro ⟨name, hname, htakes⟩
      obtain ⟨rule, hrule, hdeclares⟩ := List.any_eq_true.mp htakes
      obtain rfl := List.mem_singleton.mp hrule
      exact hnames name hname (beq_iff_eq.mp hdeclares).symm
    · exact isValid_payloadValidator (hnames name hname)

/-- A page of a list, or nothing, with the place where it starts. -/
def pageSchema : Value :=
  .record [("type", .list [.text "object", .text "null"]),
    ("properties", .record [("offset", .record [("type", .text "integer")])])]

/-- A description that names the schema. -/
def pageDocument : Value :=
  .record [("components", .record [("schemas", .record [("Page", pageSchema)])])]

/-- A body that takes the schema by its name. -/
def pageOperation : Value := operationOf (.record [("$ref", .text "#/components/schemas/Page")])

/-- The arguments for it. -/
def pageValidator : Validator :=
  .nullable .null (.object .null
    [.mk (.text "offset") (.number .null) (.bool false) (.bool false)] (.reject none))

/-- A body that is a map with a limit, or a text. -/
def severalTypesSchema : Value :=
  .record [("type", .list [.text "object", .text "string"]),
    ("properties", .record [("limit", .record [("type", .text "integer")])])]

/-- The properties of such bodies are given as maps. -/
theorem mapProperties_body (types : List String) {name : String} (hname : "properties" ≠ name) :
    Schema.MapProperties (.record [("type", .list (types.map .text)),
      ("properties", .record [(name, .record [("type", .text "integer")])])]) := by
  refine Schema.mapProperties_record (fun v hv _ => ⟨_, (Option.some.inj hv).symm⟩) ?_
  rw [List.forall_mem_cons, List.forall_mem_singleton]
  refine ⟨Schema.mapProperties_texts types, Schema.mapProperties_field hname ?_⟩
  exact Schema.mapProperties_field (by decide) (Schema.mapProperties_text "integer")

theorem mapProperties_severalTypesSchema : Schema.MapProperties severalTypesSchema :=
  mapProperties_body ["object", "string"] (by decide)

/-- Nothing around the schema of a body gives properties. -/
theorem mapProperties_operationOf {schema : Value} (h : Schema.MapProperties schema) :
    Schema.MapProperties (operationOf schema) := by
  unfold operationOf
  iterate 4 refine Schema.mapProperties_field (by decide) ?_
  exact h

/-- All properties in the description that names the one body are given as maps, too. -/
theorem mapProperties_pageDocument : Schema.MapProperties pageDocument := by
  unfold pageDocument
  iterate 3 refine Schema.mapProperties_field (by decide) ?_
  exact mapProperties_body ["object", "null"] (by decide)

/-- The advice fits the arguments of the one body, and not those of the other one. -/
theorem takesPaging_pageOperation :
    isPaginated pageDocument pageOperation = .ok true ∧
      inputValidator pageDocument pageOperation = .ok pageValidator ∧
      (∃ name ∈ pagingNames, pageValidator.takesKey (.text name) = true) ∧
      isPaginated pageDocument (operationOf severalTypesSchema) = .ok true ∧
      (payloadValidator (.any .null)).isValid (.record [("limit", .int 10)]) = false := by
  have hpaged : isPaginated pageDocument pageOperation = .ok true := rfl
  have hinput : inputValidator pageDocument pageOperation = .ok pageValidator := rfl
  obtain ⟨r, hr, htypes⟩ : ∃ r,
      Schema.resolve pageDocument (.record [("$ref", .text "#/components/schemas/Page")]) [] 0 =
        .ok r ∧ (Schema.declaredTypes r.node).1.length ≤ 1 := ⟨_, rfl, by decide⟩
  have hlisted : isPaginated pageDocument (operationOf severalTypesSchema) = .ok true := rfl
  obtain ⟨r₂, hr₂, htypes₂⟩ : ∃ r, Schema.resolve pageDocument severalTypesSchema [] 0 = .ok r ∧
      1 < (Schema.declaredTypes r.node).1.length := ⟨_, rfl, by decide⟩
  have hdocument : pageDocument.isPlain = true ∧ Schema.MapProperties pageDocument :=
    ⟨by decide, mapProperties_pageDocument⟩
  have hmap := Schema.givesMap_of_resolve hdocument
    ⟨by decide, Schema.mapProperties_field (by decide) (Schema.mapProperties_text _)⟩ hr
  have hmap₂ := Schema.givesMap_of_resolve hdocument
    ⟨by decide, mapProperties_severalTypesSchema⟩ hr₂
  refine ⟨hpaged, hinput, (takesPaging_iff rfl hr hmap hpaged hinput).1.mpr htypes, hlisted, ?_⟩
  exact (takesPaging_iff rfl hr₂ hmap₂ hlisted rfl).2 htypes₂ _ "limit" (by decide) (by decide)

/-- **The advice on paging need not fit the arguments**: a body of several types may have a limit as
a property, and then neither the limit nor the offset is an argument. -/
theorem advice_names_refused :
    (operationOf severalTypesSchema).IsFiniteJson ∧
      Schema.MapProperties (operationOf severalTypesSchema) ∧
      isPaginated (.map []) (operationOf severalTypesSchema) = .ok true ∧
      inputValidator (.map []) (operationOf severalTypesSchema) =
        .ok (payloadValidator (.any .null)) ∧
      ∀ name ∈ pagingNames, (payloadValidator (.any .null)).takesKey (.text name) = false :=
  ⟨by decide, mapProperties_operationOf mapProperties_severalTypesSchema, rfl, rfl, by decide⟩

end Synthesis

end ApiTools
