import ApiTools.Proofs.Schema.Compile
import ApiTools.Synthesis

/-!
# The arguments of an operation

Arguments are a map: the body itself where its schema describes a map, and otherwise a map with the
body under one name.  Two readings of the schema meet here.  Whether it describes a map is read off
its type and its properties, and decides whether the body is wrapped; its validator goes by the kind
of the node and by whether it admits null.  They agree unless the node leaves a choice beside its
type or admits null, and then the validator accepts more than maps.

## Main definitions

* `Synthesis.AgreesOnMaps` — both readings of a request body find the same maps.
* `Synthesis.InputStep` — what the validator of arguments can be.

## Main results

* `Schema.compileWithin_accepts_only_maps_iff` — when a node that describes a map is read as one.
* `Synthesis.inputValidator_eq_ok_iff` — **these are the three validators of arguments.**
* `Synthesis.accepts_only_maps_iff` — **arguments are maps exactly when the readings agree.**
-/

namespace ApiTools

namespace Schema

/-! ### Nodes that describe maps -/

/-- A node that describes a map and is not read as one accepts everything. -/
theorem bareValidator_of_overridden {node : Entries} (h : isObject node = true)
    (hkind : kind node ≠ .object) (compileChild : Value → Except Fault Validator) (mode : Mode) :
    bareValidator compileChild mode node = .ok (.any .null) := by
  have hkinds : kind node = .reference ∨ kind node = .composite ∨ kind node = .union := by
    rw [kind_of_isObject h] at hkind ⊢
    split_ifs at hkind ⊢ <;> simp at hkind ⊢
  unfold bareValidator
  rcases hkinds with hkind | hkind | hkind <;> rw [hkind]

/-- A schema that leads to a node that describes a map is not cut there, so it is read by the
node. -/
theorem exists_bare_of_isObject {document schema : Value} {mode : Mode} {room : Nat}
    {visited : List String} {r : Resolution} {v : Validator}
    (hr : resolveWithin document (room + 1) schema visited = .ok r) (h : isObject r.node = true)
    (hv : compileWithin document mode (room + 1) schema visited = .ok v) :
    ∃ bare described,
      bareValidator (fun c => compileWithin document mode room c r.visited) mode r.node = .ok bare ∧
      Schema.described r.node bare = .ok described ∧ v = withNull r.node described := by
  cases compileWithin_succ_iff.mp hv with
  | cut r₂ hr₂ hnil =>
    obtain rfl := Except.ok.inj (hr.symm.trans hr₂)
    exact absurd hnil (ne_nil_of_isObject h)
  | built r₂ hr₂ _ bare described hbare hdescribed hv =>
    obtain rfl := Except.ok.inj (hr.symm.trans hr₂)
    exact ⟨bare, described, hbare, hdescribed, hv⟩

/-- **The validator of a node that describes a map accepts maps only exactly when the node has no
overriding key and does not admit null.** -/
theorem compileWithin_accepts_only_maps_iff {document schema : Value} {mode : Mode} {room : Nat}
    {visited : List String} {r : Resolution} {v : Validator}
    (hr : resolveWithin document (room + 1) schema visited = .ok r) (h : isObject r.node = true)
    (hv : compileWithin document mode (room + 1) schema visited = .ok v) :
    (∀ x, v.isValid x = true → ∃ es, x = .map es) ↔
      (∀ name ∈ overridingKeys, r.node.hasKey (.text name) = false) ∧
        isNullable r.node = false := by
  rw [← kind_eq_object_iff h]
  obtain ⟨bare, described, hbare, hdescribed, rfl⟩ := exists_bare_of_isObject hr h hv
  constructor
  · -- Null is accepted otherwise, and is no map.
    intro hmaps
    have hnull : ¬ (withNull r.node described).isValid .null = true := fun hnull => by
      obtain ⟨es, hes⟩ := hmaps .null hnull
      cases hes
    rw [isValid_withNull_described hdescribed, not_or] at hnull
    refine ⟨?_, by simpa using hnull.1⟩
    by_contra hkind
    rw [bareValidator_of_overridden h hkind] at hbare
    cases hbare
    exact hnull.2 Validator.isValid_any
  · rintro ⟨hkind, hnullable⟩ x hx
    rw [isValid_withNull_described hdescribed] at hx
    rw [bareValidator_of_object hkind] at hbare
    obtain ⟨required, rules, extras, -, -, -, rfl⟩ := objectValidator_eq_ok_iff.mp hbare
    exact Validator.exists_map_of_isValid_object (hx.resolve_left (by simp [hnullable]))

end Schema

namespace Synthesis

/-! ### The validator of arguments -/

/-- Both readings of a request body that describes a map take it as one: it has no key that is read
before its type, and does not admit null. -/
def AgreesOnMaps (document operation : Value) : Prop :=
  ∀ schema r, Document.requestSchema operation = .ok schema → schema.isTruthy = true →
    Schema.resolve document schema [] 0 = .ok r → Schema.isObject r.node = true →
    (∀ name ∈ Schema.overridingKeys, r.node.hasKey (.text name) = false) ∧
      Schema.isNullable r.node = false

/-- The three validators of arguments. -/
inductive InputStep (document operation : Value) (v : Validator) : Prop where
  /-- Without a request body there are none. -/
  | none (schema : Value) (hschema : Document.requestSchema operation = .ok schema)
      (hfalsy : schema.isTruthy = false) (hv : v = .emptyObject .null)
  /-- A request body that is a map is taken as it is. -/
  | body (schema : Value) (hschema : Document.requestSchema operation = .ok schema)
      (htruthy : schema.isTruthy = true) (r : Schema.Resolution)
      (hr : Schema.resolve document schema [] 0 = .ok r) (hobject : Schema.isObject r.node = true)
      (hv : Schema.compile document schema .input 0 [] = .ok v)
  /-- Any other request body is put under a name. -/
  | payload (schema : Value) (hschema : Document.requestSchema operation = .ok schema)
      (htruthy : schema.isTruthy = true) (r : Schema.Resolution)
      (hr : Schema.resolve document schema [] 0 = .ok r) (hother : Schema.isObject r.node = false)
      (w : Validator) (hw : Schema.compile document schema .input 0 [] = .ok w)
      (hv : v = payloadValidator w)

variable {document operation : Value} {v : Validator}

/-- **The validator of arguments is one of the three.** -/
theorem inputValidator_eq_ok_iff :
    inputValidator document operation = .ok v ↔ InputStep document operation v := by
  constructor
  · intro h
    obtain ⟨schema, hschema, h⟩ := Except.bind_eq_ok_iff.mp h
    split at h
    · next hfalsy => exact .none schema hschema (by simpa using hfalsy) (Except.ok.inj h).symm
    · next htruthy =>
      obtain ⟨r, hr, h⟩ := Except.bind_eq_ok_iff.mp h
      obtain ⟨w, hw, h⟩ := Except.bind_eq_ok_iff.mp h
      have htruthy : schema.isTruthy = true := by simpa using htruthy
      split at h
      · next hobject =>
        obtain rfl := Except.ok.inj h
        exact .body schema hschema htruthy r hr hobject hw
      · next hother =>
        exact .payload schema hschema htruthy r hr (by simpa using hother) w hw
          (Except.ok.inj h).symm
  · intro h
    cases h with
    | none schema hschema hfalsy hv =>
      refine Except.bind_eq_ok_iff.mpr ⟨schema, hschema, ?_⟩
      rw [if_pos (by simp [hfalsy]), hv]
      rfl
    | body schema hschema htruthy r hr hobject hv =>
      refine Except.bind_eq_ok_iff.mpr ⟨schema, hschema, ?_⟩
      rw [if_neg (by simp [htruthy])]
      refine Except.bind_eq_ok_iff.mpr ⟨r, hr, Except.bind_eq_ok_iff.mpr ⟨v, hv, ?_⟩⟩
      rw [if_pos hobject]
      rfl
    | payload schema hschema htruthy r hr hother w hw hv =>
      refine Except.bind_eq_ok_iff.mpr ⟨schema, hschema, ?_⟩
      rw [if_neg (by simp [htruthy])]
      refine Except.bind_eq_ok_iff.mpr ⟨r, hr, Except.bind_eq_ok_iff.mpr ⟨w, hw, ?_⟩⟩
      rw [if_neg (by simp [hother]), hv]
      rfl

/-- **Arguments are maps exactly when the readings of the request body agree**: the validator of the
arguments accepts maps only if and only if a request body that describes a map has no key that is
read before its type, and does not admit null. -/
theorem accepts_only_maps_iff (h : inputValidator document operation = .ok v) :
    (∀ x, v.isValid x = true → ∃ es, x = .map es) ↔ AgreesOnMaps document operation := by
  cases inputValidator_eq_ok_iff.mp h with
  | none schema hschema hfalsy hv =>
    -- The empty map is the only argument, and there is no schema to disagree on.
    subst hv
    refine iff_of_true (fun x => Validator.exists_map_of_isValid_object) ?_
    intro schema₂ r hschema₂ htruthy
    obtain rfl := Except.ok.inj (hschema.symm.trans hschema₂)
    exact absurd htruthy (by simp [hfalsy])
  | body schema hschema htruthy r hr hobject hv =>
    rw [Schema.compileWithin_accepts_only_maps_iff hr hobject hv]
    constructor
    · intro hagrees schema₂ r₂ hschema₂ _ hr₂ _
      obtain rfl := Except.ok.inj (hschema.symm.trans hschema₂)
      obtain rfl := Except.ok.inj (hr.symm.trans hr₂)
      exact hagrees
    · exact fun hagrees => hagrees schema r hschema htruthy hr hobject
  | payload schema hschema htruthy r hr hother w hw hv =>
    -- Under a name, the body may be anything.
    subst hv
    refine iff_of_true (fun x => Validator.exists_map_of_isValid_object) ?_
    intro schema₂ r₂ hschema₂ _ hr₂ hobject
    obtain rfl := Except.ok.inj (hschema.symm.trans hschema₂)
    obtain rfl := Except.ok.inj (hr.symm.trans hr₂)
    exact absurd hobject (by simp [hother])

/-- An operation with the given schema of its request body. -/
def operationOf (schema : Value) : Value :=
  .record [("requestBody", .record [("content", .record [("application/json",
    .record [("schema", schema)])])])]

/-- A schema of maps that admits null beside them. -/
def nullableSchema : Value := .record [("type", .text "object"), ("nullable", .bool true)]

/-- The validator of arguments that may be null. -/
def nullableValidator : Validator := .nullable .null (.object .null [] (.reject none))

/-- The readings of a request body that may be null do not agree. -/
theorem not_agreesOnMaps_nullableSchema :
    inputValidator (.map []) (operationOf nullableSchema) = .ok nullableValidator ∧
      ¬ AgreesOnMaps (.map []) (operationOf nullableSchema) := by
  have hv : inputValidator (.map []) (operationOf nullableSchema) = .ok nullableValidator := rfl
  refine ⟨hv, fun hagrees => ?_⟩
  obtain ⟨es, hes⟩ := (accepts_only_maps_iff hv).mpr hagrees .null (by decide)
  cases hes

/-- **Arguments need not be a map**: a body that is a map or null may be null, and one whose type
stands beside a choice may be anything. -/
theorem arguments_accept_null :
    (∃ v, inputValidator (.map []) (operationOf nullableSchema) = .ok v ∧
      v.isValid .null = true) ∧
    ∃ v, inputValidator (.map []) (operationOf
      (.record [("type", .text "object"), ("anyOf", .list [])])) = .ok v ∧
      v.isValid (.list []) = true :=
  ⟨⟨nullableValidator, rfl, by decide⟩, .any .null, rfl, by decide⟩

end Synthesis

end ApiTools
