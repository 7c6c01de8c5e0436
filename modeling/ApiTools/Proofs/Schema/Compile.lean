import ApiTools.Compile
import ApiTools.Proofs.Schema.Resolution
import ApiTools.Proofs.Validator.Acceptance

/-!
# One step of compilation

The validator of a node is made in one step from the validators of the schemas in it.  The step is
taken apart here into what it needs and what it gives: which parts have to be read first, and what
the validator that is put together from them accepts.

## Main definitions

* `Schema.CompileStep` — what the compilation of a node with room left can do.
* `Schema.itemSchema`, `Schema.extraSchema` — the schemas of items and of undeclared keys.
* `Schema.ExtrasOf` — the policy for undeclared keys that a node leads to.
* `Schema.BareStep` — what the validator of a resolved node can be.
* `Schema.Inner` — the schemas in a node that its validator is made from.

## Main results

* `Schema.compileWithin_succ_iff` — **these are all the things that compilation can do.**
* `Schema.objectValidator_eq_ok_iff` — the parts of a validator of maps.
* `Schema.bareValidator_eq_ok_iff` — **these are all the validators that a node can have.**
* `Schema.exists_bareValidator_iff` — **a node is compiled when all schemas in it are.**
* `Schema.bareValidator_congr` — **its validator depends only on how these are read.**
* `Schema.isValid_withNull_described` — description and nullability add null and nothing else.
-/

namespace ApiTools

namespace Schema

variable {document schema : Value} {mode : Mode} {room : Nat} {visited : List String}
variable {compileChild : Value → Except Fault Validator} {node : Entries} {v w : Validator}

/-! ### The step -/

/-- What the compilation of a node with room left can do. -/
inductive CompileStep (document : Value) (mode : Mode) (room : Nat) (schema : Value)
    (visited : List String) (v : Validator) : Prop where
  /-- A node that was cut accepts everything. -/
  | cut (r : Resolution) (hr : resolveWithin document (room + 1) schema visited = .ok r)
      (hnil : r.node = []) (hv : v = .any .null)
  /-- Any other node is read by its kind, documented, and opened to null if it is nullable. -/
  | built (r : Resolution) (hr : resolveWithin document (room + 1) schema visited = .ok r)
      (hne : r.node ≠ []) (bare described : Validator)
      (hbare : bareValidator (fun child => compileWithin document mode room child r.visited) mode
        r.node = .ok bare)
      (hdescribed : Schema.described r.node bare = .ok described)
      (hv : v = withNull r.node described)

/-- **The compilation of a node with room left does one of the two things.** -/
theorem compileWithin_succ_iff :
    compileWithin document mode (room + 1) schema visited = .ok v ↔
      CompileStep document mode room schema visited v := by
  constructor
  · intro h
    rw [compileWithin] at h
    obtain ⟨r, hr, h⟩ := Except.bind_eq_ok_iff.mp h
    dsimp only at h
    split at h
    · next hnil => exact .cut r hr (List.isEmpty_iff.mp hnil) (Except.ok.inj h).symm
    · next hne =>
      obtain ⟨bare, hbare, h⟩ := Except.bind_eq_ok_iff.mp h
      obtain ⟨described, hdescribed, h⟩ := Except.bind_eq_ok_iff.mp h
      exact .built r hr (fun hnil => hne (List.isEmpty_iff.mpr hnil)) bare described hbare
        hdescribed (Except.ok.inj h).symm
  · intro h
    rw [compileWithin]
    cases h with
    | cut r hr hnil hv =>
      refine Except.bind_eq_ok_iff.mpr ⟨r, hr, ?_⟩
      simp [hnil, hv]
      rfl
    | built r hr hne bare described hbare hdescribed hv =>
      refine Except.bind_eq_ok_iff.mpr ⟨r, hr, ?_⟩
      dsimp only
      rw [if_neg (by simpa using hne)]
      refine Except.bind_eq_ok_iff.mpr ⟨bare, hbare, ?_⟩
      exact Except.bind_eq_ok_iff.mpr ⟨described, hdescribed, hv ▸ rfl⟩

/-! ### Description and nullability -/

/-- Whether a node can be documented does not depend on the validator. -/
theorem described_eq_ok_iff :
    described node v = .ok w ↔ ∃ text?, documentation node = .ok text? ∧
      w = text?.elim v fun text => v.withDescription (.text text) := by
  unfold described
  rw [Except.bind_eq_ok_iff]
  refine exists_congr fun text? => and_congr_right fun _ => ?_
  cases text? with
  | none => exact ⟨fun h => (Except.ok.inj h).symm, fun h => h ▸ rfl⟩
  | some text => exact ⟨fun h => (Except.ok.inj h).symm, fun h => h ▸ rfl⟩

theorem isValid_described (h : described node v = .ok w) (x : Value) :
    w.isValid x = v.isValid x := by
  obtain ⟨text?, -, rfl⟩ := described_eq_ok_iff.mp h
  cases text? with
  | none => rfl
  | some text => exact Validator.isValid_withDescription v _ x

/-- **Description and nullability add null and nothing else.** -/
theorem isValid_withNull_described (h : described node v = .ok w) {x : Value} :
    (withNull node w).isValid x = true ↔
      (x = .null ∧ isNullable node = true) ∨ v.isValid x = true := by
  unfold withNull
  split
  · next hnull => simp [Validator.isValid_nullable, isValid_described h, hnull]
  · next hnull => simp [isValid_described h, hnull]

/-! ### Maps -/

/-- The schema of the items of a list. -/
def itemSchema (node : Entries) : Value := (node.get? "items").getD .null

/-- What a node says of undeclared keys. -/
def extraSchema (node : Entries) : Value := (node.get? "additionalProperties").getD .null

/-- The policy for undeclared keys that a node leads to, given how to read the schemas in it. -/
inductive ExtrasOf (compileChild : Value → Except Fault Validator) (mode : Mode) (node : Entries)
    (extras : Extras) : Prop where
  /-- An answer may have any other keys. -/
  | answer (hmode : mode = .output) (hextras : extras = .allow none)
  /-- A node may leave undeclared keys free. -/
  | free (hmode : mode = .input) (hbare : (extraSchema node).bare = .bool true)
      (hextras : extras = .allow none)
  /-- A node may have a schema for undeclared keys. -/
  | typed (hmode : mode = .input) (es : Entries) (hbare : (extraSchema node).bare = .map es)
      (v : Validator) (hv : compileChild (extraSchema node) = .ok v) (hextras : extras = .typed v)
  /-- Otherwise they are refused. -/
  | refused (hmode : mode = .input) (hfree : (extraSchema node).bare ≠ .bool true)
      (htyped : ∀ es, (extraSchema node).bare ≠ .map es) (hextras : extras = .reject none)

/-- **A validator of maps has one rule for each declared property, and the policy of the node.** -/
theorem objectValidator_eq_ok_iff :
    objectValidator compileChild mode node = .ok w ↔
      ∃ required rules extras, requiredKeys node = .ok required ∧
        List.Forall₂ (fun p rule => ∃ v, compileChild p.2 = .ok v ∧
          rule = ruleFor mode required p.1 v) (declaredProperties node) rules ∧
        ExtrasOf compileChild mode node extras ∧ w = .object .null rules extras := by
  constructor
  · intro h
    obtain ⟨required, hrequired, h⟩ := Except.bind_eq_ok_iff.mp h
    obtain ⟨rules, hrules, h⟩ := Except.bind_eq_ok_iff.mp h
    have hrules := (Except.mapM_eq_ok_iff.mp hrules).imp fun p rule =>
      Except.bind_pure_eq_ok_iff.mp
    refine ⟨required, rules, ?_⟩
    cases mode with
    | output =>
      exact ⟨.allow none, hrequired, hrules, .answer rfl rfl, (Except.ok.inj h).symm⟩
    | input =>
      dsimp only at h
      split at h
      · next hbare =>
        exact ⟨.allow none, hrequired, hrules, .free rfl hbare rfl, (Except.ok.inj h).symm⟩
      · next es hbare =>
        obtain ⟨v, hv, h⟩ := Except.bind_pure_eq_ok_iff.mp h
        exact ⟨.typed v, hrequired, hrules, .typed rfl es hbare v hv rfl, h⟩
      · next hfree htyped =>
        exact ⟨.reject none, hrequired, hrules, .refused rfl hfree htyped rfl,
          (Except.ok.inj h).symm⟩
  · rintro ⟨required, rules, extras, hrequired, hrules, hextras, rfl⟩
    have hrules := Except.mapM_eq_ok_iff.mpr
      (hrules.imp fun p rule => Except.bind_pure_eq_ok_iff.mpr)
    refine Except.bind_eq_ok_iff.mpr ⟨required, hrequired, ?_⟩
    refine Except.bind_eq_ok_iff.mpr ⟨rules, hrules, ?_⟩
    cases hextras with
    | answer hmode hextras =>
      subst hmode hextras
      rfl
    | free hmode hbare hextras =>
      subst hmode hextras
      dsimp only
      rw [show ((node.get? "additionalProperties").getD .null).bare = .bool true from hbare]
      rfl
    | typed hmode es hbare v hv hextras =>
      subst hmode hextras
      dsimp only
      rw [show ((node.get? "additionalProperties").getD .null).bare = .map es from hbare]
      exact Except.bind_eq_ok_iff.mpr ⟨v, hv, rfl⟩
    | refused hmode hfree htyped hextras =>
      subst hmode hextras
      dsimp only
      split
      · next hbare => exact absurd hbare hfree
      · next es hbare => exact absurd hbare (htyped es)
      · rfl

/-! ### One node -/

/-- What the validator of a resolved node can be, given how to read the schemas in it. -/
inductive BareStep (compileChild : Value → Except Fault Validator) (mode : Mode) (node : Entries)
    (w : Validator) : Prop where
  /-- Maps have one rule for each declared property, and the policy of the node. -/
  | object (hkind : kind node = .object) (required : List Scalar) (rules : List Rule)
      (extras : Extras) (hrequired : requiredKeys node = .ok required)
      (hrules : List.Forall₂ (fun p rule => ∃ v, compileChild p.2 = .ok v ∧
        rule = ruleFor mode required p.1 v) (declaredProperties node) rules)
      (hextras : ExtrasOf compileChild mode node extras) (hw : w = .object .null rules extras)
  /-- The items of a list are read by their schema. -/
  | items (hkind : kind node = .array) (htruthy : (itemSchema node).isTruthy = true)
      (v : Validator) (hv : compileChild (itemSchema node) = .ok v) (hw : w = .array .null v)
  /-- Items without a schema are free. -/
  | freeItems (hkind : kind node = .array) (hfalsy : (itemSchema node).isTruthy = false)
      (hw : w = .array .null (.any .null))
  /-- Texts may be listed. -/
  | string (hkind : kind node = .string) (hw : w = stringValidator mode (members node))
  /-- Numbers are not restricted. -/
  | number (hkind : kind node = .number) (hw : w = .number .null)
  /-- Neither are truth values. -/
  | boolean (hkind : kind node = .boolean) (hw : w = .boolean .null)
  /-- A request has one of the listed values. -/
  | listed (hkind : kind node = .enumeration) (hmode : mode = .input)
      (hw : w = .literal .null (members node))
  /-- An answer may have others. -/
  | unlisted (hkind : kind node = .enumeration) (hmode : mode = .output) (hw : w = .any .null)
  /-- Nodes of the other kinds leave everything free. -/
  | free (hkind : kind node = .reference ∨ kind node = .composite ∨ kind node = .union ∨
        kind node = .unresolved) (hw : w = .any .null)

/-- **These are all the validators that a node can have.** -/
theorem bareValidator_eq_ok_iff :
    bareValidator compileChild mode node = .ok w ↔ BareStep compileChild mode node w := by
  constructor
  · intro h
    unfold bareValidator at h
    cases hkind : kind node with
    | object =>
      rw [hkind] at h
      obtain ⟨required, rules, extras, hrequired, hrules, hextras, hw⟩ :=
        objectValidator_eq_ok_iff.mp h
      exact .object hkind required rules extras hrequired hrules hextras hw
    | array =>
      rw [hkind] at h
      dsimp only at h
      split at h
      · next htruthy =>
        obtain ⟨v, hv, h⟩ := Except.bind_pure_eq_ok_iff.mp h
        exact .items hkind htruthy v hv h
      · next hfalsy =>
        exact .freeItems hkind (Bool.eq_false_iff.mpr hfalsy) (Except.ok.inj h).symm
    | string =>
      rw [hkind] at h
      exact .string hkind (Except.ok.inj h).symm
    | number =>
      rw [hkind] at h
      exact .number hkind (Except.ok.inj h).symm
    | boolean =>
      rw [hkind] at h
      exact .boolean hkind (Except.ok.inj h).symm
    | enumeration =>
      rw [hkind] at h
      cases mode with
      | input => exact .listed hkind rfl (Except.ok.inj h).symm
      | output => exact .unlisted hkind rfl (Except.ok.inj h).symm
    | reference | composite | union | unresolved =>
      rw [hkind] at h
      exact .free (by simp [hkind]) (Except.ok.inj h).symm
  · intro h
    unfold bareValidator
    cases h with
    | object hkind required rules extras hrequired hrules hextras hw =>
      rw [hkind]
      exact objectValidator_eq_ok_iff.mpr
        ⟨required, rules, extras, hrequired, hrules, hextras, hw⟩
    | items hkind htruthy v hv hw =>
      rw [hkind]
      dsimp only
      unfold itemSchema at htruthy hv
      rw [if_pos htruthy]
      exact Except.bind_eq_ok_iff.mpr ⟨v, hv, hw ▸ rfl⟩
    | freeItems hkind hfalsy hw =>
      rw [hkind]
      dsimp only
      unfold itemSchema at hfalsy
      rw [if_neg (Bool.eq_false_iff.mp hfalsy), hw]
    | string hkind hw | number hkind hw | boolean hkind hw => rw [hkind, hw]
    | listed hkind hmode hw | unlisted hkind hmode hw => rw [hkind, hmode, hw]
    | free hkind hw => rcases hkind with hkind | hkind | hkind | hkind <;> rw [hkind, hw]

/-- The validator of a node that is read as a map is one of maps. -/
theorem bareValidator_of_object (hkind : kind node = .object) :
    bareValidator compileChild mode node = objectValidator compileChild mode node := by
  unfold bareValidator
  rw [hkind]

/-! ### The schemas in a node -/

/-- The schemas in a node that its validator is made from. -/
inductive Inner (mode : Mode) (node : Entries) : Value → Prop where
  /-- The schema of a declared property. -/
  | property (hkind : kind node = .object) (p : Scalar × Value) (hp : p ∈ declaredProperties node) :
    Inner mode node p.2
  /-- The schema of undeclared keys. -/
  | extra (hkind : kind node = .object) (hmode : mode = .input) (es : Entries)
    (hbare : (extraSchema node).bare = .map es) : Inner mode node (extraSchema node)
  /-- The schema of items. -/
  | item (hkind : kind node = .array) (htruthy : (itemSchema node).isTruthy = true) :
    Inner mode node (itemSchema node)

/-- An answer is compiled from no schema that a request is not compiled from. -/
theorem Inner.input {c : Value} (h : Inner mode node c) : Inner .input node c := by
  cases h with
  | property hkind p hp => exact .property hkind p hp
  | extra hkind _ es hbare => exact .extra hkind rfl es hbare
  | item hkind htruthy => exact .item hkind htruthy

/-- There is no schema in the empty node. -/
theorem Inner.ne_nil {c : Value} (h : Inner mode node c) : node ≠ [] := by
  rintro rfl
  cases h <;> contradiction

/-- A policy with a validator has the one that the schema of undeclared keys leads to. -/
theorem ExtrasOf.inner {extras : Extras} (h : ExtrasOf compileChild mode node extras)
    (hkind : kind node = .object) (hv : extras.validator? = some v) :
    Inner mode node (extraSchema node) ∧ compileChild (extraSchema node) = .ok v := by
  cases h with
  | answer _ hextras | free _ _ hextras | refused _ _ _ hextras =>
    subst hextras
    cases hv
  | typed hmode es hbare u hu hextras =>
    subst hextras
    obtain rfl := Option.some.inj hv
    exact ⟨.extra hkind hmode es hbare, hu⟩

/-- Every node leads to a policy, if the schema of undeclared keys is compiled. -/
theorem exists_extrasOf (h : mode = .input → ∀ es, (extraSchema node).bare = .map es →
    ∃ v, compileChild (extraSchema node) = .ok v) :
    ∃ extras, ExtrasOf compileChild mode node extras := by
  cases mode with
  | output => exact ⟨_, .answer rfl rfl⟩
  | input =>
    by_cases hfree : (extraSchema node).bare = .bool true
    · exact ⟨_, .free rfl hfree rfl⟩
    · by_cases htyped : ∃ es, (extraSchema node).bare = .map es
      · obtain ⟨es, hbare⟩ := htyped
        obtain ⟨v, hv⟩ := h rfl es hbare
        exact ⟨_, .typed rfl es hbare v hv rfl⟩
      · exact ⟨_, .refused rfl hfree (fun es hbare => htyped ⟨es, hbare⟩) rfl⟩

/-- **A node is compiled when all schemas in it are**, and its required names are read if it
describes a map. -/
theorem exists_bareValidator_iff :
    (∃ v, bareValidator compileChild mode node = .ok v) ↔
      (kind node = .object → ∃ names, requiredKeys node = .ok names) ∧
        ∀ c, Inner mode node c → ∃ v, compileChild c = .ok v := by
  constructor
  · rintro ⟨v, h⟩
    refine ⟨fun hkind => ?_, fun c hc => ?_⟩
    · rw [bareValidator_of_object hkind] at h
      obtain ⟨names, -, -, hnames, -⟩ := objectValidator_eq_ok_iff.mp h
      exact ⟨names, hnames⟩
    · cases hc with
      | property hkind p hp =>
        rw [bareValidator_of_object hkind] at h
        obtain ⟨required, rules, extras, -, hrules, -, -⟩ := objectValidator_eq_ok_iff.mp h
        obtain ⟨rule, -, w, hw, -⟩ := List.exists_of_mem_forall₂ hrules hp
        exact ⟨w, hw⟩
      | extra hkind hmode es hbare =>
        rw [bareValidator_of_object hkind] at h
        obtain ⟨required, rules, extras, -, -, hextras, -⟩ := objectValidator_eq_ok_iff.mp h
        cases hextras with
        | answer houtput => exact absurd (houtput.symm.trans hmode) (by decide)
        | free _ hfree => exact absurd (hfree.symm.trans hbare) (by simp)
        | typed _ _ _ w hw => exact ⟨w, hw⟩
        | refused _ _ htyped => exact absurd hbare (htyped es)
      | item hkind htruthy =>
        unfold bareValidator at h
        rw [hkind] at h
        dsimp only at h
        unfold itemSchema at htruthy ⊢
        rw [if_pos htruthy] at h
        obtain ⟨w, hw, -⟩ := Except.bind_eq_ok_iff.mp h
        exact ⟨w, hw⟩
  · rintro ⟨hrequired, hinner⟩
    -- Only the kinds of maps and lists have schemas in them.
    unfold bareValidator
    cases hkind : kind node with
    | object =>
      obtain ⟨required, hrequired⟩ := hrequired hkind
      obtain ⟨rules, hrules⟩ : ∃ rules, List.Forall₂ (fun p rule => ∃ v, compileChild p.2 = .ok v ∧
          rule = ruleFor mode required p.1 v) (declaredProperties node) rules := by
        refine List.exists_forall₂ fun p hp => ?_
        obtain ⟨v, hv⟩ := hinner p.2 (.property hkind p hp)
        exact ⟨_, v, hv, rfl⟩
      obtain ⟨extras, hextras⟩ : ∃ extras, ExtrasOf compileChild mode node extras :=
        exists_extrasOf fun hmode es hbare => hinner _ (.extra hkind hmode es hbare)
      exact ⟨_, objectValidator_eq_ok_iff.mpr
        ⟨required, rules, extras, hrequired, hrules, hextras, rfl⟩⟩
    | array =>
      dsimp only
      split
      · next htruthy =>
        obtain ⟨v, hv⟩ := hinner _ (.item hkind htruthy)
        exact ⟨_, Except.bind_eq_ok_iff.mpr ⟨v, hv, rfl⟩⟩
      · exact ⟨_, rfl⟩
    | enumeration => cases mode <;> exact ⟨_, rfl⟩
    | string | number | boolean | reference | composite | union | unresolved => exact ⟨_, rfl⟩

/-- **A validator depends only on how the schemas in the node are read.** -/
theorem bareValidator_congr {compileOther : Value → Except Fault Validator}
    (hchild : ∀ c, Inner mode node c → ∀ v, compileChild c = .ok v → compileOther c = .ok v)
    (h : bareValidator compileChild mode node = .ok w) :
    bareValidator compileOther mode node = .ok w := by
  refine bareValidator_eq_ok_iff.mpr ?_
  cases bareValidator_eq_ok_iff.mp h with
  | object hkind required rules extras hrequired hrules hextras hw =>
    have hrules : List.Forall₂ (fun p rule => ∃ v, compileOther p.2 = .ok v ∧
        rule = ruleFor mode required p.1 v) (declaredProperties node) rules := by
      have hinner : ∀ p ∈ declaredProperties node, Inner mode node p.2 :=
        fun p hp => .property hkind p hp
      refine ((List.forall₂_and_left _ _).mpr ⟨hinner, hrules⟩).imp ?_
      rintro p rule ⟨hp, v, hv, hrule⟩
      exact ⟨v, hchild p.2 hp v hv, hrule⟩
    have hextras : ExtrasOf compileOther mode node extras := by
      cases hextras with
      | answer hmode hextras => exact .answer hmode hextras
      | free hmode hbare hextras => exact .free hmode hbare hextras
      | typed hmode es hbare v hv hextras =>
        exact .typed hmode es hbare v (hchild _ (.extra hkind hmode es hbare) v hv) hextras
      | refused hmode hfree htyped hextras => exact .refused hmode hfree htyped hextras
    exact .object hkind required rules extras hrequired hrules hextras hw
  | items hkind htruthy v hv hw =>
    exact .items hkind htruthy v (hchild _ (.item hkind htruthy) v hv) hw
  -- Nothing else has a schema in it.
  | freeItems hkind hfalsy hw => exact .freeItems hkind hfalsy hw
  | string hkind hw => exact .string hkind hw
  | number hkind hw => exact .number hkind hw
  | boolean hkind hw => exact .boolean hkind hw
  | listed hkind hmode hw => exact .listed hkind hmode hw
  | unlisted hkind hmode hw => exact .unlisted hkind hmode hw
  | free hkind hw => exact .free hkind hw

end Schema

end ApiTools
