import ApiTools.Proofs.Json.Halves
import ApiTools.Proofs.Schema.Origin
import ApiTools.Proofs.Validator.Core
import ApiTools.Proofs.Value.Literal

/-!
# What compiled validators look like

Not every validator tree is compiled from a schema.  A compiled one documents itself by a text or
not at all; no two of its rules share a name; a rule admits null only in an answer and only for a
property that need not be there; no list of values in it is empty.  An answer is checked by no list
of values at all, and has no policy but to let undeclared keys pass.

## Main definitions

* `Validator.Built` — a tree as compilation builds it, with names and listed values as given.

## Main results

* `Schema.built_compileWithin` — **compiled validators are built so.**
* `Validator.Built.namesDistinct` — the names of rules are distinct keys.
-/

namespace ApiTools

/-- A description is missing, or a text that is not empty and has the given property. -/
def Value.Documents (P : Value → Prop) (d : Value) : Prop :=
  d = .null ∨ ∃ s, s ≠ "" ∧ P (.text s) ∧ d = .text s

/-- A rule as compilation makes it: null stands for the absence of an optional property of an
answer. -/
def Rule.Made (K : Scalar → Prop) (mode : Mode) (rule : Rule) : Prop :=
  ∃ name required, K name ∧
    rule = .mk (.scalar name) rule.validator (.bool required) (.bool (mode == .output && !required))

/-- A policy as compilation makes it: an answer may have any other keys. -/
inductive Extras.Made (mode : Mode) : Extras → Prop where
  /-- Undeclared keys are free. -/
  | allow : Made mode (.allow none)
  /-- Undeclared keys are refused. -/
  | reject (hmode : mode = .input) : Made mode (.reject none)
  /-- Undeclared keys are checked. -/
  | typed (hmode : mode = .input) (v : Validator) : Made mode (.typed v)

namespace Validator

/-- A validator as compilation builds it, with names of rules, listed values and descriptions as
given. -/
inductive Built (K : Scalar → Prop) (P : Value → Prop) (mode : Mode) : Validator → Prop where
  /-- Everything is accepted. -/
  | any {d : Value} (hd : d.Documents P) : Built K P mode (.any d)
  /-- Texts are. -/
  | string {d : Value} (hd : d.Documents P) : Built K P mode (.string d none)
  /-- A request may have to be one of some texts. -/
  | chosen {d : Value} {allowed : List Value} (hd : d.Documents P) (hmode : mode = .input)
    (hne : allowed ≠ []) (htexts : Schema.allTexts allowed = true) (hP : ∀ m ∈ allowed, P m) :
    Built K P mode (.string d (some allowed))
  /-- A request may have to be one of some values. -/
  | literal {d : Value} {values : List Value} (hd : d.Documents P) (hmode : mode = .input)
    (hne : values ≠ []) (hP : ∀ m ∈ values, P m) : Built K P mode (.literal d values)
  /-- Numbers are accepted. -/
  | number {d : Value} (hd : d.Documents P) : Built K P mode (.number d)
  /-- Truth values are. -/
  | boolean {d : Value} (hd : d.Documents P) : Built K P mode (.boolean d)
  /-- Lists are, if their items are. -/
  | array {d : Value} {items : Validator} (hd : d.Documents P) (hitems : Built K P mode items) :
    Built K P mode (.array d items)
  /-- Null is accepted, or what is accepted otherwise. -/
  | nullable {d : Value} {inner : Validator} (hd : d.Documents P) (hinner : Built K P mode inner) :
    Built K P mode (.nullable d inner)
  /-- Maps are accepted by rules with distinct names and a policy. -/
  | object {d : Value} {rules : List Rule} {extras : Extras} (hd : d.Documents P)
    (hdistinct : Rule.Distinct rules) (hmade : ∀ rule ∈ rules, rule.Made K mode)
    (hrules : ∀ rule ∈ rules, Built K P mode rule.validator) (hpolicy : extras.Made mode)
    (hextras : ∀ v, extras.validator? = some v → Built K P mode v) :
    Built K P mode (.object d rules extras)

namespace Built

variable {K : Scalar → Prop} {P : Value → Prop} {mode : Mode} {v : Validator}

theorem withDescription (h : v.Built K P mode) {d : Value} (hd : d.Documents P) :
    (v.withDescription d).Built K P mode := by
  cases h with
  | any => exact .any hd
  | string => exact .string hd
  | chosen _ hmode hne htexts hP => exact .chosen hd hmode hne htexts hP
  | literal _ hmode hne hP => exact .literal hd hmode hne hP
  | number => exact .number hd
  | boolean => exact .boolean hd
  | array _ hitems => exact .array hd hitems
  | nullable _ hinner => exact .nullable hd hinner
  | object _ hdistinct hmade hrules hpolicy hextras =>
    exact .object hd hdistinct hmade hrules hpolicy hextras

/-- So is what is inside the wrappers that accept null. -/
theorem core (h : v.Built K P mode) : v.core.Built K P mode := by
  induction h with
  | nullable _ _ ih => exact ih
  | any hd => exact .any hd
  | string hd => exact .string hd
  | chosen hd hmode hne htexts hP => exact .chosen hd hmode hne htexts hP
  | literal hd hmode hne hP => exact .literal hd hmode hne hP
  | number hd => exact .number hd
  | boolean hd => exact .boolean hd
  | array hd hitems _ => exact .array hd hitems
  | object hd hdistinct hmade hrules hpolicy hextras _ _ =>
    exact .object hd hdistinct hmade hrules hpolicy hextras

/-- The names of rules are distinct keys. -/
theorem namesDistinct (h : v.Built K P mode) : v.namesDistinct = true := by
  induction h with
  | any | string | chosen | literal | number | boolean => simp [Validator.namesDistinct]
  | array _ _ ih | nullable _ _ ih => exact ih
  | @object d rules extras _ hdistinct hmade _ hpolicy _ ihRules ihExtras =>
    rw [Validator.namesDistinct, Bool.and_eq_true, rulesNamesDistinct_iff]
    refine ⟨⟨hdistinct, fun rule hrule => ⟨?_, ihRules rule hrule⟩⟩, ?_⟩
    · obtain ⟨name, required, -, heq⟩ := hmade rule hrule
      rw [heq]
      rfl
    · cases hpolicy with
      | allow | reject => rfl
      | typed _ v => exact ihExtras v rfl

end Built

end Validator

namespace Schema

variable {document schema : Value} {mode : Mode} {room : Nat} {visited : List String}
variable {K : Scalar → Prop} {P : Value → Prop} {node : Entries} {v w : Validator}

/-! ### One step of compilation -/

/-- What comes of a value that may be missing comes of one. -/
theorem exists_of_mapM_option {f : Value → Except Fault String} {v? : Option Value}
    {text? : Option String} (h : v?.mapM f = .ok text?) :
    ∀ text ∈ text?, ∃ v, v? = some v ∧ f v = .ok text := by
  rintro text rfl
  cases v? with
  | none => cases h
  | some v =>
    rw [Option.mapM_some] at h
    obtain ⟨text', htext, heq⟩ := Except.bind_pure_eq_ok_iff.mp h
    exact ⟨v, rfl, Option.some.inj heq ▸ htext⟩

/-- What documents a node has a character in it. -/
theorem ne_empty_of_documentation {text : String} (h : documentation node = .ok (some text)) :
    text ≠ "" := by
  obtain ⟨description?, hdescription, h⟩ := Except.bind_eq_ok_iff.mp h
  obtain ⟨example?, -, h⟩ := Except.bind_eq_ok_iff.mp h
  have hshown : ∀ s ∈ description?, s ≠ "" := by
    intro s hs
    obtain ⟨v, hv, hshown⟩ := exists_of_mapM_option hdescription s hs
    unfold Value.shown at hshown
    split at hshown <;> cases hshown
    exact Value.display_ne_empty (Option.filter_eq_some_iff.mp hv).2
  dsimp only at h
  split at h
  · cases h
  · obtain rfl := Option.some.inj (Except.ok.inj h)
    cases description? with
    | none =>
      cases example? with
      | none => contradiction
      | some e => simp [String.append_eq_empty_iff]
    | some d =>
      cases example? with
      | none => simpa using hshown d rfl
      | some e => simp [String.append_eq_empty_iff]

/-- What documents a value of JSON is joined. -/
theorem isJoined_of_documentation (hnode : (Value.map node).isJson = true) {text : String}
    (h : documentation node = .ok (some text)) : Text.isJoined text = true := by
  obtain ⟨description?, hdescription, h⟩ := Except.bind_eq_ok_iff.mp h
  obtain ⟨example?, hexample, h⟩ := Except.bind_eq_ok_iff.mp h
  have hpart : ∀ {name v}, node.get? name = some v → v.isJson = true := fun hv =>
    Value.hereditary_isJson.part hnode (Value.part_find? hv)
  have hshown : ∀ s ∈ description?, Text.isJoined s = true := by
    intro s hs
    obtain ⟨v, hv, hshown⟩ := exists_of_mapM_option hdescription s hs
    exact Value.isJoined_of_shown (hpart (Option.filter_eq_some_iff.mp hv).1) hshown
  have hwritten : ∀ s ∈ example?, Text.isJoined ("Example: " ++ s) = true := by
    intro s hs
    obtain ⟨v, hv, hwritten⟩ := exists_of_mapM_option hexample s hs
    exact (Text.sided_isJoined.append_iff_left (by decide)).mpr
      (Json.isJoined_write (hpart hv) hwritten)
  dsimp only at h
  split at h
  · cases h
  · obtain rfl := Option.some.inj (Except.ok.inj h)
    rw [Text.sided_isJoined.intercalate_iff (by decide), List.forall_mem_append]
    exact ⟨by simpa using hshown, by simpa using hwritten⟩

/-- A property that the text has that documents a node with the property. -/
def Documented (P : Value → Prop) : Prop :=
  ∀ (node : Entries) (text : String), P (.map node) → documentation node = .ok (some text) →
    P (.text text)

/-- So texts that document are in JSON where all is. -/
theorem documented_of_recordable (hP : Value.Recordable P) : Documented P := fun _ _ hnode h =>
  hP.text (isJoined_of_documentation (hP.isJson hnode) h)

/-- What documents a node stands in it, and not in a merge. -/
theorem Origin.documents (hdocs : Documented P) (h : Origin K P node) {text : String}
    (htext : documentation node = .ok (some text)) : P (.text text) := by
  cases h with
  | given h => exact hdocs _ _ h htext
  | merged merge _ hnode =>
    rw [hnode, merge.documentation_node] at htext
    cases htext

theorem built_described (hdocs : ∀ text, documentation node = .ok (some text) → P (.text text))
    (h : described node v = .ok w) (hv : v.Built K P mode) : w.Built K P mode := by
  obtain ⟨text?, htext, rfl⟩ := described_eq_ok_iff.mp h
  cases text? with
  | none => exact hv
  | some text =>
    exact hv.withDescription
      (Or.inr ⟨text, ne_empty_of_documentation htext, hdocs text htext, rfl⟩)

theorem built_withNull (hv : v.Built K P mode) : (withNull node v).Built K P mode := by
  unfold withNull
  split
  · exact .nullable (Or.inl rfl) hv
  · exact hv

theorem built_stringValidator {values : List Value} (hvalues : ∀ m ∈ values, P m) :
    (stringValidator mode values).Built K P mode := by
  have hd : Value.null.Documents P := Or.inl rfl
  unfold stringValidator
  split
  · exact .string hd
  · next hne =>
    have hne : values ≠ [] := by simpa using hne
    split
    · next htexts => exact .chosen hd rfl hne htexts hvalues
    · exact .literal hd rfl hne hvalues
    · exact .string hd
    · exact .any hd

/-- The policy of a node is made by compilation. -/
theorem ExtrasOf.made {compileChild : Value → Except Fault Validator} {extras : Extras}
    (h : ExtrasOf compileChild mode node extras) : extras.Made mode := by
  cases h with
  | answer _ hextras | free _ _ hextras => exact hextras ▸ .allow
  | typed hmode _ _ v _ hextras => exact hextras ▸ .typed hmode v
  | refused hmode _ _ hextras => exact hextras ▸ .reject hmode

/-- **One step**: if the validators of the schemas in a node are built so, then the validator of the
node is. -/
theorem built_bareValidator {compileChild : Value → Except Fault Validator}
    (hP : Inherits K P) (hplain : (Value.map node).isPlain = true) (hnode : Origin K P node)
    (hchild : ∀ c v, P c → compileChild c = .ok v → v.Built K P mode)
    (h : bareValidator compileChild mode node = .ok w) : w.Built K P mode := by
  have hd : Value.null.Documents P := Or.inl rfl
  cases bareValidator_eq_ok_iff.mp h with
  | object hkind required rules extras _ hrules hextras hw =>
    subst hw
    have hof : ∀ rule ∈ rules, ∃ p ∈ declaredProperties node, ∃ v, compileChild p.2 = .ok v ∧
        rule = ruleFor mode required p.1 v := fun rule hrule =>
      List.exists_of_mem_forall₂ hrules.flip hrule
    have hdistinct : Rule.Distinct rules := by
      rw [Rule.Distinct, keys_of_forall₂ hrules, List.pairwise_map]
      exact (Value.isPlain_map.mp (isPlain_declaredProperties hplain)).1
    refine .object hd hdistinct (fun rule hrule => ?_) (fun rule hrule => ?_) hextras.made
      (fun v hv => ?_)
    · obtain ⟨p, hp, v, -, rfl⟩ := hof rule hrule
      exact ⟨p.1, _, (hnode.declared hP p hp).1, rfl⟩
    · obtain ⟨p, hp, v, hv, rfl⟩ := hof rule hrule
      exact hchild p.2 v (hnode.declared hP p hp).2 hv
    · obtain ⟨hinner, hv⟩ := hextras.inner hkind hv
      exact hchild _ v (hnode.inner hP hinner) hv
  | items hkind htruthy v hv hw =>
    have hitem : Inner mode node (itemSchema node) := .item hkind htruthy
    exact hw ▸ .array hd (hchild _ v (hnode.inner hP hitem) hv)
  | freeItems _ _ hw => exact hw ▸ .array hd (.any hd)
  | string _ hw => exact hw ▸ built_stringValidator (hnode.members hP)
  | number _ hw => exact hw ▸ .number hd
  | boolean _ hw => exact hw ▸ .boolean hd
  | listed hkind hmode hw =>
    exact hw ▸ .literal hd hmode (members_ne_nil_of_enumeration hkind) (hnode.members hP)
  | unlisted _ _ hw | free _ hw => exact hw ▸ .any hd

/-! ### Whole schemas -/

/-- **A compiled validator is built from names and values that inherit what is said of the document
and the schema.** -/
theorem built_compileWithin (hP : Inherits K P) (hdocs : Documented P) (hdocument : P document)
    (hschema : P schema) (h : compileWithin document mode room schema visited = .ok v) :
    v.Built K P mode := by
  induction room generalizing schema visited v with
  | zero =>
    cases h
    exact .any (Or.inl rfl)
  | succ room ih =>
    cases compileWithin_succ_iff.mp h with
    | cut _ _ _ hv =>
      rw [hv]
      exact .any (Or.inl rfl)
    | built r hr _ bare described hbare hdescribed hv =>
      rw [hv]
      have hplain := isPlain_resolveWithin (hP.isPlain hdocument) (hP.isPlain hschema) hr
      have hnode := origin_resolveWithin hP hdocument hschema hr
      have hbuilt := built_bareValidator hP hplain hnode (fun c v hc hv => ih hc hv) hbare
      exact built_withNull
        (built_described (fun _ => hnode.documents hdocs) hdescribed hbuilt)

end Schema

end ApiTools
