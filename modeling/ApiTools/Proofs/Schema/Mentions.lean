import ApiTools.Proofs.Schema.Parts
import ApiTools.Proofs.Schema.Record

/-!
# What a compiled validator takes from its document

The tree of a compiled validator is made by compilation, and so are the flags of its rules and its
texts.  Two things in it are taken from the document as they stand there: the names of properties,
and the values that a text or a literal is chosen from.  The record of the validator has whatever
the values have that are taken so, and it has nothing that they have not.

Nothing is asked of the document: it may be in JSON or in YAML, and its references may run in
circles.

## Main definitions

* `Validator.mentions` — the names and the listed values of a validator, those below it left out.
* `Validator.Drawn` — what compilation leaves open of a validator, those below it left out.

## Main results

* `Schema.drawn_of_part` — **every part of a compiled validator is drawn so.**
* `Validator.of_toRecord_iff` — **the record of such a validator has what all that it mentions has,
  and nothing else.**
-/

namespace ApiTools

namespace Validator

/-- The names and the listed values of a validator, those below it left out. -/
def mentions : Validator → List Value
  | .string _ allowed => allowed.getD []
  | .literal _ values => values
  | .object _ rules _ => rules.map Rule.name
  | .any _ | .number _ | .boolean _ | .array _ _ | .nullable _ _ => []

/-- What compilation leaves open of a validator, those below it left out: it documents itself by a
text or not at all, chooses from texts, and has rules with scalars as names. -/
structure Drawn (mode : Mode) (v : Validator) : Prop where
  /-- The description is missing, or a text that is not empty. -/
  documents : v.description.Documents fun _ => True
  /-- A text is chosen from texts. -/
  chosen : ∀ d allowed, v = .string d (some allowed) → Schema.allTexts allowed = true
  /-- The rules are made by compilation. -/
  made : ∀ d rules extras, v = .object d rules extras →
    ∀ rule ∈ rules, rule.Made (fun _ => True) mode

namespace Drawn

variable {mode : Mode} {v : Validator} {d e : Value}

theorem withDescription (h : v.Drawn mode) (hd : d.Documents fun _ => True) :
    (v.withDescription d).Drawn mode := by
  obtain ⟨-, hchosen, hmade⟩ := h
  refine ⟨by rwa [description_withDescription], ?_, ?_⟩
  · intro e allowed heq
    cases v with
    | string old allowed' =>
      obtain ⟨-, rfl⟩ := string.inj heq
      exact hchosen old allowed rfl
    | any | literal | number | boolean | array | nullable | object => cases heq
  · intro e rules extras heq
    cases v with
    | object old rules' extras' =>
      obtain ⟨-, rfl, rfl⟩ := object.inj heq
      exact hmade old _ _ rfl
    | any | string | literal | number | boolean | array | nullable => cases heq

/-- A validator that chooses from nothing and has no rules is drawn as soon as it is documented. -/
theorem of_documents (hd : v.description.Documents fun _ => True)
    (hchosen : ∀ e allowed, v ≠ .string e (some allowed))
    (hobject : ∀ e rules extras, v ≠ .object e rules extras) : v.Drawn mode :=
  ⟨hd, fun e allowed heq => absurd heq (hchosen e allowed),
    fun e rules extras heq => absurd heq (hobject e rules extras)⟩

theorem any (hd : d.Documents fun _ => True) : (Validator.any d).Drawn mode :=
  of_documents hd nofun nofun

theorem nullable (hd : d.Documents fun _ => True) : (Validator.nullable d v).Drawn mode :=
  of_documents hd nofun nofun

end Drawn

end Validator

namespace Schema

open Validator

variable {document schema : Value} {mode : Mode} {room : Nat} {visited : List String}
variable {compileChild : Value → Except Fault Validator} {node : Entries} {v w : Validator}

theorem drawn_stringValidator (values : List Value) : (stringValidator mode values).Drawn mode := by
  unfold stringValidator
  split
  · exact .of_documents (.inl rfl) nofun nofun
  · split
    · next htexts =>
      refine ⟨.inl rfl, ?_, nofun⟩
      rintro d allowed heq
      obtain ⟨-, heq⟩ := string.inj heq
      exact Option.some.inj heq ▸ htexts
    all_goals exact .of_documents (.inl rfl) nofun nofun

/-- One step: the validator of a node is drawn so before it is documented. -/
theorem drawn_bareValidator (h : bareValidator compileChild mode node = .ok v) : v.Drawn mode := by
  cases bareValidator_eq_ok_iff.mp h with
  | object _ required rules extras _ hrules _ hw =>
    subst hw
    refine ⟨.inl rfl, nofun, ?_⟩
    rintro d rules' extras' heq rule hrule
    obtain ⟨-, rfl, -⟩ := object.inj heq
    obtain ⟨p, -, u, -, rfl⟩ := List.exists_of_mem_forall₂ hrules.flip hrule
    exact ⟨p.1, _, trivial, rfl⟩
  | string _ hw => exact hw ▸ drawn_stringValidator _
  | items _ _ _ _ hw | freeItems _ _ hw | number _ hw | boolean _ hw | listed _ _ hw
  | unlisted _ _ hw | free _ hw =>
    subst hw
    exact .of_documents (.inl rfl) nofun nofun

/-- **Every part of a compiled validator is drawn so**, whatever document it is compiled from. -/
theorem drawn_of_part (h : compileWithin document mode room schema visited = .ok v)
    (hw : v.Part w) : w.Drawn mode := by
  refine of_part (Q := Drawn mode) (.any (.inl rfl)) ?_ (fun _ => .nullable (.inl rfl)) h hw
  intro compileChild node bare w hbare hdescribed
  have hdrawn := drawn_bareValidator hbare
  have hdocuments := documents_described hdescribed (description_bareValidator hbare)
  obtain ⟨text?, -, rfl⟩ := described_eq_ok_iff.mp hdescribed
  cases text? with
  | none => exact hdrawn
  | some text =>
    rw [Option.elim_some, description_withDescription] at hdocuments
    exact hdrawn.withDescription hdocuments

end Schema

/-! ### Records -/

section

variable {P : Value → Prop} (hP : Value.Hereditary P) (hrecord : Value.Recordable P)

include hP hrecord

theorem Value.list_iff {items : List Value} : P (.list items) ↔ ∀ x ∈ items, P x :=
  ⟨fun h _ hx => hP.part h (.item hx), hrecord.list⟩

theorem Value.record_iff {fields : List (String × Value)} (hnames : AreNames (fields.map (·.1))) :
    P (.record fields) ↔ ∀ f ∈ fields, P f.2 := by
  constructor
  · intro h f hf
    have hmem : (Scalar.text f.1, f.2) ∈ fields.map fun f => (Scalar.text f.1, f.2) :=
      List.mem_map_of_mem hf
    exact hP.part h (.entry hmem)
  · exact hrecord.record hnames

namespace Validator

variable {mode : Mode} {v w : Validator}

/-- The head of a record has nothing from the document but the description. -/
theorem toRecord_iff_of_documents (h : v.description.Documents fun _ => True) :
    P v.toRecord ↔ P v.description ∧ ∀ f ∈ tailFields v, P f.2 := by
  have hkind := hrecord.text (isJoined_kindName v)
  have hhead : (∀ f ∈ headFields v, P f.2) ↔ P v.description := by
    unfold headFields
    rcases h with hnull | ⟨text, hne, -, htext⟩
    · simpa [hnull, Value.isTruthy, hkind] using hrecord.null
    · simp [htext, Value.isTruthy, hne, hkind]
  have hfields : v.toRecord = .record (headFields v ++ tailFields v) := by
    rw [toRecord_eq_map]
    rfl
  rw [hfields, Value.record_iff hP hrecord (areNames_fields v), List.forall_mem_append, hhead]

/-- The record of a rule has what its name and the record of its validator have. -/
theorem toRecord_rule_iff {rule : Rule} (h : rule.Made (fun _ => True) mode) :
    P rule.toRecord ↔ P rule.name ∧ P rule.validator.toRecord := by
  obtain ⟨name, required, -, heq⟩ := h
  have hnames : Value.AreNames ([("name", rule.name), ("validator", rule.validator.toRecord),
      ("required", rule.required), ("nullable", rule.nullable)].map (·.1)) := areNames_ruleFields
  rw [Rule.toRecord, Value.record_iff hP hrecord hnames]
  iterate 4 rw [List.forall_mem_cons]
  rw [heq]
  constructor
  · exact fun h => ⟨h.1, h.2.1⟩
  · exact fun h => ⟨h.1, h.2, hrecord.bool _, hrecord.bool _, List.forall_mem_nil _⟩

/-- The records of rules have what the names and the records of the validators have. -/
theorem ruleRecords_iff {rules : List Rule}
    (h : ∀ rule ∈ rules, rule.Made (fun _ => True) mode) :
    P (.list (ruleRecords rules)) ↔
      ∀ rule ∈ rules, P rule.name ∧ P rule.validator.toRecord := by
  rw [ruleRecords_eq_map, Value.list_iff hP hrecord, List.forall_mem_map]
  exact forall₂_congr fun rule hrule => toRecord_rule_iff hP hrecord (h rule hrule)

omit hP hrecord in
/-- The fields of a policy have what the record of its validator has. -/
theorem extrasFields_iff {extras : Extras} :
    (∀ f ∈ extrasFields extras, P f.2) ↔ ∀ v, extras.validator? = some v → P v.toRecord := by
  rw [extrasFields_eq]
  simp only [Option.mem_toList, Option.map_eq_some_iff, forall_exists_index, and_imp,
    forall_apply_eq_imp_iff₂]

/-- **The record of a drawn validator has what its descriptions and all that it mentions have, and
nothing else.** -/
theorem of_toRecord_iff (hdrawn : ∀ w, v.Part w → w.Drawn mode) :
    P v.toRecord ↔ ∀ w, v.Part w → P w.description ∧ ∀ x ∈ w.mentions, P x := by
  induction v using inductionOn with
  | any d | number d | boolean d =>
    have hself := (forall_part_iff.mp hdrawn).1
    rw [forall_part_iff, toRecord_iff_of_documents hP hrecord hself.documents]
    simp [tailFields, mentions, children]
  | string d allowed =>
    have hself := (forall_part_iff.mp hdrawn).1
    rw [forall_part_iff, toRecord_iff_of_documents hP hrecord hself.documents]
    cases allowed with
    | none => simp [tailFields, mentions, children]
    | some allowed => simp [tailFields, mentions, children, Value.list_iff hP hrecord]
  | literal d values =>
    have hself := (forall_part_iff.mp hdrawn).1
    rw [forall_part_iff, toRecord_iff_of_documents hP hrecord hself.documents]
    simp [tailFields, mentions, children, Value.list_iff hP hrecord]
  | array d inner ih | nullable d inner ih =>
    obtain ⟨hself, hbelow⟩ := forall_part_iff.mp hdrawn
    rw [forall_part_iff, toRecord_iff_of_documents hP hrecord hself.documents]
    simp [tailFields, mentions, children, ih (hbelow inner (by simp [children]))]
  | object d rules extras ihRules ihExtras =>
    obtain ⟨hself, hbelow⟩ := forall_part_iff.mp hdrawn
    have hrules : P (.list (ruleRecords rules)) ↔ ∀ rule ∈ rules, P rule.name ∧
        ∀ w, rule.validator.Part w → P w.description ∧ ∀ x ∈ w.mentions, P x := by
      rw [ruleRecords_iff hP hrecord (hself.made d rules extras rfl)]
      refine forall₂_congr fun rule hrule => and_congr_right fun _ => ihRules rule hrule ?_
      exact hbelow _ (mem_children_object.mpr (.inl ⟨rule, hrule, rfl⟩))
    have hextras : (∀ f ∈ extrasFields extras, P f.2) ↔ ∀ v, extras.validator? = some v →
        ∀ w, v.Part w → P w.description ∧ ∀ x ∈ w.mentions, P x := by
      rw [extrasFields_iff]
      refine forall₂_congr fun v hv => ?_
      exact ihExtras v hv (hbelow v (mem_children_object.mpr (.inr hv)))
    rw [forall_part_iff, toRecord_iff_of_documents hP hrecord hself.documents, tailFields,
      List.forall_mem_cons, List.forall_mem_cons, hrules, hextras,
      and_iff_right (hrecord.text (isJoined_policy extras)), and_assoc]
    -- Both sides say the same of the names, the validators of the rules and that of the policy.
    simp only [mem_children_object, mentions, List.forall_mem_map]
    refine and_congr_right fun _ => ?_
    constructor
    · rintro ⟨hrules, hextras⟩
      refine ⟨fun rule hrule => (hrules rule hrule).1, ?_⟩
      rintro c (⟨rule, hrule, rfl⟩ | hc)
      · exact (hrules rule hrule).2
      · exact hextras c hc
    · rintro ⟨hnames, hall⟩
      exact ⟨fun rule hrule => ⟨hnames rule hrule, hall _ (.inl ⟨rule, hrule, rfl⟩)⟩,
        fun v hv => hall v (.inr hv)⟩

end Validator

end

end ApiTools
