import ApiTools.Proofs.Schema.Built
import ApiTools.Proofs.Schema.Probe
import ApiTools.Proofs.Value.Json

/-!
# When a compiled validator accepts something

A value in JSON has texts as keys, so it cannot have a property of another name.  Apart from that a
compiled validator refuses nothing without an alternative: the empty list is accepted as a list,
null where it is admitted, and a listed value where values are listed, of which there is always one.
A map needs its required properties only.  So a compiled validator accepts a value in JSON exactly
when the required properties, and those that are required in them, are named by texts.

In JSON the keys of a map are texts, but a branch of a composition may also list its properties as
pairs, and such a name need be no text.

## Main definitions

* `Validator.IsSatisfiable`, `Validator.IsCallable` — some value, or some map, in JSON is accepted.
* `Validator.requiresTexts` — the required properties are named by texts, all the way down.
* `Validator.TakesMaps` — maps are among what is accepted, apart from null.
* `Schema.MapProperties` — wherever properties are given, they are a map.

## Main results

* `Validator.Built.isSatisfiable_iff` — **a compiled validator accepts a value in JSON exactly when
  it requires texts only.**
* `Validator.Built.isCallable_iff` — the same of maps, for a validator that takes maps.
* `Schema.requiresTexts_of_mapProperties` — **it does when all properties are given as maps.**
* `Schema.givesMap_of_resolve` — then resolved nodes give them as maps, too.
-/

namespace ApiTools

open JsonSchema

namespace Validator

/-- Some value in JSON is accepted. -/
def IsSatisfiable (v : Validator) : Prop := ∃ x : Value, x.IsFiniteJson ∧ v.isValid x = true

/-- Some map in JSON is accepted. -/
def IsCallable (v : Validator) : Prop :=
  ∃ es : Entries, (Value.map es).IsFiniteJson ∧ v.isValid (.map es) = true

mutual

/-- Whether the required properties are named by texts, and those that are required in them. -/
def requiresTexts : Validator → Bool
  | .object _ rules _ => rulesRequireTexts rules
  | .any _ | .string _ _ | .literal _ _ | .number _ | .boolean _ | .array _ _ => true
  | .nullable _ _ => true

/-- Whether the required properties among rules are named by texts, all the way down. -/
def rulesRequireTexts : List Rule → Bool
  | [] => true
  | .mk name validator req _ :: rules =>
    (!req.isTruthy || (name.text?.isSome && requiresTexts validator)) && rulesRequireTexts rules

end

theorem requiresTexts_object_iff {d : Value} {rules : List Rule} {extras : Extras} :
    (object d rules extras).requiresTexts = true ↔
      ∀ rule ∈ rules, rule.isRequired = true →
        (∃ name, rule.name = .text name) ∧ rule.validator.requiresTexts = true := by
  rw [requiresTexts]
  induction rules with
  | nil => simp [rulesRequireTexts]
  | cons rule rules ih =>
    obtain ⟨name, v, req, nul⟩ := rule
    rw [rulesRequireTexts, Bool.and_eq_true, ih, List.forall_mem_cons]
    refine and_congr_left fun _ => ?_
    rw [Rule.isRequired, Rule.required, Rule.name, Rule.validator, ← Value.isSome_text?_iff]
    cases req.isTruthy <;> simp

/-! ### Values of maps -/

/-- Entries for the required properties of rules, given values for them. -/
def requiredEntries (value : Rule → Value) (rules : List Rule) : Entries :=
  (rules.filter Rule.isRequired).filterMap fun rule =>
    rule.name.scalar?.map fun key => (key, value rule)

section

variable {value : Rule → Value} {rules : List Rule} {e : Scalar × Value}

theorem mem_requiredEntries_iff :
    e ∈ requiredEntries value rules ↔ ∃ rule ∈ rules, rule.isRequired = true ∧
      rule.name.scalar? = some e.1 ∧ value rule = e.2 := by
  simp only [requiredEntries, List.mem_filterMap, List.mem_filter, Option.map_eq_some_iff,
    Prod.ext_iff]
  constructor
  · rintro ⟨rule, ⟨hrule, hreq⟩, key, hkey, rfl, hvalue⟩
    exact ⟨rule, hrule, hreq, hkey, hvalue⟩
  · rintro ⟨rule, hrule, hreq, hkey, hvalue⟩
    exact ⟨rule, ⟨hrule, hreq⟩, e.1, hkey, rfl, hvalue⟩

theorem distinctKeys_requiredEntries (hdistinct : Rule.Distinct rules) :
    Scalar.DistinctKeys (requiredEntries value rules) := by
  have hpairwise : rules.Pairwise fun r s =>
      ∀ k ∈ r.name.scalar?, ∀ l ∈ s.name.scalar?, k.alike l = false :=
    List.pairwise_filterMap.mp hdistinct
  refine List.pairwise_filterMap.mpr ((hpairwise.filter _).imp fun {r s} hrs e he f hf => ?_)
  obtain ⟨k, hk, rfl⟩ := Option.map_eq_some_iff.mp he
  obtain ⟨l, hl, rfl⟩ := Option.map_eq_some_iff.mp hf
  exact hrs k hk l hl

/-- What stands at the name of a rule is the value for the rule. -/
theorem find?_requiredEntries (hdistinct : Rule.Distinct rules) {rule : Rule} (hrule : rule ∈ rules)
    {key : Scalar} (hkey : rule.name.scalar? = some key) {y : Value}
    (hy : (requiredEntries value rules).find? key = some y) :
    rule.isRequired = true ∧ value rule = y := by
  obtain ⟨e, he, halike, hvalue⟩ := Entries.exists_mem_of_find? hy
  obtain ⟨rule', hrule', hreq, hname, hvalue'⟩ := mem_requiredEntries_iff.mp he
  have hsame : rule' = rule := Rule.eq_of_declares hdistinct hrule' hrule
    (Rule.declares_iff.mpr ⟨e.1, hname, halike⟩)
    (Rule.declares_iff.mpr ⟨key, hkey, Scalar.alike_refl key⟩)
  subst hsame
  exact ⟨hreq, hvalue'.trans hvalue⟩

/-- **A map with accepted values for the required properties, and no others, is accepted.** -/
theorem isValid_requiredEntries {d : Value} {extras : Extras} (hdistinct : Rule.Distinct rules)
    (hnames : ∀ rule ∈ rules, rule.name.scalar?.isSome = true)
    (hvalue : ∀ rule ∈ rules, rule.isRequired = true →
      rule.validator.isValid (value rule) = true) :
    (object d rules extras).isValid (.map (requiredEntries value rules)) = true := by
  -- Every key is declared, so that the policy has nothing to ask.
  have hdeclared : undeclared (Rule.keys rules) (requiredEntries value rules) = [] := by
    refine undeclared_keys_eq_nil_iff.mpr fun e he => ?_
    obtain ⟨rule, hrule, -, hname, -⟩ := mem_requiredEntries_iff.mp he
    exact ⟨rule, hrule, Rule.declares_iff.mpr ⟨e.1, hname, Scalar.alike_refl e.1⟩⟩
  refine (isValid_object hdistinct).mpr ⟨_, rfl, fun rule hrule => ⟨fun hreq => ?_, ?_⟩, ?_⟩
  · obtain ⟨key, hkey⟩ := Option.isSome_iff_exists.mp (hnames rule hrule)
    refine (Option.any_eq_true _ _).mpr ⟨key, hkey, Entries.hasKey_iff.mpr ⟨(key, value rule), ?_⟩⟩
    exact ⟨mem_requiredEntries_iff.mpr ⟨rule, hrule, hreq, hkey, rfl⟩, Scalar.alike_refl key⟩
  · intro key hkey y hy
    obtain ⟨hreq, rfl⟩ := find?_requiredEntries hdistinct hrule hkey hy
    exact Or.inl (hvalue rule hrule hreq)
  · cases extras with
    | reject spare => exact hdeclared
    | allow spare => trivial
    | typed v =>
      intro e he
      rw [hdeclared] at he
      cases he

end

/-! ### Compiled validators -/

variable {K : Scalar → Prop} {mode : Mode} {v : Validator}

/-- The value of a required property of an accepted map in JSON, and its name. -/
theorem exists_text_of_required {rule : Rule} {es : Entries} (hes : (Value.map es).IsFiniteJson)
    {name : Scalar} (hname : rule.name = .scalar name) (hreq : rule.isRequired = true)
    (haccepts : rule.Accepts es) :
    (∃ s, rule.name = .text s) ∧ ∃ y, y.IsFiniteJson ∧ rule.validator.isValid y = true := by
  obtain ⟨key, hkey, hhas⟩ := (Option.any_eq_true _ _).mp (haccepts.1 hreq)
  obtain rfl : name = key := by
    rw [hname] at hkey
    exact Option.some.inj hkey
  constructor
  · obtain ⟨e, he, halike⟩ := Entries.hasKey_iff.mp hhas
    obtain ⟨s, hs, -⟩ := (Value.isFiniteJson_map.mp hes).2.1 e he
    rw [hs] at halike
    rw [hname, Scalar.text_alike_iff.mp halike]
    exact ⟨s, rfl⟩
  · rw [Entries.hasKey_eq_isSome_find?] at hhas
    obtain ⟨y, hy⟩ := Option.isSome_iff_exists.mp hhas
    have hadmits : rule.admitsNull = false := by simp [Rule.admitsNull, hreq]
    refine ⟨y, Value.hereditary_isFiniteJson.part hes (Value.part_find? hy), ?_⟩
    exact (haccepts.2 name hkey y hy).resolve_right (by simp [hadmits])

/-- **Rules accept some map in JSON exactly when the required properties are named by texts and can
have a value.** -/
theorem isSatisfiable_object_iff (hK : ∀ {s}, K (.text s) → Text.isJoined s = true) {d : Value}
    {rules : List Rule} {extras : Extras} (hdistinct : Rule.Distinct rules)
    (hmade : ∀ rule ∈ rules, rule.Made K mode) :
    (object d rules extras).IsSatisfiable ↔
      ∀ rule ∈ rules, rule.isRequired = true →
        (∃ name, rule.name = .text name) ∧ rule.validator.IsSatisfiable := by
  have hnamed : ∀ rule ∈ rules, ∃ name, K name ∧ rule.name = .scalar name := by
    intro rule hrule
    obtain ⟨name, required, hname, heq⟩ := hmade rule hrule
    exact ⟨name, hname, by rw [heq, Rule.name]⟩
  constructor
  · rintro ⟨x, hx, hvalid⟩ rule hrule hreq
    obtain ⟨es, rfl, haccepts, -⟩ := (isValid_object hdistinct).mp hvalid
    obtain ⟨name, -, hname⟩ := hnamed rule hrule
    exact exists_text_of_required hx hname hreq (haccepts rule hrule)
  · intro hrequires
    have hvalue : ∀ rule ∈ rules, rule.isRequired = true → rule.validator.IsSatisfiable :=
      fun rule hrule hreq => (hrequires rule hrule hreq).2
    -- The values are chosen for all rules at once, so that the map can be written down.
    choose! value hvalue using hvalue
    refine ⟨.map (requiredEntries value rules), Value.isFiniteJson_map.mpr ⟨?_, ?_, ?_⟩, ?_⟩
    · exact distinctKeys_requiredEntries hdistinct
    · intro e he
      obtain ⟨rule, hrule, hreq, hname, -⟩ := mem_requiredEntries_iff.mp he
      obtain ⟨s, hs⟩ := (hrequires rule hrule hreq).1
      obtain ⟨name, hgiven, heq⟩ := hnamed rule hrule
      obtain rfl : name = .text s := Value.scalar.inj (heq.symm.trans hs)
      rw [hs] at hname
      exact ⟨s, (Option.some.inj hname).symm, hK hgiven⟩
    · intro e he
      obtain ⟨rule, hrule, hreq, -, heq⟩ := mem_requiredEntries_iff.mp he
      exact heq ▸ (hvalue rule hrule hreq).1
    · refine isValid_requiredEntries hdistinct (fun rule hrule => ?_) fun rule hrule hreq =>
        (hvalue rule hrule hreq).2
      obtain ⟨name, -, hname⟩ := hnamed rule hrule
      rw [hname]
      rfl

/-- **A compiled validator accepts a value in JSON exactly when it requires texts only.** -/
theorem Built.isSatisfiable_iff (hK : ∀ {s}, K (.text s) → Text.isJoined s = true)
    (h : v.Built K Value.IsFiniteJson mode) : v.IsSatisfiable ↔ v.requiresTexts = true := by
  have hnull : Value.null.IsFiniteJson := ⟨rfl, rfl⟩
  induction h with
  | any => exact iff_of_true ⟨.null, hnull, isValid_any⟩ rfl
  | string => exact iff_of_true ⟨.text "", ⟨rfl, rfl⟩, isValid_string.mpr rfl⟩ rfl
  | @chosen d allowed _ _ hne htexts hP =>
    obtain ⟨m, hm⟩ := List.exists_mem_of_ne_nil _ hne
    have hplain := Value.hereditary_isFiniteJson.isPlain (hP m hm)
    have htext : ∃ s, m = .text s :=
      Value.isSome_text?_iff.mp (List.all_eq_true.mp htexts m hm)
    exact iff_of_true ⟨m, hP m hm, isValid_string_some.mpr
      ⟨admits_string_iff.mpr htext, m, hm, Value.equals_refl_of_isPlain hplain⟩⟩ rfl
  | @literal d values _ _ hne hP =>
    obtain ⟨m, hm⟩ := List.exists_mem_of_ne_nil _ hne
    have hplain := Value.hereditary_isFiniteJson.isPlain (hP m hm)
    exact iff_of_true
      ⟨m, hP m hm, isValid_literal.mpr ⟨m, hm, Value.equals_refl_of_isPlain hplain⟩⟩ rfl
  | number => exact iff_of_true ⟨.int 0, ⟨rfl, rfl⟩, isValid_number.mpr rfl⟩ rfl
  | boolean => exact iff_of_true ⟨.bool true, ⟨rfl, rfl⟩, isValid_boolean.mpr rfl⟩ rfl
  -- A list without items is accepted whatever these have to be.
  | array => exact iff_of_true ⟨.list [], ⟨rfl, rfl⟩, isValid_array.mpr ⟨[], rfl, by simp⟩⟩ rfl
  | nullable => exact iff_of_true ⟨.null, hnull, isValid_nullable.mpr (Or.inl rfl)⟩ rfl
  | object _ hdistinct hmade _ _ _ ihRules _ =>
    rw [isSatisfiable_object_iff hK hdistinct hmade, requiresTexts_object_iff]
    exact forall₃_congr fun rule hrule _ => and_congr_right fun _ => ihRules rule hrule

/-! ### Validators that take maps -/

/-- A validator of maps, or of everything, that may be wrapped to accept null. -/
inductive TakesMaps : Validator → Prop where
  /-- Everything is taken. -/
  | any {d : Value} : TakesMaps (.any d)
  /-- Maps are. -/
  | object {d : Value} {rules : List Rule} {extras : Extras} : TakesMaps (.object d rules extras)
  /-- Null is taken, or what is taken otherwise. -/
  | nullable {d : Value} {inner : Validator} (h : TakesMaps inner) : TakesMaps (.nullable d inner)

theorem TakesMaps.withDescription (h : v.TakesMaps) (d : Value) :
    (v.withDescription d).TakesMaps := by
  cases h with
  | any => exact .any
  | object => exact .object
  | nullable h => exact .nullable h

/-- **A compiled validator that takes maps accepts one in JSON exactly when its core requires texts
only.** -/
theorem Built.isCallable_iff (hK : ∀ {s}, K (.text s) → Text.isJoined s = true)
    (h : v.Built K Value.IsFiniteJson mode) (hmaps : v.TakesMaps) :
    v.IsCallable ↔ v.core.requiresTexts = true := by
  induction hmaps with
  | any => exact iff_of_true ⟨[], ⟨rfl, rfl⟩, isValid_any⟩ rfl
  | object =>
    refine Iff.trans ?_ (h.isSatisfiable_iff hK)
    constructor
    · rintro ⟨es, hes, hvalid⟩
      exact ⟨.map es, hes, hvalid⟩
    · rintro ⟨x, hx, hvalid⟩
      obtain ⟨es, rfl⟩ := exists_map_of_isValid_object hvalid
      exact ⟨es, hx, hvalid⟩
  -- The wrapper adds null only, which is no map.
  | nullable _ ih =>
    cases h with
    | nullable _ hinner =>
      rw [Validator.core, ← ih hinner]
      refine exists_congr fun es => and_congr_right fun _ => ?_
      rw [isValid_nullable, or_iff_right nofun]

/-- A validator whose rules are named by texts requires texts only. -/
theorem Built.requiresTexts {P : Value → Prop}
    (h : v.Built Value.IsName P mode) : v.requiresTexts = true := by
  induction h with
  | @object d rules extras _ _ hmade _ _ _ ihRules _ =>
    rw [requiresTexts_object_iff]
    intro rule hrule _
    obtain ⟨name, required, ⟨s, rfl, -⟩, heq⟩ := hmade rule hrule
    refine ⟨⟨s, ?_⟩, ihRules rule hrule⟩
    rw [heq, Rule.name]
  | any | string | chosen | literal | number | boolean | array | nullable => rfl

end Validator

/-! ### Properties given as maps -/

namespace Schema

/-- The properties that a node gives are a map. -/
def GivesMap (node : Entries) : Prop :=
  ∀ v, node.get? "properties" = some v → v.isTruthy = true → ∃ es, v = .map es

/-- Wherever properties are given in a value, they are a map. -/
def MapProperties (v : Value) : Prop := ∀ node, v.Holds (.map node) → GivesMap node

/-- In JSON, the names of properties are texts where these are given as maps. -/
theorem inherits_mapProperties :
    Inherits Value.IsName fun v => v.IsFiniteJson ∧ MapProperties v where
  toHereditary := Value.hereditary_isFiniteJson.and_maps nofun
  names {node properties} h hproperties := by
    unfold broughtProperties at hproperties
    cases hv : node.get? "properties" with
    | none =>
      rw [hv] at hproperties
      cases hproperties
      simp
    | some v =>
      rw [hv, Option.getD_some, Value.orElse] at hproperties
      split at hproperties
      · next htruthy =>
        obtain ⟨es, rfl⟩ := h.2 node (.refl _) v hv htruthy
        obtain rfl : es = properties := Except.ok.inj hproperties
        exact (Value.isFiniteJson_map.mp (Value.hereditary_isFiniteJson.part h.1
          (Value.part_find? hv))).2.1
      · cases hproperties
        simp

/-! ### Values whose properties are maps -/

/-- What is given anywhere in a value is given in itself or in its parts. -/
theorem mapProperties_of_parts {v : Value} (hv : ∀ node, v = .map node → GivesMap node)
    (hparts : ∀ w, v.Part w → MapProperties w) : MapProperties v := by
  intro node h
  rcases Relation.ReflTransGen.cases_head h with rfl | ⟨w, hw, h⟩
  · exact hv node rfl
  · exact hparts w hw node h

theorem mapProperties_text (s : String) : MapProperties (.text s) :=
  mapProperties_of_parts nofun fun w hw => by cases hw

theorem mapProperties_texts (texts : List String) : MapProperties (.list (texts.map .text)) :=
  mapProperties_of_parts nofun fun w hw => by
    cases hw with
    | item hw =>
      obtain ⟨s, -, rfl⟩ := List.mem_map.mp hw
      exact mapProperties_text s

theorem mapProperties_record {fields : List (String × Value)}
    (hgives : GivesMap (fields.map fun f => (.text f.1, f.2)))
    (h : ∀ f ∈ fields, MapProperties f.2) : MapProperties (.record fields) := by
  refine mapProperties_of_parts (fun node hnode => Value.map.inj hnode ▸ hgives) fun w hw => ?_
  unfold Value.record at hw
  cases hw with
  | entry he =>
    obtain ⟨f, hf, rfl⟩ := List.mem_map.mp he
    exact h f hf

/-- A record of one field gives no properties under another name. -/
theorem mapProperties_field {name : String} {v : Value} (hname : "properties" ≠ name)
    (h : MapProperties v) : MapProperties (.record [(name, v)]) := by
  refine mapProperties_record (fun w hw => ?_) (by simpa using h)
  rw [List.map_singleton, Entries.get?_cons_text, if_neg hname] at hw
  cases hw

/-- A text that documents a node holds no map. -/
theorem documented_mapProperties : Documented fun v => v.IsFiniteJson ∧ MapProperties v :=
  fun _ _ hnode h => ⟨documented_of_recordable Value.recordable_isFiniteJson _ _ hnode.1 h,
    mapProperties_text _⟩

/-! ### Resolved and compiled from such values -/

variable {document schema : Value} {mode : Mode} {depth : Int} {visited : List String}
variable {v : Validator}

/-- **Where properties are given as maps, a resolved node gives them as a map, too**: it stands in
the document or in the schema, or it is merged and has a map of its own. -/
theorem givesMap_of_resolve (hdocument : document.isPlain = true ∧ MapProperties document)
    (hschema : schema.isPlain = true ∧ MapProperties schema) {r : Resolution}
    (h : resolve document schema visited depth = .ok r) : GivesMap r.node := by
  have hP := inherits_of_hereditary (Value.hereditary_isPlain.and_maps (Q := GivesMap) nofun)
  cases origin_resolveWithin hP hdocument hschema h with
  | given h => exact h.2 r.node (.refl _)
  | merged merge _ hnode =>
    intro v hv _
    rw [hnode, merge.get?_node, if_neg (by simp), if_pos rfl] at hv
    exact ⟨_, (Option.some.inj hv).symm⟩

/-- **A schema in JSON whose properties are given as maps requires texts only.** -/
theorem requiresTexts_of_mapProperties
    (hdocument : document.IsFiniteJson ∧ MapProperties document)
    (hschema : schema.IsFiniteJson ∧ MapProperties schema)
    (h : compile document schema mode depth visited = .ok v) : v.requiresTexts = true :=
  (built_compileWithin inherits_mapProperties documented_mapProperties hdocument hschema
    h).requiresTexts

end Schema

end ApiTools
