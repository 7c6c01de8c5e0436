import ApiTools.Proofs.Validator.Redescription
import ApiTools.Proofs.Value.Json
import Mathlib.Data.List.Induction

/-!
# What a validator of maps asks of each entry

The rules of a validator of maps become properties of a schema one after the other, so of several
rules for one property only the last one checks its value, while each of them can ask for it to be
there.  The keys of a value of JSON are texts, so a rule for anything else checks nothing, and asks
for what is never there.

So a map with texts as keys is accepted when the required properties are there and each of its
entries is accepted by itself: by the last rule for its key, or else by the policy.

## Main definitions

* `Rule.checker` — the validator of the values of a property.
* `Rule.lastFor?` — the rule that counts for a text.
* `Validator.checkerAt?` — the validator of the value at a text, if such an entry is accepted at
  all.
* `Validator.AcceptsAt` — a value is accepted at a text.

## Main results

* `Validator.mem_collectSchemas_iff` — of several schemas for one text the last one is a property.
* `Validator.isValid_map_iff` — **a map with texts as keys is accepted entry by entry.**
-/

namespace ApiTools

open JsonSchema

namespace Rule

/-- The validator of the values of a property, where null may stand for its absence. -/
def checker (rule : Rule) : Validator :=
  if rule.admitsNull then .nullable .null rule.validator else rule.validator

theorem isValid_checker {rule : Rule} {x : Value} :
    rule.checker.isValid x = true ↔ rule.schema.isValid x = true := by
  rw [Validator.isValid_ruleSchema, checker]
  split
  · next h => rw [Validator.isValid_nullable, or_comm, h, and_iff_right rfl]
  · next h => simp [h]

/-- The rule that counts for a text, of several ones the last. -/
def lastFor? (rules : List Rule) (name : String) : Option Rule :=
  rules.reverse.find? fun rule => rule.name = .text name

end Rule

/-- The validator of the value at a key that no rule declares, if such keys are accepted. -/
def Extras.checker? : Extras → Option Validator
  | .reject _ => none
  | .allow _ => some (.any .null)
  | .typed v => some v

namespace Validator

/-- The validator of the value at a text in a map of the given rules, if such an entry is accepted
at all. -/
def checkerAt? (rules : List Rule) (extras : Extras) (name : String) : Option Validator :=
  ((Rule.lastFor? rules name).map Rule.checker).or extras.checker?

/-- A value is accepted at a text in a map of the given rules. -/
def AcceptsAt (rules : List Rule) (extras : Extras) (name : String) (x : Value) : Prop :=
  ∃ u, checkerAt? rules extras name = some u ∧ u.isValid x = true

/-! ### Properties -/

/-- A property that is put in replaces or adds what stands at its key. -/
theorem mem_putSchema_self {schemas : List (Scalar × JsonSchema)} {name : String}
    {own schema : JsonSchema} :
    (Scalar.text name, schema) ∈ putSchema schemas (.text name) own ↔ schema = own := by
  unfold putSchema
  split
  · next hany =>
    rw [List.mem_map]
    constructor
    · rintro ⟨⟨k, s⟩, hmem, heq⟩
      dsimp only at heq
      split at heq
      · exact (Prod.mk.inj heq).2.symm
      · next hother =>
        obtain ⟨rfl, -⟩ := Prod.mk.inj heq
        exact absurd (Scalar.alike_refl _) hother
    · rintro rfl
      obtain ⟨e, he, halike⟩ := List.any_eq_true.mp hany
      refine ⟨e, he, ?_⟩
      rw [if_pos halike, Scalar.alike_text_iff.mp halike]
  · next hnone =>
    simp only [List.any_eq_true, not_exists, not_and] at hnone
    rw [List.mem_append, List.mem_singleton]
    constructor
    · rintro (hmem | heq)
      · exact absurd (Scalar.alike_refl _) (hnone _ hmem)
      · exact (Prod.mk.inj heq).2
    · rintro rfl
      exact .inr rfl

/-- It leaves the other properties alone. -/
theorem mem_putSchema_of_ne {schemas : List (Scalar × JsonSchema)} {key : Scalar} {name : String}
    {own schema : JsonSchema} (hkey : key ≠ .text name) :
    (Scalar.text name, schema) ∈ putSchema schemas key own ↔
      (Scalar.text name, schema) ∈ schemas := by
  have hne : (Scalar.text name).alike key = false := by
    rw [← Bool.not_eq_true]
    exact fun halike => hkey (Scalar.text_alike_iff.mp halike)
  unfold putSchema
  split
  · rw [List.mem_map]
    constructor
    · rintro ⟨⟨k, s⟩, hmem, heq⟩
      dsimp only at heq
      split at heq
      · next halike =>
        obtain ⟨rfl, -⟩ := Prod.mk.inj heq
        rw [hne] at halike
        cases halike
      · exact heq ▸ hmem
    · intro hmem
      refine ⟨_, hmem, ?_⟩
      rw [if_neg (by simp [hne])]
  · rw [List.mem_append, List.mem_singleton]
    exact or_iff_left fun heq => hkey (Prod.mk.inj heq).1.symm

/-- Putting in one property replaces or adds what stands at its key. -/
theorem mem_putSchema_iff {schemas : List (Scalar × JsonSchema)} {key : Scalar} {name : String}
    {own schema : JsonSchema} :
    (Scalar.text name, schema) ∈ putSchema schemas key own ↔
      if key = .text name then schema = own else (Scalar.text name, schema) ∈ schemas := by
  by_cases hkey : key = .text name
  · subst hkey
    rw [if_pos rfl, mem_putSchema_self]
  · rw [if_neg hkey, mem_putSchema_of_ne hkey]

/-- **Of several schemas for one text the last one is a property.** -/
theorem mem_collectSchemas_iff {schemas : List (Scalar × JsonSchema)} {name : String}
    {schema : JsonSchema} :
    (Scalar.text name, schema) ∈ collectSchemas schemas ↔
      (schemas.reverse.find? fun e => e.1 = .text name) = some (.text name, schema) := by
  induction schemas using List.reverseRecOn with
  | nil => simp [collectSchemas]
  | append_singleton schemas e ih =>
    obtain ⟨key, own⟩ := e
    have hlast : collectSchemas (schemas ++ [(key, own)]) =
        putSchema (collectSchemas schemas) key own := by
      rw [collectSchemas, List.foldl_append]
      rfl
    rw [hlast, mem_putSchema_iff, ih, List.reverse_append, List.reverse_singleton,
      List.singleton_append, List.find?_cons]
    by_cases hkey : key = .text name
    · simp [hkey, eq_comm]
    · simp [hkey]

/-- The property at a text is that of the last rule for it. -/
theorem mem_properties_iff {rules : List Rule} {name : String} {schema : JsonSchema} :
    (Scalar.text name, schema) ∈ collectSchemas (ruleSchemas rules) ↔
      ∃ rule, Rule.lastFor? rules name = some rule ∧ rule.schema = schema := by
  have hname : ∀ rule : Rule, ((rule.name.scalar?.map fun key => (key, rule.schema)).any
      fun e => decide (e.1 = .text name)) = decide (rule.name = .text name) := by
    intro rule
    cases hscalar : rule.name with
    | scalar s => simp [Value.scalar?]
    | list | map | group | knot => simp [Value.scalar?]
  rw [mem_collectSchemas_iff, ruleSchemas_eq, ← List.filterMap_reverse, List.find?_filterMap,
    Option.bind_eq_some_iff, Rule.lastFor?]
  simp only [hname]
  refine exists_congr fun rule => and_congr_right fun hrule => ?_
  have hrule : rule.name = .text name := by simpa using List.find?_some hrule
  rw [hrule]
  simp [Value.scalar?]

/-- An entry is not declared when there is no rule for its key. -/
theorem mem_undeclared_text_iff {rules : List Rule} {es : Entries} {e : Scalar × Value}
    {name : String} (hname : e.1 = .text name) :
    e ∈ undeclared ((collectSchemas (ruleSchemas rules)).map (·.1)) es ↔
      e ∈ es ∧ Rule.lastFor? rules name = none := by
  rw [mem_undeclared_iff, hname, List.forall_mem_map]
  refine and_congr_right fun _ => ?_
  constructor
  · intro hnone
    by_contra hlast
    obtain ⟨rule, hrule⟩ := Option.ne_none_iff_exists'.mp hlast
    have hother := hnone _ (mem_properties_iff.mpr ⟨rule, hrule, rfl⟩)
    rw [Scalar.alike_refl] at hother
    cases hother
  · rintro hlast ⟨key, schema⟩ hmem
    rw [← Bool.not_eq_true]
    intro halike
    obtain rfl := Scalar.alike_text_iff.mp halike
    obtain ⟨rule, hrule, -⟩ := mem_properties_iff.mp hmem
    rw [hlast] at hrule
    cases hrule

/-! ### Maps -/

section

variable {d : Value} {rules : List Rule} {extras : Extras} {es : Entries}

/-- A policy asks of every entry that is not declared that its validator, if there is one, accepts
the value. -/
theorem accepts_extras_iff {declared : List Scalar} :
    extras.Accepts declared es ↔ ∀ e ∈ undeclared declared es,
      ∃ u, extras.checker? = some u ∧ u.isValid e.2 = true := by
  cases extras with
  | reject spare => simp [Extras.Accepts, Extras.checker?, List.eq_nil_iff_forall_not_mem]
  | allow spare => simp [Extras.Accepts, Extras.checker?, isValid_any]
  | typed v => simp [Extras.Accepts, Extras.checker?]

/-- Where all keys are texts, only at a text can something be. -/
theorem any_hasKey_iff (htexts : ∀ e ∈ es, Value.IsName e.1) {v : Value} :
    v.scalar?.any es.hasKey = true ↔
      ∃ name, v = .text name ∧ es.hasKey (.text name) = true := by
  constructor
  · intro h
    cases hscalar : v.scalar? with
    | none =>
      rw [hscalar] at h
      cases h
    | some key =>
      rw [hscalar] at h
      obtain ⟨e, he, halike⟩ := Entries.hasKey_iff.mp h
      obtain ⟨name, hname, -⟩ := htexts e he
      rw [hname] at halike
      obtain rfl := Scalar.text_alike_iff.mp halike
      exact ⟨name, Value.scalar?_eq_some_iff.mp hscalar, h⟩
  · rintro ⟨name, hname, hhas⟩
    rw [hname]
    exact hhas

/-- **A map with texts as keys is accepted when the properties that have to be there are, and each
entry is accepted by itself.** -/
theorem isValid_map_iff (hdistinct : Scalar.DistinctKeys es)
    (htexts : ∀ e ∈ es, Value.IsName e.1) :
    (object d rules extras).isValid (.map es) = true ↔
      (∀ rule ∈ rules, rule.isRequired = true →
        ∃ name, rule.name = .text name ∧ es.hasKey (.text name) = true) ∧
      ∀ e ∈ es, ∀ name, e.1 = .text name → AcceptsAt rules extras name e.2 := by
  rw [isValid_object_map_iff, accepts_extras_iff]
  simp only [any_hasKey_iff htexts]
  constructor
  · rintro ⟨hproperties, hneeded, hothers⟩
    refine ⟨hneeded, fun e he name hname => ?_⟩
    have hfound : es.find? (.text name) = some e.2 := hname ▸ Entries.find?_eq_some hdistinct he
    cases hlast : Rule.lastFor? rules name with
    | some rule =>
      have hschema := hproperties _ (mem_properties_iff.mpr ⟨rule, hlast, rfl⟩) _ hfound
      exact ⟨rule.checker, by simp [checkerAt?, hlast], Rule.isValid_checker.mpr hschema⟩
    | none =>
      obtain ⟨u, hu, hvalid⟩ := hothers e ((mem_undeclared_text_iff hname).mpr ⟨he, hlast⟩)
      exact ⟨u, by simp [checkerAt?, hlast, hu], hvalid⟩
  · rintro ⟨hneeded, hentries⟩
    refine ⟨?_, hneeded, ?_⟩
    · rintro ⟨key, schema⟩ hmem y hfound
      obtain ⟨e, he, halike, rfl⟩ := Entries.exists_mem_of_find? hfound
      obtain ⟨name, hname, -⟩ := htexts e he
      rw [hname] at halike
      obtain rfl := Scalar.text_alike_iff.mp halike
      obtain ⟨rule, hlast, rfl⟩ := mem_properties_iff.mp hmem
      obtain ⟨u, hu, hvalid⟩ := hentries e he name hname
      rw [checkerAt?, hlast] at hu
      obtain rfl := Option.some.inj hu
      exact Rule.isValid_checker.mp hvalid
    · intro e he
      obtain ⟨name, hname, -⟩ := htexts e (mem_undeclared_iff.mp he).1
      obtain ⟨he, hlast⟩ := (mem_undeclared_text_iff hname).mp he
      obtain ⟨u, hu, hvalid⟩ := hentries e he name hname
      rw [checkerAt?, hlast] at hu
      exact ⟨u, hu, hvalid⟩

end

end Validator

end ApiTools
