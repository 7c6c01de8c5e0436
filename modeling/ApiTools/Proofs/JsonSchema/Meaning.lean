import ApiTools.JsonSchema.Violation
import Mathlib.Data.List.Basic

/-!
# What a schema asks for

A value satisfies a schema when each keyword of the schema holds of it.  What a keyword asks for is
stated here by itself, keyword by keyword, and the list of violations is shown to be empty in just
that case.  A keyword about the entries of maps says nothing of other values, nor does one about the
items of lists.

## Main definitions

* `Keyword.Holds` — what a keyword asks of a value.

## Main results

* `JsonSchema.isValid_iff` — **a value is valid exactly when every keyword holds of it.**
-/

namespace ApiTools

/-- What a keyword asks of a value, in a schema with properties for the given keys. -/
def Keyword.Holds (declared : List Scalar) (x : Value) : Keyword → Prop
  | .type name => name.admits x = true
  | .enum members => ∃ m ∈ members, m.equals x = true
  | .properties schemas =>
    ∀ p ∈ schemas, ∀ y, (JsonSchema.entriesOf x).find? p.1 = some y → p.2.isValid y = true
  | .items schema => ∀ y ∈ JsonSchema.itemsOf x, schema.isValid y = true
  | .anyOf alternatives => ∃ schema ∈ alternatives, schema.isValid x = true
  | .required names =>
    ∀ es, x = .map es → ∀ name ∈ names, name.scalar?.any (Entries.hasKey es) = true
  | .closed => JsonSchema.undeclared declared (JsonSchema.entriesOf x) = []
  | .additional schema =>
    ∀ e ∈ JsonSchema.undeclared declared (JsonSchema.entriesOf x), schema.isValid e.2 = true
  | .description _ => True

namespace JsonSchema

theorem isValid_iff_violations_eq_nil {schema : JsonSchema} {x : Value} :
    schema.isValid x = true ↔ schema.violations x = [] := List.isEmpty_iff

theorem propertyViolations_eq_nil_iff {schemas : List (Scalar × JsonSchema)} {es : Entries} :
    propertyViolations schemas es = [] ↔
      ∀ p ∈ schemas, ∀ y, es.find? p.1 = some y → p.2.isValid y = true := by
  induction schemas with
  | nil => simp [propertyViolations]
  | cons p schemas ih =>
    obtain ⟨key, schema⟩ := p
    rw [propertyViolations, List.append_eq_nil_iff, ih, List.forall_mem_cons]
    refine and_congr_left fun _ => ?_
    cases es.find? key with
    | none => simp
    | some y => simp [isValid_iff_violations_eq_nil]

theorem alternativeViolations_eq_none_iff {alternatives : List JsonSchema} {x : Value} :
    alternativeViolations alternatives x = none ↔
      ∃ schema ∈ alternatives, schema.isValid x = true := by
  induction alternatives with
  | nil => simp [alternativeViolations]
  | cons schema alternatives ih =>
    rw [alternativeViolations, List.exists_mem_cons_iff, isValid_iff_violations_eq_nil, ← ih]
    cases schema.violations x with
    | nil => simp
    | cons v vs => simp

theorem itemViolations_eq_nil_iff {schema : JsonSchema} {items : List Value} {n : Nat} :
    ((items.zipIdx n).flatMap fun (item, i) =>
        (violations schema item).map (·.under (.index i))) = [] ↔
      ∀ y ∈ items, schema.isValid y = true := by
  induction items generalizing n with
  | nil => simp
  | cons item items ih =>
    rw [List.zipIdx_cons, List.flatMap_cons, List.append_eq_nil_iff, ih, List.map_eq_nil_iff,
      List.forall_mem_cons, isValid_iff_violations_eq_nil]

theorem missing_eq_nil_iff {names : List Value} {es : Entries} :
    missing names es = [] ↔ ∀ name ∈ names, name.scalar?.any (Entries.hasKey es) = true := by
  simp [missing]

theorem mem_undeclared_iff {declared : List Scalar} {es : Entries} {e : Scalar × Value} :
    e ∈ undeclared declared es ↔ e ∈ es ∧ ∀ key ∈ declared, key.alike e.1 = false := by
  simp [undeclared]

/-- The keywords of a schema are violated by no value of which they hold, and by every other. -/
theorem keywordViolations_eq_nil_iff {asked : Option TypeName} {declared : List Scalar}
    {keywords : List Keyword} {x : Value} :
    keywordViolations asked declared keywords x = [] ↔
      ∀ k ∈ keywords, k.Holds declared x := by
  induction keywords with
  | nil => simp [keywordViolations]
  | cons k keywords ih =>
    rw [keywordViolations.eq_def, List.append_eq_nil_iff, ih, List.forall_mem_cons]
    refine and_congr_left fun _ => ?_
    cases k with
    | type name => simp [Keyword.Holds]
    | enum members => simp [Keyword.Holds]
    | properties schemas => exact propertyViolations_eq_nil_iff
    | items schema => exact itemViolations_eq_nil_iff
    | anyOf alternatives =>
      simp only [Keyword.Holds, ← alternativeViolations_eq_none_iff]
      cases alternativeViolations alternatives x <;> simp
    | required names =>
      cases x with
      | map es =>
        simp only [Keyword.Holds, Value.map.injEq, forall_eq', ← missing_eq_nil_iff]
        cases missing names es <;> simp
      | scalar | list | group | knot => simp [Keyword.Holds]
    | closed =>
      simp only [Keyword.Holds]
      cases undeclared declared (entriesOf x) <;> simp
    | additional schema =>
      simp [Keyword.Holds, isValid_iff_violations_eq_nil]
    | description text => simp [Keyword.Holds]

/-- **A value is valid exactly when every keyword of the schema holds of it.** -/
theorem isValid_iff {keywords : List Keyword} {x : Value} :
    (JsonSchema.mk keywords).isValid x = true ↔
      ∀ k ∈ keywords, k.Holds (declaredKeys keywords) x := by
  rw [isValid_iff_violations_eq_nil, violations, keywordViolations_eq_nil_iff]

end JsonSchema

end ApiTools
