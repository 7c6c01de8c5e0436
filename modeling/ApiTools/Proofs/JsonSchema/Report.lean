import ApiTools.Proofs.JsonSchema.Meaning
import ApiTools.Proofs.JsonSchema.Place
import ApiTools.Proofs.Value.Json

/-!
# The violation that is reported

A value that is not valid has a violation for each check that it fails, and one of them is reported.
What the violations are is said keyword by keyword.  The one that is reported is found among them and
among those that they carry, so that it is a violation as well: it stands at a place that leads to the
part of the value that it is about.

## Main definitions

* `Keyword.Fails` — a violation of a keyword.
* `Keyword.subschemas` — the schemas in a keyword.
* `Finding.IsIn` — a finding is about a part of a value.

## Main results

* `JsonSchema.mem_violations_iff` — **these are all the violations.**
* `JsonSchema.inductionOn` — induction by the schemas in a schema.
* `Violation.exists_of_best?` — what is reported is what a violation comes down to.
* `Violation.focus_cases`, `Violation.focus_concat` — a violation comes down to itself or to one that
  it carries, and not to the last one of these if that is no deeper than any other.
* `JsonSchema.isIn_of_best?` — **what is reported is about the part at its place.**
-/

namespace ApiTools

open JsonSchema

/-! ### Violations of keywords -/

/-- A violation of a keyword, in a schema with the given type and declared keys. -/
@[mk_iff]
inductive Keyword.Fails (asked : Option TypeName) (declared : List Scalar) (x : Value) :
    Keyword → Violation → Prop where
  /-- The value is of another type. -/
  | type {name : TypeName} (h : name.admits x = false) :
    Fails asked declared x (.type name) (.mk (.wrongType name) [] x (ofType asked x) [])
  /-- The value is none of the list. -/
  | enum {members : List Value} (h : members.any (·.equals x) = false) :
    Fails asked declared x (.enum members) (.mk (.notMember members) [] x (ofType asked x) [])
  /-- The value at the key of a property violates its schema. -/
  | property {schemas : List (Scalar × JsonSchema)} {p : Scalar × JsonSchema} (hp : p ∈ schemas)
    {y : Value} (hy : (entriesOf x).find? p.1 = some y) {e : Violation} (he : e ∈ p.2.violations y) :
    Fails asked declared x (.properties schemas) (e.under (.key p.1.display))
  /-- An item violates the schema of items. -/
  | item {schema : JsonSchema} {i : Nat} {y : Value} (hy : (itemsOf x)[i]? = some y) {e : Violation}
    (he : e ∈ schema.violations y) :
    Fails asked declared x (.items schema) (e.under (.index i))
  /-- The value satisfies no alternative. -/
  | choice {alternatives : List JsonSchema}
    (h : ∀ schema ∈ alternatives, schema.isValid x = false) :
    Fails asked declared x (.anyOf alternatives)
      (.mk .noAlternative [] x (ofType asked x) (alternatives.flatMap (·.violations x)))
  /-- A key is missing. -/
  | required {names : List Value} {es : Entries} (hx : x = .map es) {first : Value}
    (h : (missing names es).head? = some first) :
    Fails asked declared x (.required names) (.mk (.missing first) [] x (ofType asked x) [])
  /-- A key is not declared. -/
  | closed {entry : Scalar × Value} (h : (undeclared declared (entriesOf x)).head? = some entry) :
    Fails asked declared x .closed (.mk (.unknown entry.1) [] x (ofType asked x) [])
  /-- The value at a key that is not declared violates the schema of such values. -/
  | additional {schema : JsonSchema} {entry : Scalar × Value}
    (hentry : entry ∈ undeclared declared (entriesOf x)) {e : Violation}
    (he : e ∈ schema.violations entry.2) :
    Fails asked declared x (.additional schema) (e.under (.key entry.1.display))

namespace JsonSchema

variable {asked : Option TypeName} {declared : List Scalar} {x : Value} {e : Violation}

theorem mem_propertyViolations_iff {schemas : List (Scalar × JsonSchema)} {es : Entries} :
    e ∈ propertyViolations schemas es ↔ ∃ p ∈ schemas, ∃ y, es.find? p.1 = some y ∧
      ∃ d ∈ p.2.violations y, e = d.under (.key p.1.display) := by
  induction schemas with
  | nil => simp [propertyViolations]
  | cons p schemas ih =>
    obtain ⟨key, schema⟩ := p
    rw [propertyViolations, List.mem_append, ih, List.exists_mem_cons_iff]
    refine or_congr_left ?_
    cases es.find? key with
    | none => simp
    | some y => simp [eq_comm]

/-- The violations of all alternatives, if there is one of each. -/
theorem alternativeViolations_eq_some_iff {alternatives : List JsonSchema}
    {context : List Violation} :
    alternativeViolations alternatives x = some context ↔
      (∀ schema ∈ alternatives, schema.isValid x = false) ∧
        alternatives.flatMap (·.violations x) = context := by
  induction alternatives generalizing context with
  | nil => simp [alternativeViolations]
  | cons schema alternatives ih =>
    rw [alternativeViolations, List.forall_mem_cons, List.flatMap_cons]
    cases hfailed : schema.violations x with
    | nil => simp [isValid, hfailed]
    | cons v vs =>
      have hinvalid : schema.isValid x = false := by simp [isValid, hfailed]
      simp only [hinvalid, true_and, Option.map_eq_some_iff, ih]
      constructor
      · rintro ⟨rest, ⟨hall, rfl⟩, rfl⟩
        exact ⟨hall, rfl⟩
      · rintro ⟨hall, rfl⟩
        exact ⟨_, ⟨hall, rfl⟩, rfl⟩

/-- A check that is failed unless a condition holds. -/
theorem mem_unless_iff {b : Bool} {d : Violation} :
    e ∈ (if b = true then [] else [d]) ↔ b = false ∧ e = d := by
  cases b <;> simp

/-- A check that is failed when no alternative is satisfied, with the violations of all of them. -/
theorem mem_choiceViolations_iff {alternatives : List JsonSchema}
    {d : List Violation → Violation} :
    e ∈ (match alternativeViolations alternatives x with
        | none => []
        | some context => [d context]) ↔
      (∀ schema ∈ alternatives, schema.isValid x = false) ∧
        e = d (alternatives.flatMap (·.violations x)) := by
  cases hcontext : alternativeViolations alternatives x with
  | none =>
    refine iff_of_false List.not_mem_nil ?_
    rintro ⟨hall, -⟩
    rw [alternativeViolations_eq_some_iff.mpr ⟨hall, rfl⟩] at hcontext
    cases hcontext
  | some context =>
    obtain ⟨hall, rfl⟩ := alternativeViolations_eq_some_iff.mp hcontext
    rw [List.mem_singleton, and_iff_right hall]

/-- The violations of items, each at its index. -/
theorem mem_itemViolations_iff {schema : JsonSchema} :
    (e ∈ (itemsOf x).zipIdx.flatMap fun (item, i) =>
        (schema.violations item).map (·.under (.index i))) ↔
      ∃ i y, (itemsOf x)[i]? = some y ∧ ∃ d ∈ schema.violations y, e = d.under (.index i) := by
  simp only [List.mem_flatMap, List.mem_map, Prod.exists, List.mem_zipIdx_iff_getElem?]
  rw [exists_comm]
  simp only [eq_comm (a := e)]

/-- The violations of the values that are not declared, each at its key. -/
theorem mem_additionalViolations_iff {schema : JsonSchema} :
    (e ∈ (undeclared declared (entriesOf x)).flatMap fun (key, value) =>
        (schema.violations value).map (·.under (.key key.display))) ↔
      ∃ entry ∈ undeclared declared (entriesOf x), ∃ d ∈ schema.violations entry.2,
        e = d.under (.key entry.1.display) := by
  simp only [List.mem_flatMap, List.mem_map, eq_comm]

/-- **These are all the violations of keywords.** -/
theorem mem_keywordViolations_iff {keywords : List Keyword} :
    e ∈ keywordViolations asked declared keywords x ↔
      ∃ k ∈ keywords, k.Fails asked declared x e := by
  induction keywords with
  | nil => simp [keywordViolations]
  | cons k keywords ih =>
    rw [keywordViolations.eq_def, List.mem_append, ih, List.exists_mem_cons_iff, Keyword.fails_iff]
    refine or_congr_left ?_
    cases k with
    | type name =>
      rw [mem_unless_iff]
      simp
    | enum members =>
      rw [mem_unless_iff]
      simp
    | properties schemas =>
      rw [mem_propertyViolations_iff]
      simp
    | items schema =>
      rw [mem_itemViolations_iff]
      simp
    | anyOf alternatives =>
      refine (mem_choiceViolations_iff
        (d := .mk .noAlternative [] x (ofType asked x))).trans ?_
      simp
    | required names =>
      cases x with
      | map es =>
        dsimp only
        cases hmissing : missing names es with
        | nil => simp [hmissing]
        | cons first others => simp [hmissing]
      | scalar | list | group | knot => simp
    | closed =>
      dsimp only
      cases hundeclared : undeclared declared (entriesOf x) with
      | nil => simp
      | cons entry others => simp
    | additional schema =>
      rw [mem_additionalViolations_iff]
      simp
    | description text => simp

/-- **These are all the violations of a schema.** -/
theorem mem_violations_iff {keywords : List Keyword} :
    e ∈ (JsonSchema.mk keywords).violations x ↔
      ∃ k ∈ keywords, k.Fails (typeOf keywords) (declaredKeys keywords) x e := by
  rw [violations, mem_keywordViolations_iff]

end JsonSchema

/-! ### Schemas in schemas -/

/-- The schemas in a keyword. -/
def Keyword.subschemas : Keyword → List JsonSchema
  | .properties schemas => schemas.map (·.2)
  | .items schema => [schema]
  | .anyOf alternatives => alternatives
  | .additional schema => [schema]
  | .type _ | .enum _ | .required _ | .closed | .description _ => []

/-- A schema in a keyword is a part of it. -/
theorem Keyword.sizeOf_lt_of_mem_subschemas {k : Keyword} {schema : JsonSchema}
    (h : schema ∈ k.subschemas) : sizeOf schema < sizeOf k := by
  cases k with
  | properties schemas =>
    obtain ⟨⟨key, own⟩, hp, rfl⟩ := List.mem_map.mp h
    have hlt := List.sizeOf_lt_of_mem hp
    simp only [Prod.mk.sizeOf_spec] at hlt
    simp only [Keyword.properties.sizeOf_spec]
    omega
  | items own | additional own =>
    obtain rfl := List.mem_singleton.mp h
    simp
  | anyOf alternatives =>
    have hlt : sizeOf schema < sizeOf alternatives := List.sizeOf_lt_of_mem h
    simp only [Keyword.anyOf.sizeOf_spec]
    omega
  | type | enum | required | closed | description => cases h

/-- What holds of a schema when it holds of the schemas in its keywords holds of all. -/
@[elab_as_elim]
theorem JsonSchema.inductionOn {motive : JsonSchema → Prop}
    (mk : ∀ keywords, (∀ k ∈ keywords, ∀ schema ∈ k.subschemas, motive schema) →
      motive (.mk keywords)) : ∀ schema, motive schema
  | .mk keywords => by
    refine mk keywords fun k hk schema hschema => ?_
    have hlt := Keyword.sizeOf_lt_of_mem_subschemas hschema
    have hlt' := List.sizeOf_lt_of_mem hk
    exact inductionOn mk schema
  termination_by schema => sizeOf schema
  decreasing_by
    simp only [JsonSchema.mk.sizeOf_spec]
    omega

/-! ### What is reported -/

namespace Violation

variable {cause : Cause} {x : Value} {ofType : Bool} {context : List Violation}

theorem focusAll_eq_map (es : List Violation) : focusAll es = es.map fun e => (e.rank, focus e) := by
  induction es with
  | nil => rfl
  | cons e es ih => rw [focusAll, ih, List.map_cons]

/-- A violation seen from further up comes down to the same, seen from there. -/
theorem focus_under (step : Step) (e : Violation) :
    focus (e.under step) = { focus e with place := step :: (focus e).place } := by
  obtain ⟨cause, place, value, ofType, context⟩ := e
  rw [under, focus, focus]
  cases soleLeast (focusAll context) <;> rfl

section

variable {α : Type} {exceeds : α → α → Bool}

/-- The best item is one of the items. -/
theorem mem_of_firstBest {l : List α} {b : α} (h : firstBest exceeds l = some b) : b ∈ l := by
  cases l with
  | nil => cases h
  | cons a l =>
    obtain rfl := Option.some.inj h
    clear h
    induction l generalizing a with
    | nil => exact List.mem_cons_self
    | cons c l ih =>
      rw [List.foldl_cons]
      rcases List.mem_cons.mp (ih (if exceeds c a then c else a)) with hbest | hbest
      · rw [hbest]
        split <;> simp
      · exact List.mem_cons_of_mem _ (List.mem_cons_of_mem _ hbest)

/-- A last item that exceeds no other one is not the best, unless it is the only one. -/
theorem firstBest_concat {l : List α} (hne : l ≠ []) {last : α}
    (hlast : ∀ a ∈ l, exceeds last a = false) :
    firstBest exceeds (l ++ [last]) = firstBest exceeds l := by
  cases l with
  | nil => exact absurd rfl hne
  | cons a l =>
    obtain ⟨best, hbest⟩ : ∃ best, firstBest exceeds (a :: l) = some best := ⟨_, rfl⟩
    have hfold := Option.some.inj hbest
    rw [hbest, List.cons_append, firstBest, List.foldl_append, hfold, List.foldl_cons, List.foldl_nil,
      hlast best (mem_of_firstBest hbest), if_neg Bool.false_ne_true]

end

/-- The least of ranked findings is the best of them. -/
theorem exists_of_soleLeast {ranked : List (Rank × Finding)} {f : Finding}
    (h : soleLeast ranked = some f) :
    ∃ rank, firstBest (fun a b => a.1.compareTo b.1 == .lt) ranked = some (rank, f) := by
  unfold soleLeast at h
  split at h
  · cases h
  · next rank finding hbest =>
    split at h
    · cases h
    · obtain rfl := Option.some.inj h
      exact ⟨rank, hbest⟩

/-- A violation comes down to itself, or to one of those among which the least that it carries is. -/
theorem focus_cases_of_least (cause : Cause) (x : Value) (ofType : Bool) {context es : List Violation}
    (hleast : ∀ least, firstBest (fun a b => a.1.compareTo b.1 == .lt) (focusAll context) = some least →
      least ∈ focusAll es) :
    focus (.mk cause [] x ofType context) = ⟨cause, [], x⟩ ∨
      ∃ e ∈ es, focus (.mk cause [] x ofType context) = focus e := by
  rw [focus]
  cases hsole : soleLeast (focusAll context) with
  | none => exact Or.inl rfl
  | some finding =>
    obtain ⟨rank, hbest⟩ := exists_of_soleLeast hsole
    have hmem := hleast _ hbest
    rw [focusAll_eq_map] at hmem
    obtain ⟨e, he, heq⟩ := List.mem_map.mp hmem
    exact Or.inr ⟨e, he, (Prod.mk.inj heq).2.symm⟩

/-- **A violation comes down to itself, or to one that it carries.** -/
theorem focus_cases (cause : Cause) (x : Value) (ofType : Bool) (context : List Violation) :
    focus (.mk cause [] x ofType context) = ⟨cause, [], x⟩ ∨
      ∃ e ∈ context, focus (.mk cause [] x ofType context) = focus e :=
  focus_cases_of_least cause x ofType fun _ => mem_of_firstBest

/-- **A violation does not come down to the last one that it carries**, if there are others and this
one is no deeper than any of them. -/
theorem focus_concat (cause : Cause) (x : Value) (ofType : Bool) {es : List Violation}
    (hne : es ≠ []) {last : Violation}
    (hlast : ∀ e ∈ es, last.rank.compareTo e.rank ≠ .lt) :
    focus (.mk cause [] x ofType (es ++ [last])) = ⟨cause, [], x⟩ ∨
      ∃ e ∈ es, focus (.mk cause [] x ofType (es ++ [last])) = focus e := by
  refine focus_cases_of_least cause x ofType fun least hleast => ?_
  have hexceeds : ∀ a ∈ es.map fun e => (e.rank, focus e),
      (last.rank.compareTo a.1 == .lt) = false := by
    simpa using hlast
  rw [focusAll_eq_map, List.map_append, List.map_singleton,
    firstBest_concat (by simpa using hne) hexceeds] at hleast
  exact focusAll_eq_map es ▸ mem_of_firstBest hleast

/-- **What is reported is what a violation comes down to.** -/
theorem exists_of_best? {es : List Violation} {f : Finding} (h : best? es = some f) :
    ∃ e ∈ es, focus e = f := by
  obtain ⟨e, he, rfl⟩ := Option.map_eq_some_iff.mp h
  exact ⟨e, mem_of_firstBest he, rfl⟩

end Violation

/-! ### The part that is reported -/

namespace JsonSchema

variable {x y : Value}

/-- The value that a map of JSON has at a key is at the step to this key, which is a text. -/
theorem follow?_key (hx : x.isJson = true) {key : Scalar} (hy : (entriesOf x).find? key = some y) :
    (∃ name, key = .text name) ∧ Step.follow? (.key key.display) x = some y ∧ y.isJson = true := by
  cases x with
  | map es =>
    obtain ⟨-, htexts, hvalues⟩ := Value.isJson_map.mp hx
    obtain ⟨e, he, halike, rfl⟩ := Entries.exists_mem_of_find? hy
    obtain ⟨name, hname, -⟩ := htexts e he
    rw [hname] at halike
    obtain rfl := Scalar.text_alike_iff.mp halike
    exact ⟨⟨name, rfl⟩, hy, hvalues e he⟩
  | scalar | list | group | knot => cases hy

/-- An entry of a map is what the map has at its key. -/
theorem find?_of_mem_entriesOf (hx : x.isJson = true) {e : Scalar × Value} (he : e ∈ entriesOf x) :
    (entriesOf x).find? e.1 = some e.2 := by
  cases x with
  | map es => exact Entries.find?_eq_some (Value.isJson_map.mp hx).1 he
  | scalar | list | group | knot => cases he

/-- An item of a list of JSON is at the step to its index. -/
theorem follow?_index (hx : x.isJson = true) {i : Nat} (hy : (itemsOf x)[i]? = some y) :
    Step.follow? (.index i) x = some y ∧ y.isJson = true := by
  cases x with
  | list items => exact ⟨hy, Value.isJson_list.mp hx y (List.mem_of_getElem? hy)⟩
  | scalar | map | group | knot => cases hy

end JsonSchema

/-- A finding is about a part of a value: the part is at its place, a key that is missing is not in the
part, and a key that is unknown is. -/
structure Finding.IsIn (f : Finding) (x : Value) : Prop where
  /-- The part is at the place. -/
  part : x.partAt? f.place = some f.value
  /-- A key that is missing is not in the part. -/
  missing : ∀ name, f.cause = .missing name →
    ∃ es : Entries, f.value = .map es ∧ name.scalar?.any es.hasKey = false
  /-- A key that is unknown is in the part. -/
  unknown : ∀ key, f.cause = .unknown key →
    ∃ es : Entries, f.value = .map es ∧ es.hasKey key = true

/-- What a finding is about in a part it is about in the whole. -/
theorem Finding.IsIn.cons {f : Finding} {x y : Value} {step : Step} (h : f.IsIn y)
    (hstep : step.follow? x = some y) :
    Finding.IsIn { f with place := step :: f.place } x :=
  ⟨(Value.partAt?_cons hstep f.place).trans h.part, h.missing, h.unknown⟩

namespace JsonSchema

open Violation

/-- What a violation comes down to is about a part of the value. -/
theorem isIn_focus (schema : JsonSchema) : ∀ {x : Value} {e : Violation}, x.isJson = true →
    e ∈ schema.violations x → (focus e).IsIn x := by
  induction schema using inductionOn with
  | mk keywords ih =>
    intro x e hx he
    obtain ⟨k, hk, hfails⟩ := mem_violations_iff.mp he
    cases hfails with
    | type | enum => exact ⟨rfl, nofun, nofun⟩
    | @required names es hes first hfirst =>
      refine ⟨rfl, ?_, nofun⟩
      rintro name ⟨⟩
      have habsent := (List.mem_filter.mp (List.mem_of_head? hfirst)).2
      exact ⟨es, hes, by simpa using habsent⟩
    | @closed entry hentry =>
      refine ⟨rfl, nofun, ?_⟩
      rintro key ⟨⟩
      have hmem : entry ∈ entriesOf x := (mem_undeclared_iff.mp (List.mem_of_head? hentry)).1
      cases x with
      | map es =>
        exact ⟨es, rfl, Entries.hasKey_iff.mpr ⟨entry, hmem, Scalar.alike_refl _⟩⟩
      | scalar | list | group | knot => cases hmem
    | @property schemas p hp y hy d hd =>
      obtain ⟨-, hstep, hjson⟩ := follow?_key hx hy
      rw [focus_under]
      exact (ih _ hk p.2 (List.mem_map_of_mem hp) hjson hd).cons hstep
    | item hy hd =>
      obtain ⟨hstep, hjson⟩ := follow?_index hx hy
      rw [focus_under]
      exact (ih _ hk _ (List.mem_singleton_self _) hjson hd).cons hstep
    | @choice alternatives hall =>
      -- The violations of the alternatives are about the same value, so that no step is added.
      rcases focus_cases .noAlternative x (ofType (typeOf keywords) x)
        (alternatives.flatMap (·.violations x)) with hself | ⟨d, hd, hinner⟩
      · rw [hself]
        exact ⟨rfl, nofun, nofun⟩
      · obtain ⟨schema, hschema, hd⟩ := List.mem_flatMap.mp hd
        rw [hinner]
        exact ih _ hk schema hschema hx hd
    | @additional schema entry hentry d hd =>
      have hmem : entry ∈ entriesOf x := (mem_undeclared_iff.mp hentry).1
      obtain ⟨-, hstep, hjson⟩ := follow?_key hx (find?_of_mem_entriesOf hx hmem)
      rw [focus_under]
      exact (ih _ hk _ (List.mem_singleton_self _) hjson hd).cons hstep

/-- **What is reported is about a part of the value.** -/
theorem isIn_of_best? {schema : JsonSchema} {x : Value} {f : Finding} (hx : x.isJson = true)
    (h : best? (schema.violations x) = some f) : f.IsIn x := by
  obtain ⟨e, he, rfl⟩ := exists_of_best? h
  exact isIn_focus schema hx he

end JsonSchema

end ApiTools
