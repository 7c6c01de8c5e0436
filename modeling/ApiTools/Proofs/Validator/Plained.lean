import ApiTools.Proofs.Validator.Entry
import ApiTools.Proofs.Validator.Parts
import ApiTools.Proofs.Value.Json
import Mathlib.Data.List.Find

/-!
# Validators that have been through JSON

The names of properties and the listed values of a validator can be values of any kind.  When the
record of a validator is written as JSON and read back, they come back as values of JSON: a day is
read back as a text, and so are bytes, and the keys of a map that is listed; and two halves of a pair
in a text are read back as one character.  Which values of JSON the validator accepts can change on
the way.  A text that is read back for a day or for halves is listed now, and it was not before; or
it is the name of a property now, which no key of JSON was.

No change is seen where such a list, or such a property, is out of reach: in a validator that
accepts nothing, before and after.

## Main definitions

* `Validator.plained` — the validator with its names and listed values as they are read back.
* `Validator.JsonEquiv` — two validators accept the same values of JSON.
* `Rule.Turned` — a rule comes to be for a text that it was not for.
* `Validator.Kept` — nothing of what is in reach is changed.

## Main results

* `Validator.checkerAt?_plained` — what an entry is checked by comes back, unless a rule turned to
  its key.
* `Validator.isValid_insert_iff` — a map stays accepted when a value is put in just where it is
  accepted, so that validators of maps that accept the same, and some map, accept the same entries.
* `Validator.jsonEquiv_plained_iff` — **the same values are accepted exactly when what is in reach
  is kept.**
-/

namespace ApiTools

/-! ### Names and listed values -/

namespace Validator

mutual

/-- The validator with its names, listed values and descriptions as they are read back from JSON. -/
def plained : Validator → Validator
  | .any d => .any (Json.plained d)
  | .string d allowed => .string (Json.plained d) (allowed.map (·.map Json.plained))
  | .literal d values => .literal (Json.plained d) (values.map Json.plained)
  | .number d => .number (Json.plained d)
  | .boolean d => .boolean (Json.plained d)
  | .array d items => .array (Json.plained d) (plained items)
  | .nullable d inner => .nullable (Json.plained d) (plained inner)
  | .object d rules extras =>
    .object (Json.plained d) (plainedRules rules) (plainedExtras extras)

/-- The rules with their names and listed values as they are read back. -/
def plainedRules : List Rule → List Rule
  | [] => []
  | .mk name validator req nul :: rules =>
    .mk (Json.plained name) (plained validator) req nul :: plainedRules rules

/-- The policy with the names and listed values of its validator as they are read back. -/
def plainedExtras : Extras → Extras
  | .reject none => .reject none
  | .reject (some validator) => .reject (some (plained validator))
  | .allow none => .allow none
  | .allow (some validator) => .allow (some (plained validator))
  | .typed validator => .typed (plained validator)

end

end Validator

/-- The rule with its name and the listed values of its validator as they are read back. -/
def Rule.plained (rule : Rule) : Rule :=
  .mk (Json.plained rule.name) rule.validator.plained rule.required rule.nullable

/-- The policy with the names and listed values of its validator as they are read back. -/
def Extras.plained (extras : Extras) : Extras := Validator.plainedExtras extras

@[simp]
theorem Extras.validator?_plained (extras : Extras) :
    extras.plained.validator? = extras.validator?.map Validator.plained := by
  rcases extras with (_ | v) | (_ | v) | v <;> rfl

namespace Validator

theorem plainedRules_eq_map (rules : List Rule) :
    plainedRules rules = rules.map Rule.plained := by
  induction rules with
  | nil => rfl
  | cons rule rules ih =>
    obtain ⟨name, v, req, nul⟩ := rule
    rw [plainedRules, ih]
    rfl

/-- A validator of maps comes back rule by rule. -/
theorem plained_object (d : Value) (rules : List Rule) (extras : Extras) :
    (object d rules extras).plained =
      .object (Json.plained d) (rules.map Rule.plained) extras.plained := by
  rw [plained, plainedRules_eq_map]
  rfl

theorem kindName_plained (v : Validator) : v.plained.kindName = v.kindName := by
  cases v <;> rw [plained] <;> rfl

theorem description_plained (v : Validator) :
    v.plained.description = Json.plained v.description := by
  cases v <;> rw [plained] <;> rfl

theorem children_plained (v : Validator) : v.plained.children = v.children.map plained := by
  cases v with
  | any | string | literal | number | boolean | array | nullable => rw [plained]; rfl
  | object d rules extras =>
    rw [plained_object, children, children, Extras.validator?_plained, List.map_append, List.map_map,
      List.map_map, Option.toList_map]
    rfl

/-- The parts of a validator that is read back are the parts of the validator as they are read
back. -/
theorem exists_part_of_plained {v w : Validator} (h : v.plained.Part w) :
    ∃ u, v.Part u ∧ w = u.plained := by
  induction h with
  | refl => exact ⟨v, .refl v, rfl⟩
  | tail _ hc ih =>
    obtain ⟨u, hu, rfl⟩ := ih
    rw [children_plained] at hc
    obtain ⟨c, hchild, rfl⟩ := List.mem_map.mp hc
    exact ⟨c, Relation.ReflTransGen.tail hu hchild, rfl⟩

/-- Names that can be keys still can when they are read back. -/
theorem hasKeys_plained {v : Validator} (h : v.hasKeys = true) : v.plained.hasKeys = true := by
  induction v using inductionOn with
  | any | string | literal | number | boolean => rw [plained, hasKeys]
  | array d inner ih | nullable d inner ih =>
    rw [hasKeys] at h
    rw [plained, hasKeys, ih h]
  | object d rules extras ihRules ihExtras =>
    rw [hasKeys, Bool.and_eq_true, rulesHaveKeys_iff] at h
    obtain ⟨hrules, hextras⟩ := h
    rw [plained_object, hasKeys, Bool.and_eq_true, rulesHaveKeys_iff, List.forall_mem_map]
    refine ⟨fun rule hrule => ⟨?_, ihRules rule hrule (hrules rule hrule).2⟩, ?_⟩
    · obtain ⟨key, hkey⟩ := Option.isSome_iff_exists.mp (hrules rule hrule).1
      obtain ⟨t, ht⟩ := Json.exists_plained_scalar key
      change (Json.plained rule.name).scalar?.isSome = true
      rw [Value.scalar?_eq_some_iff.mp hkey, ht]
      rfl
    · rcases extras with (_ | w) | (_ | w) | w
      · rfl
      · rfl
      · rfl
      · rfl
      · exact ihExtras w rfl hextras

end Validator

/-! ### Entries -/

namespace Rule

theorem checker_plained (rule : Rule) : rule.plained.checker = rule.checker.plained := by
  have hnull : rule.plained.admitsNull = rule.admitsNull := rfl
  rw [checker, checker, hnull]
  split
  · rw [Validator.plained]
    rfl
  · rfl

/-- A rule comes to be for a text that it was not for. -/
def Turned (rules : List Rule) (name : String) : Prop :=
  ∃ rule ∈ rules, rule.name ≠ .text name ∧ Json.plained rule.name = .text name

/-- The rule that counts for a joined text comes back, unless one turned to the text. -/
theorem lastFor?_plained {rules : List Rule} {name : String} (hjoined : Text.isJoined name = true)
    (h : ¬Turned rules name) :
    lastFor? (rules.map plained) name = (lastFor? rules name).map plained := by
  rw [lastFor?, lastFor?, ← List.map_reverse, List.find?_map]
  congr 1
  refine List.find?_congr fun rule hrule => ?_
  rw [Function.comp_apply, decide_eq_decide]
  constructor
  · intro hplained
    by_contra hname
    exact h ⟨rule, List.mem_reverse.mp hrule, hname, hplained⟩
  · intro hname
    change Json.plained rule.name = .text name
    rw [hname]
    exact Json.plained_of_isJson hjoined

end Rule

theorem Extras.checker?_plained (extras : Extras) :
    extras.plained.checker? = extras.checker?.map Validator.plained := by
  rcases extras with (_ | v) | (_ | v) | v <;> rfl

namespace Validator

/-- **What an entry is checked by comes back**, unless a rule turned to its key. -/
theorem checkerAt?_plained {rules : List Rule} {extras : Extras} {name : String}
    (hjoined : Text.isJoined name = true) (h : ¬Rule.Turned rules name) :
    checkerAt? (rules.map Rule.plained) extras.plained name =
      (checkerAt? rules extras name).map plained := by
  rw [checkerAt?, checkerAt?, Rule.lastFor?_plained hjoined h, Extras.checker?_plained]
  cases Rule.lastFor? rules name with
  | none => rfl
  | some rule => simp [Rule.checker_plained]

/-! ### The same values of JSON -/

/-- Two validators accept the same values of JSON. -/
def JsonEquiv (v w : Validator) : Prop :=
  ∀ x : Value, x.IsFiniteJson → (v.isValid x = true ↔ w.isValid x = true)

/-- Null is accepted as before. -/
theorem isValid_null_plained (v : Validator) :
    v.plained.isValid .null = true ↔ v.isValid .null = true := by
  cases v with
  | any | number | boolean => simp [plained, isValid_any, isValid_number, isValid_boolean]
  | string d allowed =>
    cases allowed <;> simp [plained, isValid_string, isValid_string_some, admits_string_iff]
  | literal d values =>
    rw [plained, isValid_literal, isValid_literal]
    simp [Value.equals_null_iff, Json.plained_eq_null_iff]
  | array d items =>
    rw [plained, isValid_array, isValid_array]
    simp
  | nullable d inner =>
    rw [plained, isValid_nullable, isValid_nullable]
    simp
  | object d rules extras =>
    rw [plained_object]
    -- Null is no map, so it is accepted by neither.
    refine iff_of_false (fun h => ?_) fun h => ?_ <;>
      obtain ⟨es, hes⟩ := exists_map_of_isValid_object h <;> cases hes

/-- Lists of one item each tell the validators of items apart. -/
theorem jsonEquiv_array_iff {d e : Value} {v w : Validator} :
    (array d v).JsonEquiv (array e w) ↔ v.JsonEquiv w := by
  constructor
  · intro h x hx
    have hlist := h (.list [x]) (Value.isFiniteJson_list.mpr (List.forall_mem_singleton.mpr hx))
    simpa [isValid_array] using hlist
  · intro h x hx
    rw [isValid_array, isValid_array]
    refine exists_congr fun ys => and_congr_right ?_
    rintro rfl
    exact forall₂_congr fun y hy => h y (Value.isFiniteJson_list.mp hx y hy)

/-- A value that is not null tells validators inside apart. -/
theorem jsonEquiv_nullable_plained_iff {d e : Value} {v : Validator} :
    (nullable d v.plained).JsonEquiv (nullable e v) ↔ v.plained.JsonEquiv v := by
  constructor
  · intro h x hx
    by_cases hnull : x = .null
    · rw [hnull]
      exact isValid_null_plained v
    · simpa [isValid_nullable, hnull] using h x hx
  · intro h x hx
    rw [isValid_nullable, isValid_nullable, h x hx]

/-! ### Maps -/

section

variable {d e : Value} {rules others : List Rule} {extras policy : Extras} {es : Entries}
variable {name : String} {x : Value}

/-- A map of JSON is one of JSON with another value of JSON put in at a joined text. -/
theorem isFiniteJson_insert (hes : (Value.map es).IsFiniteJson) (hx : x.IsFiniteJson)
    (hname : Text.isJoined name = true) : (Value.map (es.insert (.text name) x)).IsFiniteJson := by
  obtain ⟨hdistinct, htexts, hvalues⟩ := Value.isFiniteJson_map.mp hes
  refine Value.isFiniteJson_map.mpr ⟨Entries.distinctKeys_insert hdistinct _ _, ?_, ?_⟩
  · intro f hf
    obtain ⟨⟨g, hg, hkey⟩, -⟩ := Entries.mem_insert hf
    rw [← hkey]
    rcases List.mem_append.mp hg with hg | hg
    · exact htexts g hg
    · exact ⟨name, congrArg Prod.fst (List.mem_singleton.mp hg), hname⟩
  · intro f hf
    obtain ⟨-, g, hg, hvalue⟩ := Entries.mem_insert hf
    rw [← hvalue]
    rcases List.mem_append.mp hg with hg | hg
    · exact hvalues g hg
    · exact (congrArg Prod.snd (List.mem_singleton.mp hg)).symm ▸ hx

/-- **A map stays accepted when a value is put in at a text just when it is accepted there.** -/
theorem isValid_insert_iff (hes : (Value.map es).IsFiniteJson) (hx : x.IsFiniteJson)
    (hjoined : Text.isJoined name = true)
    (h : (object d rules extras).isValid (.map es) = true) :
    (object d rules extras).isValid (.map (es.insert (.text name) x)) = true ↔
      AcceptsAt rules extras name x := by
  obtain ⟨hdistinct, htexts, -⟩ := Value.isFiniteJson_map.mp hes
  obtain ⟨hmore, htextsMore, -⟩ := Value.isFiniteJson_map.mp (isFiniteJson_insert hes hx hjoined)
  rw [isValid_map_iff hdistinct htexts] at h
  rw [isValid_map_iff hmore htextsMore]
  obtain ⟨hneeded, hentries⟩ := h
  constructor
  · rintro ⟨-, hentriesMore⟩
    have hfound : (es.insert (.text name) x).get? name = some x := by
      rw [Entries.get?_insert, if_pos rfl]
    obtain ⟨f, hf, hkey, rfl⟩ := Entries.exists_mem_of_find? hfound
    exact hentriesMore f hf name (Scalar.alike_text_iff.mp hkey)
  · intro haccepts
    refine ⟨fun rule hrule hrequired => ?_, fun f hf other hother => ?_⟩
    · obtain ⟨needed, hname, hhas⟩ := hneeded rule hrule hrequired
      exact ⟨needed, hname, by rw [Entries.hasKey_insert, hhas, Bool.true_or]⟩
    · -- The value there is the new one, or it is one of before.
      have hfound : (es.insert (.text name) x).get? other = some f.2 := by
        rw [Entries.get?, ← hother]
        exact Entries.find?_eq_some hmore hf
      rw [Entries.get?_insert] at hfound
      split at hfound
      · next hsame =>
        obtain rfl := Option.some.inj hfound
        exact hsame ▸ haccepts
      · obtain ⟨g, hg, hkey, hvalue⟩ := Entries.exists_mem_of_find? hfound
        rw [← hvalue]
        exact hentries g hg other (Scalar.alike_text_iff.mp hkey)

/-- Validators of maps that accept the same values of JSON, and some map, accept the same
entries. -/
theorem acceptsAt_iff_of_jsonEquiv
    (h : (object d rules extras).JsonEquiv (object e others policy))
    (hes : (Value.map es).IsFiniteJson) (hsome : (object d rules extras).isValid (.map es) = true)
    (hx : x.IsFiniteJson) (hjoined : Text.isJoined name = true) :
    AcceptsAt rules extras name x ↔ AcceptsAt others policy name x := by
  rw [← isValid_insert_iff hes hx hjoined hsome,
    ← isValid_insert_iff hes hx hjoined ((h _ hes).mp hsome)]
  exact h _ (isFiniteJson_insert hes hx hjoined)

/-- Validators of maps accept the same values of JSON when they ask for the same keys and accept the
same entries. -/
theorem jsonEquiv_object
    (hneeded : ∀ es : Entries,
      (∀ rule ∈ rules, rule.isRequired = true →
        ∃ name, rule.name = .text name ∧ es.hasKey (.text name) = true) ↔
      ∀ rule ∈ others, rule.isRequired = true →
        ∃ name, rule.name = .text name ∧ es.hasKey (.text name) = true)
    (haccepts : ∀ name x, Text.isJoined name = true → x.IsFiniteJson →
      (AcceptsAt rules extras name x ↔ AcceptsAt others policy name x)) :
    (object d rules extras).JsonEquiv (object e others policy) := by
  intro x hx
  by_cases hmap : ∃ es, x = .map es
  · obtain ⟨es, rfl⟩ := hmap
    obtain ⟨hdistinct, htexts, hvalues⟩ := Value.isFiniteJson_map.mp hx
    rw [isValid_map_iff hdistinct htexts, isValid_map_iff hdistinct htexts, hneeded es]
    refine and_congr_right fun _ => forall₂_congr fun f hf => forall₂_congr fun name hname => ?_
    obtain ⟨own, hown, hjoined⟩ := htexts f hf
    obtain rfl : own = name := Scalar.text.inj (hown.symm.trans hname)
    exact haccepts own f.2 hjoined (hvalues f hf)
  · -- What is no map is accepted by neither.
    exact iff_of_false (fun h => hmap (exists_map_of_isValid_object h))
      fun h => hmap (exists_map_of_isValid_object h)

end

/-! ### What is kept -/

/-- Nothing of what is in reach of a value of JSON is changed when the names and listed values of a
validator are read back from JSON. -/
inductive Kept : Validator → Prop where
  /-- Nothing is listed or named. -/
  | any (d : Value) : Kept (.any d)
  /-- Nothing is listed or named. -/
  | string (d : Value) : Kept (.string d none)
  /-- The listed values and what is read back of them are equal to the same joined texts. -/
  | chosen {d : Value} {allowed : List Value}
    (h : ∀ s, Text.isJoined s = true →
      ((∃ m ∈ allowed, (Json.plained m).equals (.text s) = true) ↔
        ∃ m ∈ allowed, m.equals (.text s) = true)) :
    Kept (.string d (some allowed))
  /-- Nothing is listed or named. -/
  | number (d : Value) : Kept (.number d)
  /-- Nothing is listed or named. -/
  | boolean (d : Value) : Kept (.boolean d)
  /-- The listed values and what is read back of them are equal to the same values of JSON. -/
  | literal {d : Value} {values : List Value}
    (h : ∀ x : Value, x.IsFiniteJson →
      ((∃ m ∈ values, (Json.plained m).equals x = true) ↔ ∃ m ∈ values, m.equals x = true)) :
    Kept (.literal d values)
  /-- The items are kept. -/
  | array {d : Value} {items : Validator} (h : Kept items) : Kept (.array d items)
  /-- What is inside is kept. -/
  | nullable {d : Value} {inner : Validator} (h : Kept inner) : Kept (.nullable d inner)
  /-- All properties that have to be there are named by joined texts.  What checks a value at such a
  text is kept, and where a rule turned to the text, what checks the values there accepts the same as
  before. -/
  | object {d : Value} {rules : List Rule} {extras : Extras}
    (hneeded : ∀ rule ∈ rules, rule.isRequired = true →
      ∃ name, rule.name = .text name ∧ Text.isJoined name = true)
    (hentries : ∀ name u, Text.isJoined name = true → ¬Rule.Turned rules name →
      checkerAt? rules extras name = some u → Kept u)
    (hturned : ∀ name x, Text.isJoined name = true → Rule.Turned rules name → x.IsFiniteJson →
      (AcceptsAt (rules.map Rule.plained) extras.plained name x ↔
        AcceptsAt rules extras name x)) :
    Kept (.object d rules extras)
  /-- Nothing is in reach: no value of JSON is accepted, before and after. -/
  | void {v : Validator} (hbefore : ∀ x : Value, x.IsFiniteJson → ¬v.isValid x = true)
    (hafter : ∀ x : Value, x.IsFiniteJson → ¬v.plained.isValid x = true) : Kept v

/-- What checks an entry is what checks the value of some rule, or comes with the policy. -/
theorem checkerAt?_cases {rules : List Rule} {extras : Extras} {name : String} {u : Validator}
    (h : checkerAt? rules extras name = some u) :
    (∃ rule ∈ rules, rule.checker = u) ∨ extras.checker? = some u := by
  rw [checkerAt?, Option.or_eq_some_iff] at h
  rcases h with h | ⟨-, h⟩
  · obtain ⟨rule, hlast, rfl⟩ := Option.map_eq_some_iff.mp h
    exact .inl ⟨rule, List.mem_reverse.mp (List.mem_of_find?_eq_some hlast), rfl⟩
  · exact .inr h

theorem acceptsAt_plained_iff {rules : List Rule} {extras : Extras} {name : String} {x : Value}
    (hjoined : Text.isJoined name = true) (h : ¬Rule.Turned rules name) :
    AcceptsAt (rules.map Rule.plained) extras.plained name x ↔
      ∃ u, checkerAt? rules extras name = some u ∧ u.plained.isValid x = true := by
  rw [AcceptsAt, checkerAt?_plained hjoined h]
  simp

/-- The same values of JSON are accepted by what is kept. -/
theorem Kept.jsonEquiv {v : Validator} (h : v.Kept) : v.plained.JsonEquiv v := by
  induction h with
  | any | string | number | boolean =>
    intro x _
    simp [plained, isValid_any, isValid_string, isValid_number, isValid_boolean]
  | chosen h =>
    intro x hx
    rw [plained, Option.map_some, isValid_string_some, isValid_string_some]
    refine and_congr_right fun htext => ?_
    obtain ⟨s, rfl⟩ := admits_string_iff.mp htext
    simpa using h s hx.1
  | literal h =>
    intro x hx
    rw [plained, isValid_literal, isValid_literal]
    simpa using h x hx
  | array _ ih =>
    rw [plained]
    exact jsonEquiv_array_iff.mpr ih
  | nullable _ ih =>
    rw [plained]
    exact jsonEquiv_nullable_plained_iff.mpr ih
  | @object d rules extras hneeded _ hturned ih =>
    rw [plained_object]
    refine jsonEquiv_object (fun es => ?_) fun name x hjoined hx => ?_
    · rw [List.forall_mem_map]
      refine forall₃_congr fun rule hrule hrequired => exists_congr fun name => ?_
      obtain ⟨own, hown, hjoined⟩ := hneeded rule hrule hrequired
      have hname : rule.plained.name = rule.name := by
        change Json.plained rule.name = rule.name
        rw [hown]
        exact Json.plained_of_isJson hjoined
      rw [hname]
    · by_cases hname : Rule.Turned rules name
      · exact hturned name x hjoined hname hx
      · rw [acceptsAt_plained_iff hjoined hname]
        exact exists_congr fun u => and_congr_right fun hu => ih name u hjoined hname hu x hx
  | void hbefore hafter => exact fun x hx => iff_of_false (hafter x hx) (hbefore x hx)

/-- What checks an entry and accepts the same as before is kept, if this can be said of the validators
of the rules and of the policy. -/
theorem kept_of_checkerAt {rules : List Rule} {extras : Extras} {name : String} {u : Validator}
    (hu : checkerAt? rules extras name = some u) (hequiv : u.plained.JsonEquiv u)
    (hrules : ∀ rule ∈ rules, rule.validator.plained.JsonEquiv rule.validator →
      rule.validator.Kept)
    (hextras : ∀ w, extras.validator? = some w → w.plained.JsonEquiv w → w.Kept) : u.Kept := by
  rcases checkerAt?_cases hu with ⟨rule, hrule, rfl⟩ | hpolicy
  · unfold Rule.checker at hequiv ⊢
    split
    · next hnull =>
      rw [if_pos hnull, plained] at hequiv
      exact .nullable (hrules rule hrule (jsonEquiv_nullable_plained_iff.mp hequiv))
    · next hnull =>
      rw [if_neg hnull] at hequiv
      exact hrules rule hrule hequiv
  · cases extras with
    | reject spare => cases hpolicy
    | allow spare =>
      obtain rfl := Option.some.inj hpolicy
      exact .any _
    | typed w =>
      obtain rfl := Option.some.inj hpolicy
      exact hextras w rfl hequiv

/-- **The same values of JSON are accepted exactly when what is in reach is kept.** -/
theorem jsonEquiv_plained_iff {v : Validator} : v.plained.JsonEquiv v ↔ v.Kept := by
  refine ⟨fun h => ?_, Kept.jsonEquiv⟩
  induction v using inductionOn with
  | any | number | boolean => constructor
  | string d allowed =>
    cases allowed with
    | none => exact .string d
    | some allowed =>
      refine .chosen fun s hs => ?_
      have hsame := h (.text s) ⟨hs, rfl⟩
      rw [plained, Option.map_some, isValid_string_some, isValid_string_some,
        and_congr_right_iff] at hsame
      simpa using hsame (admits_string_iff.mpr ⟨s, rfl⟩)
  | literal d values =>
    refine .literal fun x hx => ?_
    have hsame := h x hx
    rw [plained, isValid_literal, isValid_literal] at hsame
    simpa using hsame
  | array d items ih =>
    rw [plained] at h
    exact .array (ih (jsonEquiv_array_iff.mp h))
  | nullable d inner ih =>
    rw [plained] at h
    exact .nullable (ih (jsonEquiv_nullable_plained_iff.mp h))
  | object d rules extras ihRules ihExtras =>
    by_cases hsome : ∃ x : Value, x.IsFiniteJson ∧ (object d rules extras).isValid x = true
    · obtain ⟨x, hx, hvalid⟩ := hsome
      obtain ⟨es, rfl⟩ := exists_map_of_isValid_object hvalid
      -- Some map is accepted, so that all entries are in reach.
      have haccepts : ∀ name y, Text.isJoined name = true → y.IsFiniteJson →
          (AcceptsAt (rules.map Rule.plained) extras.plained name y ↔
            AcceptsAt rules extras name y) := by
        intro name y hjoined hy
        rw [plained_object] at h
        exact acceptsAt_iff_of_jsonEquiv h hx ((h _ hx).mpr hvalid) hy hjoined
      refine .object ?_ ?_ fun name y hjoined _ hy => haccepts name y hjoined hy
      · obtain ⟨hdistinct, htexts, -⟩ := Value.isFiniteJson_map.mp hx
        intro rule hrule hrequired
        obtain ⟨hneeded, -⟩ := (isValid_map_iff hdistinct htexts).mp hvalid
        obtain ⟨name, hname, hhas⟩ := hneeded rule hrule hrequired
        -- The key that is there is one of JSON.
        obtain ⟨e, he, halike⟩ := Entries.hasKey_iff.mp hhas
        obtain ⟨own, hown, hjoined⟩ := htexts e he
        rw [hown] at halike
        obtain rfl := Scalar.text.inj (Scalar.text_alike_iff.mp halike)
        exact ⟨_, hname, hjoined⟩
      · intro name u hjoined hname hu
        have hequiv : u.plained.JsonEquiv u := by
          intro y hy
          have hentry := haccepts name y hjoined hy
          rw [acceptsAt_plained_iff hjoined hname] at hentry
          simpa [AcceptsAt, hu] using hentry
        exact kept_of_checkerAt hu hequiv (fun rule hrule => ihRules rule hrule)
          fun w hw => ihExtras w hw
    · have hbefore : ∀ x : Value, x.IsFiniteJson → ¬(object d rules extras).isValid x = true :=
        fun x hx hvalid => hsome ⟨x, hx, hvalid⟩
      exact .void hbefore fun x hx hvalid => hbefore x hx ((h x hx).mp hvalid)

end Validator

end ApiTools
