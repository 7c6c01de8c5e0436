import ApiTools.Proofs.Schema.Respelling

/-!
# Schemas with other documentation

Two documents may differ in what documents their schemas, and in keys that are not read at all.
That can turn the empty schema into another one, wherever a schema can be, so that the two do not
even count as given alike.

The nodes of such schemas agree, and so do the schemas in them again.  A reference that addresses a
schema leads to two schemas of which this can be said.

## Main definitions

* `Schema.KeepsKey` — the keys of a node at which nothing but documentation may differ.
* `Schema.Redocumented` — two values that differ in the documentation of the schemas in them.
* `Schema.RedocumentedSchema` — two schemas that do.

## Main results

* `Schema.Redocumented.nodeAgreement` — **two nodes with other documentation agree.**
* `Schema.companion_redocumented` — so two runs over such schemas keep side by side.
* `Schema.guides_redocumented` — **a reference to a schema leads to two such schemas.**
-/

namespace ApiTools

namespace Schema

/-! ### Values that differ in documentation -/

/-- The places below a key; there are none below a key that is no text. -/
def placesUnderKey (places : Place → Prop) (key : Scalar) : Place → Prop :=
  fun place => ∃ name, key = .text name ∧ places (.key name :: place)

theorem placesUnderKey_text (places : Place → Prop) (name : String) :
    placesUnderKey places (.text name) = placesUnder places (.key name) := by
  funext place
  simp [placesUnderKey, placesUnder]

/-- The keys of a node that decide on what is accepted. -/
def checkedKeys : List String := typeKeys ++ schemaKeys ++ valueKeys ++ choiceKeys

/-- A node keeps a key that decides on what is accepted, or that is on the way to a schema. -/
def KeepsKey (places : Place → Prop) (name : String) : Prop :=
  name ∈ checkedKeys ∨ ∃ place, places (.key name :: place)

/-- Two values that differ in what documents the schemas at the given places, and in keys of theirs
that are not read. -/
inductive Redocumented : (Place → Prop) → Value → Value → Prop where
  /-- Nothing differs. -/
  | same (places : Place → Prop) (v : Value) : Redocumented places v v
  /-- The items of a list differ so. -/
  | list {places : Place → Prop} {xs ys : List Value} (hlength : xs.length = ys.length)
    (hitems : ∀ (i : ℕ) (hx : i < xs.length) (hy : i < ys.length),
      Redocumented (placesUnder places (.index i)) xs[i] ys[i]) :
    Redocumented places (.list xs) (.list ys)
  /-- The values of a map differ so. -/
  | map {places : Place → Prop} {es fs : Entries} (hlength : es.length = fs.length)
    (hkeys : ∀ (i : ℕ) (he : i < es.length) (hf : i < fs.length), es[i].1 = fs[i].1)
    (hvalues : ∀ (i : ℕ) (he : i < es.length) (hf : i < fs.length),
      Redocumented (placesUnderKey places es[i].1) es[i].2 fs[i].2) :
    Redocumented places (.map es) (.map fs)
  /-- A schema keeps some keys, and their values differ so. -/
  | node {places : Place → Prop} {node other : Entries} (hplace : places [])
    (hkeys : ∀ name, KeepsKey places name → (node.get? name).isSome = (other.get? name).isSome)
    (hvalues : ∀ name, KeepsKey places name → ∀ v w, node.get? name = some v →
      other.get? name = some w → Redocumented (placesUnder places (.key name)) v w) :
    Redocumented places (.map node) (.map other)

variable {places : Place → Prop}

/-- The entries at one index have one key and differ so. -/
theorem forall₂_entries {es fs : Entries} (hlength : es.length = fs.length)
    (hkeys : ∀ (i : ℕ) (he : i < es.length) (hf : i < fs.length), es[i].1 = fs[i].1)
    (hvalues : ∀ (i : ℕ) (he : i < es.length) (hf : i < fs.length),
      Redocumented (placesUnderKey places es[i].1) es[i].2 fs[i].2) :
    List.Forall₂ (fun e f => e.1 = f.1 ∧ Redocumented (placesUnderKey places e.1) e.2 f.2) es fs :=
  List.forall₂_iff_get.mpr ⟨hlength, fun i he hf => ⟨hkeys i he hf, hvalues i he hf⟩⟩

/-- What two such lists of entries have at a key differs so. -/
theorem rel_get?_of_forall₂ {es fs : Entries}
    (h : List.Forall₂ (fun e f => e.1 = f.1 ∧ Redocumented (placesUnderKey places e.1) e.2 f.2) es fs)
    (name : String) :
    Option.Rel (Redocumented (placesUnder places (.key name))) (es.get? name) (fs.get? name) := by
  unfold Entries.get? Entries.find?
  induction h with
  | nil => exact .none
  | @cons e f _ _ hef _ ih =>
    rw [List.find?_cons, List.find?_cons, ← hef.1]
    cases halike : e.1.alike (.text name) with
    | false => exact ih
    | true =>
      rw [Scalar.alike_text_iff.mp halike, placesUnderKey_text] at hef
      exact .some hef.2

namespace Redocumented

variable {v w : Value} {es fs node other : Entries} {xs : List Value}

/-- Where there is no schema, nothing differs. -/
theorem eq_of_blank (h : Redocumented places v w) (hblank : ∀ place, ¬places place) : v = w := by
  induction h with
  | same => rfl
  | list hlength _ ih =>
    exact congrArg Value.list (List.ext_getElem hlength fun i hx hy => ih i hx hy fun _ => hblank _)
  | map hlength hkeys _ ih =>
    refine congrArg Value.map (List.ext_getElem hlength fun i he hf => ?_)
    exact Prod.ext (hkeys i he hf) (ih i he hf fun _ ⟨_, _, hplace⟩ => hblank _ hplace)
  | node hplace => exact absurd hplace (hblank [])

/-- A list differs in its items only. -/
theorem list_cases (h : Redocumented places (.list xs) w) :
    ∃ ys, w = .list ys ∧ xs.length = ys.length ∧
      ∀ (i : ℕ) (hx : i < xs.length) (hy : i < ys.length),
        Redocumented (placesUnder places (.index i)) xs[i] ys[i] := by
  cases h with
  | same => exact ⟨xs, rfl, rfl, fun i _ _ => .same _ _⟩
  | list hlength hitems => exact ⟨_, rfl, hlength, hitems⟩

/-- A map differs from another map. -/
theorem map_cases (h : Redocumented places (.map es) w) : ∃ fs, w = .map fs := by
  cases h with
  | same => exact ⟨es, rfl⟩
  | map => exact ⟨_, rfl⟩
  | node => exact ⟨_, rfl⟩

/-- A list without schemas in its items does not differ. -/
theorem list_eq (h : Redocumented places (.list xs) w)
    (hblank : ∀ i place, ¬places (.index i :: place)) : Value.list xs = w := by
  obtain ⟨ys, rfl, hlength, hitems⟩ := h.list_cases
  exact congrArg Value.list (List.ext_getElem hlength fun i hx hy =>
    (hitems i hx hy).eq_of_blank (hblank i))

/-- The values of a map that is no schema differ key by key. -/
theorem entriesPair (h : Redocumented places (.map es) (.map fs)) (hplace : ¬places []) :
    List.Forall₂ (fun e f => e.1 = f.1 ∧ Redocumented (placesUnderKey places e.1) e.2 f.2)
      es fs := by
  cases h with
  | same => exact List.forall₂_same.mpr fun e _ => ⟨rfl, .same _ _⟩
  | node hplace' => exact absurd hplace' hplace
  | map hlength hkeys hvalues =>
    exact forall₂_entries hlength hkeys hvalues

/-- So does a map without schemas in it. -/
theorem map_eq (h : Redocumented places (.map es) w) (hplace : ¬places [])
    (hblank : ∀ name place, ¬places (.key name :: place)) : Value.map es = w := by
  obtain ⟨fs, rfl⟩ := h.map_cases
  have hsame := (h.entriesPair hplace).imp fun e f hef => Prod.ext hef.1
    (hef.2.eq_of_blank fun _ ⟨name, _, hplace⟩ => hblank name _ hplace)
  rw [List.forall₂_eq_eq_eq] at hsame
  rw [hsame]

/-- **What two maps have at a key differs in documentation only**, or both have nothing there, if the
key is kept where they are schemas. -/
theorem rel_get? (h : Redocumented places (.map node) (.map other)) {name : String}
    (hkept : places [] → KeepsKey places name) :
    Option.Rel (Redocumented (placesUnder places (.key name))) (node.get? name)
      (other.get? name) := by
  cases h with
  | same => exact rel_refl (.same _) _
  | map hlength hkeys hvalues =>
    exact rel_get?_of_forall₂ (forall₂_entries hlength hkeys hvalues) name
  | node hplace hkeys hvalues =>
    have hname := hkept hplace
    have hsome := hkeys name hname
    have hsame := hvalues name hname
    generalize node.get? name = v?, other.get? name = w? at hsome hsame ⊢
    cases v? with
    | none =>
      cases w? with
      | none => exact .none
      | some w => cases hsome
    | some v =>
      cases w? with
      | none => cases hsome
      | some w => exact .some (hsame v w rfl rfl)

theorem rel_of_eq {v? w? : Option Value} (h : v? = w?) : Option.Rel (Redocumented places) v? w? :=
  h ▸ rel_refl (.same _) _

/-- Two schemas differ in documentation only when what they have at the keys that are kept does. -/
theorem of_rel_get? (hplace : places [])
    (h : ∀ name, KeepsKey places name → Option.Rel (Redocumented (placesUnder places (.key name)))
      (node.get? name) (other.get? name)) :
    Redocumented places (.map node) (.map other) := by
  refine .node hplace (fun name hname => isSome_eq_of_rel (h name hname)) ?_
  intro name hname v w hv hw
  have hrel := h name hname
  rw [hv, hw] at hrel
  cases hrel with
  | some hvw => exact hvw

/-- So they do when they have the same at the keys that are kept. -/
theorem of_get?_eq (hplace : places [])
    (h : ∀ name, KeepsKey places name → node.get? name = other.get? name) :
    Redocumented places (.map node) (.map other) :=
  of_rel_get? hplace fun name hname => rel_of_eq (h name hname)

/-- Two maps with one key differ in the values there. -/
theorem record (name : String) (h : Redocumented (placesUnder places (.key name)) v w) :
    Redocumented places (.record [(name, v)]) (.record [(name, w)]) := by
  refine .map rfl ?_ ?_
  · rintro (_ | i) he hf
    · rfl
    · cases Nat.not_lt_zero _ (Nat.lt_of_succ_lt_succ he)
  · rintro (_ | i) he hf
    · exact placesUnderKey_text places name ▸ h
    · cases Nat.not_lt_zero _ (Nat.lt_of_succ_lt_succ he)

end Redocumented

/-! ### Schemas that differ in documentation -/

/-- Two schemas that differ in documentation only: their own, and that of schemas in them. -/
def RedocumentedSchema (c d : Value) : Prop :=
  ∃ places : Place → Prop, (∀ place, places place → Within place) ∧ Redocumented places c d

theorem RedocumentedSchema.refl (c : Value) : RedocumentedSchema c c :=
  ⟨fun _ => False, nofun, .same _ c⟩

namespace Redocumented

variable {v w : Value} {es fs node other : Entries} {xs : List Value}

/-- The schemas of a map of properties differ so. -/
theorem mapPair (h : Redocumented (placesUnder places (.key "properties")) v w)
    (hwithin : ∀ place, places place → Within place) : MapPair RedocumentedSchema v w := by
  have hplace : ¬placesUnder places (.key "properties") [] :=
    fun hplace => by simpa [within_properties_iff] using hwithin _ hplace
  cases v with
  | scalar | group | knot =>
    cases h
    exact .refl _
  | list xs =>
    refine h.list_eq (fun i place hplace => ?_) ▸ .refl _
    simpa [within_properties_iff] using hwithin _ hplace
  | map es =>
    obtain ⟨fs, rfl⟩ := h.map_cases
    refine .map ((h.entriesPair hplace).imp fun e f hef => ⟨hef.1, _, ?_, hef.2⟩)
    rintro place ⟨name, -, hplace⟩
    simpa [within_properties_iff] using hwithin _ hplace

/-- So do the branches of a composition. -/
theorem listPair (h : Redocumented (placesUnder places (.key "allOf")) v w)
    (hwithin : ∀ place, places place → Within place) : ListPair RedocumentedSchema v w := by
  cases v with
  | scalar | group | knot =>
    cases h
    exact .refl _
  | list xs =>
    obtain ⟨ys, rfl, hlength, hitems⟩ := h.list_cases
    refine .list (List.forall₂_iff_get.mpr ⟨hlength, fun i hx hy => ⟨_, ?_, hitems i hx hy⟩⟩)
    intro place hplace
    simpa [within_branch_iff] using hwithin _ hplace
  | map es =>
    refine h.map_eq (fun hplace => ?_) (fun name place hplace => ?_) ▸ .refl _
    · simpa [within_branch_iff] using hwithin _ hplace
    · simpa [within_branch_iff] using hwithin _ hplace

/-- **Two nodes with other documentation agree.** -/
theorem nodeAgreement (h : Redocumented places (.map node) (.map other))
    (hwithin : ∀ place, places place → Within place) :
    NodeAgreement RedocumentedSchema node other := by
  have hrel := fun name (hname : name ∈ checkedKeys) => h.rel_get? fun _ => .inl hname
  -- What is read as it is has no schemas in it.
  have hget : ∀ name ∈ typeKeys ++ valueKeys, other.get? name = node.get? name := by
    intro name hname
    have hmem : name ∈ typeKeys ++ dataKeys ∧ name ∈ checkedKeys := by
      revert name
      decide
    have hblank : ∀ place, ¬placesUnder places (.key name) place :=
      fun place hplace => not_within_of_mem hmem.1 place (hwithin _ hplace)
    have hrel := hrel name hmem.2
    generalize node.get? name = v?, other.get? name = w? at hrel ⊢
    cases hrel with
    | none => rfl
    | some hvw => rw [hvw.eq_of_blank hblank]
  have hunder : ∀ {name}, (∀ place, Within (.key name :: place) → Within place) → ∀ {v w},
      Redocumented (placesUnder places (.key name)) v w → RedocumentedSchema v w :=
    fun hway _ _ hvw => ⟨_, fun place hplace => hway place (hwithin _ hplace), hvw⟩
  refine ⟨fun name hname => hget name (List.mem_append_right _ hname), fun name hname => ?_,
    .inl ?_, ?_, ?_, ?_, ?_, ?_⟩
  · rw [hasKey_text, hasKey_text, isSome_eq_of_rel (hrel name (by revert name; decide))]
  · unfold declaredTypes
    rw [hget "type" (by decide)]
  · unfold isNullable declaredTypes
    rw [hget "type" (by decide), hget "nullable" (by decide)]
  · exact rel_imp (hrel "properties" (by decide)) fun v w hvw => hvw.mapPair hwithin
  · exact rel_imp (hrel "items" (by decide)) fun v w => hunder fun _ => within_items_iff.mp
  · exact rel_imp (hrel "additionalProperties" (by decide)) fun v w =>
      hunder fun _ => within_extra_iff.mp
  · exact rel_imp (hrel "allOf" (by decide)) fun v w hvw => hvw.listPair hwithin

end Redocumented

/-- **Schemas with other documentation come down to nodes that agree.** -/
theorem companion_redocumented :
    Companion RedocumentedSchema (NodeAgreement RedocumentedSchema) where
  refl := .refl
  other := by
    rintro c d ⟨places, hwithin, h⟩ hbare
    cases c with
    | scalar | group | knot =>
      cases h
      rfl
    | list xs => exact h.list_eq fun i place hplace => not_within_index (hwithin _ hplace)
    | map es => exact absurd rfl (hbare es)
  node := by
    rintro c d es ⟨places, hwithin, h⟩ hbare
    cases c with
    | scalar | list | group => cases hbare
    | knot =>
      cases h
      exact ⟨es, hbare, .refl RedocumentedSchema.refl es⟩
    | map node =>
      cases hbare
      obtain ⟨fs, rfl⟩ := h.map_cases
      exact ⟨fs, rfl, h.nodeAgreement hwithin⟩
  agreement := id
  empty := .refl RedocumentedSchema.refl []
  merge := MergePair.agreement

/-- **A reference to a schema leads to two schemas that differ in documentation.** -/
theorem guides_redocumented : Guides Redocumented RedocumentedSchema where
  refl := .refl
  schema := fun hplaces hplace h => ⟨_, fun way hway => hplaces [] way hplace hway, h⟩
  other := by
    intro places v w h hmap hlist
    cases h with
    | same => rfl
    | list => exact absurd rfl (hlist _)
    | map => exact absurd rfl (hmap _)
    | node => exact absurd rfl (hmap _)
  map := by
    intro places es w name way _ hway h
    obtain ⟨fs, rfl⟩ := h.map_cases
    -- If the map is a schema itself, it keeps the key because a schema is below it.
    exact ⟨fs, rfl, h.rel_get? fun _ => .inr ⟨way, hway⟩⟩
  list := by
    intro places items w h
    obtain ⟨others, rfl, hlength, hitems⟩ := h.list_cases
    refine ⟨others, rfl, fun i => ?_⟩
    by_cases hi : i < items.length
    · rw [List.getElem?_eq_getElem hi, List.getElem?_eq_getElem (hlength ▸ hi)]
      exact .some (hitems i hi (hlength ▸ hi))
    · rw [List.getElem?_eq_none (Nat.not_lt.mp hi), List.getElem?_eq_none (by omega)]
      exact .none

end Schema

end ApiTools
