import ApiTools.Proofs.Validator.Report

/-!
# Where a violation is reported

A violation is about a part of the value, or about a property of the part that is missing or unknown.
So its location is a place in the value, with a step to the property behind it.  The place that is
reported is this location, written without loss, as long as the property is a word: its name is put
behind a point in any case, where a name that is no word would have to be quoted.

## Main definitions

* `Finding.name?` — the name of the property that is missing or unknown.
* `Finding.location?` — the place of the violation, with the step to this property.
* `Finding.IsPlainlyNamed` — the reported place names no key that would have to be quoted.

## Main results

* `Finding.renderPlace_eq_written_iff` — **the location is written without loss exactly if it is
  plainly named.**
* `Finding.renderPlace_eq_iff` — plainly named locations are told apart.
* `Validator.location_of_check` — **where a violation is reported.**
-/

namespace ApiTools

namespace Finding

/-! ### Locations -/

/-- The name of the property that is missing or unknown, if the violation is of this kind. -/
def name? (f : Finding) : Option Value :=
  match f.cause with
  | .missing name => some name
  | .unknown key => some (.scalar key)
  | .wrongType _ | .notMember _ | .noAlternative => none

/-- The location of a violation.  There is no step to a property whose name is no text. -/
def location? (f : Finding) : Option Place :=
  match f.name? with
  | none => some f.place
  | some name => name.text?.map fun text => f.place ++ [.key text]

/-- The names in a location that are shown without quotes are words. -/
structure IsPlainlyNamed (f : Finding) : Prop where
  /-- No key on the way is a word with a line feed. -/
  place : ∀ step ∈ f.place, Place.isFedStep step = false
  /-- The name of a missing or unknown property is a word. -/
  name : ∀ name ∈ f.name?, ∃ text ∈ name.text?, Place.isWord text.toList = true

variable {f g : Finding}

/-- The name of a property is put behind a point, whatever it is. -/
theorem renderPlace_eq (f : Finding) :
    f.renderPlace = f.place.render ++ f.name?.elim "" fun name => "." ++ name.display := by
  unfold renderPlace name?
  cases f.cause with
  | missing | unknown => exact String.append_assoc
  | wrongType | notMember | noAlternative => exact String.append_empty.symm

/-- A name is put behind a point as it is written exactly if it is a word. -/
theorem point_append_eq_writtenStep_iff {text : String} :
    "." ++ text = Place.writtenStep (.key text) ↔ Place.isWord text.toList = true := by
  rw [Place.writtenStep]
  split
  · next hword => exact iff_of_true rfl hword
  · next hword =>
    refine iff_of_false (fun h => ?_) hword
    have hfirst := congrArg (fun s : String => s.toList.head?) h
    simp at hfirst

/-- **The reported place is the location, written without loss, exactly if it is plainly named.** -/
theorem renderPlace_eq_written_iff :
    (∃ p, f.location? = some p ∧ f.renderPlace = p.written) ↔ f.IsPlainlyNamed := by
  have hparts : f.IsPlainlyNamed ↔ (∀ step ∈ f.place, Place.isFedStep step = false) ∧
      ∀ name ∈ f.name?, ∃ text ∈ name.text?, Place.isWord text.toList = true :=
    ⟨fun h => ⟨h.place, h.name⟩, fun h => ⟨h.1, h.2⟩⟩
  rw [hparts, renderPlace_eq, location?]
  cases f.name? with
  | none =>
    have hshown := Place.render_append_eq_iff f.place "" ""
    rw [String.append_empty] at hshown
    simpa using hshown
  | some name =>
    cases htext : name.text? with
    | none => simp [htext]
    | some text =>
      obtain rfl := Value.text?_eq_some_iff.mp htext
      have hwritten : Place.written (f.place ++ [.key text]) =
          f.place.written ++ Place.writtenStep (.key text) := by
        rw [Place.written, List.foldl_append]
        rfl
      have hdisplay : (Value.text text).display = text := rfl
      simp [htext, hwritten, hdisplay, Place.render_append_eq_iff, point_append_eq_writtenStep_iff]

/-- **Plainly named locations are told apart.** -/
theorem renderPlace_eq_iff (hf : f.IsPlainlyNamed) (hg : g.IsPlainlyNamed) :
    f.renderPlace = g.renderPlace ↔ f.location? = g.location? := by
  obtain ⟨p, hp, hfp⟩ := renderPlace_eq_written_iff.mpr hf
  obtain ⟨q, hq, hgq⟩ := renderPlace_eq_written_iff.mpr hg
  rw [hp, hq, hfp, hgq, Option.some_inj]
  exact ⟨Place.written_injective, fun h => congrArg Place.written h⟩

end Finding

namespace Validator

open JsonSchema

variable {v : Validator} {x : Value}

/-! ### Reported places -/

/-- A violation that checking reports is the finding. -/
theorem exists_finding_of_check {path message : String}
    (h : v.check x = .error (.violation path message)) :
    ∃ f, v.finding? x = some f ∧ f.renderPlace = path ∧ f.message = message := by
  rw [check, schema?] at h
  split at h
  · cases hf : v.finding? x with
    | none =>
      rw [hf] at h
      cases h
    | some f =>
      rw [hf] at h
      injection h with hfault
      injection hfault with hpath hmessage
      exact ⟨f, rfl, hpath, hmessage⟩
  · cases h

/-- **A reported place is that of a location in the value.**  It is the location, written without
loss, exactly if it is plainly named; and plainly named locations, of the same value or of others, are
reported at the same place only if they are the same. -/
theorem location_of_check {path message : String} (hx : x.isJson = true)
    (h : v.check x = .error (.violation path message)) :
    ∃ f, v.finding? x = some f ∧ f.message = message ∧ f.IsIn x ∧
      ((∃ p, f.location? = some p ∧ path = p.written) ↔ f.IsPlainlyNamed) ∧
      ∀ {w : Validator} {y : Value} {other said : String} {g : Finding},
        w.check y = .error (.violation other said) → w.finding? y = some g →
        f.IsPlainlyNamed → g.IsPlainlyNamed → (path = other ↔ f.location? = g.location?) := by
  obtain ⟨f, hf, rfl, hmessage⟩ := exists_finding_of_check h
  refine ⟨f, hf, hmessage, isIn_of_best? hx hf, Finding.renderPlace_eq_written_iff, ?_⟩
  intro w y other said g hcheck hg hplain hplain'
  obtain ⟨g', hg', rfl, -⟩ := exists_finding_of_check hcheck
  obtain rfl := Option.some.inj (hg'.symm.trans hg)
  exact Finding.renderPlace_eq_iff hplain hplain'

/-- The identifier that the second box lacks is reported at its location. -/
theorem location_of_check_shelfValidator :
    shelfValue.isJson = true ∧
      shelfValidator.check shelfValue =
        .error (.violation "$.boxes[1].id" "required property is missing") ∧
      ∃ f, shelfValidator.finding? shelfValue = some f ∧ f.IsIn shelfValue ∧ f.IsPlainlyNamed ∧
        f.location? = some [.key "boxes", .index 1, .key "id"] := by
  have hx : shelfValue.isJson = true := by decide
  have hcheck : shelfValidator.check shelfValue =
      .error (.violation "$.boxes[1].id" "required property is missing") := rfl
  obtain ⟨f, hf, -, hpart, hwritten, -⟩ := location_of_check hx hcheck
  have hfinding : shelfValidator.finding? shelfValue =
      some ⟨.missing (.text "id"), [.key "boxes", .index 1], .map []⟩ := rfl
  obtain rfl := Option.some.inj (hf.symm.trans hfinding)
  exact ⟨hx, hcheck, _, hf, hpart, hwritten.mp ⟨_, rfl, by decide⟩, rfl⟩

/-- A validator of maps with a property whose name has a point in it. -/
def dottedValidator : Validator :=
  .object .null [.mk (.text "a.b") (.any .null) (.bool true) (.bool false)] (.reject none)

/-- A validator of maps with a property in a property. -/
def nestedValidator : Validator :=
  .object .null
    [.mk (.text "a")
      (.object .null [.mk (.text "b") (.any .null) (.bool true) (.bool false)] (.reject none))
      (.bool true) (.bool false)]
    (.reject none)

/-- **Two locations can be reported at one place.**  The name with the point in it is not quoted, as
it is where it is a step on the way, so that it is taken for two names. -/
theorem dotted_taken_for_nested :
    dottedValidator.check (.map []) =
        .error (.violation "$.a.b" "required property is missing") ∧
      nestedValidator.check (.record [("a", .map [])]) =
        .error (.violation "$.a.b" "required property is missing") ∧
      ∃ f g, dottedValidator.finding? (.map []) = some f ∧
        nestedValidator.finding? (.record [("a", .map [])]) = some g ∧
        f.location? = some [.key "a.b"] ∧ g.location? = some [.key "a", .key "b"] ∧
        Place.render [.key "a.b"] = "$['a.b']" ∧ Place.written [.key "a.b"] = "$['a.b']" :=
  ⟨rfl, rfl, ⟨.missing (.text "a.b"), [], .map []⟩, ⟨.missing (.text "b"), [.key "a"], .map []⟩,
    rfl, rfl, rfl, rfl, by decide, by decide⟩

end Validator

end ApiTools
