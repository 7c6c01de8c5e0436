import ApiTools.Proofs.Schema.Parts
import ApiTools.Proofs.Validator.Redescription
import ApiTools.Proofs.Value.Json

/-!
# Compiled validators are persisted as they are

A validator comes back from its record but for descriptions that do not count as given, and nobody
sees those: not in the record, not in the schema.  A compiled validator has none, since what documents
it is a text that is not empty.

What the names and the listed values of a compiled validator inherit from a document its record has
too: when the document is in JSON, the record has no key that is not a text, and no number that is
not finite.

## Main results

* `Validator.toRecord_lossless` — **no validator loses anything in its record but descriptions that
  do not count as given, and a compiled one loses nothing.**
* `Validator.Built.tidy_eq` — **a compiled validator is tidy.**
* `Validator.Built.of_toRecord` — **the record of a compiled validator has what its names and its
  listed values have.**
-/

namespace ApiTools

namespace Value

/-- A name of JSON with a finite number, if it is a number. -/
abbrev IsFiniteName (name : Scalar) : Prop := (Value.scalar name).IsFiniteJson

theorem Documents.orElse_null {P : Value → Prop} {d : Value} (h : d.Documents P) :
    d.orElse .null = d := by
  rcases h with rfl | ⟨s, hs, -, rfl⟩
  · rfl
  · rw [orElse, if_pos (by simpa [isTruthy] using hs)]

theorem Documents.of_null {P : Value → Prop} (hnull : P .null) {d : Value} (h : d.Documents P) :
    P d := by
  rcases h with rfl | ⟨s, -, hs, rfl⟩
  · exact hnull
  · exact hs

end Value

namespace Validator

/-- No field of a record is there twice. -/
theorem nodup_fieldNames (v : Validator) : ((headFields v ++ tailFields v).map (·.1)).Nodup := by
  have htail : ((tailFields v).map (·.1)).Nodup ∧ "kind" ∉ (tailFields v).map (·.1) ∧
      "description" ∉ (tailFields v).map (·.1) := by
    cases v with
    | string d allowed => cases allowed <;> simp [tailFields]
    | object d rules extras =>
      rw [tailFields, extrasFields_eq]
      cases extras.validator? <;> simp
    | any | literal | number | boolean | array | nullable => simp [tailFields]
  obtain ⟨hnodup, hkind, hdescription⟩ := htail
  rw [List.map_append]
  unfold headFields
  split <;> simp_all

/-- The names of the fields that a record may have. -/
def fieldNames : List String :=
  ["kind", "description", "allowed", "values", "items", "inner", "properties", "additional",
    "additional_validator"]

/-- The fields of a record have distinct joined names. -/
theorem areNames_fields (v : Validator) :
    Value.AreNames ((headFields v ++ tailFields v).map (·.1)) := by
  have hhead : ∀ f ∈ headFields v, f.1 ∈ fieldNames := by
    unfold headFields
    split <;> simp [fieldNames]
  have htail : ∀ f ∈ tailFields v, f.1 ∈ fieldNames := by
    cases v with
    | string d allowed => cases allowed <;> simp [tailFields, fieldNames]
    | object d rules extras =>
      rw [tailFields, extrasFields_eq]
      cases extras.validator? <;> simp [fieldNames]
    | any | literal | number | boolean | array | nullable => simp [tailFields, fieldNames]
  have hjoined : ∀ name ∈ fieldNames, Text.isJoined name = true := by decide +kernel
  exact ⟨nodup_fieldNames v, List.forall_mem_map.mpr fun f hf =>
    hjoined _ ((List.mem_append.mp hf).elim (hhead f) (htail f))⟩

/-- The records of rules have distinct joined names. -/
theorem areNames_ruleFields : Value.AreNames ["name", "validator", "required", "nullable"] := by
  decide +kernel

/-- The names of kinds and of policies are joined. -/
theorem isJoined_kindName (v : Validator) : Text.isJoined v.kindName = true := by
  cases v <;> rw [kindName] <;> decide +kernel

theorem isJoined_policy (extras : Extras) : Text.isJoined extras.policy = true := by
  cases extras <;> rw [Extras.policy] <;> decide +kernel

namespace Built

variable {K : Scalar → Prop} {P : Value → Prop} {mode : Mode} {v : Validator}

/-- **A compiled validator is tidy.** -/
theorem tidy_eq (h : v.Built K P mode) : v.tidy = v := by
  induction h with
  | any hd | string hd | chosen hd | literal hd | number hd | boolean hd =>
    simp [tidy, hd.orElse_null]
  | array hd _ ih | nullable hd _ ih => simp [tidy, hd.orElse_null, ih]
  | @object d rules extras hd _ _ _ _ _ ihRules ihExtras =>
    have hrules : rules.map Rule.tidy = rules := by
      refine (List.map_congr_left fun rule hrule => ?_).trans (List.map_id rules)
      rw [Rule.tidy, ihRules rule hrule]
      cases rule
      rfl
    have hextras : tidyExtras extras = extras := by
      rcases extras with (_ | v) | (_ | v) | v <;> simp [tidyExtras, tidySpare]
      all_goals exact ihExtras v rfl
    rw [tidy, hd.orElse_null, tidyRules_eq_map, hrules, hextras]

/-- The records of rules have a property when their names and the records of their validators
have it. -/
theorem of_ruleRecords (hP : Value.Recordable P) {rules : List Rule}
    (hmade : ∀ rule ∈ rules, rule.Made (fun name => P (.scalar name)) mode)
    (hrules : ∀ rule ∈ rules, P rule.validator.toRecord) : P (.list (ruleRecords rules)) := by
  rw [ruleRecords_eq_map]
  refine hP.list (List.forall_mem_map.mpr fun rule hrule => ?_)
  obtain ⟨name, required, hname, heq⟩ := hmade rule hrule
  have hv := hrules rule hrule
  rw [heq] at hv ⊢
  refine hP.record areNames_ruleFields ?_
  iterate 4 rw [List.forall_mem_cons]
  exact ⟨hname, hv, hP.bool _, hP.bool _, List.forall_mem_nil _⟩

/-- **The record of a compiled validator has a property** when the names and the listed values in the
validator have it. -/
theorem of_toRecord (hP : Value.Recordable P) (h : v.Built (fun name => P (.scalar name)) P mode) :
    P v.toRecord := by
  -- The fields behind the head are a matter of the kind.
  have hrecord : ∀ {v : Validator}, v.description.Documents P →
      (∀ f ∈ tailFields v, P f.2) → P v.toRecord := by
    intro v hd htail
    rw [toRecord_eq_map]
    refine hP.record (areNames_fields v) (List.forall_mem_append.mpr ⟨?_, htail⟩)
    unfold headFields
    split
    · simpa using ⟨hP.text (isJoined_kindName v), hd.of_null hP.null⟩
    · simpa using hP.text (isJoined_kindName v)
  induction h with
  | any hd | string hd | number hd | boolean hd => exact hrecord hd (by simp [tailFields])
  | chosen hd _ _ _ hall | literal hd _ _ hall =>
    exact hrecord hd (by simpa [tailFields] using hP.list hall)
  | array hd _ ih | nullable hd _ ih => exact hrecord hd (by simpa [tailFields] using ih)
  | @object d rules extras hd _ hmade _ _ _ ihRules ihExtras =>
    refine hrecord hd ?_
    rw [tailFields, extrasFields_eq, List.forall_mem_cons, List.forall_mem_cons]
    exact ⟨of_ruleRecords hP hmade ihRules, hP.text (isJoined_policy extras), by simpa using ihExtras⟩

end Built

/-! ### Nothing is lost -/

/-- **A validator is read from its record as it is, but for descriptions that do not count as given.**
They become null, which changes neither the record nor the schema, if there is one.  So a validator
without such a description comes back as it is, and every compiled one is without. -/
theorem toRecord_lossless (v : Validator) :
    ofRecord v.toRecord = .ok v.tidy ∧
      (v.tidy = v ↔ ∀ w, v.Part w → w.description = .null ∨ w.description.isTruthy = true) ∧
      v.tidy.toRecord = v.toRecord ∧ v.tidy.schema? = v.schema? ∧
      ∀ document schema mode depth visited,
        Schema.compile document schema mode depth visited = .ok v → v.tidy = v := by
  refine ⟨ofRecord_toRecord v, tidy_eq_self_iff, toRecord_tidy v, schema?_tidy v, ?_⟩
  intro document schema mode depth visited h
  refine tidy_eq_self_iff.mpr fun w hw => ?_
  rcases Schema.documents_of_part h hw with hnull | ⟨text, hne, -, htext⟩
  · exact .inl hnull
  · rw [htext]
    exact .inr (by simpa [Value.isTruthy] using hne)

/-- A validator as records may give it: a description that does not count as given, a name that is
no text, flags that are no truth values, no text to choose from, and a validator that no policy
uses. -/
def oddValidator : Validator :=
  .object (.text "") [.mk (.int 3) (.string (.int 0) (some [])) (.text "yes") .null]
    (.reject (some (.literal (.text "kept") [])))

/-- The validator of a request for some of two tags. -/
def someTags : Validator :=
  .array (.text "Tags.") (.string .null (some [.text "new", .text "old"]))

/-- The odd validator comes back without its two descriptions that do not count as given, and the
compiled one as it is. -/
theorem ofRecord_toRecord_oddValidator :
    ofRecord oddValidator.toRecord =
        .ok (.object .null [.mk (.int 3) (.string .null (some [])) (.text "yes") .null]
          (.reject (some (.literal (.text "kept") [])))) ∧
      Schema.compile (.map [])
          (.record [("type", .text "array"), ("description", .text "Tags."),
            ("items", .record [("type", .text "string"),
              ("enum", .list [.text "new", .text "old"])])]) .input 0 [] = .ok someTags ∧
      ofRecord someTags.toRecord = .ok someTags := by
  have hcompile : Schema.compile (.map [])
      (.record [("type", .text "array"), ("description", .text "Tags."),
        ("items", .record [("type", .text "string"),
          ("enum", .list [.text "new", .text "old"])])]) .input 0 [] = .ok someTags := rfl
  obtain ⟨hread, -, -, -, htidy⟩ := toRecord_lossless someTags
  rw [htidy _ _ _ _ _ hcompile] at hread
  exact ⟨(toRecord_lossless oddValidator).1, hcompile, hread⟩

end Validator

end ApiTools
