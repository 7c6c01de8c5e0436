import ApiTools.Proofs.Outcome
import ApiTools.Proofs.Validator.Tree
import ApiTools.Validator.Record

/-!
# Validators come back from their records

The record of a validator leaves out a description that does not count as given, and nothing else.
Reading it back puts null in its place.  So every validator comes back as it is but for such
descriptions, and one without them comes back as it is.

## Main definitions

* `Validator.tidy` — the validator with null for every description that does not count as given.

## Main results

* `Validator.ofRecord_array`, …, `Validator.ofRecord_object` — what a record of a kind is read as.
* `Validator.ofRecord_toRecord` — **every validator comes back tidy from its record.**
-/

namespace ApiTools

namespace Validator

/-! ### Tidy validators -/

mutual

/-- The validator with null for every description that does not count as given. -/
def tidy : Validator → Validator
  | .any d => .any (d.orElse .null)
  | .string d allowed => .string (d.orElse .null) allowed
  | .literal d values => .literal (d.orElse .null) values
  | .number d => .number (d.orElse .null)
  | .boolean d => .boolean (d.orElse .null)
  | .array d items => .array (d.orElse .null) (tidy items)
  | .nullable d inner => .nullable (d.orElse .null) (tidy inner)
  | .object d rules extras => .object (d.orElse .null) (tidyRules rules) (tidyExtras extras)

/-- The rules with tidy validators. -/
def tidyRules : List Rule → List Rule
  | [] => []
  | .mk name validator req nul :: rules => .mk name (tidy validator) req nul :: tidyRules rules

/-- The policy with a tidy validator. -/
def tidyExtras : Extras → Extras
  | .reject spare => .reject (tidySpare spare)
  | .allow spare => .allow (tidySpare spare)
  | .typed validator => .typed (tidy validator)

/-- A tidy validator, if there is one. -/
def tidySpare : Option Validator → Option Validator
  | none => none
  | some validator => some (tidy validator)

end

end Validator

/-- The rule with a tidy validator. -/
def Rule.tidy (rule : Rule) : Rule :=
  .mk rule.name rule.validator.tidy rule.required rule.nullable

namespace Validator

theorem tidyRules_eq_map (rules : List Rule) : tidyRules rules = rules.map Rule.tidy := by
  induction rules with
  | nil => rfl
  | cons rule rules ih =>
    obtain ⟨name, v, req, nul⟩ := rule
    rw [tidyRules, ih]
    rfl

theorem tidySpare_eq_map (spare : Option Validator) : tidySpare spare = spare.map tidy := by
  cases spare <;> rfl

/-! ### Records of each kind -/

section

variable {es : Entries}

theorem ofRecord_any (hkind : es.get? "kind" = some (.text "any")) :
    ofRecord (.map es) = .ok (.any ((es.get? "description").getD .null)) := by
  rw [ofRecord, hkind]
  rfl

theorem ofRecord_string (hkind : es.get? "kind" = some (.text "string"))
    (hallowed : es.get? "allowed" = none) :
    ofRecord (.map es) = .ok (.string ((es.get? "description").getD .null) none) := by
  rw [ofRecord, hkind, hallowed]
  rfl

theorem ofRecord_string_some (hkind : es.get? "kind" = some (.text "string"))
    {allowed : List Value} (hallowed : es.get? "allowed" = some (.list allowed)) :
    ofRecord (.map es) = .ok (.string ((es.get? "description").getD .null) (some allowed)) := by
  rw [ofRecord, hkind, hallowed]
  rfl

theorem ofRecord_literal (hkind : es.get? "kind" = some (.text "literal")) {values : List Value}
    (hvalues : es.get? "values" = some (.list values)) :
    ofRecord (.map es) = .ok (.literal ((es.get? "description").getD .null) values) := by
  rw [ofRecord, hkind, hvalues]
  rfl

theorem ofRecord_number (hkind : es.get? "kind" = some (.text "number")) :
    ofRecord (.map es) = .ok (.number ((es.get? "description").getD .null)) := by
  rw [ofRecord, hkind]
  rfl

theorem ofRecord_boolean (hkind : es.get? "kind" = some (.text "boolean")) :
    ofRecord (.map es) = .ok (.boolean ((es.get? "description").getD .null)) := by
  rw [ofRecord, hkind]
  rfl

theorem ofRecord_array (hkind : es.get? "kind" = some (.text "array")) {items : Value}
    (hitems : es.get? "items" = some items) {v : Validator} (hv : ofRecord items = .ok v) :
    ofRecord (.map es) = .ok (.array ((es.get? "description").getD .null) v) := by
  rw [ofRecord, hkind]
  refine Except.bind_eq_ok_iff.mpr ⟨.text "array", rfl, ?_⟩
  split
  case h_6 =>
    split
    · next heq =>
      obtain rfl := Option.some.inj (hitems.symm.trans heq)
      exact Except.bind_eq_ok_iff.mpr ⟨v, hv, rfl⟩
    · next heq => cases hitems.symm.trans heq
  all_goals simp_all

theorem ofRecord_nullable (hkind : es.get? "kind" = some (.text "nullable")) {inner : Value}
    (hinner : es.get? "inner" = some inner) {v : Validator} (hv : ofRecord inner = .ok v) :
    ofRecord (.map es) = .ok (.nullable ((es.get? "description").getD .null) v) := by
  rw [ofRecord, hkind]
  refine Except.bind_eq_ok_iff.mpr ⟨.text "nullable", rfl, ?_⟩
  split
  case h_7 =>
    split
    · next heq =>
      obtain rfl := Option.some.inj (hinner.symm.trans heq)
      exact Except.bind_eq_ok_iff.mpr ⟨v, hv, rfl⟩
    · next heq => cases hinner.symm.trans heq
  all_goals simp_all

theorem ofRecord_object (hkind : es.get? "kind" = some (.text "object")) {records : Value}
    {policy : Value} {rules : List Rule} {extras : Extras} {spare : Option Validator}
    (hproperties : es.get? "properties" = some records) (hrules : rulesOfRecord records = .ok rules)
    (hadditional : es.get? "additional" = some policy)
    (hextras : extrasOf policy spare = .ok extras)
    (hspare : ∀ v, spare = some v →
      ∃ record, es.get? "additional_validator" = some record ∧ record ≠ .null ∧
        ofRecord record = .ok v)
    (hnone : spare = none → es.get? "additional_validator" = none) :
    ofRecord (.map es) = .ok (.object ((es.get? "description").getD .null) rules extras) := by
  rw [ofRecord, hkind]
  refine Except.bind_eq_ok_iff.mpr ⟨.text "object", rfl, ?_⟩
  split
  case h_8 =>
    dsimp only
    split
    · next heq =>
      obtain rfl := Option.some.inj (hproperties.symm.trans heq)
      refine Except.bind_eq_ok_iff.mpr ⟨rules, hrules, ?_⟩
      rw [hadditional]
      have hlast : ∀ d, (extrasOf policy spare >>= fun x => pure (Validator.object d rules x)) =
          .ok (.object d rules extras) :=
        fun d => Except.bind_eq_ok_iff.mpr ⟨extras, hextras, rfl⟩
      cases spare with
      | none =>
        split
        · exact Except.bind_eq_ok_iff.mpr ⟨none, rfl, hlast _⟩
        · exact Except.bind_eq_ok_iff.mpr ⟨none, rfl, hlast _⟩
        · next heq => cases (hnone rfl).symm.trans heq
      | some v =>
        obtain ⟨record, hrecord, hne, hread⟩ := hspare v rfl
        split
        · next heq => cases hrecord.symm.trans heq
        · next heq => exact absurd (Option.some.inj (hrecord.symm.trans heq)) hne
        · next heq =>
          obtain rfl := Option.some.inj (hrecord.symm.trans heq)
          rw [hread]
          exact Except.bind_eq_ok_iff.mpr ⟨some v, rfl, hlast _⟩
    · next heq => cases hproperties.symm.trans heq
  all_goals simp_all

end

/-! ### Reading back -/

/-- The fields of a record after those that every record starts with. -/
def tailFields : Validator → List (String × Value)
  | .string _ allowed => (allowed.map fun vs => ("allowed", Value.list vs)).toList
  | .literal _ values => [("values", .list values)]
  | .array _ items => [("items", toRecord items)]
  | .nullable _ inner => [("inner", toRecord inner)]
  | .object _ rules extras =>
    ("properties", .list (ruleRecords rules)) :: ("additional", .text extras.policy)
      :: extrasFields extras
  | .any _ | .number _ | .boolean _ => []

/-- The entries of the record of a validator. -/
def recordEntries (v : Validator) : Entries :=
  (headFields v ++ tailFields v).map fun f => (.text f.1, f.2)

theorem toRecord_eq_map (v : Validator) : v.toRecord = .map v.recordEntries := by
  cases v <;> simp [toRecord, Value.record, recordEntries, tailFields]

theorem ruleRecords_eq_map (rules : List Rule) : ruleRecords rules = rules.map Rule.toRecord := by
  induction rules with
  | nil => rfl
  | cons rule rules ih =>
    obtain ⟨name, v, req, nul⟩ := rule
    rw [ruleRecords, ih]
    rfl

theorem extrasFields_eq (extras : Extras) :
    extrasFields extras =
      (extras.validator?.map fun v => ("additional_validator", v.toRecord)).toList := by
  rcases extras with (_ | v) | (_ | v) | v <;> simp [extrasFields, spareFields, Extras.validator?]

/-- The validator that comes with a policy has a field of its own. -/
theorem get?_extrasFields (extras : Extras) (name : String) :
    Entries.get? ((extrasFields extras).map fun f => (.text f.1, f.2)) name =
      if name = "additional_validator" then extras.validator?.map toRecord else none := by
  rw [extrasFields_eq]
  cases extras.validator? with
  | none => simp
  | some v => simp [Entries.get?_cons_text]

/-- Behind its rules and its policy, the record of a validator of maps has the validator that comes
with the policy. -/
theorem get?_tailFields_object {d : Value} {rules : List Rule} {extras : Extras} (name : String)
    (hname : name ≠ "properties" ∧ name ≠ "additional") :
    Entries.get? ((tailFields (.object d rules extras)).map fun f => (.text f.1, f.2)) name =
      if name = "additional_validator" then extras.validator?.map toRecord else none := by
  rw [tailFields, List.map_cons, List.map_cons, Entries.get?_cons_text, if_neg hname.1,
    Entries.get?_cons_text, if_neg hname.2, get?_extrasFields]

/-- No record has a description behind its head. -/
theorem get?_tailFields_description (v : Validator) :
    Entries.get? ((tailFields v).map fun f => (.text f.1, f.2)) "description" = none := by
  cases v with
  | string d allowed => cases allowed <;> rfl
  | object d rules extras =>
    rw [get?_tailFields_object _ (by decide), if_neg (by decide)]
  | any | literal | number | boolean | array | nullable => rfl

/-- What the record of a validator has at a name. -/
theorem get?_recordEntries (v : Validator) (name : String) :
    v.recordEntries.get? name =
      if name = "kind" then some (.text v.kindName)
      else if name = "description" ∧ v.description.isTruthy = true then some v.description
      else Entries.get? ((tailFields v).map fun f => (.text f.1, f.2)) name := by
  unfold recordEntries headFields
  rw [List.cons_append, List.map_cons, Entries.get?_cons_text]
  cases v.description.isTruthy with
  | true => simp [Entries.get?_cons_text]
  | false => simp

theorem get?_kind (v : Validator) : v.recordEntries.get? "kind" = some (.text v.kindName) := by
  rw [get?_recordEntries, if_pos rfl]

/-- A description that does not count as given reads back as null. -/
theorem getD_description (v : Validator) :
    (v.recordEntries.get? "description").getD .null = v.description.orElse .null := by
  rw [get?_recordEntries, get?_tailFields_description, Value.orElse]
  cases v.description.isTruthy <;> simp

/-- The other fields stand behind the head. -/
theorem get?_tail (v : Validator) (name : String) (hname : name ≠ "kind" ∧ name ≠ "description") :
    v.recordEntries.get? name =
      Entries.get? ((tailFields v).map fun f => (.text f.1, f.2)) name := by
  rw [get?_recordEntries, if_neg hname.1, if_neg fun h => hname.2 h.1]

/-- A rule is read from the four fields of its record. -/
theorem ruleOfRecord_eq {es : Entries} {name record req nul : Value} {v : Validator}
    (hname : es.get? "name" = some name) (hrecord : es.get? "validator" = some record)
    (hv : ofRecord record = .ok v) (hreq : es.get? "required" = some req)
    (hnul : es.get? "nullable" = some nul) :
    ruleOfRecord (.map es) = .ok (.mk name v req nul) := by
  rw [ruleOfRecord, hname]
  dsimp only
  split
  · next heq => cases hrecord.symm.trans heq
  · next heq =>
    obtain rfl := Option.some.inj (hrecord.symm.trans heq)
    rw [hreq, hnul]
    exact Except.bind_eq_ok_iff.mpr ⟨v, hv, rfl⟩

theorem rulesOfRecords_eq_ok {records : List Value} {rules : List Rule}
    (h : List.Forall₂ (fun record rule => ruleOfRecord record = .ok rule) records rules) :
    rulesOfRecords records = .ok rules := by
  induction h with
  | nil => rw [rulesOfRecords]
  | @cons record rule records rules hrule _ ih =>
    rw [rulesOfRecords]
    exact Except.bind_eq_ok_iff.mpr ⟨rule, hrule, Except.bind_eq_ok_iff.mpr ⟨rules, ih, rfl⟩⟩

/-- The rules come back from their records when their validators do. -/
theorem rulesOfRecord_ruleRecords {rules : List Rule}
    (h : ∀ rule ∈ rules, ofRecord rule.validator.toRecord = .ok rule.validator.tidy) :
    rulesOfRecord (.list (ruleRecords rules)) = .ok (tidyRules rules) := by
  rw [rulesOfRecord, ruleRecords_eq_map, tidyRules_eq_map]
  refine rulesOfRecords_eq_ok (List.forall₂_map_left_iff.mpr (List.forall₂_map_right_iff.mpr ?_))
  exact List.forall₂_same.mpr fun rule hrule => ruleOfRecord_eq rfl rfl (h rule hrule) rfl rfl

theorem extrasOf_policy (extras : Extras) :
    extrasOf (.text extras.policy) (extras.validator?.map tidy) = .ok (tidyExtras extras) := by
  cases extras with
  | reject spare | allow spare =>
    rw [tidyExtras, tidySpare_eq_map]
    rfl
  | typed v => rfl

/-- A validator of maps comes back from its record when its parts do. -/
theorem ofRecord_toRecord_object {d : Value} {rules : List Rule} {extras : Extras}
    (hrules : ∀ rule ∈ rules, ofRecord rule.validator.toRecord = .ok rule.validator.tidy)
    (hextras : ∀ v, extras.validator? = some v → ofRecord v.toRecord = .ok v.tidy) :
    ofRecord (object d rules extras).toRecord = .ok (object d rules extras).tidy := by
  have hspare : (object d rules extras).recordEntries.get? "additional_validator" =
      extras.validator?.map toRecord := by
    rw [get?_tail _ _ (by decide), get?_tailFields_object _ (by decide), if_pos rfl]
  rw [toRecord_eq_map, ofRecord_object (get?_kind _) (get?_tail _ "properties" (by decide))
    (rulesOfRecord_ruleRecords hrules) (get?_tail _ "additional" (by decide))
    (extrasOf_policy extras), getD_description]
  · rfl
  · intro w hw
    obtain ⟨v, hv, rfl⟩ := Option.map_eq_some_iff.mp hw
    rw [hspare, hv]
    exact ⟨v.toRecord, rfl, by simp [toRecord_eq_map], hextras v hv⟩
  · intro hnone
    rw [hspare, Option.map_eq_none_iff.mp hnone]
    rfl

/-- **Every validator comes back tidy from its record.** -/
theorem ofRecord_toRecord (v : Validator) : ofRecord v.toRecord = .ok v.tidy := by
  -- Each kind is read from the fields behind its head, once what is inside has been read.
  induction v using inductionOn with
  | any d =>
    rw [toRecord_eq_map, ofRecord_any (get?_kind _), getD_description]
    rfl
  | string d allowed =>
    cases allowed with
    | none =>
      rw [toRecord_eq_map, ofRecord_string (get?_kind _) (get?_tail _ "allowed" (by decide)),
        getD_description]
      rfl
    | some allowed =>
      rw [toRecord_eq_map, ofRecord_string_some (get?_kind _) (get?_tail _ "allowed" (by decide)),
        getD_description]
      rfl
  | literal d values =>
    rw [toRecord_eq_map, ofRecord_literal (get?_kind _) (get?_tail _ "values" (by decide)),
      getD_description]
    rfl
  | number d =>
    rw [toRecord_eq_map, ofRecord_number (get?_kind _), getD_description]
    rfl
  | boolean d =>
    rw [toRecord_eq_map, ofRecord_boolean (get?_kind _), getD_description]
    rfl
  | array d items ih =>
    rw [toRecord_eq_map, ofRecord_array (get?_kind _) (get?_tail _ "items" (by decide)) ih,
      getD_description]
    rfl
  | nullable d inner ih =>
    rw [toRecord_eq_map, ofRecord_nullable (get?_kind _) (get?_tail _ "inner" (by decide)) ih,
      getD_description]
    rfl
  | object d rules extras ihRules ihExtras => exact ofRecord_toRecord_object ihRules ihExtras

end Validator

end ApiTools
