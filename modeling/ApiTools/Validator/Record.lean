import ApiTools.Validator.Basic

/-!
# Validators as records

A validator is persisted as a map that names its kind and holds its parts. A description that does
not count as given is left out. Reading a record checks the kind and the policy; the other fields
are taken as they come.

## Main definitions

* `Validator.toRecord` — the record of a validator.
* `Validator.ofRecord` — the validator of a record.
-/

namespace ApiTools

/-! ### Writing -/

namespace Validator

/-- The fields that every record starts with. -/
def headFields (v : Validator) : List (String × Value) :=
  ("kind", .text v.kindName)
    :: if v.description.isTruthy then [("description", v.description)] else []

mutual

/-- The record of a validator. -/
def toRecord : Validator → Value
  | .string d allowed =>
    .record (headFields (.string d allowed)
      ++ (allowed.map fun vs => ("allowed", Value.list vs)).toList)
  | .literal d values => .record (headFields (.literal d values) ++ [("values", .list values)])
  | .array d items => .record (headFields (.array d items) ++ [("items", toRecord items)])
  | .nullable d inner => .record (headFields (.nullable d inner) ++ [("inner", toRecord inner)])
  | .object d rules extras =>
    .record (headFields (.object d rules extras)
      ++ ("properties", .list (ruleRecords rules)) :: ("additional", .text extras.policy)
        :: extrasFields extras)
  | .any d => .record (headFields (.any d))
  | .number d => .record (headFields (.number d))
  | .boolean d => .record (headFields (.boolean d))

/-- The records of rules. -/
def ruleRecords : List Rule → List Value
  | [] => []
  | .mk name validator req nul :: rules =>
    .record [("name", name), ("validator", toRecord validator), ("required", req),
      ("nullable", nul)] :: ruleRecords rules

/-- The field of the validator that comes with a policy. -/
def extrasFields : Extras → List (String × Value)
  | .reject spare => spareFields spare
  | .allow spare => spareFields spare
  | .typed validator => [("additional_validator", toRecord validator)]

/-- The field of a validator that a policy carries unused. -/
def spareFields : Option Validator → List (String × Value)
  | none => []
  | some validator => [("additional_validator", toRecord validator)]

end

end Validator

/-- The record of a rule. -/
def Rule.toRecord (rule : Rule) : Value :=
  .record [("name", rule.name), ("validator", rule.validator.toRecord), ("required", rule.required),
    ("nullable", rule.nullable)]

/-! ### Reading -/

namespace Entries

/-- A value in a map is smaller than the map. -/
theorem sizeOf_get?_lt {entries : Entries} {name : String} {v : Value}
    (h : entries.get? name = some v) : sizeOf v < sizeOf entries := by
  simp only [get?, find?, Option.map_eq_some_iff] at h
  obtain ⟨⟨k, w⟩, hfind, rfl⟩ := h
  have := List.sizeOf_lt_of_mem (List.mem_of_find?_eq_some hfind)
  simp at this ⊢
  omega

end Entries

namespace Validator

/-- The policy of a name, with the validator that comes with it. -/
def extrasOf (policy : Value) (validator? : Option Validator) : Except Fault Extras :=
  match policy, validator? with
  | .text "reject", spare => .ok (.reject spare)
  | .text "allow", spare => .ok (.allow spare)
  | .text "typed", some validator => .ok (.typed validator)
  | .text "typed", none => .error .untypedExtras
  | policy, _ => .error (.unknownPolicy policy)

mutual

/-- The validator of a record. -/
def ofRecord : Value → Except Fault Validator
  | .map es => do
    let kind := (Entries.get? es "kind").getD .null
    let description := (Entries.get? es "description").getD .null
    match ← kind.key with
    | .text "any" => return .any description
    | .text "string" =>
      match (Entries.get? es "allowed").getD .null with
      | .null => return .string description none
      | allowed => return .string description (some (← allowed.elements))
    | .text "literal" =>
      return .literal description (← ((Entries.get? es "values").getD (.list [])).elements)
    | .text "number" => return .number description
    | .text "boolean" => return .boolean description
    | .text "array" =>
      match h : Entries.get? es "items" with
      | some items =>
        have := Entries.sizeOf_get?_lt h
        return .array description (← ofRecord items)
      | none => throw (.missingKey (.text "items"))
    | .text "nullable" =>
      match h : Entries.get? es "inner" with
      | some inner =>
        have := Entries.sizeOf_get?_lt h
        return .nullable description (← ofRecord inner)
      | none => throw (.missingKey (.text "inner"))
    | .text "object" =>
      let rules ←
        match h : Entries.get? es "properties" with
        | some properties =>
          have := Entries.sizeOf_get?_lt h
          rulesOfRecord properties
        | none => pure []
      let policy := (Entries.get? es "additional").getD (.text "reject")
      let validator? ←
        match h : Entries.get? es "additional_validator" with
        | none | some .null => pure none
        | some v =>
          have := Entries.sizeOf_get?_lt h
          some <$> ofRecord v
      return .object description rules (← extrasOf policy validator?)
    | _ => throw (.unknownKind kind)
  | _ => .error .noAccessor
  termination_by v => sizeOf v
  decreasing_by
    all_goals
      simp at this ⊢
      omega

/-- The rules of the records that an iteration visits. -/
def rulesOfRecord : Value → Except Fault (List Rule)
  | .list items => rulesOfRecords items
  | v => do if (← v.elements).isEmpty then return [] else throw .illTyped
  termination_by v => sizeOf v

/-- The rules of a list of records. -/
def rulesOfRecords : List Value → Except Fault (List Rule)
  | [] => .ok []
  | record :: records => do
    let rule ← ruleOfRecord record
    return rule :: (← rulesOfRecords records)
  termination_by vs => sizeOf vs

/-- The rule of a record. -/
def ruleOfRecord : Value → Except Fault Rule
  | .map es => do
    let some name := Entries.get? es "name" | throw (.missingKey (.text "name"))
    match h : Entries.get? es "validator" with
    | none => throw (.missingKey (.text "validator"))
    | some v =>
      have := Entries.sizeOf_get?_lt h
      return .mk name (← ofRecord v) ((Entries.get? es "required").getD (.bool false))
        ((Entries.get? es "nullable").getD (.bool false))
  | _ => .error .illTyped
  termination_by v => sizeOf v
  decreasing_by
    simp at this ⊢
    omega

end

/-- Whether a validator comes back from its own record. -/
def readsBack (v : Validator) : Except Fault Bool := do
  return decide ((← ofRecord v.toRecord) = v)

end Validator

end ApiTools
