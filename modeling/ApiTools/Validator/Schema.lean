import ApiTools.JsonSchema.Violation
import ApiTools.Validator.Basic

/-!
# The schema of a validator

Clients see a validator as a JSON Schema, and values are checked through that schema. A property
name has to be a scalar there, since it becomes a key.

## Main definitions

* `Validator.schema` — the schema.
* `Validator.hasKeys` — every property name can be a key.
* `Validator.check` — a value is accepted, or the fault to report.
-/

namespace ApiTools

namespace Validator

/-- The keyword of a description, if there is one. -/
def descriptionKeywords (description : Value) : List Keyword :=
  if description.isTruthy then [.description description] else []

/-- The schema of null. -/
def nullSchema : JsonSchema := .mk [.type .null]

/-- The properties with one more: a present key keeps its place. -/
def putSchema (schemas : List (Scalar × JsonSchema)) (key : Scalar) (schema : JsonSchema) :
    List (Scalar × JsonSchema) :=
  if schemas.any (·.1.alike key) then
    schemas.map fun e => if e.1.alike key then (e.1, schema) else e
  else
    schemas ++ [(key, schema)]

/-- The properties of a list, put in one after the other. -/
def collectSchemas (schemas : List (Scalar × JsonSchema)) : List (Scalar × JsonSchema) :=
  schemas.foldl (fun all e => putSchema all e.1 e.2) []

/-- The names of the properties that have to be there. -/
def requiredNames (rules : List Rule) : List Value := (rules.filter Rule.isRequired).map Rule.name

/-- The keyword of the properties that have to be there, if there are any. -/
def requiredKeywords (rules : List Rule) : List Keyword :=
  match requiredNames rules with
  | [] => []
  | names => [.required names]

mutual

/-- The schema of a validator. -/
def schema : Validator → JsonSchema
  | .any d => .mk (descriptionKeywords d)
  | .string d none => .mk (.type .string :: descriptionKeywords d)
  | .string d (some allowed) => .mk (.type .string :: .enum allowed :: descriptionKeywords d)
  | .literal d values => .mk (.enum values :: descriptionKeywords d)
  | .number d => .mk (.type .number :: descriptionKeywords d)
  | .boolean d => .mk (.type .boolean :: descriptionKeywords d)
  | .array d items => .mk (.type .array :: .items (schema items) :: descriptionKeywords d)
  | .nullable d inner => .mk (.anyOf [schema inner, nullSchema] :: descriptionKeywords d)
  | .object d rules extras =>
    .mk (.type .object :: .properties (collectSchemas (ruleSchemas rules))
      :: (requiredKeywords rules ++ (extrasKeywords extras ++ descriptionKeywords d)))

/-- The schemas of the properties of a map, each at its name. -/
def ruleSchemas : List Rule → List (Scalar × JsonSchema)
  | [] => []
  | .mk name validator req nul :: rules =>
    let own := schema validator
    let admitsNull := (Rule.mk name validator req nul).admitsNull
    let own := if admitsNull then .mk [.anyOf [own, nullSchema]] else own
    ((name.scalar?.map fun key => (key, own)).toList) ++ ruleSchemas rules

/-- The keyword of the policy for undeclared keys. -/
def extrasKeywords : Extras → List Keyword
  | .reject _ => [.closed]
  | .allow _ => []
  | .typed validator => [.additional (schema validator)]

end

mutual

/-- Whether every property name in the schema of a validator can be a key. -/
def hasKeys : Validator → Bool
  | .array _ items => hasKeys items
  | .nullable _ inner => hasKeys inner
  | .object _ rules extras => rulesHaveKeys rules && extrasHaveKeys extras
  | .any _ | .string _ _ | .literal _ _ | .number _ | .boolean _ => true

/-- Whether the names of rules, and those below them, can be keys. -/
def rulesHaveKeys : List Rule → Bool
  | [] => true
  | .mk name validator _ _ :: rules =>
    name.scalar?.isSome && hasKeys validator && rulesHaveKeys rules

/-- Whether the names below a policy can be keys. -/
def extrasHaveKeys : Extras → Bool
  | .typed validator => hasKeys validator
  | .reject _ | .allow _ => true

end

/-- The schema of a validator, if it can be written. -/
def schema? (v : Validator) : Except Fault JsonSchema :=
  if v.hasKeys then .ok v.schema else .error .illTyped

/-- Whether a value is accepted. -/
def isValid (v : Validator) (x : Value) : Bool := v.schema.isValid x

/-- The finding to report of a value, if it is not accepted. -/
def finding? (v : Validator) (x : Value) : Option Finding := Violation.best? (v.schema.violations x)

/-- Accepts a value, or gives the fault to report. -/
def check (v : Validator) (x : Value) : Except Fault Unit := do
  let _ ← v.schema?
  match v.finding? x with
  | none => return ()
  | some f => throw (.violation f.renderPlace f.message)

end Validator

end ApiTools
