import ApiTools.Value.Access

/-!
# Validators

A validator says which values are accepted. It is a tree: the validators of a list's items, of a
nullable value and of a map's properties are its branches. A map has one rule for each declared
property, and a policy for the keys that no rule declares.

Validators are also read from records, which may give a description, a property name or a flag of
any kind. Such values are kept as they are: a flag is raised when it counts as given.

## Main definitions

* `Validator`, `Rule`, `Extras` — the tree.
* `Validator.withDescription` — another description.
* `Validator.propertyNames`, `Validator.rule?` — the declared properties of a map.
-/

namespace ApiTools

mutual

/-- What values are accepted, and a description of them. -/
inductive Validator where
  /-- Every value. -/
  | any (description : Value)
  /-- Texts; those of a list, if one is given. -/
  | string (description : Value) (allowed : Option (List Value))
  /-- The listed values. -/
  | literal (description : Value) (values : List Value)
  /-- Numbers. -/
  | number (description : Value)
  /-- Truth values. -/
  | boolean (description : Value)
  /-- Lists, item by item. -/
  | array (description : Value) (items : Validator)
  /-- Null, or what another validator accepts. -/
  | nullable (description : Value) (inner : Validator)
  /-- Maps, property by property. -/
  | object (description : Value) (rules : List Rule) (extras : Extras)

/-- How one declared property of a map is checked. -/
inductive Rule where
  /-- The name of the property, what its value has to be, whether it has to be there, and whether
  null will do if it need not be there. -/
  | mk (name : Value) (validator : Validator) (required nullable : Value)

/-- What becomes of the keys of a map that no rule declares. A policy that does not use a validator
may still carry one. -/
inductive Extras where
  /-- They are not accepted. -/
  | reject (spare : Option Validator)
  /-- They are accepted with any value. -/
  | allow (spare : Option Validator)
  /-- Their values are checked. -/
  | typed (validator : Validator)

end

instance : Inhabited Validator := ⟨.any .null⟩

namespace Rule

/-- The name of the property. -/
def name : Rule → Value
  | mk name _ _ _ => name

/-- The validator of the property's value. -/
def validator : Rule → Validator
  | mk _ validator _ _ => validator

/-- Whether the property has to be there, as it was given. -/
def required : Rule → Value
  | mk _ _ required _ => required

/-- Whether null will do for the property, as it was given. -/
def nullable : Rule → Value
  | mk _ _ _ nullable => nullable

/-- Whether the property has to be there. -/
def isRequired (rule : Rule) : Bool := rule.required.isTruthy

/-- Whether null stands for the property's absence. -/
def admitsNull (rule : Rule) : Bool := rule.nullable.isTruthy && !rule.isRequired

end Rule

namespace Extras

/-- The name of the policy. -/
def policy : Extras → String
  | reject _ => "reject"
  | allow _ => "allow"
  | typed _ => "typed"

/-- The validator that comes with the policy. -/
def validator? : Extras → Option Validator
  | reject spare => spare
  | allow spare => spare
  | typed validator => some validator

end Extras

namespace Validator

/-- The description of a validator. -/
def description : Validator → Value
  | any d => d
  | string d _ => d
  | literal d _ => d
  | number d => d
  | boolean d => d
  | array d _ => d
  | nullable d _ => d
  | object d _ _ => d

/-- A validator with another description. -/
def withDescription (d : Value) : Validator → Validator
  | any _ => any d
  | string _ allowed => string d allowed
  | literal _ values => literal d values
  | number _ => number d
  | boolean _ => boolean d
  | array _ items => array d items
  | nullable _ inner => nullable d inner
  | object _ rules extras => object d rules extras

/-- The name of the kind of a validator. -/
def kindName : Validator → String
  | any _ => "any"
  | string _ _ => "string"
  | literal _ _ => "literal"
  | number _ => "number"
  | boolean _ => "boolean"
  | array _ _ => "array"
  | nullable _ _ => "nullable"
  | object _ _ _ => "object"

/-- The rules of a validator of maps. -/
def rules? : Validator → Option (List Rule)
  | object _ rules _ => some rules
  | _ => none

/-- The names of the declared properties; only a validator of maps has any. -/
def propertyNames (v : Validator) : Except Fault (List Value) :=
  match v.rules? with
  | some rules => .ok (rules.map Rule.name)
  | none => .error .noAccessor

/-- The first rule for a name. -/
def rule? (v : Validator) (name : Value) : Except Fault (Option Rule) :=
  match v.rules? with
  | some rules => .ok (rules.find? (·.name.alike name))
  | none => .error .noAccessor

/-- The map without properties. -/
def emptyObject (description : Value) : Validator := .object description [] (.reject none)

end Validator

/-! ### Structural equality -/

mutual

/-- Whether two validators are the same tree. -/
def Validator.decEq : (v w : Validator) → Decidable (v = w)
  | .any d, w =>
    match w with
    | .any e => decidable_of_iff (d = e) (by simp)
    | .string _ _ | .literal _ _ | .number _ | .boolean _ | .array _ _ | .nullable _ _
    | .object _ _ _ => .isFalse (by simp)
  | .string d a, w =>
    match w with
    | .string e b => decidable_of_iff (d = e ∧ a = b) (by simp)
    | .any _ | .literal _ _ | .number _ | .boolean _ | .array _ _ | .nullable _ _
    | .object _ _ _ => .isFalse (by simp)
  | .literal d a, w =>
    match w with
    | .literal e b => decidable_of_iff (d = e ∧ a = b) (by simp)
    | .any _ | .string _ _ | .number _ | .boolean _ | .array _ _ | .nullable _ _
    | .object _ _ _ => .isFalse (by simp)
  | .number d, w =>
    match w with
    | .number e => decidable_of_iff (d = e) (by simp)
    | .any _ | .string _ _ | .literal _ _ | .boolean _ | .array _ _ | .nullable _ _
    | .object _ _ _ => .isFalse (by simp)
  | .boolean d, w =>
    match w with
    | .boolean e => decidable_of_iff (d = e) (by simp)
    | .any _ | .string _ _ | .literal _ _ | .number _ | .array _ _ | .nullable _ _
    | .object _ _ _ => .isFalse (by simp)
  | .array d v, w =>
    match w with
    | .array e w =>
      match Validator.decEq v w with
      | .isTrue h => decidable_of_iff (d = e) (by simp [h])
      | .isFalse h => .isFalse (by simp [h])
    | .any _ | .string _ _ | .literal _ _ | .number _ | .boolean _ | .nullable _ _
    | .object _ _ _ => .isFalse (by simp)
  | .nullable d v, w =>
    match w with
    | .nullable e w =>
      match Validator.decEq v w with
      | .isTrue h => decidable_of_iff (d = e) (by simp [h])
      | .isFalse h => .isFalse (by simp [h])
    | .any _ | .string _ _ | .literal _ _ | .number _ | .boolean _ | .array _ _
    | .object _ _ _ => .isFalse (by simp)
  | .object d rs x, w =>
    match w with
    | .object e ss y =>
      match Validator.decEqRules rs ss, Validator.decEqExtras x y with
      | .isTrue h, .isTrue k => decidable_of_iff (d = e) (by simp [h, k])
      | .isFalse h, _ => .isFalse (by simp [h])
      | _, .isFalse k => .isFalse (by simp [k])
    | .any _ | .string _ _ | .literal _ _ | .number _ | .boolean _ | .array _ _
    | .nullable _ _ => .isFalse (by simp)

/-- Whether two lists of rules are the same, rule by rule. -/
def Validator.decEqRules : (rs ss : List Rule) → Decidable (rs = ss)
  | [], [] => .isTrue rfl
  | [], _ :: _ => .isFalse (by simp)
  | _ :: _, [] => .isFalse (by simp)
  | .mk a v p q :: rs, .mk b w r s :: ss =>
    match Validator.decEq v w, Validator.decEqRules rs ss with
    | .isTrue h, .isTrue k => decidable_of_iff (a = b ∧ p = r ∧ q = s) (by simp [h, k])
    | .isFalse h, _ => .isFalse (by simp [h])
    | _, .isFalse k => .isFalse (by simp [k])

/-- Whether two policies are the same, with what they carry. -/
def Validator.decEqExtras : (x y : Extras) → Decidable (x = y)
  | .reject v, .reject w =>
    match Validator.decEqSpare v w with
    | .isTrue h => .isTrue (by rw [h])
    | .isFalse h => .isFalse (by simp [h])
  | .allow v, .allow w =>
    match Validator.decEqSpare v w with
    | .isTrue h => .isTrue (by rw [h])
    | .isFalse h => .isFalse (by simp [h])
  | .typed v, .typed w =>
    match Validator.decEq v w with
    | .isTrue h => .isTrue (by rw [h])
    | .isFalse h => .isFalse (by simp [h])
  | .reject _, .allow _ => .isFalse (by simp)
  | .reject _, .typed _ => .isFalse (by simp)
  | .allow _, .reject _ => .isFalse (by simp)
  | .allow _, .typed _ => .isFalse (by simp)
  | .typed _, .reject _ => .isFalse (by simp)
  | .typed _, .allow _ => .isFalse (by simp)

/-- Whether two validators that may be missing are the same. -/
def Validator.decEqSpare : (v w : Option Validator) → Decidable (v = w)
  | none, none => .isTrue rfl
  | none, some _ => .isFalse (by simp)
  | some _, none => .isFalse (by simp)
  | some v, some w =>
    match Validator.decEq v w with
    | .isTrue h => .isTrue (by rw [h])
    | .isFalse h => .isFalse (by simpa using h)

end

instance : DecidableEq Validator := Validator.decEq

end ApiTools
