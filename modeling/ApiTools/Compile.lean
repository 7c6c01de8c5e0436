import ApiTools.Schema.Resolution
import ApiTools.Validator.Basic

/-!
# From schemas to validators

A schema node is resolved and then read as a validator, in one of two modes. What a caller sends is
checked strictly: undeclared keys are refused unless the schema provides for them, and an optional
property may be left out but not null. What a service answers is checked loosely, so that no answer
is refused for drifting from its description: undeclared keys pass, lists of values stay open, and
an optional property may be null.

A node that leaves a choice, says nothing or was cut accepts every value.

## Main definitions

* `Mode` — strict for input, loose for output.
* `Schema.compile` — the validator of a node.
-/

namespace ApiTools

/-- How strictly a schema is read. -/
inductive Mode where
  /-- For what a caller sends. -/
  | input
  /-- For what a service answers. -/
  | output
  deriving DecidableEq

/-- The mode of a name. -/
def Mode.ofValue : Value → Except Fault Mode
  | .text "input" => .ok .input
  | .text "output" => .ok .output
  | v => .error (.unknownMode v)

namespace Schema

/-- Whether every value of a list is a text. -/
def allTexts (values : List Value) : Bool := values.all (·.text?.isSome)

/-- The validator of a text that is one of the given values, if there are any. -/
def stringValidator (mode : Mode) (values : List Value) : Validator :=
  if values.isEmpty then .string .null none
  else
    match mode, allTexts values with
    | .input, true => .string .null (some values)
    | .input, false => .literal .null values
    | .output, true => .string .null none
    | .output, false => .any .null

/-- The names that a node requires. -/
def requiredKeys (node : Entries) : Except Fault (List Scalar) := do
  let names ← (((node.get? "required").getD .null).orElse (.list [])).elements
  Value.members names

/-- The properties that a node declares. -/
def declaredProperties (node : Entries) : Entries :=
  match (node.get? "properties").map Value.bare with
  | some (.map properties) => properties
  | _ => []

/-- The rule for a property; null stands for an optional property of an answer. -/
def ruleFor (mode : Mode) (required : List Scalar) (name : Scalar) (validator : Validator) : Rule :=
  let isRequired := required.any (·.alike name)
  .mk (.scalar name) validator (.bool isRequired) (.bool (mode == .output && !isRequired))

/-- The validator of a map, given how to read the schemas in it. -/
def objectValidator (compileChild : Value → Except Fault Validator) (mode : Mode) (node : Entries) :
    Except Fault Validator := do
  let required ← requiredKeys node
  let rules ← (declaredProperties node).mapM fun (name, schema) => do
    return ruleFor mode required name (← compileChild schema)
  match mode with
  | .output => return .object .null rules (.allow none)
  | .input =>
    let extra := (node.get? "additionalProperties").getD .null
    match extra.bare with
    | .bool true => return .object .null rules (.allow none)
    | .map _ => return .object .null rules (.typed (← compileChild extra))
    | _ => return .object .null rules (.reject none)

/-- The validator of a resolved node before its description and its nullability, given how to read
the schemas in it. -/
def bareValidator (compileChild : Value → Except Fault Validator) (mode : Mode) (node : Entries) :
    Except Fault Validator :=
  match kind node with
  | .object => objectValidator compileChild mode node
  | .array =>
    let items := (node.get? "items").getD .null
    if items.isTruthy then do return .array .null (← compileChild items)
    else .ok (.array .null (.any .null))
  | .string => .ok (stringValidator mode (members node))
  | .number => .ok (.number .null)
  | .boolean => .ok (.boolean .null)
  | .enumeration =>
    match mode with
    | .input => .ok (.literal .null (members node))
    | .output => .ok (.any .null)
  | .reference | .composite | .union | .unresolved => .ok (.any .null)

/-- A validator with the description of a node. -/
def described (node : Entries) (validator : Validator) : Except Fault Validator := do
  match ← documentation node with
  | some text => return validator.withDescription (.text text)
  | none => return validator

/-- A validator that admits null if a node does. -/
def withNull (node : Entries) (validator : Validator) : Validator :=
  if isNullable node then .nullable .null validator else validator

/-- The validator of a node with the given room. -/
def compileWithin (document : Value) (mode : Mode) :
    Nat → Value → List String → Except Fault Validator
  | 0, _, _ => .ok (.any .null)
  | room + 1, schema, visited => do
    let ⟨node, visited⟩ ← resolveWithin document (room + 1) schema visited
    if node.isEmpty then return .any .null
    let bare ← bareValidator (fun child => compileWithin document mode room child visited) mode node
    return withNull node (← described node bare)

/-- The validator of a node at a depth. -/
def compile (document schema : Value) (mode : Mode) (depth : Int) (visited : List String) :
    Except Fault Validator :=
  compileWithin document mode (room depth) schema visited

end Schema

end ApiTools
