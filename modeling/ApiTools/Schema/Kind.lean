import ApiTools.Json.Writer
import ApiTools.Value.Access

/-!
# Kinds of schema

A schema node is a map of the description. What it describes is read off its keys: whether it names
another node, composes several ones, leaves a choice, or has a type. Null is declared apart from
the type, by `nullable` or as a member of a list of types.

## Main definitions

* `SchemaKind` — the kinds.
* `Schema.declaredTypes`, `Schema.isNullable`, `Schema.isObject`, `Schema.kind` — what a node says.
* `Schema.documentation` — the text that documents a node.
-/

namespace ApiTools

/-- What a schema node describes. -/
inductive SchemaKind where
  /-- Another node, by reference. -/
  | reference
  /-- All of several nodes. -/
  | composite
  /-- One of several nodes or types. -/
  | union
  /-- A map. -/
  | object
  /-- A sequence. -/
  | array
  /-- A text. -/
  | string
  /-- A number. -/
  | number
  /-- A truth value. -/
  | boolean
  /-- One of several values. -/
  | enumeration
  /-- Nothing that is known. -/
  | unresolved
  deriving DecidableEq

/-- The name of a kind. -/
def SchemaKind.name : SchemaKind → String
  | reference => "reference"
  | composite => "composite"
  | union => "union"
  | object => "object"
  | array => "array"
  | string => "string"
  | number => "number"
  | boolean => "boolean"
  | enumeration => "enum"
  | unresolved => "unresolved"

namespace Schema

/-- The declared types other than null, and whether null is among them. -/
def declaredTypes (node : Entries) : List String × Bool :=
  match (node.get? "type").map Value.bare with
  | some (.text name) => ([name], false)
  | some (.list items) =>
    (items.filterMap fun v => v.text?.filter (· != "null"), items.any (·.alike (.text "null")))
  | _ => ([], false)

/-- Whether a node admits null. -/
def isNullable (node : Entries) : Bool :=
  node.get? "nullable" == some (.bool true) || (declaredTypes node).2

/-- Whether a node has a map of properties. -/
def hasProperties (node : Entries) : Bool :=
  match (node.get? "properties").map Value.bare with
  | some (.map _) => true
  | _ => false

/-- Whether a node describes a map. -/
def isObject (node : Entries) : Bool :=
  match (declaredTypes node).1 with
  | [] => hasProperties node
  | [name] => name == "object" || hasProperties node
  | _ => false

/-- The kind of a type that is no map. -/
def primitiveKind? (name : String) : Option SchemaKind :=
  if name = "array" then some .array
  else if name = "string" then some .string
  else if name = "integer" ∨ name = "number" then some .number
  else if name = "boolean" then some .boolean
  else none

/-- The values a node is restricted to, if it lists any. -/
def members (node : Entries) : List Value :=
  match (node.get? "enum").map Value.bare with
  | some (.list items) => items
  | _ => []

/-- The kind of a node. -/
def kind (node : Entries) : SchemaKind :=
  let has := fun name => node.hasKey (.text name)
  if node.isEmpty then .unresolved
  else if has "$ref" then .reference
  else if has "allOf" then .composite
  else if has "oneOf" || has "anyOf" then .union
  else if 1 < (declaredTypes node).1.length then .union
  else if isObject node then .object
  else
    match (declaredTypes node).1.head?.bind primitiveKind? with
    | some kind => kind
    | none => if (members node).isEmpty then .unresolved else .enumeration

/-- The text that documents a node: its description, and its example in JSON. -/
def documentation (node : Entries) : Except Fault (Option String) := do
  let description? ← ((node.get? "description").filter Value.isTruthy).mapM Value.shown
  let example? ← (node.get? "example").mapM (Json.write Json.compact)
  let parts := description?.toList ++ (example?.map ("Example: " ++ ·)).toList
  return if parts.isEmpty then none else some (" ".intercalate parts)

/-! ### Values that may be no node -/

/-- Whether a value describes a map; what does not count as given describes nothing. -/
def describesObject (v : Value) : Except Fault Bool := do
  if v.isTruthy then return isObject (← v.entries) else return false

/-- The kind of a value as a node. -/
def kindOf (v : Value) : SchemaKind :=
  match v.bare with
  | .map node => kind node
  | _ => .unresolved

end Schema

end ApiTools
