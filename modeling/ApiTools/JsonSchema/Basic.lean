import ApiTools.Value.Access

/-!
# Schemas for clients

A client is told what values are accepted by a JSON Schema. A schema is a list of keywords in the
order in which they are written, and every keyword is a check of its own.

## Main definitions

* `JsonSchema`, `Keyword` — a schema and its checks.
* `JsonSchema.toValue` — the schema as a document.
-/

namespace ApiTools

/-- The types that a schema can ask for. -/
inductive TypeName where
  /-- Texts. -/
  | string
  /-- Numbers, booleans not among them. -/
  | number
  /-- Truth values. -/
  | boolean
  /-- Lists. -/
  | array
  /-- Maps. -/
  | object
  /-- The absent value. -/
  | null
  deriving DecidableEq

namespace TypeName

/-- The word for a type. -/
def word : TypeName → String
  | string => "string"
  | number => "number"
  | boolean => "boolean"
  | array => "array"
  | object => "object"
  | null => "null"

/-- Whether a value is of a type. -/
def admits : TypeName → Value → Bool
  | string, .text _ => true
  | number, .int _ => true
  | number, .double _ => true
  | boolean, .bool _ => true
  | array, .list _ => true
  | object, .map _ => true
  | null, .null => true
  | _, _ => false

end TypeName

mutual

/-- A schema: its keywords in order. -/
inductive JsonSchema where
  /-- The schema of the given keywords. -/
  | mk (keywords : List Keyword)

/-- One check of a schema, or its description. -/
inductive Keyword where
  /-- The value is of a type. -/
  | type (name : TypeName)
  /-- The value is one of a list. -/
  | enum (members : List Value)
  /-- The values at the given keys of a map satisfy the schemas beside them. -/
  | properties (schemas : List (Scalar × JsonSchema))
  /-- Each item of a list satisfies a schema. -/
  | items (schema : JsonSchema)
  /-- The value satisfies one of several schemas. -/
  | anyOf (alternatives : List JsonSchema)
  /-- A map has the given keys. -/
  | required (names : List Value)
  /-- A map has no key beside those of its properties. -/
  | closed
  /-- The values at the keys of a map beside those of its properties satisfy a schema. -/
  | additional (schema : JsonSchema)
  /-- A description, which is no check. -/
  | description (text : Value)

end

namespace JsonSchema

/-- The keywords of a schema. -/
def keywords : JsonSchema → List Keyword
  | mk keywords => keywords

/-- The type that a list of keywords asks for. -/
def typeOf : List Keyword → Option TypeName
  | [] => none
  | .type name :: _ => some name
  | _ :: keywords => typeOf keywords

/-- The keys that a list of keywords has properties for. -/
def declaredKeys : List Keyword → List Scalar
  | [] => []
  | .properties schemas :: _ => schemas.map (·.1)
  | _ :: keywords => declaredKeys keywords

mutual

/-- A schema as a document. -/
def toValue : JsonSchema → Value
  | .mk keywords => .map (keywordEntries keywords)

/-- The entries of keywords. -/
def keywordEntries : List Keyword → Entries
  | [] => []
  | .type name :: ks => (.text "type", .text name.word) :: keywordEntries ks
  | .enum members :: ks => (.text "enum", .list members) :: keywordEntries ks
  | .properties schemas :: ks =>
    (.text "properties", .map (propertyEntries schemas)) :: keywordEntries ks
  | .items schema :: ks => (.text "items", toValue schema) :: keywordEntries ks
  | .anyOf alternatives :: ks => (.text "anyOf", .list (toValues alternatives)) :: keywordEntries ks
  | .required names :: ks => (.text "required", .list names) :: keywordEntries ks
  | .closed :: ks => (.text "additionalProperties", .bool false) :: keywordEntries ks
  | .additional schema :: ks => (.text "additionalProperties", toValue schema) :: keywordEntries ks
  | .description text :: ks => (.text "description", text) :: keywordEntries ks

/-- The entries of properties. -/
def propertyEntries : List (Scalar × JsonSchema) → Entries
  | [] => []
  | (key, schema) :: schemas => (key, toValue schema) :: propertyEntries schemas

/-- Schemas as documents. -/
def toValues : List JsonSchema → List Value
  | [] => []
  | schema :: schemas => toValue schema :: toValues schemas

end

end JsonSchema

end ApiTools
