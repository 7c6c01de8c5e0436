import ApiTools.Value.Access

/-!
# Reading an API description

An API description lists operations under `paths`, by path and method, and the shape of their
bodies under their content types. A part that is missing or empty reads as an empty map.

## Main definitions

* `Document.paths` — the paths of a description.
* `Document.operations` — the operations in the order of their tools.
* `Document.requestSchema`, `Document.responseSchema` — the schemas of the bodies of an operation.
-/

namespace ApiTools

namespace Document

/-- The paths of a description. -/
def paths (document : Value) : Except Fault Value := do
  return (← document.field "paths").orElse (.map [])

/-- The methods of a path that are looked at, in order. -/
def methods : List String := ["post", "get", "put", "patch", "delete"]

/-- One operation of a description. -/
structure Operation where
  /-- The path it is listed under. -/
  path : Value
  /-- The method it is listed under. -/
  method : String
  /-- What the description says of it. -/
  body : Value

/-- The operations of one path; what is no map has none. -/
def operationsOfPath (path : Scalar) (item : Value) : List Operation :=
  match item.bare with
  | .map item =>
    methods.filterMap fun method =>
      match Entries.get? item method with
      | none | some .null => none
      | some body => some ⟨.scalar path, method, body⟩
  | _ => []

/-- The operations of a description: paths in order, and the methods of a path in theirs. -/
def operations (document : Value) : Except Fault (List Operation) := do
  return (← (← paths document).entries).flatMap fun e => operationsOfPath e.1 e.2

/-- The schema that a body declares for its JSON form. -/
def bodySchema (body : Value) : Except Fault Value := do
  let content := (← (body.orElse (.map [])).field "content").orElse (.map [])
  let media := (← content.field "application/json").orElse (.map [])
  media.field "schema"

/-- The schema of the request body of an operation. -/
def requestSchema (operation : Value) : Except Fault Value := do
  bodySchema (← operation.field "requestBody")

/-- The first schema that the responses declare for one of the given statuses. -/
def firstSchema (responses : Value) : List String → Except Fault Value
  | [] => .ok .null
  | status :: statuses => do
    let schema ← bodySchema (← responses.field status)
    if schema.isTruthy then return schema else firstSchema responses statuses

/-- The statuses of a success that an output is documented for. -/
def successStatuses : List String := ["200", "201"]

/-- The schema of the response body of an operation. -/
def responseSchema (operation : Value) (statuses : List String) : Except Fault Value := do
  firstSchema ((← operation.field "responses").orElse (.map [])) statuses

end Document

end ApiTools
