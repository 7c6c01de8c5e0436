import ApiTools.Annotation
import ApiTools.Validator.Record
import ApiTools.Validator.Schema

/-!
# Tools

A tool is one callable operation of the service: its names, what its arguments have to be, what its
answer looks like if that is a map, and its safety flags. Tools are persisted as records.

## Main definitions

* `Tool` — a tool.
* `Tool.toRecord`, `Tool.ofRecord` — its record.
* `Tool.loadAll` — the tools of several records, with distinct names.
-/

namespace ApiTools

/-- One callable operation. -/
structure Tool where
  /-- The name that a client calls it by. -/
  name : Value
  /-- The name that people read. -/
  title : Value
  /-- What it does. -/
  description : Value
  /-- The method of the service that it calls. -/
  methodName : Value
  /-- What the arguments have to be. -/
  input : Validator
  /-- What the answer looks like, if that is documented as a map. -/
  output : Option Validator
  /-- The safety flags. -/
  annotations : Annotations
  deriving DecidableEq

namespace Tool

/-- The record of a tool. -/
def toRecord (tool : Tool) : Value :=
  .record [("name", tool.name), ("title", tool.title), ("description", tool.description),
    ("method_name", tool.methodName), ("input_validator", tool.input.toRecord),
    ("output_validator", (tool.output.map Validator.toRecord).getD .null),
    ("annotations", tool.annotations.toRecord)]

/-- The tool of a record. Its title may be missing, and is then its name. -/
def ofRecord (record : Value) : Except Fault Tool := do
  let output := (← record.field "output_validator")
  let name ← record.entry "name"
  let title := (← record.field "title").orElse name
  let description := (← record.field? "description").getD (.text "")
  let methodName ← record.entry "method_name"
  let input ← Validator.ofRecord (← record.entry "input_validator")
  let output ← if output.isTruthy then some <$> Validator.ofRecord output else pure none
  let annotations ← Annotations.ofRecord ((← record.field "annotations").orElse (.map []))
  return { name, title, description, methodName, input, output, annotations }

/-- The names that occur more than once, each one once. -/
def repeatedNames (names : List Value) : List Value :=
  (names.filter fun name => 1 < names.countP name.alike).foldl
    (fun found name => if found.any name.alike then found else found ++ [name]) []

/-- The fault for names that occur more than once. Only texts can be sorted and listed; of one
name alone only the listing fails. -/
def repeatedFault (names : List Value) : Fault :=
  match names.mapM Value.text? with
  | some texts =>
    .duplicateNames (texts.mergeSort fun a b => (compare (Text.codes a) (Text.codes b)).isLE)
  | none => .illTyped

/-- The tools of records, with distinct names. -/
def loadAll (records : Value) : Except Fault (List Tool) := do
  let tools ← (← records.elements).mapM ofRecord
  match repeatedNames (tools.map (·.name)) with
  | [] => return tools
  | names => throw (repeatedFault names)

/-- The schema of the arguments. -/
def inputSchema (tool : Tool) : Except Fault Value := do return (← tool.input.schema?).toValue

/-- The schema of the answer, absent if there is none. -/
def outputSchema (tool : Tool) : Except Fault Value :=
  match tool.output with
  | none => .ok .null
  | some v => do return (← v.schema?).toValue

end Tool

end ApiTools
