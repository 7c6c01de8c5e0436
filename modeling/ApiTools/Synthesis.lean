import ApiTools.Compile
import ApiTools.Document
import ApiTools.Log
import ApiTools.Tool
import ApiTools.ToolName

/-!
# From an API description to tools

Each operation of a description becomes one tool. Its arguments are always a map: a request body of
another shape is the single argument `payload`. Its answer is checked only where it is documented
as a map. A reference that leads nowhere ends the whole synthesis.

## Main definitions

* `Synthesis.isPaginated`, `Synthesis.description` — the advice on paging.
* `Synthesis.inputValidator`, `Synthesis.outputValidator` — the validators of an operation.
* `Synthesis.tools` — the tools of a description.
-/

namespace ApiTools

namespace Synthesis

/-- Whether an operation takes a limit or an offset. -/
def isPaginated (document operation : Value) : Except Fault Bool := do
  let schema ← Document.requestSchema operation
  if !schema.isTruthy then return false
  let resolved ← Schema.resolve document schema [] 0
  let properties := ((resolved.node.get? "properties").getD .null).orElse (.map [])
  if ← properties.contains "limit" then return true else properties.contains "offset"

/-- The name of the argument for a request body that is no map. -/
def payloadName : String := "payload"

/-- The validator of a map with one argument that has to be there. -/
def payloadValidator (payload : Validator) : Validator :=
  .object .null [.mk (.text payloadName) payload (.bool true) (.bool false)] (.reject none)

/-- The validator of the arguments of an operation. -/
def inputValidator (document operation : Value) : Except Fault Validator := do
  let schema ← Document.requestSchema operation
  if !schema.isTruthy then return .emptyObject .null
  let resolved ← Schema.resolve document schema [] 0
  let validator ← Schema.compile document schema .input 0 []
  if Schema.isObject resolved.node then return validator else return payloadValidator validator

/-- The validator of the answer of an operation, if that is documented as a map. -/
def outputValidator (document operation : Value) : Except Fault (Option Validator) := do
  let schema ← Document.responseSchema operation Document.successStatuses
  if !schema.isTruthy then return none
  let resolved ← Schema.resolve document schema [] 0
  if Schema.isObject resolved.node then
    return some (← Schema.compile document schema .output 0 [])
  else
    return none

/-- The advice on paging. -/
def pagingAdvice : String := "Pagination: use limit and offset to page results."

/-- The description of an operation, with the advice on paging added once. -/
def description (operation : Value) (paginated : Bool) : Except Fault Value := do
  let summary ← operation.field "summary"
  let given := ((← operation.field "description").orElse summary).orElse (.text "")
  if !paginated then return given
  let text ← given.textOrFail
  if pagingAdvice.toList.isSuffixOf text.toList then return given
  return .text (if text.isEmpty then pagingAdvice else text ++ "\n\n" ++ pagingAdvice)

/-- A tool whose name may still be that of another one. -/
structure Draft where
  /-- The path of the operation. -/
  path : String
  /-- The method of the operation. -/
  method : String
  /-- The name made from the identifier. -/
  name : String
  /-- The summary of the operation. -/
  summary : Value
  /-- The description of the tool. -/
  description : Value
  /-- The validator of the arguments. -/
  input : Validator
  /-- The validator of the answer. -/
  output : Option Validator
  /-- The safety flags. -/
  annotations : Annotations

/-- The text of a path or an identifier, from which a name is made. -/
def nameText : Value → Except Fault String
  | .text s => .ok s
  | _ => .error .illTyped

/-- The draft of an operation. -/
def draft (document : Value) (operation : Document.Operation) : Except Fault Draft := do
  let body := operation.body
  let identifier ← nameText (← ToolName.identifier operation.path body)
  let summary ← body.field "summary"
  let description ← description body (← isPaginated document body)
  let path ← nameText operation.path
  let input ← inputValidator document body
  let output ← outputValidator document body
  let annotations ← Annotations.derive AnnotationRule.table identifier
  return { path, method := operation.method, name := ToolName.ofIdentifier identifier, summary,
           description, input, output, annotations }

/-- The log line of a draft. -/
def Draft.logLine (d : Draft) : LogLine :=
  { level := .debug
    speaker := "toolgen.synthesizer"
    text := "Compiled " ++ d.name ++ " from " ++ d.method.toUpper ++ " " ++ d.path }

/-- The tool of a draft, by its final name. -/
def Draft.toTool (d : Draft) (name : String) : Tool :=
  { name := .text name
    title := d.summary.orElse (.text name)
    description := d.description
    methodName := .text (ToolName.methodName d.path)
    input := d.input
    output := d.output
    annotations := d.annotations }

/-- The drafts of a description, operation by operation. -/
def drafts (document : Value) : Except Fault (List Draft) := do
  (← Document.operations document).mapM (draft document)

/-- The tools of drafts, their names made different. -/
def finish (drafts : List Draft) : List Tool :=
  (drafts.zip (ToolName.deduplicate (drafts.map fun d => (d.name, d.method)))).map
    fun (d, name) => d.toTool name

/-- The tools of a description. -/
def tools (document : Value) : Except Fault (List Tool) := do return finish (← drafts document)

end Synthesis

end ApiTools
