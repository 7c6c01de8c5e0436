import ApiTools.Json.Writer
import ApiTools.Synthesis
import ApiTools.Value.Layout

/-!
# The generated module

The tools of a description are written out as the source text of a module that rebuilds them. The
text is filled in from a context: the tools as plain records, their number, and the title and
version of the description. A name that the context lacks is filled in as nothing.

## Main definitions

* `ToolModule.context` — the context of tools.
* `ToolModule.render` — the text for a context.
* `ToolModule.readsBack` — whether the tools come back from their context.
-/

namespace ApiTools

namespace ToolModule

/-- What a description says of itself under a name, or what to take if it does not say. -/
def infoField (document : Value) (name fallback : String) : Except Fault Value := do
  let info := (← document.field "info").orElse (.map [])
  return (← info.field? name).getD (.text fallback)

/-- The context of tools and the description that they come from. -/
def context (tools : List Tool) (document : Value) : Except Fault Entries := do
  let records ← tools.mapM fun tool => Json.plain tool.toRecord
  let title ← infoField document "title" "Outline API"
  let version ← infoField document "version" "unknown"
  return [(.text "tools", .list records), (.text "tool_count", .int records.length),
    (.text "api_title", title), (.text "api_version", version)]

/-- The value at a name, as it is filled in. -/
def slot (context : Entries) (name : String) : Except Fault String :=
  match context.get? name with
  | some v => v.shown
  | none => .ok ""

/-- The name of a tool, for the comment above it. -/
def toolName : Value → Except Fault String
  | .map tool => slot tool "name"
  | _ => .ok ""

/-- The text with its lines after the first one moved to the right. -/
def shifted (text : String) : String :=
  String.ofList (text.toList.flatMap fun c => if c = '\n' then "\n    ".toList else [c])

/-- The lines of one tool. -/
def toolLines (tool : Value) : Except Fault String := do
  return "    # " ++ (← toolName tool) ++ "\n    " ++ shifted tool.layout ++ ",\n"

/-- What stands above the tools. -/
def header (title version count : String) : String :=
  "\"\"\"Outline MCP tool definitions, generated from " ++ title ++ " " ++ version ++ ".\n\n"
    ++ "Do not edit by hand. Regenerate with: python -m toolgen\n\"\"\"\n\n"
    ++ "from __future__ import annotations\n\nfrom types import MappingProxyType\n\n"
    ++ "from toolgen.models import ToolDefinition, load_tool_definitions\n\n"
    ++ "TOOL_COUNT = " ++ count ++ "\n\n_TOOL_DATA: list[dict] = [\n"

/-- What stands below the tools. -/
def footer : String :=
  "]\n\nTOOLS: tuple[ToolDefinition, ...] = load_tool_definitions(_TOOL_DATA)\n\n"
    ++ "TOOLS_BY_NAME = MappingProxyType(\x7btool.name: tool for tool in TOOLS\x7d)\n"

/-- The text for a context. -/
def render (context : Entries) : Except Fault String := do
  let tools ← ((context.get? "tools").getD (.list [])).elements
  let title ← slot context "api_title"
  let version ← slot context "api_version"
  let count ← slot context "tool_count"
  return header title version count ++ String.join (← tools.mapM toolLines) ++ footer

/-- Whether tools come back from the records of their context. -/
def readsBack (tools : List Tool) (context : Entries) : Except Fault Bool := do
  let rebuilt ← Tool.loadAll ((context.get? "tools").getD .null)
  return (Value.list (rebuilt.map Tool.toRecord)).alike (.list (tools.map Tool.toRecord))

end ToolModule

end ApiTools
