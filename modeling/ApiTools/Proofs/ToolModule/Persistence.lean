import ApiTools.Proofs.Synthesis.Records
import ApiTools.Proofs.ToolModule.Header

/-!
# The persisted tools are the synthesized ones

The context of tools holds their records, as they read back from JSON.  The records of synthesized
tools are values of JSON, so they read back as they are; the validators in them are tidy, so they
come back from their records as they are; and no name is there twice, so all are loaded.

## Main results

* `ToolModule.context_eq_ok` — what a context holds.
* `ToolModule.loadAll_context` — **the tools loaded from a context are those that it was made for.**
-/

namespace ApiTools

namespace ToolModule

/-- A context holds the records of tools as they read back, and their number. -/
theorem context_eq_ok {tools : List Tool} {document : Value} {ctx : Entries}
    (h : context tools document = .ok ctx) :
    ∃ records, tools.mapM (fun tool => Json.plain tool.toRecord) = .ok records ∧
      ctx.get? "tools" = some (.list records) ∧
      ctx.get? "tool_count" = some (.int records.length) := by
  obtain ⟨records, title, version, hrecords, -, -, rfl⟩ := context_eq_ok_iff.mp h
  exact ⟨records, hrecords, rfl, rfl⟩

/-- Records in JSON are kept as they are. -/
theorem mapM_plain_eq_ok {tools : List Tool} {records : List Value}
    (htools : ∀ tool ∈ tools, tool.toRecord.isJson = true)
    (h : tools.mapM (fun tool => Json.plain tool.toRecord) = .ok records) :
    records = tools.map Tool.toRecord := by
  have hall := Except.mapM_eq_ok_iff.mp h
  clear h
  induction hall with
  | nil => rfl
  | @cons tool record tools records hplain _ ih =>
    rw [List.forall_mem_cons] at htools
    rw [List.map_cons, Json.eq_of_plain htools.1 hplain, ih htools.2]

/-- **The tools loaded from the context of synthesized tools are these, in order**; the context
counts them, and their names are distinct texts. -/
theorem loadAll_context {document : Value} (hdocument : document.IsFiniteJson) {tools : List Tool}
    (htools : Synthesis.tools document = .ok tools) {ctx : Entries}
    (hctx : context tools document = .ok ctx) :
    Tool.loadAll ((ctx.get? "tools").getD .null) = .ok tools ∧
      ctx.get? "tool_count" = some (.int tools.length) ∧
      ∃ names : List String, tools.map Tool.name = names.map .text ∧ names.Nodup := by
  have hcompiled := Synthesis.isCompiled_of_mem_tools hdocument htools
  have hjson := Synthesis.of_toRecord Value.hereditary_isFiniteJson Value.recordable_isFiniteJson
    hdocument htools
  obtain ⟨names, hnames, hnodup⟩ := Synthesis.exists_names_tools htools
  obtain ⟨records, hrecords, hfield, hcount⟩ := context_eq_ok hctx
  -- The records are in JSON, so that nothing in them changes on the way.
  have hkept : records = tools.map Tool.toRecord :=
    mapM_plain_eq_ok (fun tool htool => (hjson tool htool).1) hrecords
  have htidy : tools.map Tool.tidy = tools :=
    (List.map_congr_left fun tool htool => (hcompiled tool htool).tidy_eq).trans (List.map_id tools)
  refine ⟨?_, by rw [hcount, hkept, List.length_map], names, hnames, hnodup⟩
  have hloaded := Tool.loadAll_toRecord (fun tool htool => (hcompiled tool htool).hasTitle) hnames
    hnodup
  rw [hfield, Option.getD_some, hkept, hloaded, htidy]

/-! ### Two operations of one name -/

/-- The schema of notes, of which some are drafts. -/
def noteSchema : Value :=
  .record [("type", .text "object"), ("description", .text "A note"),
    ("properties", .record [("kind", .record [("type", .text "string"),
      ("enum", .list [.text "draft", .text "final"])])])]

/-- A body in JSON with a schema. -/
def bodyOf (schema : Value) : Value :=
  .record [("content", .record [("application/json", .record [("schema", schema)])])]

/-- A description of two operations of one name. -/
def noteDocument : Value :=
  .record [("paths", .record [("/notes", .record [
    ("post", .record [("operationId", .text "notes.create"), ("summary", .text "Create a note"),
      ("requestBody", bodyOf noteSchema),
      ("responses", .record [("200",
        bodyOf (.record [("type", .text "object"), ("nullable", .bool true)]))])]),
    ("get", .record [("operationId", .text "notes.create")])])])]

/-- The tool of the first operation. -/
def createTool : Tool where
  name := .text "outline_notes_create"
  title := .text "Create a note"
  description := .text "Create a note"
  methodName := .text "notes"
  input := .object (.text "A note")
    [.mk (.text "kind") (.string .null (some [.text "draft", .text "final"])) (.bool false)
      (.bool false)] (.reject none)
  output := some (.nullable .null (.object .null [] (.allow none)))
  annotations := .unmarked

/-- The tool of the second operation, with the method in its name. -/
def otherTool : Tool where
  name := .text "outline_notes_create_get"
  title := .text "outline_notes_create_get"
  description := .text ""
  methodName := .text "notes"
  input := .emptyObject .null
  output := none
  annotations := .unmarked

/-- Both tools are loaded from their context. -/
theorem loadAll_context_noteDocument :
    noteDocument.IsFiniteJson ∧
      Synthesis.tools noteDocument = .ok [createTool, otherTool] ∧
      ∃ ctx, context [createTool, otherTool] noteDocument = .ok ctx ∧
        Tool.loadAll ((ctx.get? "tools").getD .null) = .ok [createTool, otherTool] ∧
        ctx.get? "tool_count" = some (.int 2) := by
  have hdocument : noteDocument.IsFiniteJson := by decide
  have htools : Synthesis.tools noteDocument = .ok [createTool, otherTool] :=
    Except.eq_ok_of_toOption (by decide +kernel)
  obtain ⟨ctx, hctx⟩ : ∃ ctx, context [createTool, otherTool] noteDocument = .ok ctx := ⟨_, rfl⟩
  obtain ⟨hloaded, hcount, -⟩ := loadAll_context hdocument htools hctx
  exact ⟨hdocument, htools, ctx, hctx, hloaded, hcount⟩

end ToolModule

end ApiTools
