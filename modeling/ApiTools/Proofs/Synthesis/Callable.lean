import ApiTools.Proofs.Annotation.Flags
import ApiTools.Proofs.Schema.Satisfiable
import ApiTools.Proofs.Synthesis.Tools

/-!
# Tools that can be called

The arguments of a tool are put together so that maps are among what is accepted: the body is taken
as it is where its schema describes a map, and is put under a name otherwise.  So a tool can be
called exactly when its arguments require texts only.  Properties that are all given as maps have
texts as names; a composition may take properties from a list of pairs, and such a name may be
required and be no text.

## Main results

* `Synthesis.takesMaps_inputValidator` — the arguments of an operation may be a map.
* `Synthesis.exists_operation_of_mem_tools` — the arguments of a tool are those of an operation.
* `Synthesis.accepts_some_iff_requiresTexts` — **what is compiled accepts something, and a tool can
  be called, exactly when texts only are required.**
-/

namespace ApiTools

namespace Schema

variable {document schema : Value} {mode : Mode} {room : Nat} {visited : List String}
variable {node : Entries} {v w : Validator}

theorem takesMaps_withNull (h : v.TakesMaps) : (withNull node v).TakesMaps := by
  unfold withNull
  split
  · exact .nullable h
  · exact h

theorem takesMaps_described (h : v.TakesMaps) (hw : described node v = .ok w) : w.TakesMaps := by
  obtain ⟨text?, -, rfl⟩ := described_eq_ok_iff.mp hw
  cases text? with
  | none => exact h
  | some text => exact h.withDescription _

/-- The validator of a node that describes a map takes maps. -/
theorem takesMaps_bareValidator {compileChild : Value → Except Fault Validator}
    (h : isObject node = true) (hv : bareValidator compileChild mode node = .ok v) :
    v.TakesMaps := by
  by_cases hkind : kind node = .object
  · rw [bareValidator_of_object hkind] at hv
    obtain ⟨required, rules, extras, -, -, -, rfl⟩ := objectValidator_eq_ok_iff.mp hv
    exact .object
  · rw [bareValidator_of_overridden h hkind] at hv
    cases hv
    exact .any

/-- So does that of a schema that leads to such a node. -/
theorem takesMaps_compileWithin {r : Resolution}
    (hr : resolveWithin document (room + 1) schema visited = .ok r) (h : isObject r.node = true)
    (hv : compileWithin document mode (room + 1) schema visited = .ok v) : v.TakesMaps := by
  obtain ⟨bare, described, hbare, hdescribed, rfl⟩ := exists_bare_of_isObject hr h hv
  exact takesMaps_withNull (takesMaps_described (takesMaps_bareValidator h hbare) hdescribed)

end Schema

namespace Synthesis

variable {document operation : Value} {v : Validator}

/-- **The arguments of an operation may be a map.** -/
theorem takesMaps_inputValidator (h : inputValidator document operation = .ok v) :
    v.TakesMaps := by
  cases inputValidator_eq_ok_iff.mp h with
  | none _ _ _ hv => exact hv ▸ .object
  | body _ _ _ _ hr hobject hv => exact Schema.takesMaps_compileWithin hr hobject hv
  | payload _ _ _ _ _ _ _ _ hv => exact hv ▸ .object

/-- **The arguments of a tool are those of an operation.** -/
theorem exists_operation_of_mem_tools {found : List Tool} (h : tools document = .ok found)
    {tool : Tool} (htool : tool ∈ found) :
    ∃ operations, Document.operations document = .ok operations ∧
      ∃ operation ∈ operations, inputValidator document operation.body = .ok tool.input := by
  obtain ⟨operations, hoperations, operation, hmem, d, name, hdraft, rfl⟩ :=
    exists_draft_of_mem_tools h htool
  exact ⟨operations, hoperations, operation, hmem, (of_draft hdraft).input⟩

/-- The arguments of a tool are built as compiled validators are, and take maps. -/
theorem built_of_mem_tools {K : Scalar → Prop} {P : Value → Prop} (hP : Schema.Inherits K P)
    (hdocs : Schema.Documented P) (hname : K (.text payloadName)) (hdocument : P document)
    {found : List Tool}
    (h : tools document = .ok found) {tool : Tool} (htool : tool ∈ found) :
    tool.input.Built K P .input ∧ tool.input.TakesMaps := by
  obtain ⟨operations, hoperations, operation, hmem, hinput⟩ :=
    exists_operation_of_mem_tools h htool
  have hbody := Document.of_operations hP.toHereditary hdocument hoperations operation hmem
  exact ⟨built_inputValidator hP hdocs hname hdocument hbody hinput, takesMaps_inputValidator hinput⟩

/-- **What is compiled accepts a value in JSON, and the arguments of a tool a map in JSON, exactly
when texts only are required**; this is so whenever all properties are given as maps. -/
theorem accepts_some_iff_requiresTexts (hdocument : document.IsFiniteJson) :
    (∀ found, tools document = .ok found → ∀ tool ∈ found,
      (tool.input.IsCallable ↔ tool.input.core.requiresTexts = true) ∧
        (Schema.MapProperties document → tool.input.IsCallable)) ∧
    ∀ schema mode depth visited v, schema.IsFiniteJson →
      Schema.compile document schema mode depth visited = .ok v →
      (v.IsSatisfiable ↔ v.requiresTexts = true) ∧
        (Schema.MapProperties document → Schema.MapProperties schema → v.IsSatisfiable) := by
  have hP := Schema.inherits_of_hereditary Value.hereditary_isFiniteJson
  have hdocs := Schema.documented_of_recordable Value.recordable_isFiniteJson
  constructor
  · intro found hfound tool htool
    obtain ⟨hbuilt, htakes⟩ := built_of_mem_tools hP hdocs ⟨rfl, rfl⟩ hdocument hfound htool
    have hiff := hbuilt.isCallable_iff And.left htakes
    refine ⟨hiff, fun hmaps => hiff.mpr ?_⟩
    -- The same validator is built from names that are texts, if all properties are maps.
    have htexts := (built_of_mem_tools Schema.inherits_mapProperties Schema.documented_mapProperties
      ⟨_, rfl, rfl⟩ ⟨hdocument, hmaps⟩ hfound htool).1
    exact htexts.core.requiresTexts
  · intro schema mode depth visited v hschema hv
    have hiff := (Schema.built_compileWithin hP hdocs hdocument hschema hv).isSatisfiable_iff And.left
    exact ⟨hiff, fun hmaps hmaps' => hiff.mpr
      (Schema.requiresTexts_of_mapProperties ⟨hdocument, hmaps⟩ ⟨hschema, hmaps'⟩ hv)⟩

/-! ### One operation -/

/-- A description of one operation, with the given schema of its request body. -/
def documentOf (schema : Value) : Value :=
  .record [("paths", .record [("/notes", .record [("post", operationOf schema)])])]

/-- Nothing around the schema gives properties. -/
theorem mapProperties_documentOf {schema : Value} (h : Schema.MapProperties schema) :
    Schema.MapProperties (documentOf schema) := by
  unfold documentOf operationOf
  iterate 7 refine Schema.mapProperties_field (by decide) ?_
  exact h

/-- The tool of that operation. -/
def toolOf (input : Validator) : Tool where
  name := .text "outline_notes"
  title := .text "outline_notes"
  description := .text ""
  methodName := .text "notes"
  input := input
  output := none
  annotations := .unmarked

/-- An operation on notes that says nothing of itself makes that tool, with its own answer. -/
theorem exists_draft_of_notes {document body : Value} {input : Validator}
    {output : Option Validator} (hown : body.field "operationId" = .ok .null)
    (hsummary : body.field "summary" = .ok .null) (hlong : body.field "description" = .ok .null)
    (hpaginated : isPaginated document body = .ok false)
    (hinput : inputValidator document body = .ok input)
    (houtput : outputValidator document body = .ok output) :
    ∃ d, draft document ⟨.text "/notes", "post", body⟩ = .ok d ∧
      finish [d] = [{ toolOf input with output := output }] := by
  have hname : ToolName.methodName "/notes" = "notes" := by decide +kernel
  have hunmarked : Annotations.derive AnnotationRule.table "notes" = .ok .unmarked :=
    Annotations.derive_table_of_isSmall (by decide +kernel) (by decide +kernel)
  have hidentifier : ToolName.ofIdentifier "notes" = "outline_notes" := by decide +kernel
  obtain ⟨d, hdraft, hfinish⟩ :=
    exists_draft_of_unnamed hname hunmarked hown hsummary hlong hpaginated hinput houtput
  refine ⟨d, hdraft, ?_⟩
  rw [hfinish, unnamedTool, hidentifier]
  rfl

/-- So does the operation with the given schema of its request body. -/
theorem tools_documentOf {schema : Value} {input : Validator}
    (hpaginated : isPaginated (documentOf schema) (operationOf schema) = .ok false)
    (hinput : inputValidator (documentOf schema) (operationOf schema) = .ok input) :
    tools (documentOf schema) = .ok [toolOf input] := by
  obtain ⟨d, hdraft, hfinish⟩ := exists_draft_of_notes rfl rfl rfl hpaginated hinput rfl
  exact tools_eq_ok_iff.mpr ⟨_, [d], rfl, .cons hdraft .nil, hfinish.symm⟩

/-- The schema of a note with a title. -/
def titleSchema : Value :=
  .record [("properties", .record [("title", .record [("type", .text "string")])]),
    ("required", .list [.text "title"])]

/-- The arguments that make a note. -/
def titleValidator : Validator :=
  .object .null [.mk (.text "title") (.string .null none) (.bool true) (.bool false)] (.reject none)

/-- All properties in it are given as maps. -/
theorem mapProperties_titleSchema : Schema.MapProperties titleSchema := by
  refine Schema.mapProperties_record (fun v hv _ => ⟨_, (Option.some.inj hv).symm⟩) ?_
  rw [List.forall_mem_cons, List.forall_mem_singleton]
  refine ⟨?_, Schema.mapProperties_texts ["title"]⟩
  iterate 2 refine Schema.mapProperties_field (by decide) ?_
  exact Schema.mapProperties_text "string"

/-- The tool that makes a note can be called. -/
theorem accepts_some_titleSchema :
    (documentOf titleSchema).IsFiniteJson ∧ titleSchema.IsFiniteJson ∧
      Schema.MapProperties (documentOf titleSchema) ∧ Schema.MapProperties titleSchema ∧
      tools (documentOf titleSchema) = .ok [toolOf titleValidator] ∧
      titleValidator.core.requiresTexts = true ∧ titleValidator.IsCallable ∧
      Schema.compile (documentOf titleSchema) titleSchema .input 0 [] = .ok titleValidator ∧
      titleValidator.IsSatisfiable := by
  have hdocument : (documentOf titleSchema).IsFiniteJson := by decide
  have hschema : titleSchema.IsFiniteJson := by decide
  have hmaps := mapProperties_titleSchema
  have htools : tools (documentOf titleSchema) = .ok [toolOf titleValidator] :=
    tools_documentOf rfl rfl
  have hcompile : Schema.compile (documentOf titleSchema) titleSchema .input 0 [] =
      .ok titleValidator := by rfl
  obtain ⟨hcall, hsome⟩ := accepts_some_iff_requiresTexts hdocument
  obtain ⟨hcallable, -⟩ := hcall _ htools _ (List.mem_singleton_self _)
  obtain ⟨-, hsatisfiable⟩ := hsome _ _ _ _ _ hschema hcompile
  have hcore : titleValidator.core.requiresTexts = true := by decide
  exact ⟨hdocument, hschema, mapProperties_documentOf hmaps, hmaps, htools, hcore,
    hcallable.mpr hcore, hcompile, hsatisfiable (mapProperties_documentOf hmaps) hmaps⟩

/-- A composition whose branch lists its properties as pairs, and requires one that is no text. -/
def pairSchema : Value :=
  .record [("allOf", .list [.record [("properties",
    .list [.list [.int 1, .record [("type", .text "string")]]]), ("required", .list [.int 1])]])]

/-- The arguments that it leads to. -/
def pairValidator : Validator :=
  .object .null [.mk (.int 1) (.string .null none) (.bool true) (.bool false)] (.reject none)

/-- **Not every tool can be called**, and not every compiled validator accepts something: a property
that is no text may be required. -/
theorem required_pair_refuses :
    (documentOf pairSchema).IsFiniteJson ∧ pairSchema.IsFiniteJson ∧
      tools (documentOf pairSchema) = .ok [toolOf pairValidator] ∧
      (∀ es, (Value.map es).IsFiniteJson → pairValidator.isValid (.map es) = false) ∧
      Schema.compile (documentOf pairSchema) pairSchema .input 0 [] = .ok pairValidator ∧
      ∀ x : Value, x.IsFiniteJson → pairValidator.isValid x = false := by
  have hdocument : (documentOf pairSchema).IsFiniteJson := by decide
  have hschema : pairSchema.IsFiniteJson := by decide
  have hcompile : Schema.compile (documentOf pairSchema) pairSchema .input 0 [] =
      .ok pairValidator := by rfl
  have hbuilt := Schema.built_compileWithin
    (Schema.inherits_of_hereditary Value.hereditary_isFiniteJson)
    (Schema.documented_of_recordable Value.recordable_isFiniteJson) hdocument hschema hcompile
  have hnone : ¬pairValidator.IsSatisfiable := mt (hbuilt.isSatisfiable_iff And.left).mp (by decide)
  have hrefuses : ∀ x : Value, x.IsFiniteJson → pairValidator.isValid x = false := by
    intro x hx
    by_contra hvalid
    exact hnone ⟨x, hx, by simpa using hvalid⟩
  exact ⟨hdocument, hschema, tools_documentOf rfl rfl, fun es => hrefuses _, hcompile, hrefuses⟩

end Synthesis

end ApiTools
