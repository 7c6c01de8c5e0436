import ApiTools.Proofs.Document.Parts
import ApiTools.Proofs.Schema.Record
import ApiTools.Proofs.Synthesis.Arguments
import ApiTools.Proofs.Tool.Record
import ApiTools.Proofs.ToolName.Deduplication

/-!
# What synthesized tools look like

Each tool comes from the draft of one operation and gets a name of its own.  Its validators are
compiled from the document, or put together from what is; its title is given, or it is its name; and
the rest of it is a text or stands in the document.

## Main definitions

* `Tool.IsCompiled` — a tool as it is made from a document in JSON with finite numbers.
* `Synthesis.unnamedTool` — the tool of an operation without an identifier.
* `Synthesis.OutputStep` — what the validator of an answer can be.
* `Synthesis.Draft.Made` — what a draft is made of, field by field.
* `Synthesis.Draft.Of` — what a draft takes from its operation.

## Main results

* `Synthesis.built_inputValidator`, `Synthesis.built_outputValidator` — the validators of an
  operation are built as compiled ones are.
* `Synthesis.draft_eq_ok_iff` — **a draft is made of what its operation says.**
* `Synthesis.tools_eq_ok_iff` — **tools are the finished drafts of the operations.**
* `Synthesis.exists_draft_of_mem_tools` — **a tool is that of the draft of an operation.**
* `Synthesis.isCompiled_of_mem_tools` — **synthesized tools are made so.**
* `Synthesis.exists_names_tools` — **their names are distinct texts.**
-/

namespace ApiTools

namespace Synthesis

/-! ### The validators of an operation -/

/-- What the validator of an answer can be. -/
inductive OutputStep (document operation : Value) (output : Option Validator) : Prop where
  /-- An answer without a schema has none. -/
  | none (schema : Value)
      (hschema : Document.responseSchema operation Document.successStatuses = .ok schema)
      (hfalsy : schema.isTruthy = false) (houtput : output = .none)
  /-- An answer that is documented as a map has that of its schema. -/
  | body (schema : Value)
      (hschema : Document.responseSchema operation Document.successStatuses = .ok schema)
      (htruthy : schema.isTruthy = true) (r : Schema.Resolution)
      (hr : Schema.resolve document schema [] 0 = .ok r) (hobject : Schema.isObject r.node = true)
      (v : Validator) (hv : Schema.compile document schema .output 0 [] = .ok v)
      (houtput : output = some v)
  /-- Any other answer has none. -/
  | other (schema : Value)
      (hschema : Document.responseSchema operation Document.successStatuses = .ok schema)
      (htruthy : schema.isTruthy = true) (r : Schema.Resolution)
      (hr : Schema.resolve document schema [] 0 = .ok r) (hother : Schema.isObject r.node = false)
      (houtput : output = .none)

section

variable {K : Scalar → Prop} {P : Value → Prop} {document operation : Value} {v : Validator}

/-- The validator of an answer is one of these. -/
theorem outputValidator_eq_ok_iff {output : Option Validator} :
    outputValidator document operation = .ok output ↔ OutputStep document operation output := by
  constructor
  · intro h
    obtain ⟨schema, hschema, h⟩ := Except.bind_eq_ok_iff.mp h
    split at h
    · next hfalsy => exact .none schema hschema (by simpa using hfalsy) (Except.ok.inj h).symm
    · next htruthy =>
      obtain ⟨r, hr, h⟩ := Except.bind_eq_ok_iff.mp h
      have htruthy : schema.isTruthy = true := by simpa using htruthy
      split at h
      · next hobject =>
        obtain ⟨v, hv, h⟩ := Except.bind_pure_eq_ok_iff.mp h
        exact .body schema hschema htruthy r hr hobject v hv h
      · next hother =>
        exact .other schema hschema htruthy r hr (by simpa using hother) (Except.ok.inj h).symm
  · intro h
    cases h with
    | none schema hschema hfalsy houtput =>
      refine Except.bind_eq_ok_iff.mpr ⟨schema, hschema, ?_⟩
      rw [if_pos (by simp [hfalsy]), houtput]
      rfl
    | body schema hschema htruthy r hr hobject v hv houtput =>
      refine Except.bind_eq_ok_iff.mpr ⟨schema, hschema, ?_⟩
      rw [if_neg (by simp [htruthy])]
      refine Except.bind_eq_ok_iff.mpr ⟨r, hr, ?_⟩
      rw [if_pos hobject]
      exact Except.bind_eq_ok_iff.mpr ⟨v, hv, houtput ▸ rfl⟩
    | other schema hschema htruthy r hr hother houtput =>
      refine Except.bind_eq_ok_iff.mpr ⟨schema, hschema, ?_⟩
      rw [if_neg (by simp [htruthy])]
      refine Except.bind_eq_ok_iff.mpr ⟨r, hr, ?_⟩
      rw [if_neg (by simp [hother]), houtput]
      rfl

theorem built_emptyObject {mode : Mode} (hmode : mode = .input) :
    (Validator.emptyObject .null).Built K P mode :=
  .object (Or.inl rfl) List.Pairwise.nil (by simp) (by simp) (.reject hmode) nofun

theorem built_payloadValidator (hname : K (.text payloadName)) (hv : v.Built K P .input) :
    (payloadValidator v).Built K P .input := by
  refine .object (Or.inl rfl) (List.pairwise_singleton _ _) ?_ ?_ (.reject rfl) nofun
  · rw [List.forall_mem_singleton]
    exact ⟨.text payloadName, true, hname, rfl⟩
  · rw [List.forall_mem_singleton]
    exact hv

/-- The validator of arguments is built as compiled ones are. -/
theorem built_inputValidator (hP : Schema.Inherits K P) (hdocs : Schema.Documented P)
    (hname : K (.text payloadName)) (hdocument : P document) (hoperation : P operation)
    (h : inputValidator document operation = .ok v) : v.Built K P .input := by
  cases inputValidator_eq_ok_iff.mp h with
  | none _ _ _ hv =>
    rw [hv]
    exact built_emptyObject rfl
  | body schema hschema _ _ _ _ hv =>
    have hgiven := Document.of_requestSchema hP.toHereditary hoperation hschema
    exact Schema.built_compileWithin hP hdocs hdocument hgiven hv
  | payload schema hschema _ _ _ _ w hw hv =>
    have hgiven := Document.of_requestSchema hP.toHereditary hoperation hschema
    rw [hv]
    exact built_payloadValidator hname (Schema.built_compileWithin hP hdocs hdocument hgiven hw)

/-- So is the validator of an answer. -/
theorem built_outputValidator (hP : Schema.Inherits K P) (hdocs : Schema.Documented P)
    (hdocument : P document) (hoperation : P operation) {output : Option Validator}
    (h : outputValidator document operation = .ok output) :
    ∀ v, output = some v → v.Built K P .output := by
  cases outputValidator_eq_ok_iff.mp h with
  | none _ _ _ houtput | other _ _ _ _ _ _ houtput =>
    rw [houtput]
    nofun
  | body schema hschema _ _ _ _ w hw houtput =>
    have hgiven := Document.of_responseSchema hP.toHereditary hoperation hschema
    intro v hv
    obtain rfl := Option.some.inj (houtput.symm.trans hv)
    exact Schema.built_compileWithin hP hdocs hdocument hgiven hw

end

end Synthesis

/-! ### Tools -/

/-- A tool as it is made from a document in JSON with finite numbers. -/
structure Tool.IsCompiled (tool : Tool) : Prop where
  /-- The title is given, or it is the name. -/
  hasTitle : tool.HasTitle
  /-- The validator of the arguments is built for requests. -/
  input : tool.input.Built Value.IsFiniteName Value.IsFiniteJson .input
  /-- The validator of the answer is built for answers. -/
  output : ∀ v, tool.output = some v → v.Built Value.IsFiniteName Value.IsFiniteJson .output

/-- The validators of such a tool are tidy. -/
theorem Tool.IsCompiled.tidy_eq {tool : Tool} (h : tool.IsCompiled) : tool.tidy = tool := by
  have houtput : tool.output.map Validator.tidy = tool.output := by
    cases hv : tool.output with
    | none => rfl
    | some v => rw [Option.map_some, (h.output v hv).tidy_eq]
  rw [Tool.tidy, h.input.tidy_eq, houtput]

/-- The fields of the record of a tool have distinct joined names. -/
theorem Tool.areNames_fields :
    Value.AreNames ["name", "title", "description", "method_name", "input_validator",
      "output_validator", "annotations"] := by
  decide +kernel

/-- So have those of the record of its safety flags. -/
theorem Annotations.areNames_fields :
    Value.AreNames ["read_only", "destructive", "idempotent", "open_world"] := by
  decide +kernel

/-- The record of a tool has a property when what the tool is made of has it. -/
theorem Tool.of_toRecord {P : Value → Prop} (hP : Value.Recordable P) {tool : Tool}
    (hname : P tool.name) (htitle : P tool.title) (hdescription : P tool.description)
    (hmethod : P tool.methodName) (hinput : P tool.input.toRecord)
    (houtput : ∀ v, tool.output = some v → P v.toRecord) : P tool.toRecord := by
  have hanswer : P ((tool.output.map Validator.toRecord).getD .null) := by
    cases hv : tool.output with
    | none => exact hP.null
    | some v => exact houtput v hv
  have hannotations : P tool.annotations.toRecord := hP.record Annotations.areNames_fields
    (by simpa using ⟨hP.bool _, hP.bool _, hP.bool _, hP.bool _⟩)
  refine hP.record Tool.areNames_fields ?_
  iterate 7 rw [List.forall_mem_cons]
  exact ⟨hname, htitle, hdescription, hmethod, hinput, hanswer, hannotations,
    List.forall_mem_nil _⟩

namespace Synthesis

variable {document : Value}

/-! ### Drafts -/

/-- The description of an operation is a text or stands in it. -/
theorem of_description {P : Value → Prop} (hP : Value.Hereditary P) (hrecord : Value.Recordable P)
    {operation v : Value} (h : P operation) {paginated : Bool}
    (hv : description operation paginated = .ok v) : P v := by
  obtain ⟨summary, hsummary, hv⟩ := Except.bind_eq_ok_iff.mp hv
  obtain ⟨own, hown, hv⟩ := Except.bind_eq_ok_iff.mp hv
  have hgiven : P ((own.orElse summary).orElse (.text "")) :=
    Value.orElse_cases (Value.orElse_cases (hP.field h hown) (hP.field h hsummary))
      (hrecord.text rfl)
  dsimp only at hv
  split at hv
  · exact Except.ok.inj hv ▸ hgiven
  · obtain ⟨text, htext, hv⟩ := Except.bind_eq_ok_iff.mp hv
    split at hv
    · exact Except.ok.inj hv ▸ hgiven
    · have hadvice : Text.isJoined pagingAdvice = true := by decide +kernel
      have hjoined : Text.isJoined text = true := by
        rw [Schema.eq_text_of_textOrFail htext] at hgiven
        exact hrecord.isJson hgiven
      rw [← Except.ok.inj hv]
      refine hrecord.text ?_
      split
      · exact hadvice
      · exact (Text.sided_isJoined.between (by decide)).mpr ⟨hjoined, hadvice⟩

/-- What a draft is made of, field by field. -/
structure Draft.Made (document : Value) (operation : Document.Operation) (d : Draft) : Prop where
  /-- The path is a text. -/
  path : nameText operation.path = .ok d.path
  /-- The method is that of the operation. -/
  method : d.method = operation.method
  /-- The name and the safety flags are made from the identifier. -/
  identifier : ∃ given identifier, ToolName.identifier operation.path operation.body = .ok given ∧
    nameText given = .ok identifier ∧ d.name = ToolName.ofIdentifier identifier ∧
      Annotations.derive AnnotationRule.table identifier = .ok d.annotations
  /-- The summary is the one given. -/
  summary : operation.body.field "summary" = .ok d.summary
  /-- The description advises on paging if the operation pages. -/
  description : ∃ paginated, isPaginated document operation.body = .ok paginated ∧
    Synthesis.description operation.body paginated = .ok d.description
  /-- The arguments are those of the operation. -/
  input : inputValidator document operation.body = .ok d.input
  /-- So is the answer. -/
  output : outputValidator document operation.body = .ok d.output

/-- **A draft is made of what its operation says**, and there is one if all of that can be read. -/
theorem draft_eq_ok_iff {operation : Document.Operation} {d : Draft} :
    draft document operation = .ok d ↔ d.Made document operation := by
  constructor
  · intro h
    obtain ⟨given, hgiven, h⟩ := Except.bind_eq_ok_iff.mp h
    obtain ⟨identifier, hidentifier, h⟩ := Except.bind_eq_ok_iff.mp h
    obtain ⟨summary, hsummary, h⟩ := Except.bind_eq_ok_iff.mp h
    obtain ⟨paginated, hpaginated, h⟩ := Except.bind_eq_ok_iff.mp h
    obtain ⟨text, htext, h⟩ := Except.bind_eq_ok_iff.mp h
    obtain ⟨path, hpath, h⟩ := Except.bind_eq_ok_iff.mp h
    obtain ⟨input, hinput, h⟩ := Except.bind_eq_ok_iff.mp h
    obtain ⟨output, houtput, h⟩ := Except.bind_eq_ok_iff.mp h
    obtain ⟨annotations, hannotations, rfl⟩ := Except.bind_pure_eq_ok_iff.mp h
    exact
      { path := hpath
        method := rfl
        identifier := ⟨given, identifier, hgiven, hidentifier, rfl, hannotations⟩
        summary := hsummary
        description := ⟨paginated, hpaginated, htext⟩
        input := hinput
        output := houtput }
  · rintro ⟨hpath, hmethod, ⟨given, identifier, hgiven, hidentifier, hname, hannotations⟩,
      hsummary, ⟨paginated, hpaginated, htext⟩, hinput, houtput⟩
    refine Except.bind_eq_ok_iff.mpr ⟨given, hgiven, ?_⟩
    refine Except.bind_eq_ok_iff.mpr ⟨identifier, hidentifier, ?_⟩
    refine Except.bind_eq_ok_iff.mpr ⟨d.summary, hsummary, ?_⟩
    refine Except.bind_eq_ok_iff.mpr ⟨paginated, hpaginated, ?_⟩
    refine Except.bind_eq_ok_iff.mpr ⟨d.description, htext, ?_⟩
    refine Except.bind_eq_ok_iff.mpr ⟨d.path, hpath, ?_⟩
    refine Except.bind_eq_ok_iff.mpr ⟨d.input, hinput, ?_⟩
    refine Except.bind_eq_ok_iff.mpr ⟨d.output, houtput, ?_⟩
    refine Except.bind_eq_ok_iff.mpr ⟨d.annotations, hannotations, ?_⟩
    rw [← hmethod, ← hname]
    rfl

/-- What a draft takes from its operation. -/
structure Draft.Of (document : Value) (operation : Document.Operation) (d : Draft) : Prop where
  /-- The summary is the one given. -/
  summary : operation.body.field "summary" = .ok d.summary
  /-- The description is put together from what is given. -/
  description : ∃ paginated, Synthesis.description operation.body paginated = .ok d.description
  /-- The arguments are those of the operation. -/
  input : inputValidator document operation.body = .ok d.input
  /-- So is the answer. -/
  output : outputValidator document operation.body = .ok d.output

theorem of_draft {operation : Document.Operation} {d : Draft}
    (h : draft document operation = .ok d) : d.Of document operation :=
  have made := draft_eq_ok_iff.mp h
  { summary := made.summary
    description := made.description.imp fun _ => And.right
    input := made.input
    output := made.output }

/-! ### Tools by their final names -/

/-- The title of the tool of a draft is given, or it is the name. -/
theorem Draft.hasTitle_toTool (d : Draft) (name : String) : (d.toTool name).HasTitle := by
  have htwice : ∀ v w : Value, (v.orElse w).orElse w = v.orElse w := by
    intro v w
    unfold Value.orElse
    split <;> simp_all
  exact htwice d.summary (.text name)

/-- A finished tool is the tool of a draft. -/
theorem exists_draft_of_mem_finish {found : List Draft} {tool : Tool} (h : tool ∈ finish found) :
    ∃ d ∈ found, ∃ name, tool = d.toTool name := by
  obtain ⟨⟨d, name⟩, hmem, rfl⟩ := List.mem_map.mp h
  exact ⟨d, (List.of_mem_zip hmem).1, name, rfl⟩

/-- **The tools of a description are the finished drafts of its operations.** -/
theorem tools_eq_ok_iff {found : List Tool} :
    tools document = .ok found ↔ ∃ operations made, Document.operations document = .ok operations ∧
      List.Forall₂ (fun operation d => draft document operation = .ok d) operations made ∧
        found = finish made := by
  unfold tools drafts
  constructor
  · intro h
    obtain ⟨made, hmade, h⟩ := Except.bind_eq_ok_iff.mp h
    obtain ⟨operations, hoperations, hmade⟩ := Except.bind_eq_ok_iff.mp hmade
    exact ⟨operations, made, hoperations, Except.mapM_eq_ok_iff.mp hmade, (Except.ok.inj h).symm⟩
  · rintro ⟨operations, made, hoperations, hmade, rfl⟩
    refine Except.bind_eq_ok_iff.mpr ⟨made, ?_, rfl⟩
    exact Except.bind_eq_ok_iff.mpr ⟨operations, hoperations, Except.mapM_eq_ok_iff.mpr hmade⟩

/-- **A tool is that of the draft of an operation.** -/
theorem exists_draft_of_mem_tools {found : List Tool} (h : tools document = .ok found)
    {tool : Tool} (htool : tool ∈ found) :
    ∃ operations, Document.operations document = .ok operations ∧ ∃ operation ∈ operations,
      ∃ d name, draft document operation = .ok d ∧ tool = d.toTool name := by
  obtain ⟨operations, made, hoperations, hmade, rfl⟩ := tools_eq_ok_iff.mp h
  obtain ⟨d, hd, name, heq⟩ := exists_draft_of_mem_finish htool
  obtain ⟨operation, hmem, hdraft⟩ := List.exists_of_mem_forall₂ hmade.flip hd
  exact ⟨operations, hoperations, operation, hmem, d, name, hdraft, heq⟩

/-- **Synthesized tools are made as said.** -/
theorem isCompiled_of_mem_tools (hdocument : document.IsFiniteJson) {found : List Tool}
    (h : tools document = .ok found) : ∀ tool ∈ found, tool.IsCompiled := by
  intro tool htool
  obtain ⟨operations, hoperations, operation, hmem, d, name, hdraft, rfl⟩ :=
    exists_draft_of_mem_tools h htool
  have hP := Schema.inherits_of_hereditary Value.hereditary_isFiniteJson
  have hdocs := Schema.documented_of_recordable Value.recordable_isFiniteJson
  have hbody := Document.of_operations hP.toHereditary hdocument hoperations operation hmem
  have hof := of_draft hdraft
  exact
    { hasTitle := d.hasTitle_toTool name
      input := built_inputValidator hP hdocs ⟨rfl, rfl⟩ hdocument hbody hof.input
      output := built_outputValidator hP hdocs hdocument hbody hof.output }

/-- **The names of synthesized tools are distinct texts.** -/
theorem exists_names_tools {found : List Tool} (h : tools document = .ok found) :
    ∃ names : List String, found.map Tool.name = names.map .text ∧ names.Nodup := by
  obtain ⟨-, made, -, -, rfl⟩ := tools_eq_ok_iff.mp h
  refine ⟨_, ?_, ToolName.nodup_deduplicate (made.map fun d => (d.name, d.method))⟩
  have hlength := ToolName.length_deduplicate (made.map fun d => (d.name, d.method))
  rw [List.length_map] at hlength
  rw [finish, List.map_map]
  conv_rhs => rw [← List.map_snd_zip hlength.le, List.map_map]
  rfl

/-! ### Operations without an identifier -/

/-- The tool of an operation that has no identifier and does not page: it is named after its path. -/
def unnamedTool (name : String) (summary long : Value) (input : Validator)
    (output : Option Validator) : Tool where
  name := .text (ToolName.ofIdentifier name)
  title := summary.orElse (.text (ToolName.ofIdentifier name))
  description := (long.orElse summary).orElse (.text "")
  methodName := .text name
  input := input
  output := output
  annotations := .unmarked

section

variable {path method name : String} {body summary long : Value} {input : Validator}
variable {output : Option Validator}

/-- **An operation without an identifier is named after its path.** -/
theorem exists_draft_of_unnamed (hname : ToolName.methodName path = name)
    (hunmarked : Annotations.derive AnnotationRule.table name = .ok .unmarked)
    (hown : body.field "operationId" = .ok .null) (hsummary : body.field "summary" = .ok summary)
    (hlong : body.field "description" = .ok long)
    (hpaginated : isPaginated document body = .ok false)
    (hinput : inputValidator document body = .ok input)
    (houtput : outputValidator document body = .ok output) :
    ∃ d, draft document ⟨.text path, method, body⟩ = .ok d ∧
      finish [d] = [unnamedTool name summary long input output] := by
  have hidentifier : ToolName.identifier (.text path) body = .ok (.text name) := by
    unfold ToolName.identifier
    rw [hown, ← hname]
    rfl
  have hdescription : description body false = .ok ((long.orElse summary).orElse (.text "")) := by
    unfold description
    rw [hsummary, hlong]
    rfl
  refine ⟨⟨path, method, ToolName.ofIdentifier name, summary,
    (long.orElse summary).orElse (.text ""), input, output, .unmarked⟩,
    draft_eq_ok_iff.mpr ?_, ?_⟩
  · exact
      { path := rfl
        method := rfl
        identifier := ⟨_, name, hidentifier, rfl, rfl, hunmarked⟩
        summary := hsummary
        description := ⟨false, hpaginated, hdescription⟩
        input := hinput
        output := houtput }
  · rw [unnamedTool, ← hname]
    rfl

/-- If it is the only operation of a description, its tool is the only one. -/
theorem tools_of_unnamed
    (hoperations : Document.operations document = .ok [⟨.text path, method, body⟩])
    (hname : ToolName.methodName path = name)
    (hunmarked : Annotations.derive AnnotationRule.table name = .ok .unmarked)
    (hown : body.field "operationId" = .ok .null) (hsummary : body.field "summary" = .ok summary)
    (hlong : body.field "description" = .ok long)
    (hpaginated : isPaginated document body = .ok false)
    (hinput : inputValidator document body = .ok input)
    (houtput : outputValidator document body = .ok output) :
    tools document = .ok [unnamedTool name summary long input output] := by
  obtain ⟨d, hdraft, hfinish⟩ :=
    exists_draft_of_unnamed hname hunmarked hown hsummary hlong hpaginated hinput houtput
  exact tools_eq_ok_iff.mpr ⟨_, [d], hoperations, .cons hdraft .nil, hfinish.symm⟩

end

end Synthesis

end ApiTools
