import ApiTools.Proofs.Document.Extension
import ApiTools.Proofs.Schema.Reference
import ApiTools.Proofs.Synthesis.Tools

/-!
# Tools of a document with further paths

The tool of an operation depends on the document only through the references that are followed for
it, and its name only on the operations before it.  So tools stay as they are when further paths are
put after those of a document.

## Main definitions

* `Synthesis.followedRefs` — the references that the synthesis of a document follows.

## Main results

* `Synthesis.draft_of_keeps` — the draft of an operation depends on the references followed.
* `Synthesis.isPrefix_finish` — the first tools do not depend on further drafts.
* `Synthesis.tools_prefix_of_extends` — **further paths leave the tools of a document alone.**
-/

namespace ApiTools

namespace Synthesis

open Schema

/-! ### The references followed for an operation -/

/-- The references followed for the arguments of an operation. -/
def inputRefs (document operation : Value) : List String :=
  match Document.requestSchema operation with
  | .ok schema => if schema.isTruthy then compilationRefs document .input (room 0) schema [] else []
  | .error _ => []

/-- The references followed for the answer of an operation. It is compiled only if it is documented
as a map. -/
def outputRefs (document operation : Value) : List String :=
  match Document.responseSchema operation Document.successStatuses with
  | .ok schema =>
    if schema.isTruthy then
      match resolve document schema [] 0 with
      | .ok r =>
        if isObject r.node then compilationRefs document .output (room 0) schema []
        else resolutionRefs document (room 0) schema []
      | .error _ => resolutionRefs document (room 0) schema []
    else []
  | .error _ => []

/-- The references that the synthesis of a document follows, operation by operation. -/
def followedRefs (document : Value) : List String :=
  ((Document.operations document).toOption.getD []).flatMap fun operation =>
    inputRefs document operation.body ++ outputRefs document operation.body

/-! ### The draft of an operation -/

variable {document other operation : Value}

/-- What is followed for the arguments is what is followed to compile the schema of the body. -/
theorem keeps_of_request (hkeeps : Keeps document other (inputRefs document operation))
    {schema : Value} (hschema : Document.requestSchema operation = .ok schema)
    (htruthy : schema.isTruthy = true) :
    Keeps document other (compilationRefs document .input (room 0) schema []) := by
  rw [inputRefs, hschema] at hkeeps
  dsimp only at hkeeps
  rwa [if_pos htruthy] at hkeeps

theorem isPaginated_of_keeps (hkeeps : Keeps document other (inputRefs document operation))
    {paginated : Bool} (h : isPaginated document operation = .ok paginated) :
    isPaginated other operation = .ok paginated := by
  obtain ⟨schema, hschema, h⟩ := Except.bind_eq_ok_iff.mp h
  refine Except.bind_eq_ok_iff.mpr ⟨schema, hschema, ?_⟩
  split at h
  · next hfalsy =>
    rw [if_pos hfalsy]
    exact h
  · next htruthy =>
    rw [if_neg htruthy]
    obtain ⟨r, hr, h⟩ := Except.bind_eq_ok_iff.mp h
    have hkeeps := keeps_of_request hkeeps hschema (by simpa using htruthy)
    have hr := resolveWithin_of_keeps (hkeeps.mono (resolutionRefs_subset _ _ _ _ _)) hr
    exact Except.bind_eq_ok_iff.mpr ⟨r, hr, h⟩

theorem inputValidator_of_keeps (hkeeps : Keeps document other (inputRefs document operation))
    {v : Validator} (h : inputValidator document operation = .ok v) :
    inputValidator other operation = .ok v := by
  refine inputValidator_eq_ok_iff.mpr ?_
  cases inputValidator_eq_ok_iff.mp h with
  | none schema hschema hfalsy hv => exact .none schema hschema hfalsy hv
  | body schema hschema htruthy r hr hobject hv =>
    have hkeeps := keeps_of_request hkeeps hschema htruthy
    have hr := resolveWithin_of_keeps (hkeeps.mono (resolutionRefs_subset _ _ _ _ _)) hr
    exact .body schema hschema htruthy r hr hobject (compileWithin_of_keeps hkeeps hv)
  | payload schema hschema htruthy r hr hother w hw hv =>
    have hkeeps := keeps_of_request hkeeps hschema htruthy
    have hr := resolveWithin_of_keeps (hkeeps.mono (resolutionRefs_subset _ _ _ _ _)) hr
    exact .payload schema hschema htruthy r hr hother w (compileWithin_of_keeps hkeeps hw) hv

theorem outputValidator_of_keeps (hkeeps : Keeps document other (outputRefs document operation))
    {output : Option Validator} (h : outputValidator document operation = .ok output) :
    outputValidator other operation = .ok output := by
  refine outputValidator_eq_ok_iff.mpr ?_
  cases outputValidator_eq_ok_iff.mp h with
  | none schema hschema hfalsy houtput => exact .none schema hschema hfalsy houtput
  | body schema hschema htruthy r hr hobject v hv houtput =>
    have hkeeps : Keeps document other (compilationRefs document .output (room 0) schema []) := by
      simpa only [outputRefs, hschema, htruthy, hr, hobject, if_true] using hkeeps
    have hr := resolveWithin_of_keeps (hkeeps.mono (resolutionRefs_subset _ _ _ _ _)) hr
    exact .body schema hschema htruthy r hr hobject v (compileWithin_of_keeps hkeeps hv) houtput
  | other schema hschema htruthy r hr hother houtput =>
    have hkeeps : Keeps document other (resolutionRefs document (room 0) schema []) := by
      simpa [outputRefs, hschema, htruthy, hr, hother] using hkeeps
    exact .other schema hschema htruthy r (resolveWithin_of_keeps hkeeps hr) hother houtput

/-- **The draft of an operation depends on the document only through the references followed.** -/
theorem draft_of_keeps {operation : Document.Operation}
    (hkeeps : Keeps document other
      (inputRefs document operation.body ++ outputRefs document operation.body))
    {d : Draft} (h : draft document operation = .ok d) : draft other operation = .ok d := by
  have hrequest := hkeeps.mono (List.subset_append_left _ _)
  have hanswer := hkeeps.mono (List.subset_append_right _ _)
  have made := draft_eq_ok_iff.mp h
  -- The paging, the arguments and the answer are all that is read off the document.
  exact draft_eq_ok_iff.mpr
    { path := made.path
      method := made.method
      identifier := made.identifier
      summary := made.summary
      description := made.description.imp fun _ => And.imp_left (isPaginated_of_keeps hrequest)
      input := inputValidator_of_keeps hrequest made.input
      output := outputValidator_of_keeps hanswer made.output }

/-! ### Tools by their final names -/

/-- **The first tools do not depend on further drafts.** -/
theorem isPrefix_finish (first more : List Draft) : finish first <+: finish (first ++ more) := by
  obtain ⟨rest, hrest⟩ := ToolName.isPrefix_deduplicateKind ToolName.textKind
    (List.prefix_append (first.map fun d => (d.name, d.method))
      (more.map fun d => (d.name, d.method)))
  have hlength : first.length =
      (ToolName.deduplicate (first.map fun d => (d.name, d.method))).length := by
    rw [ToolName.length_deduplicate, List.length_map]
  have hnames : ToolName.deduplicate ((first ++ more).map fun d => (d.name, d.method)) =
      ToolName.deduplicate (first.map fun d => (d.name, d.method)) ++ rest := by
    rw [List.map_append]
    exact hrest.symm
  rw [finish, finish, hnames, List.zip_append hlength, List.map_append]
  exact List.prefix_append _ _

/-! ### Documents with further paths -/

variable {extended : Value}

/-- The drafts of a document are the first ones when further paths follow. -/
theorem drafts_of_extends (h : Document.Extends document extended)
    (hrefs : "#/paths" ∉ followedRefs document) {found all : List Draft}
    (hfound : drafts document = .ok found) (hall : drafts extended = .ok all) :
    ∃ more, all = found ++ more := by
  obtain ⟨operations, further, hoperations, hextended⟩ := h.operations
  rw [drafts, hoperations] at hfound
  rw [drafts, hextended] at hall
  replace hfound : operations.mapM (draft document) = .ok found := hfound
  replace hall : (operations ++ further).mapM (draft extended) = .ok all := hall
  rw [List.mapM_append] at hall
  obtain ⟨first, hfirst, hall⟩ := Except.bind_eq_ok_iff.mp hall
  obtain ⟨more, -, hall⟩ := Except.bind_eq_ok_iff.mp hall
  -- Each operation of the document has the same draft in both.
  have hsame : operations.mapM (draft extended) = .ok found := by
    have hkeeps : ∀ operation ∈ operations, Keeps document extended
        (inputRefs document operation.body ++ outputRefs document operation.body) := by
      intro operation hmem name hname target
      refine h.resolveValue fun heq => hrefs ?_
      rw [followedRefs, hoperations, ← heq]
      exact List.mem_flatMap.mpr ⟨operation, hmem, hname⟩
    refine Except.mapM_eq_ok_iff.mpr ?_
    refine ((List.forall₂_and_left _ _).mpr ⟨hkeeps, Except.mapM_eq_ok_iff.mp hfound⟩).imp ?_
    rintro operation d ⟨hkeeps, hd⟩
    exact draft_of_keeps hkeeps hd
  obtain rfl := Except.ok.inj (hsame.symm.trans hfirst)
  exact ⟨more, (Except.ok.inj hall).symm⟩

/-- **Further paths leave the tools of a document alone**: if no reference that is followed names all
paths, the tools of the document are the first ones of the document with further paths.  Names are
made different in the same way whatever follows, in lists of names and in records of tools. -/
theorem tools_prefix_of_extends :
    (∀ document extended found all, Document.Extends document extended →
      "#/paths" ∉ followedRefs document → tools document = .ok found → tools extended = .ok all →
      found <+: all) ∧
    (∀ first more : List (String × String),
      ToolName.deduplicate first <+: ToolName.deduplicate (first ++ more)) ∧
    ∀ first more renamed, ToolName.renamedRecords (first ++ more) = .ok renamed →
      ∃ own, ToolName.renamedRecords first = .ok own ∧ own <+: renamed := by
  refine ⟨?_, ?_, ?_⟩
  · intro document extended found all h hrefs hfound hall
    obtain ⟨own, hown, hfound⟩ := Except.bind_eq_ok_iff.mp hfound
    obtain ⟨drafts, hdrafts, hall⟩ := Except.bind_eq_ok_iff.mp hall
    obtain ⟨more, rfl⟩ := drafts_of_extends h hrefs hown hdrafts
    rw [← Except.ok.inj hfound, ← Except.ok.inj hall]
    exact isPrefix_finish own more
  · intro first more
    exact ToolName.isPrefix_deduplicateKind ToolName.textKind (List.prefix_append first more)
  · intro first more renamed h
    exact ToolName.renamedRecords_append h

/-- The paths of a description of one operation, which takes a note. -/
def notePaths : Entries :=
  [(.text "/notes.create", .record [("post", .record [("operationId", .text "notes"),
    ("requestBody", .record [("content", .record [("application/json", .record [("schema",
      .record [("$ref", .text "#/components/schemas/Note")])])])])])])]

/-- The description. -/
def noteEntries : Entries :=
  [(.text "paths", .map notePaths),
    (.text "components", .record [("schemas", .record [("Note", .record [("type", .text "object"),
      ("properties", .record [("title", .record [("type", .text "string")])])])])])]

/-- An operation of the same name. -/
def laterPaths : Entries :=
  [(.text "/notes.list", .record [("get", .record [("operationId", .text "notes")])])]

/-- The description with that operation after its own. -/
def laterDocument : Value :=
  .map (noteEntries.insert (.text "paths") (.map (notePaths ++ laterPaths)))

/-- A record of a tool. -/
def recordOf (name method : String) : Value :=
  .record [("name", .text name), ("http_method", .text method)]

/-- The operation of the same name comes after the tool, and gets another name. -/
theorem tools_prefix_laterDocument :
    Document.Extends (.map noteEntries) laterDocument ∧
      "#/paths" ∉ followedRefs (.map noteEntries) ∧
      (∃ found all, tools (.map noteEntries) = .ok found ∧ tools laterDocument = .ok all ∧
        all.map Tool.name = [.text "outline_notes", .text "outline_notes_get"] ∧ found <+: all) ∧
      ToolName.renamedRecords [recordOf "x" "post", recordOf "x" "get"] =
        .ok [recordOf "x" "post", recordOf "x_get" "get"] ∧
      ∃ own, ToolName.renamedRecords [recordOf "x" "post"] = .ok own ∧
        own <+: [recordOf "x" "post", recordOf "x_get" "get"] := by
  obtain ⟨htools, -, hrecords⟩ := tools_prefix_of_extends
  have hextends : Document.Extends (.map noteEntries) laterDocument :=
    .intro noteEntries notePaths laterPaths rfl
  have hrefs : followedRefs (.map noteEntries) = ["#/components/schemas/Note"] := by rfl
  have hnot : "#/paths" ∉ followedRefs (.map noteEntries) := by
    rw [hrefs]
    decide
  have hfirst : ((tools (.map noteEntries)).toOption.any fun _ => true) = true := by
    decide +kernel
  have hlater : ((tools laterDocument).toOption.any fun all =>
      all.map Tool.name == [.text "outline_notes", .text "outline_notes_get"]) = true := by
    decide +kernel
  obtain ⟨found, hfound, -⟩ := Except.exists_eq_ok_of_any hfirst
  obtain ⟨all, hall, hnames⟩ := Except.exists_eq_ok_of_any hlater
  have hrenamed : ToolName.renamedRecords ([recordOf "x" "post"] ++ [recordOf "x" "get"]) =
      .ok [recordOf "x" "post", recordOf "x_get" "get"] := by rfl
  exact ⟨hextends, hnot,
    ⟨found, all, hfound, hall, beq_iff_eq.mp hnames, htools _ _ _ _ hextends hnot hfound hall⟩,
    hrenamed, hrecords _ _ _ hrenamed⟩

end Synthesis

end ApiTools
