import ApiTools.Proofs.Annotation.Flags
import ApiTools.Proofs.Document.Pointer
import ApiTools.Proofs.Document.Shape
import ApiTools.Proofs.Json.Writer
import ApiTools.Proofs.Schema.Checks
import ApiTools.Synthesis

/-!
# The faults of a synthesis

On a well-formed description a synthesis can fail at two steps only: a reference is followed, or an
example is written.  A reference that leads nowhere fails with the fault of its reference, which is
what a run is prepared for.  So every fault is of that kind unless the first step that fails follows
a reference that is misread, or writes an example that JSON cannot hold.

## Main definitions

* `Synthesis.WellFormed` — a description with parts of the right kinds.
* `Synthesis.checks` — the steps at which the synthesis of a description can fail.
* `Schema.Check.Breaks` — a step fails with another fault than that of a reference.
* `Synthesis.Stumbles` — the first step that fails does so.

## Main results

* `Synthesis.fault?_tools` — **a synthesis fails with the fault of the first step that fails.**
* `Synthesis.failsOnly_tools_iff` — **it fails with faults of references only, exactly when it does
  not stumble.**
-/

namespace ApiTools

/-! ### Annotations -/

namespace Annotations

/-- Every identifier has flags. -/
theorem exists_derive (identifier : String) :
    ∃ a, derive AnnotationRule.table identifier = .ok a := by
  obtain ⟨a, ha, -⟩ := exists_derive_of_isKnown AnnotationRule.isKnown_of_mem_table identifier
  exact ⟨a, ha⟩

end Annotations

/-! ### Steps that break -/

namespace Schema

/-- A step fails with another fault than that of a reference. -/
inductive Check.Breaks (document : Value) : Check → Prop where
  /-- The reference is misread. -/
  | misread (name : String) (h : Pointer.Misreads document name) : Breaks document (.follows name)
  /-- The example cannot be written. -/
  | unwritable (sample : Value) (h : ∀ text, Json.write Json.compact sample ≠ .ok text) :
    Breaks document (.writes sample)

/-- A step breaks exactly when it fails with such a fault. -/
theorem Check.breaks_iff {document : Value} {check : Check} :
    (∃ e, check.fault? document = some e ∧ e.abortsGeneration = false) ↔
      check.Breaks document := by
  cases check with
  | follows name =>
    simp only [Check.fault?, Except.fault?_eq_some_iff, Pointer.resolve_breaks_iff]
    exact ⟨.misread name, fun h => by cases h; assumption⟩
  | writes sample =>
    simp only [Check.fault?, Except.fault?_eq_some_iff]
    constructor
    · rintro ⟨e, he, -⟩
      refine .unwritable sample fun text htext => ?_
      cases he.symm.trans htext
    · rintro ⟨⟩
      next h =>
      cases hwrite : Json.write Json.compact sample with
      | ok text => exact absurd hwrite (h text)
      | error e => exact ⟨e, rfl, Json.failsOnly_write _ _ e hwrite⟩

end Schema

namespace Synthesis

open Schema Document

variable {document operation : Value}

/-! ### The steps for an operation -/

/-- The steps for the arguments of an operation. -/
def inputChecks (document operation : Value) : List Check :=
  compilationChecks document .input (room 0) (schemaOf (operation.given "requestBody")) []

/-- The steps for the answer of an operation, which is compiled only if it is documented as a map. -/
def outputChecks (document operation : Value) : List Check :=
  match resolve document (answerSchema operation) [] 0 with
  | .ok r =>
    if isObject r.node then compilationChecks document .output (room 0) (answerSchema operation) []
    else resolutionChecks document (room 0) (answerSchema operation) []
  | .error _ => resolutionChecks document (room 0) (answerSchema operation) []

/-- The schemas of an operation lead to schemas with parts of the right kinds only. -/
structure SchemasShaped (document operation : Value) : Prop where
  /-- That of the request does. -/
  request : FamilyShaped document (schemaOf (operation.given "requestBody"))
  /-- So do those of the answers. -/
  answers : ∀ status ∈ successStatuses,
    FamilyShaped document (schemaOf ((operation.given "responses").given status))

theorem SchemasShaped.answer (h : SchemasShaped document operation) :
    FamilyShaped document (answerSchema operation) := by
  rcases answerSchema_cases operation with hnull | ⟨status, hstatus, hgiven⟩
  · rw [hnull]
    exact familyShaped_of_noNode nofun
  · rw [hgiven]
    exact h.answers status hstatus

/-- A compilation first resolves its node. -/
theorem findSome?_resolutionChecks_or (mode : Mode) (schema : Value) (visited : List String)
    (room : Nat) (g : Check → Option Fault) :
    ((resolutionChecks document (room + 1) schema visited).findSome? g).or
        ((compilationChecks document mode (room + 1) schema visited).findSome? g) =
      (compilationChecks document mode (room + 1) schema visited).findSome? g := by
  rw [compilationChecks, List.findSome?_append, ← Option.or_assoc, Option.or_self]

/-- The properties of a legible node are looked up. -/
theorem exists_contains_of_legible {node : Entries} (h : Legible node) (name : String) :
    ∃ found, (((node.get? "properties").getD .null).orElse (.map [])).contains name =
      .ok found := by
  obtain ⟨es, hbare⟩ : ∃ es,
      (((node.get? "properties").getD .null).orElse (.map [])).bare = .map es := by
    cases hv : node.get? "properties" with
    | none => exact ⟨[], rfl⟩
    | some v =>
      rcases h.properties v hv with rfl | ⟨es, hbare⟩
      · exact ⟨[], rfl⟩
      · exact ⟨es, Value.bare_orElse_map hbare⟩
  unfold Value.contains
  rw [hbare]
  exact ⟨_, rfl⟩

/-- The advice on paging fails with the fault of the first step of resolution that fails. -/
theorem fault?_isPaginated (h : OperationShaped operation)
    (hschemas : SchemasShaped document operation) :
    (isPaginated document operation).fault? =
      (resolutionChecks document (room 0) (schemaOf (operation.given "requestBody")) []).findSome?
        (Check.fault? document) := by
  rw [← fault?_resolveWithin hschemas.request .refl]
  unfold isPaginated
  rw [Except.fault?_bind_ok (requestSchema_of_shaped h)]
  split
  · next hfalsy =>
    rw [show room 0 = 8 + 1 from rfl, resolveWithin_of_falsy (by simpa using hfalsy)]
    rfl
  · refine (Except.fault?_bind fun r hr => ?_).trans Option.or_none
    have hlegible := (resolved_resolveWithin hschemas.request .refl hr).legible
    obtain ⟨limited, hlimit⟩ := exists_contains_of_legible hlegible "limit"
    obtain ⟨offset, hoffset⟩ := exists_contains_of_legible hlegible "offset"
    rw [Except.fault?_bind_ok hlimit, hoffset]
    cases limited <;> rfl

/-- The validator of arguments fails with the fault of its first step that fails. -/
theorem fault?_inputValidator (h : OperationShaped operation)
    (hschemas : SchemasShaped document operation) :
    (inputValidator document operation).fault? =
      (inputChecks document operation).findSome? (Check.fault? document) := by
  unfold inputChecks inputValidator
  rw [Except.fault?_bind_ok (requestSchema_of_shaped h)]
  split
  · next hfalsy =>
    rw [← fault?_compileWithin hschemas.request .refl, show room 0 = 8 + 1 from rfl,
      compileWithin_of_falsy (by simpa using hfalsy)]
    rfl
  · -- The node is resolved once more before it is compiled.
    rw [show room 0 = 8 + 1 from rfl, ← findSome?_resolutionChecks_or,
      ← fault?_resolveWithin hschemas.request .refl, ← fault?_compileWithin hschemas.request .refl]
    refine Except.fault?_bind fun r _ => (Except.fault?_bind fun v _ => ?_).trans Option.or_none
    split <;> rfl

/-- The validator of the answer fails with the fault of its first step that fails. -/
theorem fault?_outputValidator (h : OperationShaped operation)
    (hschemas : SchemasShaped document operation) :
    (outputValidator document operation).fault? =
      (outputChecks document operation).findSome? (Check.fault? document) := by
  unfold outputChecks outputValidator
  rw [Except.fault?_bind_ok (responseSchema_of_shaped h)]
  have hresolve : (resolve document (answerSchema operation) [] 0).fault? =
      (resolutionChecks document (room 0) (answerSchema operation) []).findSome?
        (Check.fault? document) := fault?_resolveWithin hschemas.answer .refl
  have hcompile : (compile document (answerSchema operation) .output 0 []).fault? =
      (compilationChecks document .output (room 0) (answerSchema operation) []).findSome?
        (Check.fault? document) := fault?_compileWithin hschemas.answer .refl
  split
  · next hfalsy =>
    have hnone : resolve document (answerSchema operation) [] 0 = .ok ⟨[], []⟩ :=
      resolveWithin_of_falsy (by simpa using hfalsy) 8 []
    rw [hnone] at hresolve ⊢
    exact hresolve
  · cases hr : resolve document (answerSchema operation) [] 0 with
    | error e =>
      rw [hr] at hresolve
      exact hresolve
    | ok r =>
      rw [hr] at hresolve
      refine (Except.fault?_bind_ok rfl _).trans ?_
      dsimp only
      -- What is not documented as a map is resolved, but not compiled.
      split
      · rw [← hcompile]
        exact Except.fault?_bind_pure _ _
      · exact hresolve

/-- The description of an operation is put together. -/
theorem exists_description (h : OperationShaped operation) (paginated : Bool) :
    ∃ v, description operation paginated = .ok v := by
  have hgiven := (h.description.orElse h.summary).exists_orElse_text ""
  obtain ⟨s, hs⟩ := hgiven
  unfold description
  rw [Value.field_eq_given h.isMap, Value.field_eq_given h.isMap]
  change ∃ v, (if !paginated then _ else _) = Except.ok v
  rw [hs]
  cases paginated with
  | false => exact ⟨_, rfl⟩
  | true =>
    change ∃ v, (if pagingAdvice.toList.isSuffixOf s.toList then _ else _) = Except.ok v
    split <;> exact ⟨_, rfl⟩

/-- The name of an operation is made from a text. -/
theorem exists_identifier (h : OperationShaped operation) (path : String) :
    ∃ s, (ToolName.identifier (.text path) operation >>= nameText) = .ok s := by
  unfold ToolName.identifier
  rw [Value.field_eq_given h.isMap]
  change ∃ s, ((if (operation.given "operationId").isTruthy then _ else _) >>= nameText) = .ok s
  rcases h.identifier with hnull | ⟨s, hs⟩
  · rw [hnull]
    exact ⟨_, rfl⟩
  · rw [hs]
    split <;> exact ⟨_, rfl⟩

/-- The draft of an operation fails with the fault of its first step that fails. -/
theorem fault?_draft {operation : Document.Operation} {path : String}
    (hpath : operation.path = .text path) (h : OperationShaped operation.body)
    (hschemas : SchemasShaped document operation.body) :
    (draft document operation).fault? =
      (inputChecks document operation.body ++ outputChecks document operation.body).findSome?
        (Check.fault? document) := by
  obtain ⟨name, hname⟩ := exists_identifier h path
  obtain ⟨identifier, hidentifier, hname⟩ := Except.bind_eq_ok_iff.mp hname
  obtain ⟨annotations, hannotations⟩ := Annotations.exists_derive name
  unfold draft
  rw [hpath, Except.fault?_bind_ok hidentifier, Except.fault?_bind_ok hname,
    Except.fault?_bind_ok (Value.field_eq_given h.isMap "summary"), List.findSome?_append]
  -- The advice on paging resolves the schema that is then resolved for the arguments.
  have hpaging : (isPaginated document operation.body).fault?.or
      ((inputValidator document operation.body).fault?.or
        (outputValidator document operation.body).fault?) =
      ((inputChecks document operation.body).findSome? (Check.fault? document)).or
        ((outputChecks document operation.body).findSome? (Check.fault? document)) := by
    rw [fault?_isPaginated h hschemas, fault?_inputValidator h hschemas,
      fault?_outputValidator h hschemas, ← Option.or_assoc]
    unfold inputChecks
    rw [show room 0 = 8 + 1 from rfl, findSome?_resolutionChecks_or]
  rw [← hpaging]
  refine Except.fault?_bind fun paginated _ => ?_
  obtain ⟨text, htext⟩ := exists_description h paginated
  rw [Except.fault?_bind_ok htext]
  refine (Except.fault?_bind_ok rfl _).trans ?_
  refine Except.fault?_bind fun input _ => ?_
  refine (Except.fault?_bind fun output _ => ?_).trans Option.or_none
  rw [Except.fault?_bind_ok hannotations]
  rfl

/-! ### Descriptions -/

/-- The operations of a description, none if they cannot be read. -/
def operationsOf (document : Value) : List Document.Operation :=
  (Document.operations document).toOption.getD []

/-- A description has parts of the right kinds. -/
structure WellFormed (document : Value) : Prop where
  /-- It is a map. -/
  isMap : ∃ es, document.bare = .map es
  /-- So are its paths. -/
  paths : (document.given "paths").MayBeMap
  /-- So is what it says of itself. -/
  info : (document.given "info").MayBeMap
  /-- The paths of its operations are texts. -/
  names : ∀ operation ∈ operationsOf document, ∃ path, operation.path = .text path
  /-- Its operations have parts of the right kinds. -/
  operations : ∀ operation ∈ operationsOf document, OperationShaped operation.body
  /-- Their schemas lead to schemas with parts of the right kinds only. -/
  schemas : ∀ operation ∈ operationsOf document, SchemasShaped document operation.body

/-- The steps at which the synthesis of a description can fail, operation by operation. -/
def checks (document : Value) : List Check :=
  (operationsOf document).flatMap fun operation =>
    inputChecks document operation.body ++ outputChecks document operation.body

/-- The operations of such a description are read. -/
theorem WellFormed.operations_eq (h : WellFormed document) :
    Document.operations document = .ok (operationsOf document) := by
  obtain ⟨found, hfound⟩ : ∃ found, Document.operations document = .ok found := by
    obtain ⟨es, hes⟩ := h.paths.exists_entries_orElse
    have hpaths : Document.paths document = .ok ((document.given "paths").orElse (.map [])) :=
      Except.bind_eq_ok_iff.mpr ⟨_, Value.field_eq_given h.isMap "paths", rfl⟩
    refine ⟨es.flatMap fun e => operationsOfPath e.1 e.2, ?_⟩
    refine Except.bind_eq_ok_iff.mpr ⟨_, hpaths, ?_⟩
    exact Except.bind_eq_ok_iff.mpr ⟨es, hes, rfl⟩
  rw [operationsOf, hfound]
  rfl

/-- **A synthesis fails with the fault of its first step that fails.** -/
theorem fault?_tools (h : WellFormed document) :
    (tools document).fault? = (checks document).findSome? (Check.fault? document) := by
  have hdrafts : ∀ operation ∈ operationsOf document, (draft document operation).fault? =
      (inputChecks document operation.body ++ outputChecks document operation.body).findSome?
        (Check.fault? document) := by
    intro operation hmem
    obtain ⟨path, hpath⟩ := h.names operation hmem
    exact fault?_draft hpath (h.operations operation hmem) (h.schemas operation hmem)
  unfold tools drafts checks
  rw [Except.fault?_bind_pure, Except.fault?_bind_ok h.operations_eq, Except.fault?_mapM,
    List.findSome?_congr hdrafts, List.findSome?_flatMap]

/-- The first step that fails, fails with another fault than that of a reference. -/
def Stumbles (document : Value) : Prop :=
  ∃ before check after, checks document = before ++ check :: after ∧
    (∀ passed ∈ before, passed.fault? document = none) ∧ check.Breaks document

/-- **A synthesis fails with faults of references only, exactly when it does not stumble.** -/
theorem failsOnly_tools_iff (h : WellFormed document) :
    (tools document).FailsOnly (·.abortsGeneration = true) ↔ ¬Stumbles document := by
  refine Except.FailsOnly.iff_not_exists.trans (not_congr ?_)
  simp only [← Except.fault?_eq_some_iff, fault?_tools h, List.findSome?_eq_some_iff]
  constructor
  · rintro ⟨e, ⟨before, check, after, hchecks, he, hpassed⟩, hother⟩
    exact ⟨before, check, after, hchecks, hpassed, Check.breaks_iff.mp ⟨e, he, hother⟩⟩
  · rintro ⟨before, check, after, hchecks, hpassed, hbreaks⟩
    obtain ⟨e, he, hother⟩ := Check.breaks_iff.mpr hbreaks
    exact ⟨e, ⟨before, check, after, hchecks, he, hpassed⟩, hother⟩

end Synthesis

end ApiTools
