import ApiTools.Proofs.Document.Shape
import ApiTools.Proofs.Schema.Drift
import ApiTools.Proofs.Synthesis.Callable

/-!
# References in place of bodies

References are followed in schemas.  An operation may also have one in place of its request body, or
of a response, and such a reference is not followed: it has no content of its own, so it is read
like a body that is left out, whatever node it leads to.

## Main definitions

* `Document.referenceTo`, `Document.RefersIn` — a reference and nothing else, and one to a node.
* `Document.Omits` — an operation with one body left out that was such a reference.
* `Document.OmitsSome` — an operation with any number of them left out.

## Main results

* `Document.Omits.readsAlike` — **what is read of an operation stays as it is.**
* `Synthesis.draft_of_readsAlike` — so does what is made of it.
* `Schema.Dangles.resolve_eq` — a schema that names a node that is not there is not resolved.
* `Synthesis.referenced_body_is_omitted` — **a reference in place of a body counts as no body**, and
  one in place of a schema has to lead somewhere.
-/

namespace ApiTools

namespace Document

/-- A reference and nothing else. -/
def referenceTo (name : String) : Value := .record [("$ref", .text name)]

/-- A reference to a node that is there. -/
def RefersIn (document body : Value) : Prop :=
  ∃ name node, body = referenceTo name ∧ Pointer.resolve document name = .ok node

/-- One body of an operation is left out that is a reference to a node. -/
inductive Omits (document : Value) : Value → Value → Prop where
  /-- The body of the request. -/
  | request {es fs : Entries} {body : Value} (hbody : es.get? "requestBody" = some body)
    (hrefers : RefersIn document body) (hsame : es.SameBut (.text "requestBody") fs)
    (hgone : fs.get? "requestBody" = none) : Omits document (.map es) (.map fs)
  /-- One of the responses. -/
  | response {es fs responses kept : Entries} {status : String} {body : Value}
    (hresponses : es.get? "responses" = some (.map responses))
    (hbody : responses.get? status = some body) (hrefers : RefersIn document body)
    (hsame : es.SameBut (.text "responses") fs) (hkept : fs.get? "responses" = some (.map kept))
    (hothers : responses.SameBut (.text status) kept) (hgone : kept.get? status = none) :
    Omits document (.map es) (.map fs)

/-- Some bodies of an operation are left out that are references to nodes. -/
def OmitsSome (document : Value) (operation other : Operation) : Prop :=
  other.path = operation.path ∧ other.method = operation.method ∧
    Relation.ReflTransGen (Omits document) operation.body other.body

variable {document : Value}

/-! ### What is read of an operation -/

/-- Where an operation says what it is called and what it is for. -/
def sayings : List String := ["operationId", "summary", "description"]

/-- The same is read of two operations. -/
structure ReadsAlike (operation other : Value) : Prop where
  /-- The schema of the request. -/
  request : requestSchema operation = requestSchema other
  /-- The schema of the answer. -/
  response : ∀ statuses, responseSchema operation statuses = responseSchema other statuses
  /-- What it is called and what is said of it. -/
  said : ∀ name ∈ sayings, operation.field name = other.field name

theorem field_map (es : Entries) (name : String) :
    (Value.map es).field name = .ok ((es.get? name).getD .null) := Value.field_of_bare rfl name

/-- A reference has no content. -/
theorem bodySchema_referenceTo (name : String) : bodySchema (referenceTo name) = .ok .null := rfl

theorem get?_of_sameBut {es fs : Entries} {key name : String} (h : es.SameBut (.text key) fs)
    (hname : key ≠ name) : fs.get? name = es.get? name :=
  h (.text name) (beq_eq_false_iff_ne.mpr hname)

/-- Another entry of an operation does not matter for what is said of it. -/
theorem said_of_sameBut {es fs : Entries} {key : String} (h : es.SameBut (.text key) fs)
    (hkey : key ∉ sayings) (name : String) (hname : name ∈ sayings) :
    (Value.map es).field name = (Value.map fs).field name := by
  have hother : key ≠ name := by
    rintro rfl
    exact hkey hname
  rw [field_map, field_map, get?_of_sameBut h hother]

/-- A response that is a reference is passed over, as one that is not there is. -/
theorem firstSchema_of_omitted {responses kept : Entries} {status name : String}
    (hbody : responses.get? status = some (referenceTo name))
    (hothers : responses.SameBut (.text status) kept) (hgone : kept.get? status = none)
    (statuses : List String) :
    firstSchema (.map responses) statuses = firstSchema (.map kept) statuses := by
  induction statuses with
  | nil => rfl
  | cons next statuses ih =>
    rw [firstSchema, firstSchema, field_map, field_map, ih]
    by_cases hnext : status = next
    · -- Neither the reference nor what is not there has a schema.
      subst hnext
      rw [hbody, hgone]
      rfl
    · rw [get?_of_sameBut hothers hnext]

/-- **What is read of an operation stays as it is when a reference in place of a body is left
out.** -/
theorem Omits.readsAlike {operation other : Value} (h : Omits document operation other) :
    ReadsAlike operation other := by
  cases h with
  | @request es fs body hbody hrefers hsame hgone =>
    obtain ⟨name, -, rfl, -⟩ := hrefers
    refine ⟨?_, fun statuses => ?_, said_of_sameBut hsame (by decide)⟩
    · unfold requestSchema
      rw [field_map, field_map, hbody, hgone]
      exact bodySchema_referenceTo name
    · unfold responseSchema
      rw [field_map, field_map, get?_of_sameBut hsame (by decide)]
  | @response es fs responses kept status body hresponses hbody hrefers hsame hkept hothers hgone =>
    obtain ⟨name, -, rfl, -⟩ := hrefers
    refine ⟨?_, fun statuses => ?_, said_of_sameBut hsame (by decide)⟩
    · unfold requestSchema
      rw [field_map, field_map, get?_of_sameBut hsame (by decide)]
    · have hgiven : ∀ entries : Entries, (Value.map entries).orElse (.map []) = .map entries :=
        fun entries => by cases entries <;> rfl
      unfold responseSchema
      rw [field_map, field_map, hresponses, hkept]
      change firstSchema ((Value.map responses).orElse (.map [])) statuses =
        firstSchema ((Value.map kept).orElse (.map [])) statuses
      rw [hgiven, hgiven, firstSchema_of_omitted hbody hothers hgone]

theorem ReadsAlike.refl (operation : Value) : ReadsAlike operation operation :=
  ⟨rfl, fun _ => rfl, fun _ _ => rfl⟩

theorem ReadsAlike.trans {first second third : Value} (h : ReadsAlike first second)
    (h' : ReadsAlike second third) : ReadsAlike first third :=
  ⟨h.request.trans h'.request, fun statuses => (h.response statuses).trans (h'.response statuses),
    fun name hname => (h.said name hname).trans (h'.said name hname)⟩

/-- So it does when any number of them are left out. -/
theorem readsAlike_of_reflTransGen {operation other : Value}
    (h : Relation.ReflTransGen (Omits document) operation other) : ReadsAlike operation other := by
  induction h with
  | refl => exact .refl _
  | tail _ hstep ih => exact ih.trans hstep.readsAlike

/-! ### Leaving bodies out -/

/-- The body of a request can be left out if it is a reference. -/
theorem omits_requestBody {es : Entries} {body : Value}
    (hbody : es.get? "requestBody" = some body) (hrefers : RefersIn document body) :
    Omits document (.map es) (.map (es.without (.text "requestBody"))) :=
  .request hbody hrefers (Entries.sameBut_without es _) (by rw [Entries.get?_without, if_pos rfl])

/-- So can a response. -/
theorem omits_response {es responses : Entries} {status : String} {body : Value}
    (hresponses : es.get? "responses" = some (.map responses))
    (hbody : responses.get? status = some body) (hrefers : RefersIn document body) :
    Omits document (.map es)
      (.map (es.insert (.text "responses") (.map (responses.without (.text status))))) := by
  refine .response hresponses hbody hrefers (Entries.sameBut_insert es _ _) ?_
    (Entries.sameBut_without responses _) ?_
  · rw [Entries.get?_insert, if_pos rfl]
  · rw [Entries.get?_without, if_pos rfl]

end Document

/-! ### Schemas that name nothing -/

namespace Schema

/-- A schema names a node, and the name fails with a fault. -/
def Dangles (document schema : Value) (e : Fault) : Prop :=
  ∃ (node : Entries) (name : String), schema = .map node ∧
    node.get? "$ref" = some (.text name) ∧ Pointer.resolve document name = .error e

variable {document schema : Value} {e : Fault}

/-- Such a schema counts as given. -/
theorem Dangles.isTruthy (h : Dangles document schema e) : schema.isTruthy = true := by
  obtain ⟨node, name, rfl, hname, -⟩ := h
  cases node with
  | nil => cases hname
  | cons => rfl

/-- It is not resolved. -/
theorem Dangles.resolve_eq (h : Dangles document schema e) :
    resolve document schema [] 0 = .error e := by
  obtain ⟨node, name, rfl, hname, he⟩ := h
  change resolveWithin document (8 + 1) (.map node) [] = .error e
  rw [resolveWithin]
  dsimp only [Value.bare]
  rw [hname]
  change Pointer.resolve document name >>= _ = .error e
  rw [he]
  rfl

end Schema

/-! ### What is made of an operation -/

namespace Synthesis

open Document

variable {document operation other : Value}

theorem isPaginated_of_readsAlike (h : ReadsAlike operation other) :
    isPaginated document operation = isPaginated document other := by
  unfold isPaginated
  rw [h.request]

theorem inputValidator_of_readsAlike (h : ReadsAlike operation other) :
    inputValidator document operation = inputValidator document other := by
  unfold inputValidator
  rw [h.request]

theorem outputValidator_of_readsAlike (h : ReadsAlike operation other) :
    outputValidator document operation = outputValidator document other := by
  unfold outputValidator
  rw [h.response]

/-- **What is made of an operation depends on what is read of it.** -/
theorem draft_of_readsAlike {operation other : Operation} (hpath : other.path = operation.path)
    (hmethod : other.method = operation.method) (h : ReadsAlike operation.body other.body) :
    draft document operation = draft document other := by
  unfold draft ToolName.identifier description
  dsimp only
  rw [hpath, hmethod, h.said "operationId" (by decide), h.said "summary" (by decide),
    h.said "description" (by decide), isPaginated_of_readsAlike h, inputValidator_of_readsAlike h,
    outputValidator_of_readsAlike h]

theorem drafts_of_omitsSome {operations others : List Operation}
    (h : List.Forall₂ (OmitsSome document) operations others) :
    operations.mapM (draft document) = others.mapM (draft document) := by
  induction h with
  | nil => rfl
  | cons hfirst _ ih =>
    rw [List.mapM_cons, List.mapM_cons, ih,
      draft_of_readsAlike hfirst.1 hfirst.2.1 (readsAlike_of_reflTransGen hfirst.2.2)]

/-- Tools are made of the drafts alone, so they stay as they are as well. -/
theorem tools_of_omitsSome {operations others : List Operation}
    (hoperations : Document.operations document = .ok operations)
    (h : List.Forall₂ (OmitsSome document) operations others) :
    tools document = do return finish (← others.mapM (draft document)) := by
  unfold tools drafts
  rw [hoperations, ← drafts_of_omitsSome h]
  rfl

/-- The body of a request that is a reference gives no arguments. -/
theorem inputValidator_of_refersIn {es : Entries} {body : Value}
    (hbody : es.get? "requestBody" = some body) (hrefers : RefersIn document body) :
    isPaginated document (.map es) = .ok false ∧
      inputValidator document (.map es) = .ok (.emptyObject .null) := by
  obtain ⟨name, -, rfl, -⟩ := hrefers
  have hschema : requestSchema (.map es) = .ok .null := by
    unfold requestSchema
    rw [field_map, hbody]
    exact bodySchema_referenceTo name
  unfold isPaginated inputValidator
  rw [hschema]
  exact ⟨rfl, rfl⟩

/-! ### Schemas that name nothing, in an operation -/

variable {schema : Value} {e : Fault}

theorem inputValidator_of_dangles (h : Schema.Dangles document schema e)
    (hschema : requestSchema operation = .ok schema) :
    isPaginated document operation = .error e ∧ inputValidator document operation = .error e := by
  have hgiven : ¬(!schema.isTruthy) = true := by simp [h.isTruthy]
  unfold isPaginated inputValidator
  rw [hschema]
  change (if !schema.isTruthy then _ else _) = _ ∧ (if !schema.isTruthy then _ else _) = _
  rw [if_neg hgiven, if_neg hgiven, h.resolve_eq]
  exact ⟨rfl, rfl⟩

theorem outputValidator_of_dangles (h : Schema.Dangles document schema e)
    (hschema : responseSchema operation successStatuses = .ok schema) :
    outputValidator document operation = .error e := by
  have hgiven : ¬(!schema.isTruthy) = true := by simp [h.isTruthy]
  unfold outputValidator
  rw [hschema]
  change (if !schema.isTruthy then _ else _) = _
  rw [if_neg hgiven, h.resolve_eq]
  rfl

/-- Tools are made only when every operation has its validators. -/
theorem exists_validators_of_tools {found : List Tool} (h : tools document = .ok found)
    {operations : List Operation} (hoperations : Document.operations document = .ok operations)
    {operation : Operation} (hmem : operation ∈ operations) :
    (∃ v, inputValidator document operation.body = .ok v) ∧
      ∃ output, outputValidator document operation.body = .ok output := by
  obtain ⟨operations₂, made, hoperations₂, hmade, -⟩ := tools_eq_ok_iff.mp h
  obtain rfl := Except.ok.inj (hoperations.symm.trans hoperations₂)
  obtain ⟨d, -, hdraft⟩ := List.exists_of_mem_forall₂ hmade hmem
  exact ⟨⟨_, (of_draft hdraft).input⟩, _, (of_draft hdraft).output⟩

/-- So none are made of a description with an operation whose schema names nothing. -/
theorem tools_ne_ok_of_dangles (h : Schema.Dangles document schema e)
    {operations : List Operation} (hoperations : Document.operations document = .ok operations)
    {operation : Operation} (hmem : operation ∈ operations)
    (hschema : requestSchema operation.body = .ok schema ∨
      responseSchema operation.body successStatuses = .ok schema) (found : List Tool) :
    tools document ≠ .ok found := by
  intro hfound
  obtain ⟨⟨v, hv⟩, output, houtput⟩ := exists_validators_of_tools hfound hoperations hmem
  rcases hschema with hschema | hschema
  · cases hv.symm.trans (inputValidator_of_dangles h hschema).2
  · cases houtput.symm.trans (outputValidator_of_dangles h hschema)

/-! ### References in place of bodies -/

/-- **A reference in place of a body counts as no body, whatever node it leads to.**  Whether the
operation is said to page, its validators and the tools of a description are what they are when the
body is left out; the body of a request then gives no arguments.  A schema has to lead somewhere: if
it names nothing, each of these fails, and no tools are made. -/
theorem referenced_body_is_omitted (document : Value) :
    (∀ operation other, Omits document operation other →
      isPaginated document operation = isPaginated document other ∧
        inputValidator document operation = inputValidator document other ∧
        outputValidator document operation = outputValidator document other) ∧
    (∀ (es : Entries) (body : Value), es.get? "requestBody" = some body →
      RefersIn document body → isPaginated document (.map es) = .ok false ∧
        inputValidator document (.map es) = .ok (.emptyObject .null)) ∧
    (∀ operations others, Document.operations document = .ok operations →
      List.Forall₂ (OmitsSome document) operations others →
        tools document = do return finish (← others.mapM (draft document))) ∧
    ∀ schema e, Schema.Dangles document schema e →
      (∀ operation, requestSchema operation = .ok schema →
        isPaginated document operation = .error e ∧
          inputValidator document operation = .error e) ∧
      (∀ operation, responseSchema operation successStatuses = .ok schema →
        outputValidator document operation = .error e) ∧
      ∀ operations, Document.operations document = .ok operations → ∀ operation ∈ operations,
        requestSchema operation.body = .ok schema ∨
          responseSchema operation.body successStatuses = .ok schema →
        ∀ found, tools document ≠ .ok found := by
  refine ⟨fun operation other homits => ?_, fun es body hbody hrefers => ?_,
    fun operations others hoperations homits => ?_, fun schema e hdangles => ⟨?_, ?_, ?_⟩⟩
  · have halike := homits.readsAlike
    exact ⟨isPaginated_of_readsAlike halike, inputValidator_of_readsAlike halike,
      outputValidator_of_readsAlike halike⟩
  · exact inputValidator_of_refersIn hbody hrefers
  · exact tools_of_omitsSome hoperations homits
  · exact fun operation hschema => inputValidator_of_dangles hdangles hschema
  · exact fun operation hschema => outputValidator_of_dangles hdangles hschema
  · intro operations hoperations operation hmem hschema found
    exact tools_ne_ok_of_dangles hdangles hoperations hmem hschema found

/-- A body with the given schema. -/
def bodyOf (schema : Value) : Value :=
  .record [("content", .record [("application/json", .record [("schema", schema)])])]

/-- A description of one operation, and of a body that can be referred to. -/
def noteDocument (operation : Entries) : Value :=
  .record [("components", .record [("requestBodies", .record [("Note", bodyOf titleSchema)])]),
    ("paths", .record [("/notes", .record [("post", .map operation)])])]

/-- The reference to that body. -/
def noteName : String := "#/components/requestBodies/Note"

/-- One answer refers to the body, and the other one has it. -/
def noteResponses : Entries :=
  [(.text "200", referenceTo noteName), (.text "201", bodyOf titleSchema)]

/-- An operation with these answers, and the body as that of its request. -/
def noteOperation : Entries :=
  [(.text "requestBody", referenceTo noteName), (.text "responses", .map noteResponses)]

/-- What is left of the operation without the references. -/
def keptOperation : Entries := [(.text "responses", .map [(.text "201", bodyOf titleSchema)])]

/-- The validator of the second answer. -/
def noteAnswer : Validator :=
  .object .null [.mk (.text "title") (.string .null none) (.bool true) (.bool false)] (.allow none)

/-- The operation takes no arguments, and only its second answer counts.  No tools are made of an
operation whose schema names nothing. -/
theorem referenced_body_is_omitted_noteOperation :
    isPaginated (noteDocument noteOperation) (.map noteOperation) = .ok false ∧
      inputValidator (noteDocument noteOperation) (.map noteOperation) =
        .ok (.emptyObject .null) ∧
      outputValidator (noteDocument noteOperation) (.map noteOperation) = .ok (some noteAnswer) ∧
      tools (noteDocument noteOperation) =
        .ok [{ toolOf (.emptyObject .null) with output := some noteAnswer }] ∧
      ∀ found, tools (documentOf (referenceTo "#/components/schemas/Note")) ≠ .ok found := by
  obtain ⟨hsame, hnone, htools, -⟩ := referenced_body_is_omitted (noteDocument noteOperation)
  obtain ⟨-, -, -, hdangles⟩ :=
    referenced_body_is_omitted (documentOf (referenceTo "#/components/schemas/Note"))
  have hrefers : RefersIn (noteDocument noteOperation) (referenceTo noteName) := ⟨_, _, rfl, rfl⟩
  obtain ⟨hpaginated, hinput⟩ := hnone noteOperation _ rfl hrefers
  have hrequest : Omits (noteDocument noteOperation) (.map noteOperation)
      (.map (noteOperation.without (.text "requestBody"))) := omits_requestBody rfl hrefers
  have hbody : noteResponses.get? "200" = some (referenceTo noteName) := rfl
  have hresponse : Omits (noteDocument noteOperation)
      (.map (noteOperation.without (.text "requestBody"))) (.map keptOperation) :=
    omits_response rfl hbody hrefers
  have homits : OmitsSome (noteDocument noteOperation)
      ⟨.scalar (.text "/notes"), "post", .map noteOperation⟩
      ⟨.scalar (.text "/notes"), "post", .map keptOperation⟩ :=
    ⟨rfl, rfl, .head hrequest (.single hresponse)⟩
  have houtput := (hsame _ _ hrequest).2.2.trans (hsame _ _ hresponse).2.2
  refine ⟨hpaginated, hinput, houtput.trans rfl, ?_, ?_⟩
  · have hanswer : outputValidator (noteDocument noteOperation) (.map keptOperation) =
        .ok (some noteAnswer) := rfl
    obtain ⟨d, hdraft, hfinish⟩ := exists_draft_of_notes rfl rfl rfl rfl rfl hanswer
    rw [htools _ _ rfl (.cons homits .nil)]
    exact Except.bind_eq_ok_iff.mpr
      ⟨[d], Except.mapM_eq_ok_iff.mpr (.cons hdraft .nil), congrArg Except.ok hfinish⟩
  · obtain ⟨-, -, hnothing⟩ := hdangles (referenceTo "#/components/schemas/Note")
      (.unresolvableReference "#/components/schemas/Note") ⟨_, _, rfl, rfl, rfl⟩
    exact hnothing _ rfl _ (List.mem_singleton_self _) (.inl rfl)

/-- **A reference in place of a body does not count like that body**: the documented arguments are
refused. -/
theorem referenced_body_is_lost :
    (noteDocument noteOperation).IsFiniteJson ∧
      Pointer.resolve (noteDocument noteOperation) noteName = .ok (bodyOf titleSchema) ∧
      inputValidator (noteDocument noteOperation) (.map noteOperation) =
        .ok (.emptyObject .null) ∧
      inputValidator (noteDocument noteOperation)
        (.map (noteOperation.insert (.text "requestBody") (bodyOf titleSchema))) =
        .ok titleValidator ∧
      titleValidator.isValid (.record [("title", .text "Plans")]) = true ∧
      (Validator.emptyObject .null).isValid (.record [("title", .text "Plans")]) = false :=
  ⟨by decide, rfl, rfl, rfl, by decide, by decide⟩

end Synthesis

end ApiTools
