import ApiTools.Document
import ApiTools.Proofs.Value.Plain

/-!
# Operations with parts of the right kinds

A description leaves out what it has nothing to say about, so each part of an operation is absent or
of its kind: a map or a text.  Reading such an operation never fails.

## Main definitions

* `Value.given` — the value at a name, absent where there is none.
* `Value.MayBeMap`, `Value.MayBeText` — a part that is absent or of its kind.
* `Document.OperationShaped` — an operation with parts of the right kinds.
* `Document.schemaOf`, `Document.answerSchema` — the schema of a body, and that of the answer.

## Main results

* `Document.requestSchema_of_shaped`, `Document.responseSchema_of_shaped` — **the schemas of such an
  operation are read.**
-/

namespace ApiTools

namespace Value

/-- The value given at a name, absent where there is none. -/
def given (v : Value) (name : String) : Value := (v.field name).toOption.getD .null

/-- A value is a map, if it is there. -/
def MayBeMap (v : Value) : Prop := v = .null ∨ ∃ es, v.bare = .map es

/-- A value is a text, if it is there. -/
def MayBeText (v : Value) : Prop := v = .null ∨ ∃ s, v = .text s

variable {v : Value}

theorem field_of_bare {es : Entries} (h : v.bare = .map es) (name : String) :
    v.field name = .ok ((es.get? name).getD .null) := by
  unfold field entries
  rw [h]
  rfl

/-- A map is asked for what it gives. -/
theorem field_eq_given (h : ∃ es, v.bare = .map es) (name : String) :
    v.field name = .ok (v.given name) := by
  obtain ⟨es, hbare⟩ := h
  rw [given, field_of_bare hbare]
  rfl

/-- What is absent is asked as if it were a map without entries. -/
theorem MayBeMap.field_orElse (h : v.MayBeMap) (name : String) :
    (v.orElse (.map [])).field name = .ok (v.given name) := by
  rcases h with rfl | ⟨es, hbare⟩
  · rfl
  · rw [given, field_of_bare hbare, field_of_bare (bare_orElse_map hbare)]
    rfl

theorem MayBeMap.exists_entries_orElse (h : v.MayBeMap) :
    ∃ es, (v.orElse (.map [])).entries = .ok es := by
  unfold entries
  rcases h with rfl | ⟨es, hbare⟩
  · exact ⟨_, rfl⟩
  · rw [bare_orElse_map hbare]
    exact ⟨_, rfl⟩

theorem MayBeText.orElse {w : Value} (hv : v.MayBeText) (hw : w.MayBeText) :
    (v.orElse w).MayBeText := orElse_cases hv hw

/-- In front of a text there is a text. -/
theorem MayBeText.exists_orElse_text (h : v.MayBeText) (t : String) :
    ∃ s, v.orElse (.text t) = .text s := by
  rcases h with rfl | ⟨s, rfl⟩
  · exact ⟨t, rfl⟩
  · exact orElse_cases (P := fun v => ∃ s, v = .text s) ⟨s, rfl⟩ ⟨t, rfl⟩

end Value

namespace Document

/-! ### Bodies -/

/-- The schema that a body gives for its JSON form. -/
def schemaOf (body : Value) : Value :=
  ((body.given "content").given "application/json").given "schema"

/-- A body has parts of the right kinds. -/
structure BodyShaped (body : Value) : Prop where
  /-- It is a map. -/
  isMap : body.MayBeMap
  /-- So is its content. -/
  content : (body.given "content").MayBeMap
  /-- So is the JSON form in it. -/
  media : ((body.given "content").given "application/json").MayBeMap

theorem bodySchema_of_shaped {body : Value} (h : BodyShaped body) :
    bodySchema body = .ok (schemaOf body) := by
  refine Except.bind_eq_ok_iff.mpr ⟨_, h.isMap.field_orElse "content", ?_⟩
  refine Except.bind_eq_ok_iff.mpr ⟨_, h.content.field_orElse "application/json", ?_⟩
  exact h.media.field_orElse "schema"

/-! ### Operations -/

/-- An operation has parts of the right kinds. -/
structure OperationShaped (operation : Value) : Prop where
  /-- It is a map. -/
  isMap : ∃ es, operation.bare = .map es
  /-- Its identifier is a text. -/
  identifier : (operation.given "operationId").MayBeText
  /-- So is its summary. -/
  summary : (operation.given "summary").MayBeText
  /-- So is its description. -/
  description : (operation.given "description").MayBeText
  /-- The body of its request has parts of the right kinds. -/
  request : BodyShaped (operation.given "requestBody")
  /-- Its responses are a map. -/
  responses : (operation.given "responses").MayBeMap
  /-- The bodies of those that are looked at have parts of the right kinds. -/
  answers : ∀ status ∈ successStatuses, BodyShaped ((operation.given "responses").given status)

/-- The schema that an operation gives for its answer. -/
def answerSchema (operation : Value) : Value :=
  ((successStatuses.map fun status => schemaOf ((operation.given "responses").given status)).find?
    Value.isTruthy).getD .null

variable {operation : Value}

/-- **The schema of a request is read.** -/
theorem requestSchema_of_shaped (h : OperationShaped operation) :
    requestSchema operation = .ok (schemaOf (operation.given "requestBody")) := by
  unfold requestSchema
  rw [Value.field_eq_given h.isMap]
  exact bodySchema_of_shaped h.request

theorem firstSchema_of_shaped {responses : Value} (h : responses.MayBeMap) {statuses : List String}
    (hbodies : ∀ status ∈ statuses, BodyShaped (responses.given status)) :
    firstSchema (responses.orElse (.map [])) statuses =
      .ok (((statuses.map fun status => schemaOf (responses.given status)).find?
        Value.isTruthy).getD .null) := by
  induction statuses with
  | nil => rfl
  | cons status statuses ih =>
    obtain ⟨hbody, hrest⟩ := List.forall_mem_cons.mp hbodies
    rw [firstSchema, h.field_orElse]
    refine Except.bind_eq_ok_iff.mpr ⟨_, rfl, ?_⟩
    rw [bodySchema_of_shaped hbody, List.map_cons, List.find?_cons]
    refine Except.bind_eq_ok_iff.mpr ⟨_, rfl, ?_⟩
    split
    · next htruthy =>
      rw [htruthy]
      rfl
    · next hfalsy =>
      rw [Bool.not_eq_true] at hfalsy
      rw [hfalsy]
      exact ih hrest

/-- **So is that of the answer.** -/
theorem responseSchema_of_shaped (h : OperationShaped operation) :
    responseSchema operation successStatuses = .ok (answerSchema operation) := by
  unfold responseSchema
  rw [Value.field_eq_given h.isMap]
  exact firstSchema_of_shaped h.responses h.answers

/-- The schema of the answer is one that a response gives, or absent. -/
theorem answerSchema_cases (operation : Value) : answerSchema operation = .null ∨
    ∃ status ∈ successStatuses,
      answerSchema operation = schemaOf ((operation.given "responses").given status) := by
  unfold answerSchema
  cases hfound : (successStatuses.map fun status =>
      schemaOf ((operation.given "responses").given status)).find? Value.isTruthy with
  | none => exact Or.inl rfl
  | some schema =>
    obtain ⟨status, hstatus, heq⟩ := List.mem_map.mp (List.mem_of_find?_eq_some hfound)
    exact Or.inr ⟨status, hstatus, heq.symm⟩

end Document

end ApiTools
