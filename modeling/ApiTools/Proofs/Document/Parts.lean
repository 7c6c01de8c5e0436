import ApiTools.Document
import ApiTools.Proofs.Value.Plain

/-!
# The parts of an API description

Operations and the schemas of their bodies are found by look-ups, with an empty map in place of what
is missing.  So they inherit what is said of the whole description.

## Main results

* `Document.of_operations`, `Document.path_of_operations` — **the operations of a description and
  their paths inherit its properties.**
* `Document.of_requestSchema`, `Document.of_responseSchema` — so do the schemas of their bodies.
-/

namespace ApiTools

namespace Document

variable {P : Value → Prop} (hP : Value.Hereditary P)

include hP

omit hP in
/-- An operation of a path stands in what the path leads to. -/
theorem mem_operationsOfPath {path : Scalar} {item : Value} (hplain : item.isPlain = true)
    {operation : Operation} (h : operation ∈ operationsOfPath path item) :
    operation.path = .scalar path ∧ item.Part operation.body := by
  unfold operationsOfPath at h
  rw [Value.bare_of_isPlain hplain] at h
  split at h
  · obtain ⟨method, -, hmethod⟩ := List.mem_filterMap.mp h
    split at hmethod
    · cases hmethod
    · cases hmethod
    · next hbody =>
      cases hmethod
      exact ⟨rfl, Value.part_find? hbody⟩
  · cases h

/-- Each operation is listed under a path of the description. -/
theorem exists_path_of_operations {document : Value} (h : P document) {found : List Operation}
    (hfound : operations document = .ok found) {operation : Operation} (hmem : operation ∈ found) :
    ∃ es, P (.map es) ∧ ∃ e ∈ es, operation ∈ operationsOfPath e.1 e.2 := by
  obtain ⟨all, hall, hfound⟩ := Except.bind_eq_ok_iff.mp hfound
  obtain ⟨es, hes, hfound⟩ := Except.bind_eq_ok_iff.mp hfound
  obtain rfl := Except.ok.inj hfound
  have hpaths : P all := by
    obtain ⟨given, hgiven, hall⟩ := Except.bind_eq_ok_iff.mp hall
    rw [← Except.ok.inj hall]
    exact Value.orElse_cases (hP.field h hgiven) hP.noEntries
  exact ⟨es, hP.entries hpaths hes, List.mem_flatMap.mp hmem⟩

/-- **The operations of a description inherit its properties.** -/
theorem of_operations {document : Value} (h : P document) {found : List Operation}
    (hfound : operations document = .ok found) : ∀ operation ∈ found, P operation.body := by
  intro operation hmem
  obtain ⟨es, hes, e, he, hmem⟩ := exists_path_of_operations hP h hfound hmem
  have hitem := hP.part hes (.entry he)
  exact hP.part hitem (mem_operationsOfPath (hP.isPlain hitem) hmem).2

/-- **So do their paths.** -/
theorem path_of_operations {document : Value} (h : P document) {found : List Operation}
    (hfound : operations document = .ok found) : ∀ operation ∈ found, P operation.path := by
  intro operation hmem
  obtain ⟨es, hes, e, he, hmem⟩ := exists_path_of_operations hP h hfound hmem
  rw [(mem_operationsOfPath (hP.isPlain (hP.part hes (.entry he))) hmem).1]
  exact hP.elements hes rfl _ (List.mem_map_of_mem he)

theorem of_bodySchema {body schema : Value} (h : P body) (hschema : bodySchema body = .ok schema) :
    P schema := by
  obtain ⟨content, hcontent, hschema⟩ := Except.bind_eq_ok_iff.mp hschema
  obtain ⟨media, hmedia, hschema⟩ := Except.bind_eq_ok_iff.mp hschema
  have hbody := Value.orElse_cases h hP.noEntries
  have hcontent := Value.orElse_cases (hP.field hbody hcontent) hP.noEntries
  have hmedia := Value.orElse_cases (hP.field hcontent hmedia) hP.noEntries
  exact hP.field hmedia hschema

/-- **The schema of a request body inherits the properties of its operation.** -/
theorem of_requestSchema {operation schema : Value} (h : P operation)
    (hschema : requestSchema operation = .ok schema) : P schema := by
  obtain ⟨body, hbody, hschema⟩ := Except.bind_eq_ok_iff.mp hschema
  exact of_bodySchema hP (hP.field h hbody) hschema

theorem of_firstSchema {responses schema : Value} (h : P responses) {statuses : List String}
    (hschema : firstSchema responses statuses = .ok schema) : P schema := by
  induction statuses with
  | nil =>
    obtain rfl := Except.ok.inj hschema
    exact hP.null
  | cons status statuses ih =>
    obtain ⟨body, hbody, hschema⟩ := Except.bind_eq_ok_iff.mp hschema
    obtain ⟨first, hfirst, hschema⟩ := Except.bind_eq_ok_iff.mp hschema
    split at hschema
    · obtain rfl := Except.ok.inj hschema
      exact of_bodySchema hP (hP.field h hbody) hfirst
    · exact ih hschema

/-- **The schema of a response body inherits the properties of its operation.** -/
theorem of_responseSchema {operation schema : Value} (h : P operation) {statuses : List String}
    (hschema : responseSchema operation statuses = .ok schema) : P schema := by
  obtain ⟨responses, hresponses, hschema⟩ := Except.bind_eq_ok_iff.mp hschema
  exact of_firstSchema hP (Value.orElse_cases (hP.field h hresponses) hP.noEntries) hschema

end Document

end ApiTools
