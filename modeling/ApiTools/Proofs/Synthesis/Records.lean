import ApiTools.Proofs.Synthesis.Tools
import ApiTools.Proofs.ToolName.Alphabet

/-!
# The records of synthesized tools

What a tool is made of is put together from texts and truth values, or stands in the document.  So
its record has each property that the document has, if parts of values inherit the property and
records are allowed to have it.  Its name has small letters, digits and underscores only.

## Main results

* `Synthesis.of_toRecord` — **the records of synthesized tools have what the document has.**
* `Synthesis.exists_name_rest` — **their names have the characters of names only behind the fixed
  start.**
-/

namespace ApiTools

namespace Document

/-- An operation is listed under one of the methods that are looked at. -/
theorem method_mem_of_mem_operations {document : Value} {found : List Operation}
    (h : operations document = .ok found) : ∀ operation ∈ found, operation.method ∈ methods := by
  obtain ⟨paths, -, h⟩ := Except.bind_eq_ok_iff.mp h
  obtain ⟨es, -, rfl⟩ := Except.bind_pure_eq_ok_iff.mp h
  intro operation hmem
  obtain ⟨e, -, hmem⟩ := List.mem_flatMap.mp hmem
  unfold operationsOfPath at hmem
  split at hmem
  · obtain ⟨method, hmethod, heq⟩ := List.mem_filterMap.mp hmem
    split at heq
    · cases heq
    · cases heq
    · cases heq
      exact hmethod
  · cases hmem

end Document

/-! ### Names -/

namespace ToolName

/-- The characters of names are printable. -/
theorem isPrintable_of_isNameChar {c : Char} (h : isNameChar c = true) :
    Text.isPrintable c = true := by
  have hcode : 48 ≤ c.toNat ∧ c.toNat ≤ 122 := by
    simp only [isNameChar, Bool.or_eq_true, beq_iff_eq] at h
    rcases h with (h | h) | rfl
    · obtain ⟨hlow, hhigh⟩ := Bool.and_eq_true_iff.mp h
      have hlow : 97 ≤ c.toNat := of_decide_eq_true hlow
      have hhigh : c.toNat ≤ 122 := of_decide_eq_true hhigh
      omega
    · have hdigit : 48 ≤ c.toNat ∧ c.toNat ≤ 57 := Char.isDigit_iff_toNat.mp h
      omega
    · decide
  rw [Text.isPrintable, if_pos (by omega), decide_eq_true_eq]
  omega

/-- A name has no mark in it, so that it is whole. -/
theorem Spelled.isUnmarked {name : String} (h : Spelled name) : Text.IsUnmarked name.toList :=
  fun c hc => (Text.isOrdinary_of_isPrintable (isPrintable_of_isNameChar (h c hc))).2

theorem Spelled.isWhole {name : String} (h : Spelled name) : Text.isWhole name = true :=
  Text.isWhole_of_isUnmarked h.isUnmarked

end ToolName

/-- The method that a joined path calls is joined. -/
theorem isJoined_methodName {path : String} (h : Text.isJoined path = true) :
    Text.isJoined (ToolName.methodName path) = true := by
  unfold ToolName.methodName ToolName.dropSlash
  split
  · next rest hpath =>
    have hslash : path = "/" ++ String.ofList rest := String.toList_inj.mp (by simpa using hpath)
    rwa [hslash, Text.sided_isJoined.append_iff_left (by decide)] at h
  · rwa [String.ofList_toList]

namespace Synthesis

variable {document : Value} {found : List Tool}

/-- The name of a draft is made from an identifier, and its method is that of the operation. -/
theorem name_of_draft {operation : Document.Operation} {d : Draft}
    (h : draft document operation = .ok d) :
    (∃ identifier, d.name = ToolName.ofIdentifier identifier) ∧ d.method = operation.method := by
  have made := draft_eq_ok_iff.mp h
  obtain ⟨_, identifier, -, -, hname, -⟩ := made.identifier
  exact ⟨⟨identifier, hname⟩, made.method⟩

/-- **The names of synthesized tools have their fixed start, and behind it the characters of names
only.** -/
theorem exists_name_rest (h : tools document = .ok found) :
    ∀ tool ∈ found, ∃ rest, tool.name = .text ("outline_" ++ rest) ∧ ToolName.Spelled rest := by
  obtain ⟨operations, made, hoperations, hmade, rfl⟩ := tools_eq_ok_iff.mp h
  have hmethods : ∀ method ∈ Document.methods, ToolName.Spelled method := by decide
  intro tool htool
  obtain ⟨⟨d, name⟩, hmem, rfl⟩ := List.mem_map.mp htool
  -- The name is the one that was made of the name and the method of this very draft.
  obtain ⟨i, hi⟩ := List.mem_iff_getElem?.mp hmem
  obtain ⟨hd, hname⟩ := List.getElem?_zip_eq_some.mp hi
  have hgiven : (made.map fun d => (d.name, d.method))[i]? = some (d.name, d.method) := by
    rw [List.getElem?_map, hd]
    rfl
  have hmadeFrom := ToolName.isMadeFrom_deduplicate hgiven hname
  obtain ⟨operation, hoperation, hdraft⟩ :=
    List.exists_of_mem_forall₂ hmade.flip (List.mem_of_getElem? hd)
  obtain ⟨⟨identifier, hidentifier⟩, hmethod⟩ := name_of_draft hdraft
  rw [hidentifier, hmethod] at hmadeFrom
  have hspelled :=
    hmethods _ (Document.method_mem_of_mem_operations hoperations operation hoperation)
  obtain ⟨rest, hrest, hspelled⟩ :=
    hmadeFrom.exists_rest (ToolName.spelled_snakeCase identifier) hspelled
  exact ⟨rest, congrArg Value.text hrest, hspelled⟩

/-- So these names have the characters of names only. -/
theorem exists_spelled_name (h : tools document = .ok found) :
    ∀ tool ∈ found, ∃ name, tool.name = .text name ∧ ToolName.Spelled name := by
  intro tool htool
  obtain ⟨rest, hname, hrest⟩ := exists_name_rest h tool htool
  exact ⟨_, hname, ToolName.spelled_append.mpr ⟨by decide, hrest⟩⟩

/-! ### Records -/

/-- A path that is taken as a name is a text. -/
theorem eq_text_of_nameText {path : Value} {name : String} (h : nameText path = .ok name) :
    path = .text name := by
  unfold nameText at h
  split at h
  · exact congrArg Value.text (Except.ok.inj h)
  · cases h

/-- **The records of synthesized tools have a property that the document has**, if parts inherit it
and records can have it. -/
theorem of_toRecord {P : Value → Prop} (hP : Value.Hereditary P) (hrecord : Value.Recordable P)
    (hdocument : P document) (h : tools document = .ok found) :
    ∀ tool ∈ found, P tool.toRecord := by
  intro tool htool
  obtain ⟨name, hname, hspelled⟩ := exists_spelled_name h tool htool
  obtain ⟨operations, hoperations, operation, hmem, d, _, hd, rfl⟩ :=
    exists_draft_of_mem_tools h htool
  have hinherits := Schema.inherits_of_hereditary hP
  have hdocs := Schema.documented_of_recordable hrecord
  have hbody := Document.of_operations hP hdocument hoperations operation hmem
  have hpath := Document.path_of_operations hP hdocument hoperations operation hmem
  have made := draft_eq_ok_iff.mp hd
  obtain ⟨hsummary, ⟨paginated, htext⟩, hinput, houtput⟩ := of_draft hd
  have htool : P (d.toTool _).name :=
    hname ▸ hrecord.text (Text.isJoined_of_isWhole hspelled.isWhole)
  refine Tool.of_toRecord hrecord htool ?_ ?_ ?_ ?_ ?_
  · exact Value.orElse_cases (hP.field hbody hsummary) htool
  · exact of_description hP hrecord hbody htext
  · rw [eq_text_of_nameText made.path] at hpath
    exact hrecord.text (isJoined_methodName (hrecord.isJson hpath))
  · have hpayload : P (.text payloadName) := hrecord.text (by decide +kernel)
    exact (built_inputValidator hinherits hdocs hpayload hdocument hbody hinput).of_toRecord hrecord
  · intro v hv
    have hbuilt := built_outputValidator hinherits hdocs hdocument hbody houtput v hv
    exact hbuilt.of_toRecord hrecord

end Synthesis

end ApiTools
