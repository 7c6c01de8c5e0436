import ApiTools.Proofs.Validator.Record
import ApiTools.Tool
import Mathlib.Data.List.Count

/-!
# Tools come back from their records

A tool comes back from its record with tidy validators.  Its title has to be given unless it is the
name, for the name is put in place of a title that is not.  Tools whose names are distinct texts are
loaded all together.

## Main definitions

* `Tool.HasTitle` — the title is given, or it is the name.
* `Tool.tidy` — the tool with tidy validators.

## Main results

* `Tool.ofRecord_toRecord` — **a tool comes back from its record, its validators tidy.**
* `Tool.loadAll_toRecord` — **tools with distinct texts as names are loaded from their records.**
-/

namespace ApiTools

/-- Flags come back from their record. -/
theorem Annotations.ofRecord_toRecord (a : Annotations) : ofRecord a.toRecord = .ok a := by
  obtain ⟨readOnly, destructive, idempotent, openWorld⟩ := a
  cases readOnly <;> cases destructive <;> cases idempotent <;> cases openWorld <;> rfl

namespace Tool

/-- The title does not change when the name is put in its place unless it is given. -/
def HasTitle (tool : Tool) : Prop := tool.title.orElse tool.name = tool.title

/-- The tool with tidy validators. -/
def tidy (tool : Tool) : Tool :=
  { tool with input := tool.input.tidy, output := tool.output.map Validator.tidy }

/-- The record of a validator counts as given. -/
theorem isTruthy_toRecord (v : Validator) : v.toRecord.isTruthy = true := by
  rw [Validator.toRecord_eq_map]
  rfl

/-- What the record of a tool has at each name. -/
theorem ofRecord_toRecord_eq (tool : Tool) :
    ofRecord tool.toRecord = (do
      let input ← Validator.ofRecord tool.input.toRecord
      let output := (tool.output.map Validator.toRecord).getD .null
      let output ← if output.isTruthy then some <$> Validator.ofRecord output else pure none
      let annotations ← Annotations.ofRecord tool.annotations.toRecord
      return { tool with title := tool.title.orElse tool.name, input, output, annotations }) := rfl

/-- **A tool comes back from its record, its validators tidy.** -/
theorem ofRecord_toRecord {tool : Tool} (htitle : tool.HasTitle) :
    ofRecord tool.toRecord = .ok tool.tidy := by
  rw [ofRecord_toRecord_eq, tidy, Validator.ofRecord_toRecord, Annotations.ofRecord_toRecord,
    htitle]
  cases houtput : tool.output with
  | none => rfl
  | some v =>
    refine Except.bind_eq_ok_iff.mpr ⟨tool.input.tidy, rfl, ?_⟩
    dsimp only [Option.map_some, Option.getD_some]
    rw [if_pos (isTruthy_toRecord v), Validator.ofRecord_toRecord]
    rfl

/-! ### Distinct names -/

/-- No name is repeated among distinct texts. -/
theorem repeatedNames_texts {names : List String} (h : names.Nodup) :
    repeatedNames (names.map Value.text) = [] := by
  have hcount : ∀ name,
      (names.map Value.text).countP (Value.text name).alike = names.count name := by
    intro name
    rw [List.countP_map, List.count]
    refine List.countP_congr fun other _ => ?_
    have halike : (Value.text name).alike (.text other) = (name == other) := rfl
    rw [Function.comp, halike, Bool.beq_comm]
  have hfilter : ((names.map Value.text).filter fun name =>
      1 < (names.map Value.text).countP name.alike) = [] := by
    rw [List.filter_eq_nil_iff, List.forall_mem_map]
    intro name _
    rw [hcount]
    simpa using List.nodup_iff_count_le_one.mp h name
  rw [repeatedNames, hfilter]
  rfl

/-- **Tools with distinct texts as names are loaded from their records.** -/
theorem loadAll_toRecord {tools : List Tool} (htitles : ∀ tool ∈ tools, tool.HasTitle)
    {names : List String} (hnames : tools.map Tool.name = names.map .text) (hnodup : names.Nodup) :
    loadAll (.list (tools.map toRecord)) = .ok (tools.map tidy) := by
  have hread : (tools.map toRecord).mapM ofRecord = .ok (tools.map tidy) := by
    refine Except.mapM_eq_ok_iff.mpr (List.forall₂_map_left_iff.mpr
      (List.forall₂_map_right_iff.mpr (List.forall₂_same.mpr fun tool htool => ?_)))
    exact ofRecord_toRecord (htitles tool htool)
  have hkept : (tools.map tidy).map Tool.name = names.map .text := by
    rw [List.map_map, ← hnames]
    rfl
  refine Except.bind_eq_ok_iff.mpr ⟨tools.map toRecord, rfl, ?_⟩
  refine Except.bind_eq_ok_iff.mpr ⟨tools.map tidy, hread, ?_⟩
  rw [hkept, repeatedNames_texts hnodup]
  rfl

end Tool

end ApiTools
