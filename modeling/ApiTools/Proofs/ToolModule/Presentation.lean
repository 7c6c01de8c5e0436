import ApiTools.Proofs.Document.Shape
import ApiTools.Proofs.Json.Writer
import ApiTools.Proofs.Synthesis.Records
import ApiTools.Proofs.ToolModule.Header
import ApiTools.Proofs.Value.Printed

/-!
# Modules that can be written

A module is rendered when everything that is put into it can be shown: the records of its tools,
which have to be values of JSON, and the title, the version and the number of tools, which stand in
running text.  What cannot be shown fails with a fault of its own, never with that of a reference.

A module that is rendered has bytes when it is whole.  The records are literals, in which a half is
written by its code, and the names above them have no halves.  So nothing but the title and the
version can bring a half into a module, and they do when they are texts with one.

## Main definitions

* `Value.IsShowable` — a value can stand in running text that is written to a file.
* `ToolModule.Presentable` — everything that is put into a module can be written.

## Main results

* `ToolModule.isWhole_source_iff` — **a module is whole exactly when its title and version are.**
* `ToolModule.exists_render_iff` — **a whole module is rendered exactly when everything that is put
  into it can be written.**
* `ToolModule.failsOnly_rendering` — where none is rendered, the fault is not that of a reference.
-/

namespace ApiTools

open Text

namespace Value

/-- A value can stand in running text that is written to a file: it has no integer that is too long,
and no half is in it if it is a text.  In a list or a map each text is quoted. -/
def IsShowable (v : Value) : Prop := v.fits = true ∧ ∀ s, v = .text s → isWhole s = true

theorem isShowable_iff {v : Value} {text : String} (h : v.shown = .ok text) :
    v.IsShowable ↔ isWhole text = true := by
  refine (and_iff_right (exists_shown_iff.mp ⟨text, h⟩)).trans ?_
  by_cases htext : ∃ s, v = .text s
  · obtain ⟨s, rfl⟩ := htext
    obtain rfl := Except.ok.inj h
    refine ⟨fun hall => hall s rfl, fun hwhole t heq => ?_⟩
    obtain rfl : s = t := Scalar.text.inj (Value.scalar.inj heq)
    exact hwhole
  · have hnone := not_exists.mp htext
    exact iff_of_true (fun s hs => absurd hs (hnone s))
      (isWhole_of_isUnmarked (isUnmarked_of_shown hnone h))

end Value

namespace ToolModule

open Except

variable {tools : List Tool} {document : Value}

/-! ### What is put into a module -/

/-- Everything that is put into the module of tools can be written. -/
structure Presentable (tools : List Tool) (document : Value) : Prop where
  /-- The records of the tools read back. -/
  records : ∀ tool ∈ tools, ∃ record, Json.plain tool.toRecord = .ok record
  /-- The title has no integer that is too long, and no half. -/
  title : ∀ v, infoField document "title" "Outline API" = .ok v → v.IsShowable
  /-- Nor has the version. -/
  version : ∀ v, infoField document "version" "unknown" = .ok v → v.IsShowable
  /-- The number of tools is not too long. -/
  count : (Value.int tools.length).fits = true

/-- What a description says of itself is read. -/
theorem exists_infoField (hmap : ∃ es, document.bare = .map es)
    (hinfo : (document.given "info").MayBeMap) (name fallback : String) :
    ∃ v, infoField document name fallback = .ok v := by
  obtain ⟨es, hes⟩ := hinfo.exists_entries_orElse
  refine ⟨(es.get? name).getD (.text fallback), ?_⟩
  refine Except.bind_eq_ok_iff.mpr ⟨_, Value.field_eq_given hmap "info", ?_⟩
  refine Except.bind_eq_ok_iff.mpr ⟨es.get? name, ?_, rfl⟩
  exact Except.bind_eq_ok_iff.mpr ⟨es, hes, rfl⟩

/-- The record of a tool that reads back has the name of the tool. -/
theorem toolName_of_plain {tool : Tool} {name : String} (hname : tool.name = .text name)
    (hspelled : ToolName.Spelled name) {record : Value}
    (h : Json.plain tool.toRecord = .ok record) : toolName record = .ok name := by
  obtain ⟨-, rfl⟩ := Json.plain_record_eq_ok (by exact Tool.areNames_fields) h
  have hplained : Json.plained tool.name = .text name := by
    rw [hname]
    exact Json.plained_of_isJson (isJoined_of_isWhole hspelled.isWhole)
  simp only [List.map_cons, hplained]
  rfl

/-! ### Modules without halves -/

/-- The lines of a record have no mark in them, if the name above them has none. -/
theorem isUnmarked_toolLines {record : Value} {name line : String}
    (hname : toolName record = .ok name) (hspelled : ToolName.Spelled name)
    (h : toolLines record = .ok line) : IsUnmarked line.toList := by
  have hshifted : IsUnmarked (shifted record.layout).toList := by
    rw [shifted, String.toList_ofList]
    intro c hc
    obtain ⟨d, hd, hc⟩ := List.mem_flatMap.mp hc
    split at hc
    · exact (by decide : IsUnmarked "\n    ".toList) c hc
    · rw [List.mem_singleton.mp hc]
      exact record.isUnmarked_layout d hd
  rw [toolLines, hname] at h
  obtain rfl := Except.ok.inj h
  simp only [String.toList_append, isUnmarked_append]
  exact ⟨⟨⟨⟨by decide, hspelled.isUnmarked⟩, by decide⟩, hshifted⟩, by decide⟩

theorem isWhole_headerText_iff {title version : String} :
    isWhole (headerText title version) = true ↔ isWhole title = true ∧ isWhole version = true := by
  have hfront : IsSeparator "Outline MCP tool definitions, generated from " := by
    rw [IsSeparator, String.toList_ofList]
    decide +kernel
  have hback : isWhole "Do not edit by hand. Regenerate with: python -m toolgen\n" = true := by
    apply isWhole_of_isUnmarked
    rw [String.toList_ofList]
    decide +kernel
  unfold headerText
  rw [sided_isWhole.between (by decide : IsSeparator ".\n\n"), and_iff_left hback,
    sided_isWhole.between (by decide : IsSeparator " "), sided_isWhole.append_iff_left hfront]

/-- **A module is whole exactly when its title and version are.** -/
theorem isWhole_source_iff {title version count : String} {lines : List String}
    (hcount : IsUnmarked count.toList) (hlines : ∀ line ∈ lines, IsUnmarked line.toList) :
    isWhole (header title version count ++ String.join lines ++ footer) = true ↔
      isWhole title = true ∧ isWhole version = true := by
  have hbody : isWhole (preamble count ++ String.join lines ++ footer) = true := by
    have hjoined : IsUnmarked (String.join lines).toList := by
      rw [String.toList_join]
      intro c hc
      obtain ⟨line, hline, hc⟩ := List.mem_flatMap.mp hc
      exact hlines line hline c hc
    apply isWhole_of_isUnmarked
    unfold preamble footer
    simp only [String.toList_append, isUnmarked_append, hcount, hjoined, and_true]
    -- Each text is evaluated as the list of its characters.
    iterate 7 rw [String.toList_ofList]
    decide +kernel
  have hsource : header title version count ++ String.join lines ++ footer =
      "\"\"\"" ++ headerText title version ++ "\"\"\""
        ++ (preamble count ++ String.join lines ++ footer) := by
    simp only [header_eq, String.append_assoc]
  rw [hsource, sided_isWhole.between (by decide), and_iff_left hbody,
    sided_isWhole.append_iff_left (by decide), isWhole_headerText_iff]

theorem isUnmarked_count {n : Int} {count : String} (h : (Value.int n).shown = .ok count) :
    IsUnmarked count.toList :=
  Value.isUnmarked_of_shown (by simp) h

section

variable (hnames : ∀ tool ∈ tools, ∃ name, tool.name = .text name ∧ ToolName.Spelled name)

include hnames

/-- The lines of synthesized tools have no mark in them. -/
theorem isUnmarked_lines {records : List Value} {lines : List String}
    (hrecords : List.Forall₂ (fun tool record => Json.plain tool.toRecord = .ok record) tools records)
    (hlines : List.Forall₂ (fun record line => toolLines record = .ok line) records lines) :
    ∀ line ∈ lines, IsUnmarked line.toList := by
  intro line hline
  obtain ⟨record, hrecord, hline⟩ := List.exists_of_mem_forall₂ hlines.flip hline
  obtain ⟨tool, htool, hplain⟩ := List.exists_of_mem_forall₂ hrecords.flip hrecord
  obtain ⟨name, hname, hspelled⟩ := hnames tool htool
  exact isUnmarked_toolLines (toolName_of_plain hname hspelled hplain) hspelled hline

/-! ### Modules that can be written -/

/-- What is put into a whole module that is rendered can be written. -/
theorem presentable_of_render {ctx : Entries} {text : String} (hctx : context tools document = .ok ctx)
    (htext : render ctx = .ok text) (hwhole : isWhole text = true) :
    Presentable tools document := by
  obtain ⟨records, title, version, hrecords, htitle, hversion, rfl⟩ := context_eq_ok_iff.mp hctx
  obtain ⟨shownTitle, shownVersion, count, lines, hshownTitle, hshownVersion, hcount, hlines, rfl⟩ :=
    (render_eq_ok_iff rfl).mp htext
  have hrecords := Except.mapM_eq_ok_iff.mp hrecords
  rw [isWhole_source_iff (isUnmarked_count hcount)
    (isUnmarked_lines hnames hrecords (Except.mapM_eq_ok_iff.mp hlines))] at hwhole
  refine ⟨fun tool htool => ?_, fun v hv => ?_, fun v hv => ?_, ?_⟩
  · obtain ⟨record, -, hrecord⟩ := List.exists_of_mem_forall₂ hrecords htool
    exact ⟨record, hrecord⟩
  · obtain rfl := Except.ok.inj (htitle.symm.trans hv)
    exact (Value.isShowable_iff hshownTitle).mpr hwhole.1
  · obtain rfl := Except.ok.inj (hversion.symm.trans hv)
    exact (Value.isShowable_iff hshownVersion).mpr hwhole.2
  · rw [hrecords.length_eq]
    exact Value.exists_shown_iff.mp ⟨count, hcount⟩

/-- Where everything can be written, a whole module is rendered. -/
theorem Presentable.exists_render (h : Presentable tools document) {title version : Value}
    (htitle : infoField document "title" "Outline API" = .ok title)
    (hversion : infoField document "version" "unknown" = .ok version) :
    ∃ ctx text, context tools document = .ok ctx ∧ render ctx = .ok text ∧
      isWhole text = true := by
  obtain ⟨records, hrecords⟩ := List.exists_forall₂ h.records
  have hshowTitle := h.title title htitle
  have hshowVersion := h.version version hversion
  obtain ⟨shownTitle, hshownTitle⟩ := Value.exists_shown_iff.mpr hshowTitle.1
  obtain ⟨shownVersion, hshownVersion⟩ := Value.exists_shown_iff.mpr hshowVersion.1
  have hcount := h.count
  rw [hrecords.length_eq] at hcount
  obtain ⟨count, hcount⟩ := Value.exists_shown_iff.mpr hcount
  have hlines : ∀ record ∈ records, ∃ line, toolLines record = .ok line := by
    intro record hrecord
    obtain ⟨tool, htool, hplain⟩ := List.exists_of_mem_forall₂ hrecords.flip hrecord
    obtain ⟨name, hname, hspelled⟩ := hnames tool htool
    exact ⟨_, Except.bind_eq_ok_iff.mpr ⟨name, toolName_of_plain hname hspelled hplain, rfl⟩⟩
  obtain ⟨lines, hlines⟩ := List.exists_forall₂ hlines
  refine ⟨contextOf records title version, _,
    context_eq_ok_iff.mpr
      ⟨records, title, version, Except.mapM_eq_ok_iff.mpr hrecords, htitle, hversion, rfl⟩,
    (render_eq_ok_iff rfl).mpr ⟨shownTitle, shownVersion, count, lines, hshownTitle, hshownVersion,
      hcount, Except.mapM_eq_ok_iff.mpr hlines, rfl⟩, ?_⟩
  rw [isWhole_source_iff (isUnmarked_count hcount)
    (isUnmarked_lines hnames hrecords hlines)]
  exact ⟨(Value.isShowable_iff hshownTitle).mp hshowTitle,
    (Value.isShowable_iff hshownVersion).mp hshowVersion⟩

/-- **A whole module is rendered exactly when everything that is put into it can be written.** -/
theorem exists_render_iff (hmap : ∃ es, document.bare = .map es)
    (hinfo : (document.given "info").MayBeMap) :
    (∃ text, (context tools document >>= render) = .ok text ∧ isWhole text = true) ↔
      Presentable tools document := by
  constructor
  · rintro ⟨text, h, hwhole⟩
    obtain ⟨ctx, hctx, htext⟩ := Except.bind_eq_ok_iff.mp h
    exact presentable_of_render hnames hctx htext hwhole
  · intro h
    obtain ⟨title, htitle⟩ := exists_infoField hmap hinfo "title" "Outline API"
    obtain ⟨version, hversion⟩ := exists_infoField hmap hinfo "version" "unknown"
    obtain ⟨ctx, text, hctx, htext, hwhole⟩ := Presentable.exists_render hnames h htitle hversion
    exact ⟨text, Except.bind_eq_ok_iff.mpr ⟨ctx, hctx, htext⟩, hwhole⟩

end

/-! ### Modules that cannot be rendered -/

theorem failsOnly_entries (v : Value) : v.entries.FailsOnly (·.abortsGeneration = false) := by
  unfold Value.entries
  split
  · exact .ok _
  · exact .error rfl

theorem failsOnly_infoField (document : Value) (name fallback : String) :
    (infoField document name fallback).FailsOnly (·.abortsGeneration = false) :=
  ((failsOnly_entries _).bind fun _ => .ok _).bind fun _ =>
    ((failsOnly_entries _).bind fun _ => .ok _).bind fun _ => .ok _

theorem failsOnly_slot (ctx : Entries) (name : String) :
    (slot ctx name).FailsOnly (·.abortsGeneration = false) := by
  unfold slot
  split
  · exact Value.failsOnly_shown _
  · exact .ok _

theorem failsOnly_toolLines (record : Value) :
    (toolLines record).FailsOnly (·.abortsGeneration = false) := by
  refine FailsOnly.bind ?_ fun _ => .ok _
  unfold toolName
  split
  · exact failsOnly_slot _ _
  · exact .ok _

/-- **A module that cannot be rendered fails with another fault than that of a reference.** -/
theorem failsOnly_rendering (tools : List Tool) (document : Value) :
    (context tools document >>= render).FailsOnly (·.abortsGeneration = false) := by
  have hcontext : (context tools document).FailsOnly (·.abortsGeneration = false) :=
    (FailsOnly.mapM fun tool _ => Json.failsOnly_plain tool.toRecord).bind fun _ =>
      (failsOnly_infoField document "title" "Outline API").bind fun _ =>
        (failsOnly_infoField document "version" "unknown").bind fun _ => .ok _
  have helements : ∀ v : Value, v.elements.FailsOnly (·.abortsGeneration = false) := by
    intro v
    unfold Value.elements
    split
    all_goals first | exact .ok _ | exact .error rfl
  refine hcontext.bind fun ctx => (helements _).bind fun records => ?_
  refine (failsOnly_slot ctx "api_title").bind fun title => ?_
  refine (failsOnly_slot ctx "api_version").bind fun version => ?_
  refine (failsOnly_slot ctx "tool_count").bind fun count => ?_
  exact (FailsOnly.mapM fun record _ => failsOnly_toolLines record).bind fun _ => .ok _

end ToolModule

end ApiTools
