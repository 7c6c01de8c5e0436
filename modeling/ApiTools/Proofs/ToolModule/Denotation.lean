import ApiTools.Proofs.Annotation.Flags
import ApiTools.Proofs.Json.Number
import ApiTools.Proofs.Literal.Layout
import ApiTools.Proofs.Synthesis.Records
import ApiTools.Proofs.ToolModule.Header
import ApiTools.Proofs.ToolModule.Persistence

/-!
# The data of a generated module denotes its tools

A generated module has its tools as a list of literals, a comment with the name of the tool above
each one.  Names have no line end, so each comment ends with its line; and a record from a
description in JSON has exact values only, so its literal denotes it, with its lines moved to the
right.  So the list that a reader finds in the source is the list of the records that it was made
from.

## Main definitions

* `ToolModule.front`, `ToolModule.ending` — the source in front of the data and behind it.

## Main results

* `ToolModule.shifted_layout` — the lines of a record are moved the same way wherever they are cut.
* `ToolModule.read_render` — **the data of a module denotes the records of its tools.**
-/

namespace ApiTools

namespace ToolModule

open Literal Text

/-! ### The lines of a record -/

theorem toList_shifted (text : String) : (shifted text).toList = shiftBy 4 text.toList := by
  rw [shifted, String.toList_ofList]
  rfl

/-- A literal in several lines, as it is written for a record. -/
theorem layout_toRecord (tool : Tool) :
    tool.toRecord.layout = Layout.valueAt 0 0 tool.toRecord := rfl

/-- The lines of an exact record are moved to the right the same way, whether they are cut at line
feeds or at every line end. -/
theorem shifted_layout {tool : Tool} (h : tool.toRecord.IsExact) :
    shifted tool.toRecord.layout = String.ofList (indentBy 4 tool.toRecord.layout.toList) := by
  rw [layout_toRecord, indentBy_of_lined (written_valueAt 4 h 0 0).lined]
  rfl

/-- The lines of a tool are a comment with its name and its record. -/
theorem toolLines_toRecord {tool : Tool} {name : String} (hname : tool.name = .text name) :
    toolLines tool.toRecord =
      .ok ("    # " ++ name ++ "\n    " ++ shifted tool.toRecord.layout ++ ",\n") := by
  have hslot : toolName tool.toRecord = .ok name := by
    unfold Tool.toRecord
    rw [hname]
    rfl
  rw [toolLines, hslot]
  rfl

/-- A name above a record is passed over with its line. -/
theorem passed_toolName {name : String} (h : ToolName.Spelled name) :
    Passed ("\n    # " ++ name ++ "\n    ").toList := by
  have hname : ∀ c ∈ ' ' :: name.toList, c ≠ '\x00' ∧ c ≠ '\n' := by
    rw [List.forall_mem_cons]
    refine ⟨by decide, fun c hc => ?_⟩
    have hprintable := ToolName.isPrintable_of_isNameChar (h c hc)
    constructor <;> rintro rfl <;> exact absurd hprintable (by decide)
  have hopen : "\n    # ".toList = ['\n', ' ', ' ', ' ', ' '] ++ ['#', ' '] := rfl
  have hclose : "\n    ".toList = ['\n'] ++ [' ', ' ', ' ', ' '] := rfl
  have hblanks : Passed [' ', ' ', ' ', ' '] := passed_of_forall (by simp [isGap])
  have hfront : Passed ['\n', ' ', ' ', ' ', ' '] := (passed_gap rfl).append hblanks
  have hgap := hfront.append ((passed_comment hname).append hblanks)
  rw [String.toList_append, String.toList_append, hopen, hclose]
  simpa using hgap

/-! ### The list of the records -/

/-- **Between their brackets, the lines of tools are the items of a list.** -/
theorem itemsText_toolLines {tools : List Tool}
    (hnames : ∀ tool ∈ tools, ∃ name, tool.name = .text name ∧ ToolName.Spelled name)
    (hexact : ∀ tool ∈ tools, tool.toRecord.IsExact) {lines : List String}
    (h : List.Forall₂ (fun tool line => toolLines tool.toRecord = .ok line) tools lines) :
    ItemsText ('\n' :: (String.join lines).toList) (tools.map Tool.toRecord) := by
  induction h with
  | nil => exact .nil (passed_gap rfl)
  | @cons tool line tools lines hline _ ih =>
    rw [List.forall_mem_cons] at hnames hexact
    obtain ⟨⟨name, hname, hspelled⟩, hnames⟩ := hnames
    obtain ⟨hrecord, hexact⟩ := hexact
    rw [toolLines_toRecord hname] at hline
    obtain rfl := Except.ok.inj hline
    have hwritten := (written_valueAt 4 hrecord 0 0).denotes
    rw [← layout_toRecord, ← toList_shifted] at hwritten
    have hitems := ItemsText.cons (passed_toolName hspelled) hwritten (ih hnames hexact)
    have hopen : "\n    # ".toList = '\n' :: "    # ".toList := rfl
    have hclose : ",\n".toList = [',', '\n'] := rfl
    rw [String.join_cons, List.map_cons]
    simp only [String.toList_append, hopen, hclose, List.cons_append, List.append_assoc,
      List.nil_append] at hitems ⊢
    exact hitems

/-- There is no carriage return in the lines of tools. -/
theorem return_notMem_toolLines {tools : List Tool}
    (hnames : ∀ tool ∈ tools, ∃ name, tool.name = .text name ∧ ToolName.Spelled name)
    (hexact : ∀ tool ∈ tools, tool.toRecord.IsExact) {lines : List String}
    (h : List.Forall₂ (fun tool line => toolLines tool.toRecord = .ok line) tools lines) :
    '\r' ∉ (String.join lines).toList := by
  intro hmem
  rw [String.toList_join] at hmem
  obtain ⟨line, hline, hmem⟩ := List.mem_flatMap.mp hmem
  obtain ⟨tool, htool, hline⟩ := List.exists_of_mem_forall₂ h.flip hline
  obtain ⟨name, hname, hspelled⟩ := hnames tool htool
  have hcomment : '\r' ∉ "    # ".toList ∧ '\r' ∉ "\n    ".toList ∧ '\r' ∉ ",\n".toList := by decide
  have htext : '\r' ∉ name.toList := fun hmem =>
    absurd (ToolName.isPrintable_of_isNameChar (hspelled _ hmem)) (by decide)
  have hrecord : '\r' ∉ (shifted tool.toRecord.layout).toList := by
    rw [toList_shifted]
    exact (written_valueAt 4 (hexact tool htool) 0 0).lined.return_notMem
  obtain rfl := Except.ok.inj ((toolLines_toRecord hname).symm.trans hline)
  simp only [String.toList_append, List.mem_append] at hmem
  obtain ⟨hopen, hbreak, hclose⟩ := hcomment
  exact hmem.elim (·.elim (·.elim (·.elim hopen htext) hbreak) hrecord) hclose

/-! ### The whole module -/

/-- The source in front of the data. -/
def front (title version count : String) : String :=
  "\"\"\"" ++ headerText title version ++ "\"\"\"" ++ "\n\n"
    ++ "from __future__ import annotations\n\nfrom types import MappingProxyType\n\n"
    ++ "from toolgen.models import ToolDefinition, load_tool_definitions\n\n"
    ++ "TOOL_COUNT = " ++ count ++ "\n\n"

/-- The source behind the data. -/
def ending : String :=
  "\n\nTOOLS: tuple[ToolDefinition, ...] = load_tool_definitions(_TOOL_DATA)\n\n"
    ++ "TOOLS_BY_NAME = MappingProxyType(\x7btool.name: tool for tool in TOOLS\x7d)\n"

theorem header_eq_front (title version count : String) :
    header title version count =
      front title version count ++ "_TOOL_DATA: list[dict] =" ++ " [\n" := by
  have hdata : "\n\n_TOOL_DATA: list[dict] = [\n" =
      "\n\n" ++ ("_TOOL_DATA: list[dict] =" ++ " [\n") := by simp
  rw [header_eq]
  unfold front preamble
  simp only [hdata, String.append_assoc]

theorem footer_eq_ending : footer = "]" ++ ending := by
  have hclose : "]\n\nTOOLS: tuple[ToolDefinition, ...] = load_tool_definitions(_TOOL_DATA)\n\n" =
      "]" ++ "\n\nTOOLS: tuple[ToolDefinition, ...] = load_tool_definitions(_TOOL_DATA)\n\n" := by
    simp
  unfold footer ending
  simp only [hclose, String.append_assoc]

/-- A list in brackets after a blank is read up to its bracket. -/
theorem read_list {names : String → Option Char} {t rest : List Char} {vs : List Value}
    (h : ItemsText t vs) :
    Literal.read names (' ' :: '[' :: (t ++ ']' :: rest)) = some (.list vs, rest) := by
  have hblank : (' ' :: '[' :: (t ++ ']' :: rest)).dropWhile
      (fun c => c == ' ' || c == '\t' || c == '\x0c') = '[' :: (t ++ ']' :: rest) := rfl
  rw [Literal.read, hblank]
  refine readValue_list h ?_
  simp only [List.length_cons, List.length_append]
  omega

/-- What a description says of itself has each property that the description has. -/
theorem of_infoField {P : Value → Prop} (hP : Value.Hereditary P) {document v : Value}
    (h : P document) {name fallback : String} (hfallback : P (.text fallback))
    (hv : infoField document name fallback = .ok v) : P v := by
  obtain ⟨info, hinfo, hv⟩ := Except.bind_eq_ok_iff.mp hv
  obtain ⟨found, hfound, hv⟩ := Except.bind_eq_ok_iff.mp hv
  obtain ⟨es, hes, hfound⟩ := Except.bind_eq_ok_iff.mp hfound
  obtain rfl := Except.ok.inj hfound
  obtain rfl := Except.ok.inj hv
  have hgiven : P (info.orElse (.map [])) :=
    Value.orElse_cases (hP.field h hinfo) hP.noEntries
  have hmap : P (.map es) := hP.entries hgiven hes
  cases hname : es.get? name with
  | none => exact hfallback
  | some w => exact hP.part hmap (Value.part_find? hname)

/-- A context fills in what fits: the title, the version, and the number of tools. -/
theorem slots_of_context {tools : List Tool} {document : Value} {ctx : Entries}
    (hdocument : document.IsExact) (h : context tools document = .ok ctx)
    (hcount : tools.length < Double.tenTo maxDigits) :
    ∃ title version count, slot ctx "api_title" = .ok title ∧ slot ctx "api_version" = .ok version ∧
      slot ctx "tool_count" = .ok count := by
  obtain ⟨records, title, version, hrecords, htitle, hversion, rfl⟩ := context_eq_ok_iff.mp h
  have hshown : ∀ {v : Value}, v.IsExact → v.shown = .ok v.display := fun hv =>
    if_pos (Value.fits_of_isExact hv)
  have hfield : ∀ {name fallback v}, Text.isJoined fallback = true →
      infoField document name fallback = .ok v → v.IsExact := fun hfallback =>
    of_infoField Value.hereditary_isExact hdocument (Value.isExact_text hfallback)
  have hlength : records.length = tools.length := (Except.mapM_eq_ok_iff.mp hrecords).length_eq.symm
  have hnumber : (Value.int records.length).IsExact := by
    rw [Value.isExact_scalar, Scalar.IsExact, Value.scalarFits, decide_eq_true_eq, hlength]
    exact hcount
  exact ⟨_, _, _, hshown (hfield (by decide +kernel) htitle),
    hshown (hfield (by decide +kernel) hversion), hshown hnumber⟩

/-- The data of a module denotes the records of its tools, if these are exact. -/
theorem read_of_isExact {tools : List Tool} {ctx : Entries}
    (hfield : ctx.get? "tools" = some (.list (tools.map Tool.toRecord)))
    (hnames : ∀ tool ∈ tools, ∃ name, tool.name = .text name ∧ ToolName.Spelled name)
    (hexact : ∀ tool ∈ tools, tool.toRecord.IsExact) {text : String}
    (htext : render ctx = .ok text) : ∃ title version count data,
      slot ctx "api_title" = .ok title ∧ slot ctx "api_version" = .ok version ∧
      slot ctx "tool_count" = .ok count ∧
      text = front title version count ++ "_TOOL_DATA: list[dict] =" ++ data ∧
      ∀ names, Literal.read names (unifyLineEnds data.toList) =
        some (.list (tools.map Tool.toRecord), ending.toList) := by
  obtain ⟨title, version, count, lines, htitle, hversion, hcount, hlines, rfl⟩ :=
    (render_eq_ok_iff hfield).mp htext
  have hlines := List.forall₂_map_left_iff.mp (Except.mapM_eq_ok_iff.mp hlines)
  refine ⟨title, version, count, " [\n" ++ String.join lines ++ "]" ++ ending, htitle, hversion,
    hcount, ?_, fun names => ?_⟩
  · rw [header_eq_front, footer_eq_ending]
    simp only [String.append_assoc]
  · have hopen : " [\n".toList = [' ', '[', '\n'] := rfl
    have hclose : "]".toList = [']'] := rfl
    have hdata : (" [\n" ++ String.join lines ++ "]" ++ ending).toList =
        ' ' :: '[' :: ('\n' :: (String.join lines).toList ++ ']' :: ending.toList) := by
      simp only [String.toList_append, hopen, hclose, List.append_assoc, List.cons_append,
        List.nil_append]
    have hreturn : '\r' ∉ (" [\n" ++ String.join lines ++ "]" ++ ending).toList := by
      have hjoined := return_notMem_toolLines hnames hexact hlines
      have hending : '\r' ∉ ending.toList := by
        unfold ending
        simp only [String.toList_append, List.mem_append, not_or]
        decide
      rw [hdata]
      simpa [hending] using hjoined
    rw [unifyLineEnds_of_not_mem hreturn, hdata]
    exact read_list (itemsText_toolLines hnames hexact hlines)

/-- **The data of a generated module denotes the records of its tools.** For a description in JSON
with finite numbers there is a module, as long as the number of tools can be written; and behind the
name of the data, a reader finds the list of the records, up to the bracket that closes it. -/
theorem read_render {source : String} {document : Value} {tools : List Tool} {ctx : Entries}
    (hparse : Json.parse source = .ok document) (hfinite : Json.isFinite document = true)
    (htools : Synthesis.tools document = .ok tools) (hctx : context tools document = .ok ctx) :
    ctx.get? "tools" = some (.list (tools.map Tool.toRecord)) ∧
      (tools.length < Double.tenTo maxDigits → ∃ text, render ctx = .ok text) ∧
      ∀ text, render ctx = .ok text → ∃ title version count data,
        slot ctx "api_title" = .ok title ∧ slot ctx "api_version" = .ok version ∧
        slot ctx "tool_count" = .ok count ∧
        text = front title version count ++ "_TOOL_DATA: list[dict] =" ++ data ∧
        ∀ names, Literal.read names (unifyLineEnds data.toList) =
          some (.list (tools.map Tool.toRecord), ending.toList) := by
  have hdocument := Json.isExact_of_parse hparse hfinite
  have hexact := Synthesis.of_toRecord Value.hereditary_isExact Value.recordable_isExact hdocument
    htools
  have hnames := Synthesis.exists_spelled_name htools
  obtain ⟨records, hrecords, hfield, -⟩ := context_eq_ok hctx
  obtain rfl := mapM_plain_eq_ok (fun tool htool => (hexact tool htool).1) hrecords
  refine ⟨hfield, fun hcount => ?_, fun text htext => read_of_isExact hfield hnames hexact htext⟩
  obtain ⟨title, version, count, htitle, hversion, hcount⟩ :=
    slots_of_context hdocument hctx hcount
  have hwritten : ∀ tool ∈ tools, ∃ line, toolLines tool.toRecord = .ok line := by
    intro tool htool
    obtain ⟨name, hname, -⟩ := hnames tool htool
    exact ⟨_, toolLines_toRecord hname⟩
  obtain ⟨lines, hlines⟩ := List.exists_forall₂ hwritten
  have hall : (tools.map Tool.toRecord).mapM toolLines = .ok lines :=
    Except.mapM_eq_ok_iff.mpr (List.forall₂_map_left_iff.mpr hlines)
  exact ⟨_, (render_eq_ok_iff hfield).mpr
    ⟨title, version, count, lines, htitle, hversion, hcount, hall, rfl⟩⟩

/-! ### Quotes, line ends and a fraction -/

/-- The source of a description with quotes and line ends in a text, and with a fraction. -/
def quotedSource : String :=
  "\x7b\"paths\":\x7b\"/notes\":\x7b\"post\":\x7b"
    ++ "\"summary\":\"It's \\\"new\\\"\\n#\\u2028\",\"requestBody\":\x7b\"content\":\x7b"
    ++ "\"application/json\":\x7b\"schema\":\x7b\"enum\":[0.1,-7]"
    ++ "\x7d\x7d\x7d\x7d\x7d\x7d\x7d\x7d"

/-- The description. -/
def quotedDocument : Value :=
  .record [("paths", .record [("/notes", .record [("post",
    .record [("summary", .text "It's \"new\"\n#\u2028"), ("requestBody",
      .record [("content", .record [("application/json", .record [("schema", .record [("enum",
        .list [.double (.ofDecimal false 1 (-1)), .int (-7)])])])])])])])])]

/-- Its tool. -/
def quotedTool : Tool :=
  Synthesis.unnamedTool "notes" (.text "It's \"new\"\n#\u2028") .null
    (Synthesis.payloadValidator (.literal .null [.double (.ofDecimal false 1 (-1)), .int (-7)])) none

/-- What the description says: its numbers are finite, and it has one tool. -/
theorem exists_context_quotedSource :
    ∃ document tool ctx, Json.parse quotedSource = .ok document ∧ Json.isFinite document = true ∧
      Synthesis.tools document = .ok [tool] ∧ context [tool] document = .ok ctx ∧
      tool.description.text? = some "It's \"new\"\n#\u2028" := by
  have hparse : Json.parse quotedSource = .ok quotedDocument := by
    unfold quotedSource
    -- The text is evaluated as the list of its characters.
    iterate 3 rw [← String.ofList_append]
    rw [Json.parse, Json.parseKeeping, String.toList_ofList]
    exact Except.eq_ok_of_toOption (by decide +kernel)
  have hname : ToolName.methodName "/notes" = "notes" := by decide +kernel
  have hunmarked : Annotations.derive AnnotationRule.table "notes" = .ok .unmarked :=
    Annotations.derive_table_of_isSmall (by decide +kernel) (by decide +kernel)
  have htools : Synthesis.tools quotedDocument = .ok [quotedTool] :=
    Synthesis.tools_of_unnamed rfl hname hunmarked rfl rfl rfl rfl rfl rfl
  have hcontext : ((context [quotedTool] quotedDocument).toOption.any fun _ => true) = true := by
    decide +kernel
  obtain ⟨ctx, hctx, -⟩ := Except.exists_eq_ok_of_any hcontext
  exact ⟨quotedDocument, quotedTool, ctx, hparse, by decide +kernel, htools, hctx, rfl⟩

/-- The data of the module of this description denotes the record of its tool. -/
theorem read_render_quotedSource :
    ∃ document tool ctx text title version count data,
      Json.parse quotedSource = .ok document ∧ Json.isFinite document = true ∧
      Synthesis.tools document = .ok [tool] ∧
      tool.description.text? = some "It's \"new\"\n#\u2028" ∧
      context [tool] document = .ok ctx ∧ ctx.get? "tools" = some (.list [tool.toRecord]) ∧
      render ctx = .ok text ∧
      text = front title version count ++ "_TOOL_DATA: list[dict] =" ++ data ∧
      ∀ names, Literal.read names (unifyLineEnds data.toList) =
        some (.list [tool.toRecord], ending.toList) := by
  obtain ⟨document, tool, ctx, hparse, hfinite, htools, hctx, htext⟩ := exists_context_quotedSource
  obtain ⟨hrecords, hrenders, hreads⟩ := read_render hparse hfinite htools hctx
  have hmany : ∀ n ≠ 0, 1 < Double.tenTo n := fun n hn => Nat.one_lt_pow hn (by decide)
  obtain ⟨source, hrender⟩ := hrenders (hmany maxDigits (by decide))
  obtain ⟨title, version, count, data, -, -, -, heq, hread⟩ := hreads source hrender
  exact ⟨document, tool, ctx, source, title, version, count, data, hparse, hfinite, htools, htext,
    hctx, hrecords, hrender, heq, hread⟩

end ToolModule

end ApiTools
