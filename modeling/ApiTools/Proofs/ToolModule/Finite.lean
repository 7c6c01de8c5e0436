import ApiTools.Proofs.Annotation.Flags
import ApiTools.Proofs.Schema.Mentions
import ApiTools.Proofs.ToolModule.Denotation

/-!
# Numbers that are not finite in a generated module

The records of tools are printed into a generated module as literals.  There is a literal for each
value of JSON but for the numbers that are not finite: they are printed as names, which the module
does not define.  A reader of JSON gives such a number for a numeral that is too large and for three
words.  One of them comes into a record when it is the title or the description of an operation, a
value to choose from, or the name of a property, and in no other way.

## Main definitions

* `Value.IsLiteral` — a value that is printed as a literal, what is inside it left out.
* `Tool.Mentions` — the values that a tool has from the description it is made from.

## Main results

* `Value.forall_holds_isLiteral_iff` — a value of JSON is made of literals when its numbers are
  finite; `Value.read_layout_of_not_isLiteral` — no reader reads what is printed for another number.
* `Tool.of_toRecord_iff` — **the record of a tool is finite when all that it mentions is**, and so
  for all else that is said of a value when it is said of what it holds.
* `ToolModule.data_isLiteral_iff` — **the data of a module is made of literals exactly when the
  tools mention finite numbers only**, and then it denotes their records.
-/

namespace ApiTools

/-! ### Literals -/

/-- A value that is printed as a literal, what is inside it left out. -/
inductive Value.IsLiteral : Value → Prop where
  /-- The absent value is. -/
  | null : IsLiteral .null
  /-- A truth value is. -/
  | bool (b : Bool) : IsLiteral (.bool b)
  /-- An integer is. -/
  | int (n : Int) : IsLiteral (.int n)
  /-- A number with a point or an exponent is, if it is finite. -/
  | double {d : Double} (hd : Json.isFiniteScalar (.double d) = true) : IsLiteral (.double d)
  /-- A text is. -/
  | text (s : String) : IsLiteral (.text s)
  /-- A list is. -/
  | list (items : List Value) : IsLiteral (.list items)
  /-- A map is, if its keys are texts. -/
  | map {es : Entries} (hkeys : ∀ e ∈ es, ∃ name, e.1 = .text name) : IsLiteral (.map es)

namespace Value

/-- A value of JSON is a literal, unless it is a number that is not finite. -/
theorem isLiteral_or_of_isJson {v : Value} (h : v.isJson = true) :
    v.IsLiteral ∨ ∃ d, v = .double d ∧ Json.isFiniteScalar (.double d) = false := by
  cases v with
  | scalar s =>
    cases s with
    | null => exact .inl .null
    | bool b => exact .inl (.bool b)
    | int n => exact .inl (.int n)
    | double d =>
      by_cases hd : Json.isFiniteScalar (.double d) = true
      · exact .inl (.double hd)
      · exact .inr ⟨d, rfl, Bool.eq_false_of_not_eq_true hd⟩
    | text t => exact .inl (.text t)
    | stamp t | bytes b => exact absurd h (by simp [isJson, Scalar.isJson])
  | list items => exact .inl (.list items)
  | map es => exact .inl (.map fun e he => ((isJson_map.mp h).2.1 e he).imp fun _ => And.left)
  | group form items | knot label inside => exact absurd h (by simp [isJson])

theorem isLiteral_of_isFiniteJson {v : Value} (h : v.IsFiniteJson) : v.IsLiteral := by
  rcases isLiteral_or_of_isJson h.1 with hv | ⟨d, rfl, hd⟩
  · exact hv
  · exact absurd h.2 (by simp [Json.isFinite, hd])

/-- **What is no literal is printed as a name**, of which no reader knows what it denotes. -/
theorem read_layout_of_not_isLiteral {v : Value} (hjson : v.isJson = true) (h : ¬v.IsLiteral) :
    Literal.read (fun _ => none) v.layout.toList = none := by
  obtain ⟨d, rfl, hd⟩ := (isLiteral_or_of_isJson hjson).resolve_left h
  cases d with
  | nan => decide +kernel
  | infinite negative => cases negative <;> decide +kernel
  | finite negative mantissa exponent => cases hd

/-- **A value of JSON is made of literals exactly when its numbers are finite.** -/
theorem forall_holds_isLiteral_iff {v : Value} (h : v.isJson = true) :
    (∀ y, v.Holds y → y.IsLiteral) ↔ Json.isFinite v = true := by
  constructor
  · intro hall
    refine (isFinite_iff_forall_holds h).mpr fun s hs => ?_
    have hliteral := hall _ hs
    cases hliteral with
    | double hd => exact hd
    | null | bool b | int n | text t => rfl
  · intro hfinite y hy
    exact isLiteral_of_isFiniteJson (hereditary_isFiniteJson.of_holds ⟨h, hfinite⟩ hy)

end Value

/-! ### What a tool mentions -/

/-- The values that a tool has from the description it is made from. -/
inductive Tool.Mentions (tool : Tool) : Value → Prop where
  /-- The title is the summary of the operation. -/
  | title : Mentions tool tool.title
  /-- The description is that of the operation. -/
  | description : Mentions tool tool.description
  /-- A value to choose from, or the name of an argument. -/
  | input {w : Validator} {x : Value} (hw : tool.input.Part w) (hx : x ∈ w.mentions) :
    Mentions tool x
  /-- The name of a part of the answer. -/
  | output {v w : Validator} {x : Value} (hv : tool.output = some v) (hw : v.Part w)
    (hx : x ∈ w.mentions) : Mentions tool x

/-- The texts that compilation puts into a tool, and what documents its validators. -/
inductive Tool.Says (tool : Tool) : Value → Prop where
  /-- The name is made from that of the operation. -/
  | name : Says tool tool.name
  /-- The method is the path of the operation. -/
  | methodName : Says tool tool.methodName
  /-- What documents a part of the arguments. -/
  | input {w : Validator} (hw : tool.input.Part w) : Says tool w.description
  /-- What documents a part of the answer. -/
  | output {v w : Validator} (hv : tool.output = some v) (hw : v.Part w) : Says tool w.description

/-- A tool as it is made from any description. -/
structure Tool.IsDrawn (tool : Tool) : Prop where
  /-- The name has the characters of names only. -/
  name : ∃ s, tool.name = .text s ∧ ToolName.Spelled s
  /-- The method is a text. -/
  methodName : ∃ s, tool.methodName = .text s
  /-- The validator of the arguments is drawn for requests. -/
  input : ∀ w, tool.input.Part w → w.Drawn .input
  /-- The validator of the answer is drawn for answers. -/
  output : ∀ v, tool.output = some v → ∀ w, v.Part w → w.Drawn .output

/-- What a tool says is a text or nothing. -/
theorem Tool.IsDrawn.eq_null_or_text {tool : Tool} (h : tool.IsDrawn) {x : Value}
    (hx : tool.Says x) : x = .null ∨ ∃ s, x = .text s := by
  have hdocuments : ∀ {d : Value}, (d.Documents fun _ => True) → d = .null ∨ ∃ s, d = .text s :=
    fun hd => hd.imp_right fun ⟨s, _, _, hs⟩ => ⟨s, hs⟩
  cases hx with
  | name => exact .inr (h.name.imp fun _ => And.left)
  | methodName => exact .inr h.methodName
  | input hw => exact hdocuments (h.input _ hw).documents
  | output hv hw => exact hdocuments (h.output _ hv _ hw).documents

/-- **The record of a tool has what all that it says and mentions has, and nothing else.** -/
theorem Tool.of_toRecord_iff {P : Value → Prop} (hP : Value.Hereditary P)
    (hrecord : Value.Recordable P) {tool : Tool} (htool : tool.IsDrawn) :
    P tool.toRecord ↔ (∀ x, tool.Says x → P x) ∧ ∀ x, tool.Mentions x → P x := by
  have hinput := Validator.of_toRecord_iff hP hrecord htool.input
  have houtput : ∀ v, tool.output = some v →
      (P v.toRecord ↔ ∀ w, v.Part w → P w.description ∧ ∀ x ∈ w.mentions, P x) :=
    fun v hv => Validator.of_toRecord_iff hP hrecord (htool.output v hv)
  constructor
  · intro h
    rw [Tool.toRecord, Value.record_iff hP hrecord (by exact Tool.areNames_fields)] at h
    iterate 7 rw [List.forall_mem_cons] at h
    obtain ⟨hname, htitle, hdescription, hmethod, hin, hout, -⟩ := h
    have hanswer : ∀ v, tool.output = some v → P v.toRecord := fun v hv => by
      rwa [hv] at hout
    constructor
    · intro x hx
      cases hx with
      | name => exact hname
      | methodName => exact hmethod
      | input hw => exact (hinput.mp hin _ hw).1
      | output hv hw => exact ((houtput _ hv).mp (hanswer _ hv) _ hw).1
    · intro x hx
      cases hx with
      | title => exact htitle
      | description => exact hdescription
      | input hw hx => exact (hinput.mp hin _ hw).2 x hx
      | output hv hw hx => exact ((houtput _ hv).mp (hanswer _ hv) _ hw).2 x hx
  · rintro ⟨hsaid, h⟩
    refine Tool.of_toRecord hrecord (hsaid _ .name) (h _ .title) (h _ .description)
      (hsaid _ .methodName) ?_ ?_
    · exact hinput.mpr fun w hw => ⟨hsaid _ (.input hw), fun x hx => h x (.input hw hx)⟩
    · exact fun v hv => (houtput v hv).mpr fun w hw =>
        ⟨hsaid _ (.output hv hw), fun x hx => h x (.output hv hw hx)⟩

namespace Synthesis

open Validator

variable {document operation : Value} {v : Validator}

/-- Every part of the validator of arguments is drawn as compilation does it. -/
theorem drawn_inputValidator (h : inputValidator document operation = .ok v) :
    ∀ w, v.Part w → w.Drawn .input := by
  cases inputValidator_eq_ok_iff.mp h with
  | none _ _ _ hv =>
    rw [hv]
    refine forall_part_iff.mpr ⟨⟨.inl rfl, nofun, ?_⟩, nofun⟩
    rintro d rules extras heq rule hrule
    obtain ⟨-, rfl, -⟩ := object.inj heq
    cases hrule
  | body schema hschema _ _ _ _ hv => exact fun w hw => Schema.drawn_of_part hv hw
  | payload schema hschema _ _ _ _ u hu hv =>
    rw [hv]
    refine forall_part_iff.mpr ⟨⟨.inl rfl, nofun, ?_⟩, ?_⟩
    · rintro d rules extras heq rule hrule
      obtain ⟨-, rfl, -⟩ := object.inj heq
      obtain rfl := List.mem_singleton.mp hrule
      exact ⟨.text payloadName, true, trivial, rfl⟩
    · intro c hc w hw
      rcases mem_children_object.mp hc with ⟨rule, hrule, rfl⟩ | hc
      · obtain rfl := List.mem_singleton.mp hrule
        exact Schema.drawn_of_part hu hw
      · cases hc

/-- So is every part of the validator of an answer. -/
theorem drawn_outputValidator {output : Option Validator}
    (h : outputValidator document operation = .ok output) (hv : output = some v) :
    ∀ w, v.Part w → w.Drawn .output := by
  subst hv
  cases Synthesis.outputValidator_eq_ok_iff.mp h with
  | none _ _ _ houtput | other _ _ _ _ _ _ houtput => cases houtput
  | body _ _ _ _ _ _ u hu houtput =>
    obtain rfl := Option.some.inj houtput
    exact fun w hw => Schema.drawn_of_part hu hw

/-- **Synthesized tools are drawn as compilation does it**, whatever they are made from. -/
theorem isDrawn_of_mem_tools {found : List Tool} (h : tools document = .ok found) :
    ∀ tool ∈ found, tool.IsDrawn := by
  intro tool htool
  have hname := exists_spelled_name h tool htool
  obtain ⟨_, -, _, -, d, name, hd, rfl⟩ := exists_draft_of_mem_tools h htool
  obtain ⟨-, -, hinput, houtput⟩ := of_draft hd
  exact ⟨hname, ⟨_, rfl⟩, drawn_inputValidator hinput,
    fun v hv => drawn_outputValidator houtput hv⟩

end Synthesis

/-! ### The data of a module -/

namespace ToolModule

variable {source : String} {document : Value} {tools : List Tool} {ctx : Entries}

/-- **The data of a module is made of literals exactly when its tools mention finite numbers only**:
for a description in JSON, the data are the records of the tools, which have texts as keys and
nothing but values of JSON in them, and these are literals when all that the tools mention is
finite.  That is so when the description has finite numbers only.  Where it is so, a reader finds
the records behind the name of the data in the module. -/
theorem data_isLiteral_iff (hparse : Json.parse source = .ok document)
    (htools : Synthesis.tools document = .ok tools) (hctx : context tools document = .ok ctx) :
    ctx.get? "tools" = some (.list (tools.map Tool.toRecord)) ∧
      (Value.list (tools.map Tool.toRecord)).isJson = true ∧
      ((∀ y, (Value.list (tools.map Tool.toRecord)).Holds y → y.IsLiteral) ↔
        ∀ tool ∈ tools, ∀ x, tool.Mentions x → Json.isFinite x = true) ∧
      (Json.isFinite document = true →
        ∀ tool ∈ tools, ∀ x, tool.Mentions x → Json.isFinite x = true) ∧
      ((∀ y, (Value.list (tools.map Tool.toRecord)).Holds y → y.IsLiteral) →
        ∀ text, render ctx = .ok text → ∃ title version count data,
          text = front title version count ++ "_TOOL_DATA: list[dict] =" ++ data ∧
          ∀ names, Literal.read names (Text.unifyLineEnds data.toList) =
            some (.list (tools.map Tool.toRecord), ending.toList)) := by
  have hread := Synthesis.of_toRecord Value.hereditary_isRead Value.recordable_isRead
    (Json.isRead_of_parse hparse) htools
  have hdrawn := Synthesis.isDrawn_of_mem_tools htools
  obtain ⟨records, hrecords, hfield, -⟩ := context_eq_ok hctx
  obtain rfl := mapM_plain_eq_ok (fun tool htool => (hread tool htool).1) hrecords
  have hjson : (Value.list (tools.map Tool.toRecord)).isJson = true :=
    Value.isJson_list.mpr (List.forall_mem_map.mpr fun tool htool => (hread tool htool).1)
  -- A record is finite when all that the tool mentions is.
  have hmentions : ∀ tool ∈ tools, (Json.isFinite tool.toRecord = true ↔
      ∀ x, tool.Mentions x → Json.isFinite x = true) := fun tool htool => by
    have hvalues := Tool.of_toRecord_iff Value.hereditary_isJson Value.recordable_isJson
      (hdrawn tool htool)
    have hfinite := Tool.of_toRecord_iff Value.hereditary_isFiniteJson Value.recordable_isFiniteJson
      (hdrawn tool htool)
    obtain ⟨hsaid, hall⟩ := hvalues.mp (hread tool htool).1
    rw [Value.IsFiniteJson, and_iff_right (hread tool htool).1] at hfinite
    have htexts : ∀ x, tool.Says x → x.IsFiniteJson := fun x hx => by
      refine ⟨hsaid x hx, ?_⟩
      rcases (hdrawn tool htool).eq_null_or_text hx with rfl | ⟨s, rfl⟩ <;> rfl
    rw [hfinite, and_iff_right htexts]
    exact forall₂_congr fun x hx => and_iff_right (hall x hx)
  have hliteral : (∀ y, (Value.list (tools.map Tool.toRecord)).Holds y → y.IsLiteral) ↔
      ∀ tool ∈ tools, Json.isFinite tool.toRecord = true := by
    rw [Value.forall_holds_isLiteral_iff hjson, Value.isFinite_list, List.forall_mem_map]
  refine ⟨hfield, hjson, hliteral.trans (forall₂_congr hmentions), ?_, ?_⟩
  · intro hfinite tool htool
    have hdocument : document.IsFiniteJson := ⟨(Json.isRead_of_parse hparse).1, hfinite⟩
    have hrecord := Synthesis.of_toRecord Value.hereditary_isFiniteJson
      Value.recordable_isFiniteJson hdocument htools tool htool
    exact (hmentions tool htool).mp hrecord.2
  · intro hall text htext
    have hexact : ∀ tool ∈ tools, tool.toRecord.IsExact := fun tool htool =>
      (hread tool htool).isExact_iff.mpr (hliteral.mp hall tool htool)
    obtain ⟨title, version, count, data, -, -, -, htext, hdata⟩ :=
      read_of_isExact hfield (Synthesis.exists_spelled_name htools) hexact htext
    exact ⟨title, version, count, data, htext, hdata⟩

/-- The source of a description of one operation with the given source of its request body. -/
def sourceOf (schema : String) : String :=
  "\x7b\"paths\":\x7b\"/a\":\x7b\"post\":\x7b\"requestBody\":\x7b\"content\":\x7b"
    ++ "\"application/json\":\x7b\"schema\":" ++ schema ++ "\x7d\x7d\x7d\x7d\x7d\x7d\x7d"

/-- A numeral that is too large is no value to choose from. -/
def boundedSource : String := sourceOf "\x7b\"enum\":[0.5,\"high\"],\"maximum\":1e400\x7d"

/-- A numeral that is too large is a value to choose from. -/
def unboundedSource : String := sourceOf "\x7b\"enum\":[1e400]\x7d"

/-- The tool of an operation with a value to choose. -/
def choiceTool (values : List Value) : Tool where
  name := .text "outline_a"
  title := .text "outline_a"
  description := .text ""
  methodName := .text "a"
  input := Synthesis.payloadValidator (.literal .null values)
  output := none
  annotations := .unmarked

/-- The description with the given schema of the body of its operation. -/
def choiceDocument (schema : Value) : Value :=
  .record [("paths", .record [("/a", .record [("post", Synthesis.operationOf schema)])])]

/-- What is read as this description has that tool, if the schema leads to those values. -/
theorem exists_context {parsed : Except Fault Value} {finite : Bool} {schema : Value}
    {values : List Value} (hparsed : parsed = .ok (choiceDocument schema))
    (hfinite : Json.isFinite (choiceDocument schema) = finite)
    (hpaginated : Synthesis.isPaginated (choiceDocument schema) (Synthesis.operationOf schema) =
      .ok false)
    (hinput : Synthesis.inputValidator (choiceDocument schema) (Synthesis.operationOf schema) =
      .ok (Synthesis.payloadValidator (.literal .null values)))
    (hctx : ∃ ctx, context [choiceTool values] (choiceDocument schema) = .ok ctx) :
    ∃ document ctx, parsed = .ok document ∧ Json.isFinite document = finite ∧
      Synthesis.tools document = .ok [choiceTool values] ∧
        context [choiceTool values] document = .ok ctx := by
  have hname : ToolName.methodName "/a" = "a" := by decide +kernel
  have hunmarked : Annotations.derive AnnotationRule.table "a" = .ok .unmarked :=
    Annotations.derive_table_of_isSmall (by decide +kernel) (by decide +kernel)
  have hidentifier : ToolName.ofIdentifier "a" = "outline_a" := by decide +kernel
  have htools : Synthesis.tools (choiceDocument schema) = .ok [Synthesis.unnamedTool "a" .null .null
      (Synthesis.payloadValidator (.literal .null values)) none] :=
    Synthesis.tools_of_unnamed rfl hname hunmarked rfl rfl rfl hpaginated hinput rfl
  rw [Synthesis.unnamedTool, hidentifier] at htools
  obtain ⟨ctx, hctx⟩ := hctx
  exact ⟨_, ctx, hparsed, hfinite, htools, hctx⟩

/-- What the two descriptions say: neither has finite numbers only, and each has one tool. -/
theorem exists_context_bounds :
    (∃ document ctx, Json.parse boundedSource = .ok document ∧ Json.isFinite document = false ∧
      Synthesis.tools document =
        .ok [choiceTool [.double (.ofDecimal false 5 (-1)), .text "high"]] ∧
      context [choiceTool [.double (.ofDecimal false 5 (-1)), .text "high"]] document = .ok ctx) ∧
    ∃ document ctx, Json.parse unboundedSource = .ok document ∧ Json.isFinite document = false ∧
      Synthesis.tools document = .ok [choiceTool [.double (.infinite false)]] ∧
      context [choiceTool [.double (.infinite false)]] document = .ok ctx := by
  -- The texts are evaluated as the lists of their characters.
  have hbounded : Json.parse boundedSource = .ok (choiceDocument (.record [
      ("enum", .list [.double (.ofDecimal false 5 (-1)), .text "high"]),
      ("maximum", .double (.infinite false))])) := by
    unfold boundedSource sourceOf
    iterate 3 rw [← String.ofList_append]
    rw [Json.parse, Json.parseKeeping, String.toList_ofList]
    exact Except.eq_ok_of_toOption (by decide +kernel)
  have hunbounded : Json.parse unboundedSource = .ok (choiceDocument
      (.record [("enum", .list [.double (.infinite false)])])) := by
    unfold unboundedSource sourceOf
    iterate 3 rw [← String.ofList_append]
    rw [Json.parse, Json.parseKeeping, String.toList_ofList]
    exact Except.eq_ok_of_toOption (by decide +kernel)
  exact ⟨exists_context hbounded (by decide +kernel) rfl rfl ⟨_, rfl⟩,
    exists_context hunbounded (by decide +kernel) rfl rfl ⟨_, rfl⟩⟩

/-- A number that is not finite does no harm where it is not a value to choose from. -/
theorem data_isLiteral_boundedSource :
    ∃ document tool ctx, Json.parse boundedSource = .ok document ∧
      Json.isFinite document = false ∧ Synthesis.tools document = .ok [tool] ∧
      context [tool] document = .ok ctx ∧ ctx.get? "tools" = some (.list [tool.toRecord]) ∧
      ∀ y, (Value.list [tool.toRecord]).Holds y → y.IsLiteral := by
  obtain ⟨⟨document, ctx, hparse, hfinite, htools, hctx⟩, -⟩ := exists_context_bounds
  obtain ⟨hfield, hjson, -, -, -⟩ := data_isLiteral_iff hparse htools hctx
  have hrecords : Json.isFinite (.list ([choiceTool [.double (.ofDecimal false 5 (-1)),
      .text "high"]].map Tool.toRecord)) = true := by decide +kernel
  exact ⟨document, _, ctx, hparse, hfinite, htools, hctx, hfield,
    (Value.forall_holds_isLiteral_iff hjson).mpr hrecords⟩

/-- The record of a choice of a number that is not finite is a value of JSON that is not finite. -/
theorem isJson_unboundedRecord :
    (choiceTool [.double (.infinite false)]).toRecord.isJson = true ∧
      Json.isFinite (choiceTool [.double (.infinite false)]).toRecord = false := by
  constructor <;> decide +kernel

/-- **A number that is not finite is printed as a name.** The data of this module hold it, since it
is a value to choose from, and no reader reads what is printed for it. -/
theorem data_holds_name_unboundedSource :
    ∃ document ctx tool, Json.parse unboundedSource = .ok document ∧
      Synthesis.tools document = .ok [tool] ∧ context [tool] document = .ok ctx ∧
      ctx.get? "tools" = some (.list [tool.toRecord]) ∧
      ∃ y, (Value.list [tool.toRecord]).Holds y ∧ ¬y.IsLiteral ∧
        Literal.read (fun _ => none) y.layout.toList = none := by
  obtain ⟨hjson, hunbounded⟩ := isJson_unboundedRecord
  obtain ⟨-, document, ctx, hparse, -, htools, hctx⟩ := exists_context_bounds
  generalize choiceTool [.double (.infinite false)] = tool at *
  obtain ⟨records, hrecords, hfield, -⟩ := context_eq_ok hctx
  obtain rfl := mapM_plain_eq_ok (List.forall_mem_singleton.mpr hjson) hrecords
  have hlist : (Value.list [tool.toRecord]).isJson = true :=
    Value.isJson_list.mpr (List.forall_mem_singleton.mpr hjson)
  -- A list of literals only is finite, and so is the record in it.
  have hliteral : ¬∀ y, (Value.list [tool.toRecord]).Holds y → y.IsLiteral := by
    intro hall
    have hfinite := (Value.forall_holds_isLiteral_iff hlist).mp hall
    rw [Value.isFinite_list, List.forall_mem_singleton, hunbounded] at hfinite
    exact Bool.false_ne_true hfinite
  push Not at hliteral
  obtain ⟨y, hy, hyname⟩ := hliteral
  have hyjson := Value.hereditary_isJson.of_holds hlist hy
  exact ⟨document, ctx, tool, hparse, htools, hctx, hfield, y, hy, hyname,
    Value.read_layout_of_not_isLiteral hyjson hyname⟩

end ToolModule

end ApiTools
