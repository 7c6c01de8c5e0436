import ApiTools.DocumentFormat
import ApiTools.Proofs.Literal.Text
import ApiTools.Proofs.Outcome
import ApiTools.ToolModule

/-!
# The literal that opens a generated module

A generated module opens with a literal that says what it was generated from.  The title and the
version of the description are put between its quotes as they are, other than the tools, which are
written as literals.  So the literal says what it should when the two can stand there as they are,
and only then: three quotes in a title close the literal, and what is after them is source.

## Main definitions

* `ToolModule.headerText` — what the literal should say.
* `ToolModule.openingText?` — what the literal that opens a source says, and the rest.
* `ToolModule.contextOf` — what a context is made of.

## Main results

* `ToolModule.openingText?_render_iff` — **the literal is the header with the title and the version
  exactly when these stand for themselves.**
* `ToolModule.context_eq_ok_iff`, `ToolModule.render_eq_ok_iff` — how contexts and modules are made.
-/

namespace ApiTools

namespace Text

open Literal

theorem length_unifyLineEnds_le (s : List Char) : (unifyLineEnds s).length ≤ s.length := by
  fun_induction unifyLineEnds s with
  | case1 => rfl
  | case2 s ih =>
    simp only [List.length_cons]
    omega
  | case3 c s _ ih => simpa using ih

/-- Line ends are unified in two texts one after the other, unless one is cut in two. -/
theorem unifyLineEnds_append {a b : List Char} (h : a.getLast? ≠ some '\r') :
    unifyLineEnds (a ++ b) = unifyLineEnds a ++ unifyLineEnds b := by
  fun_induction unifyLineEnds a with
  | case1 => rfl
  | case2 s ih =>
    rw [List.cons_append, List.cons_append, unifyLineEnds, ih (getLast?_tail (getLast?_tail h)),
      List.cons_append]
  | case3 c s hpair ih =>
    rw [List.cons_append, unifyLineEnds, ih (getLast?_tail h), List.cons_append]
    rintro rest rfl heq
    cases s with
    | nil => exact h rfl
    | cons d s =>
      cases heq
      exact hpair s rfl rfl

/-- The last character stays, if it is no carriage return. -/
theorem getLast?_unifyLineEnds {s : List Char} {last : Char} (hlast : last ≠ '\r')
    (h : s.getLast? = some last) : (unifyLineEnds s).getLast? = some last := by
  have hend : ∀ {c : Char} {s : List Char}, (c :: s).getLast? = some last →
      s = [] ∧ c = last ∨ s.getLast? = some last := by
    intro c s hlast
    cases s with
    | nil => exact .inl ⟨rfl, by simpa using hlast⟩
    | cons d s => exact .inr (by rwa [List.getLast?_cons_cons] at hlast)
  fun_induction unifyLineEnds s with
  | case1 => cases h
  | case2 s ih =>
    rw [List.getLast?_cons_cons] at h
    rcases hend h with ⟨rfl, heq⟩ | hs
    · exact congrArg some heq
    · rw [List.getLast?_cons, ih hs]
      rfl
  | case3 c s _ ih =>
    rcases hend h with ⟨rfl, rfl⟩ | hs
    · rw [if_neg hlast]
      rfl
    · rw [List.getLast?_cons, ih hs]
      rfl

/-- A text without carriage returns stays as it is. -/
theorem unifyLineEnds_of_not_mem {s : List Char} (h : '\r' ∉ s) : unifyLineEnds s = s := by
  fun_induction unifyLineEnds s with
  | case1 => rfl
  | case2 s ih => exact absurd List.mem_cons_self h
  | case3 c s _ ih =>
    rw [List.mem_cons, not_or] at h
    rw [if_neg (Ne.symm h.1), ih h.2]

end Text

namespace ToolModule

open Literal Text

/-- What the opening literal should say. -/
def headerText (title version : String) : String :=
  "Outline MCP tool definitions, generated from " ++ title ++ " " ++ version ++ ".\n\n"
    ++ "Do not edit by hand. Regenerate with: python -m toolgen\n"

/-- What the literal that opens a source says, and the rest of the source. -/
def openingText? (names : String → Option Char) (text : String) : Option (String × List Char) :=
  (readQuoted names (unifyLineEnds text.toList)).map fun found => (String.ofList found.1, found.2)

variable {names : String → Option Char} {title version : String}

/-- The header stands for itself when the title and the version do. -/
theorem standsForItself_headerText :
    StandsForItself (headerText title version).toList ↔
      StandsForItself (title ++ " " ++ version).toList := by
  have hfront : "Outline MCP tool definitions, generated from ".toList =
      "Outline MCP tool definitions, generated from".toList ++ [' '] := by simp
  have hback :
      ".\n\n".toList ++ "Do not edit by hand. Regenerate with: python -m toolgen\n".toList =
        '.' :: "\n\nDo not edit by hand. Regenerate with: python -m toolgen\n".toList := by
    simp
  have hsplit : (headerText title version).toList =
      "Outline MCP tool definitions, generated from".toList ++ ' ' ::
        ((title ++ " " ++ version).toList ++ '.' ::
          "\n\nDo not edit by hand. Regenerate with: python -m toolgen\n".toList) := by
    rw [← hback]
    unfold headerText
    simp only [String.toList_append, hfront, List.append_assoc, List.cons_append, List.nil_append]
  rw [hsplit, standsForItself_append_cons (by decide) (by decide),
    standsForItself_append_cons (by decide) (by decide)]
  constructor
  · exact fun h => h.2.1
  · exact fun h => ⟨standsForItself_of_all (by decide), h, standsForItself_of_all (by decide)⟩

/-- A text between triple quotes is what the literal says, up to the quotes after it, exactly when
it stands for itself. -/
theorem openingText?_eq_some_iff (names : String → Option Char) (text body : String) {last : Char}
    (hends : text.toList.getLast? = some last) (hlast : last ∉ ['"', '\\', '\r']) :
    openingText? names ("\"\"\"" ++ text ++ "\"\"\"" ++ body) =
        some (text, unifyLineEnds body.toList) ↔
      StandsForItself text.toList := by
  simp only [List.mem_cons, List.not_mem_nil, or_false, not_or] at hlast
  obtain ⟨hquote, hbackslash, hreturn⟩ := hlast
  have hquotes : unifyLineEnds tripleQuotes = tripleQuotes := rfl
  have hsource : unifyLineEnds ("\"\"\"" ++ text ++ "\"\"\"" ++ body).toList =
      tripleQuotes ++ (unifyLineEnds text.toList ++ tripleQuotes ++ unifyLineEnds body.toList) := by
    have htriple : "\"\"\"".toList = tripleQuotes := rfl
    rw [String.toList_append, String.toList_append, String.toList_append, htriple,
      List.append_assoc, List.append_assoc, unifyLineEnds_append (by decide), hquotes,
      unifyLineEnds_append (by simpa [hends] using hreturn), unifyLineEnds_append (by decide),
      hquotes, List.append_assoc]
  have hread : openingText? names ("\"\"\"" ++ text ++ "\"\"\"" ++ body) =
        some (text, unifyLineEnds body.toList) ↔
      readQuoted names (unifyLineEnds ("\"\"\"" ++ text ++ "\"\"\"" ++ body).toList) =
        some (text.toList, unifyLineEnds body.toList) := by
    unfold openingText?
    rw [Option.map_eq_some_iff]
    constructor
    · rintro ⟨found, hfound, heq⟩
      obtain ⟨htext, hrest⟩ := Prod.mk.inj heq
      rw [hfound, ← htext, ← hrest, String.toList_ofList]
    · intro hfound
      exact ⟨_, hfound, by rw [String.ofList_toList]⟩
  -- The last character neither closes the literal with the quotes behind it nor escapes them.
  have hunified := getLast?_unifyLineEnds hreturn hends
  rw [hread, hsource, readQuoted_triple_iff (by simpa [hunified] using hquote)
    (by simpa [hunified] using hbackslash) (length_unifyLineEnds_le _)]
  constructor
  · rintro ⟨heq, h⟩
    rw [heq]
    exact h
  · intro h
    have hnone : '\r' ∉ text.toList := fun hmem => absurd (h.unbroken _ hmem) (by decide)
    rw [unifyLineEnds_of_not_mem hnone]
    exact ⟨rfl, h⟩

/-- The last character of the header ends a line. -/
theorem getLast?_headerText : (headerText title version).toList.getLast? = some '\n' := by
  have hend : "Do not edit by hand. Regenerate with: python -m toolgen\n".toList =
      "Do not edit by hand. Regenerate with: python -m toolgen".toList ++ ['\n'] := by
    simp
  unfold headerText
  rw [String.toList_append, hend, ← List.append_assoc, List.getLast?_concat]

/-- What stands between the literal and the tools. -/
def preamble (count : String) : String :=
  "\n\n" ++ "from __future__ import annotations\n\nfrom types import MappingProxyType\n\n"
    ++ "from toolgen.models import ToolDefinition, load_tool_definitions\n\n"
    ++ "TOOL_COUNT = " ++ count ++ "\n\n_TOOL_DATA: list[dict] = [\n"

theorem header_eq (title version count : String) :
    header title version count =
      "\"\"\"" ++ headerText title version ++ "\"\"\"" ++ preamble count := by
  have hopen : "\"\"\"Outline MCP tool definitions, generated from " =
      "\"\"\"" ++ "Outline MCP tool definitions, generated from " := by simp
  have hclose : "Do not edit by hand. Regenerate with: python -m toolgen\n\"\"\"\n\n" =
      "Do not edit by hand. Regenerate with: python -m toolgen\n" ++ ("\"\"\"" ++ "\n\n") := by
    simp
  unfold header headerText preamble
  simp only [hopen, hclose, String.append_assoc]

/-- What a context is made of. -/
def contextOf (records : List Value) (title version : Value) : Entries :=
  [(.text "tools", .list records), (.text "tool_count", .int records.length),
    (.text "api_title", title), (.text "api_version", version)]

/-- A context holds the records of the tools as they are read back, their number, and what the
description says of itself. -/
theorem context_eq_ok_iff {tools : List Tool} {document : Value} {ctx : Entries} :
    context tools document = .ok ctx ↔ ∃ records title version,
      tools.mapM (fun tool => Json.plain tool.toRecord) = .ok records ∧
      infoField document "title" "Outline API" = .ok title ∧
      infoField document "version" "unknown" = .ok version ∧
      ctx = contextOf records title version := by
  constructor
  · intro h
    obtain ⟨records, hrecords, h⟩ := Except.bind_eq_ok_iff.mp h
    obtain ⟨title, htitle, h⟩ := Except.bind_eq_ok_iff.mp h
    obtain ⟨version, hversion, h⟩ := Except.bind_pure_eq_ok_iff.mp h
    exact ⟨records, title, version, hrecords, htitle, hversion, h⟩
  · rintro ⟨records, title, version, hrecords, htitle, hversion, rfl⟩
    unfold context
    rw [hrecords, htitle, hversion]
    rfl

/-- A module is the lines of the records between what stands in front and behind. -/
theorem render_eq_ok_iff {ctx : Entries} {records : List Value} {text : String}
    (hrecords : ctx.get? "tools" = some (.list records)) :
    render ctx = .ok text ↔ ∃ title version count lines, slot ctx "api_title" = .ok title ∧
      slot ctx "api_version" = .ok version ∧ slot ctx "tool_count" = .ok count ∧
      records.mapM toolLines = .ok lines ∧
      text = header title version count ++ String.join lines ++ footer := by
  have helements : ((ctx.get? "tools").getD (.list [])).elements = .ok records := by
    rw [hrecords]
    rfl
  constructor
  · intro h
    obtain ⟨items, hitems, h⟩ := Except.bind_eq_ok_iff.mp h
    obtain rfl := Except.ok.inj (helements.symm.trans hitems)
    obtain ⟨title, htitle, h⟩ := Except.bind_eq_ok_iff.mp h
    obtain ⟨version, hversion, h⟩ := Except.bind_eq_ok_iff.mp h
    obtain ⟨count, hcount, h⟩ := Except.bind_eq_ok_iff.mp h
    obtain ⟨lines, hlines, h⟩ := Except.bind_pure_eq_ok_iff.mp h
    exact ⟨title, version, count, lines, htitle, hversion, hcount, hlines, h⟩
  · rintro ⟨title, version, count, lines, htitle, hversion, hcount, hlines, rfl⟩
    rw [render, helements, htitle, hversion, hcount]
    change records.mapM toolLines >>= _ = _
    rw [hlines]
    rfl

/-- The source starts with the literal, with the title and the version put in. -/
theorem exists_body_of_render {document : Value} {tools : List Tool} {ctx : Entries} {text : String}
    (hctx : context tools document = .ok ctx)
    (htitle : infoField document "title" "Outline API" >>= Value.shown = .ok title)
    (hversion : infoField document "version" "unknown" >>= Value.shown = .ok version)
    (htext : render ctx = .ok text) :
    ∃ body, text = "\"\"\"" ++ headerText title version ++ "\"\"\"" ++ body := by
  obtain ⟨titleValue, hfield, htitle⟩ := Except.bind_eq_ok_iff.mp htitle
  obtain ⟨versionValue, hfield', hversion⟩ := Except.bind_eq_ok_iff.mp hversion
  obtain ⟨records, ownTitle, ownVersion, -, hown, hown', rfl⟩ := context_eq_ok_iff.mp hctx
  obtain rfl := Except.ok.inj (hown.symm.trans hfield)
  obtain rfl := Except.ok.inj (hown'.symm.trans hfield')
  obtain ⟨shownTitle, shownVersion, count, lines, hshownTitle, hshownVersion, -, -, rfl⟩ :=
    (render_eq_ok_iff rfl).mp htext
  obtain rfl : shownTitle = title := Except.ok.inj (hshownTitle.symm.trans htitle)
  obtain rfl : shownVersion = version := Except.ok.inj (hshownVersion.symm.trans hversion)
  rw [header_eq]
  exact ⟨_, by simp only [String.append_assoc]; rfl⟩

/-- **The literal that opens a generated module says the header with the title and the version, and
ends where the header does, exactly when the two stand for themselves.** -/
theorem openingText?_render_iff {document : Value} {tools : List Tool} {ctx : Entries}
    {text : String} (hctx : context tools document = .ok ctx)
    (htitle : infoField document "title" "Outline API" >>= Value.shown = .ok title)
    (hversion : infoField document "version" "unknown" >>= Value.shown = .ok version)
    (htext : render ctx = .ok text) :
    ∃ body, text = "\"\"\"" ++ headerText title version ++ "\"\"\"" ++ body ∧
      (openingText? names text = some (headerText title version, unifyLineEnds body.toList) ↔
        StandsForItself (title ++ " " ++ version).toList) := by
  obtain ⟨body, rfl⟩ := exists_body_of_render hctx htitle hversion htext
  exact ⟨body, rfl,
    (openingText?_eq_some_iff names _ _ getLast?_headerText (by decide)).trans
      standsForItself_headerText⟩

/-! ### Titles -/

/-- A description that says nothing but its title. -/
def titledDocument (title : String) : Value :=
  .record [("info", .record [("title", .text title)])]

/-- A title with quotes and a backslash that stand for themselves. -/
def quotingTitle : String := "The \"Wiki\" \\o/"

/-- A title with source in it, between quotes that close the literal and open another one. -/
def escapingTitle : String := "Wiki\"\"\"\nimport os\n\"\"\""

/-- A description with a title only has no tools, and a module is rendered for it. -/
theorem exists_render_titledDocument (title : String) :
    ∃ ctx text, context [] (titledDocument title) = .ok ctx ∧ render ctx = .ok text := by
  have hpos : ∀ n, 0 < Double.tenTo n := fun n => Nat.pow_pos (by decide)
  have hfits : (Value.int 0).fits = true := by
    rw [Value.fits, Value.scalarFits, decide_eq_true_eq]
    exact hpos maxDigits
  have hcount : (Value.int 0).shown = .ok "0" := by
    rw [Value.shown, if_pos hfits]
    rfl
  exact ⟨_, _, rfl,
    (render_eq_ok_iff rfl).mpr ⟨title, "unknown", "0", [], rfl, rfl, hcount, rfl, rfl⟩⟩

/-- The literal says what it should for the one title. -/
theorem openingText?_render_quotingTitle :
    ∃ ctx text body, context [] (titledDocument quotingTitle) = .ok ctx ∧ render ctx = .ok text ∧
      infoField (titledDocument quotingTitle) "title" "Outline API" >>= Value.shown =
        .ok quotingTitle ∧
      infoField (titledDocument quotingTitle) "version" "unknown" >>= Value.shown = .ok "unknown" ∧
      text = "\"\"\"" ++ headerText quotingTitle "unknown" ++ "\"\"\"" ++ body ∧
      openingText? (fun _ => none) text =
        some (headerText quotingTitle "unknown", unifyLineEnds body.toList) := by
  obtain ⟨ctx, text, hctx, htext⟩ :=
    exists_render_titledDocument quotingTitle
  obtain ⟨body, heq, hiff⟩ := openingText?_render_iff hctx rfl rfl htext
  exact ⟨ctx, text, body, hctx, htext, rfl, rfl, heq, hiff.mpr (by decide)⟩

/-- The other title closes the literal, and what is after its quotes is source. -/
theorem openingText?_render_escapingTitle :
    Synthesis.tools (titledDocument escapingTitle) = .ok [] ∧
      ∃ ctx text, context [] (titledDocument escapingTitle) = .ok ctx ∧ render ctx = .ok text ∧
        ∀ names, ∃ rest, openingText? names text =
          some ("Outline MCP tool definitions, generated from Wiki",
            "\nimport os\n".toList ++ rest) := by
  obtain ⟨ctx, text, hctx, htext⟩ :=
    exists_render_titledDocument escapingTitle
  refine ⟨rfl, ctx, text, hctx, htext, fun names => ?_⟩
  obtain ⟨body, rfl⟩ : ∃ body,
      text = "\"\"\"" ++ headerText escapingTitle "unknown" ++ "\"\"\"" ++ body :=
    exists_body_of_render hctx rfl rfl htext
  have hsplit : headerText escapingTitle "unknown" =
      "Outline MCP tool definitions, generated from Wiki" ++ ("\"\"\"" ++ ("\nimport os\n" ++
        ("\"\"\" unknown.\n\nDo not edit by hand. Regenerate with: python -m toolgen\n"))) := by
    decide +kernel
  have hends : "Outline MCP tool definitions, generated from Wiki".toList.getLast? = some 'i' := by
    simp
  have hread := (openingText?_eq_some_iff names "Outline MCP tool definitions, generated from Wiki"
    ("\nimport os\n" ++
      ("\"\"\" unknown.\n\nDo not edit by hand. Regenerate with: python -m toolgen\n" ++
        ("\"\"\"" ++ body))) hends (by decide)).mpr (by decide)
  rw [String.toList_append, unifyLineEnds_append (by decide)] at hread
  refine ⟨_, Eq.trans (congrArg (openingText? names) ?_) hread⟩
  rw [hsplit]
  simp only [String.append_assoc]

end ToolModule

end ApiTools
