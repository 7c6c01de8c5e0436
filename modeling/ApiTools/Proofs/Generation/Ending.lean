import ApiTools.Proofs.Generation.Runs
import ApiTools.Proofs.Synthesis.Faults
import ApiTools.Proofs.Synthesis.Tools
import ApiTools.Proofs.ToolModule.Presentation

/-!
# Runs that end in good order

A run ends in good order when it writes its module, or when a reference of the description leads
nowhere.  On a well-formed description, and where modules can be written, every run would do so if it
were not for three things: a reference that is misread, an example that JSON cannot hold, and
something that cannot be put into the module, be it in the tools or in what the description says of
itself.  A title with a half in it is of the last kind: the module is made, and has no bytes.

## Main results

* `Generation.endsInOrder_iff` — **exactly the runs on well-formed descriptions without these end in
  good order.**
* `Generation.not_endsInOrder_of_title` — a title with a half breaks a run off.
* `Generation.superscript_breaks_off` — so does a reference with a superscript for an index.
-/

namespace ApiTools

namespace Generation

open Synthesis ToolModule

variable {source target : Path} {store : FileStore} {document : Value}

/-! ### What breaks a run off -/

/-- A run has an exit status. -/
def EndsInOrder (source target : Path) (store : FileStore) : Prop :=
  (run source target store).status? = some 0 ∨ (run source target store).status? = some 1

/-- Every text without halves can be written at a place. -/
def Writable (store : FileStore) (target : Path) : Prop :=
  ∀ text, Text.isWhole text = true → (store.write target text).1 = .ok ()

/-- A run that has made a module breaks off exactly when there is a half in the module. -/
theorem endsInOrder_iff_of_made (hwrite : Writable store target) {made : Product}
    (hmade : productFrom store source = .ok made) :
    EndsInOrder source target store ↔ Text.isWhole made.text = true := by
  let step : Step := ⟨source, target, store⟩
  have hrun : run source target store = step.outcome := rfl
  unfold EndsInOrder
  rw [hrun]
  cases hstore : store.write target made.text with
  | mk result later =>
    have hattempted : step.attempted = (result.map fun _ => made, later) := by
      change attempt source target store = _
      unfold attempt
      rw [hmade]
      dsimp only
      rw [hstore]
      cases result <;> rfl
    cases result with
    | ok u =>
      obtain ⟨content, hcontent, -⟩ := FileStore.wrote_of_write (congrArg Prod.fst hstore)
      rw [step.outcome_of_ok hattempted]
      exact iff_of_true (Or.inl rfl) (Text.exists_bytes?_iff.mp ⟨content, hcontent⟩)
    | error fault =>
      have hfault := FileStore.abortsGeneration_write (congrArg Prod.fst hstore)
      rw [step.outcome_of_error hattempted, status?_ofFault, hfault]
      refine iff_of_false (by simp) fun hwhole => ?_
      have hwritten := hwrite made.text hwhole
      rw [hstore] at hwritten
      cases hwritten

/-- A run to a place where modules can be written has an exit status exactly when nothing but a
reference keeps the module from being made, and no half is in it then. -/
theorem endsInOrder_iff_productFrom (hwrite : Writable store target) :
    EndsInOrder source target store ↔
      (productFrom store source).FailsOnly (·.abortsGeneration = true) ∧
        ∀ made, productFrom store source = .ok made → Text.isWhole made.text = true := by
  cases hmade : productFrom store source with
  | ok made =>
    rw [endsInOrder_iff_of_made hwrite hmade]
    refine ⟨fun hwhole => ⟨.ok made, fun other hother => ?_⟩, fun h => h.2 made rfl⟩
    obtain rfl := Except.ok.inj hother
    exact hwhole
  | error fault =>
    let step : Step := ⟨source, target, store⟩
    have hrun : run source target store = step.outcome := rfl
    unfold EndsInOrder
    rw [hrun, step.outcome_of_error (attempt_of_error hmade), status?_ofFault]
    cases haborts : fault.abortsGeneration with
    | false =>
      refine iff_of_false (by simp) fun honly => ?_
      rw [honly.1 fault rfl] at haborts
      cases haborts
    | true => exact iff_of_true (by simp) ⟨.error haborts, nofun⟩

/-- Without tools no module is made. -/
theorem productOf_of_error {fault : Fault} (h : tools document = .error fault) :
    productOf document = .error fault := by
  unfold productOf
  rw [h]
  rfl

/-- A module is made of the tools of a description. -/
theorem productOf_of_tools {found : List Tool} (h : tools document = .ok found) :
    productOf document = (context found document >>= render) >>= fun text =>
      .ok ⟨text, found.length⟩ := by
  unfold productOf
  rw [h, bind_assoc]
  rfl

/-- A module is made of a well-formed description, but for references that lead nowhere, and is
whole, when the description does not stumble and its tools can be presented. -/
theorem failsOnly_productOf_iff_of_wellFormed (h : WellFormed document) :
    ((productOf document).FailsOnly (·.abortsGeneration = true) ∧
        ∀ made, productOf document = .ok made → Text.isWhole made.text = true) ↔
      ¬Stumbles document ∧ ∀ found, tools document = .ok found → Presentable found document := by
  rw [← failsOnly_tools_iff h]
  cases htools : tools document with
  | error fault =>
    rw [productOf_of_error htools]
    refine ⟨fun honly => ⟨.error (honly.1 fault rfl), nofun⟩, fun honly => ?_⟩
    exact ⟨.error (honly.1 fault rfl), nofun⟩
  | ok found =>
    rw [productOf_of_tools htools]
    simp only [Except.ok.injEq, forall_eq']
    rw [and_iff_right (Except.FailsOnly.ok found),
      ← exists_render_iff (exists_spelled_name htools) h.isMap h.info]
    cases hrendered : context found document >>= render with
    | ok text =>
      refine ⟨fun hmade => ⟨text, rfl, hmade.2 _ rfl⟩, ?_⟩
      rintro ⟨other, hother, hwhole⟩
      obtain rfl := Except.ok.inj hother
      refine ⟨.ok _, fun made hmade => ?_⟩
      obtain rfl := Except.ok.inj hmade
      exact hwhole
    | error fault =>
      refine iff_of_false (fun honly => ?_) fun ⟨_, hother, _⟩ => nomatch hother
      have hother := failsOnly_rendering found document fault hrendered
      exact Bool.false_ne_true (hother.symm.trans (honly.1 fault rfl))

/-- The module is that of the description in the file. -/
theorem productFrom_of_parse {text : String} (hread : store.read source = .ok text)
    (hparse : (DocumentFormat.ofFileName source.fileName).parse text = .ok document) :
    productFrom store source = productOf document := by
  rw [productFrom_of_read hread]
  unfold product
  rw [hparse]
  rfl

/-- **A reference fails with another fault than its own exactly when it is misread; the synthesis of
a well-formed description does so exactly when it stumbles; and a run on such a description, to a
place where modules can be written, has an exit status exactly when the description does not stumble
and its tools can be presented.** -/
theorem endsInOrder_iff (document : Value) :
    (∀ ref : String,
      (Pointer.resolve document ref).FailsOnly (·.abortsGeneration = true) ↔
        ¬Pointer.Misreads document ref) ∧
    (WellFormed document →
      ((tools document).FailsOnly (·.abortsGeneration = true) ↔ ¬Stumbles document) ∧
      ∀ (source target : Path) (store : FileStore) (text : String),
        store.read source = .ok text →
        (DocumentFormat.ofFileName source.fileName).parse text = .ok document →
        Writable store target →
          (EndsInOrder source target store ↔ ¬Stumbles document ∧
            ∀ found, tools document = .ok found → Presentable found document)) := by
  refine ⟨fun _ => Pointer.failsOnly_resolve_iff, fun hwell => ⟨failsOnly_tools_iff hwell, ?_⟩⟩
  intro source target store text hread hparse hwrite
  rw [endsInOrder_iff_productFrom hwrite, productFrom_of_parse hread hparse,
    failsOnly_productOf_iff_of_wellFormed hwell]

/-! ### Titles -/

/-- A description with a title only is well-formed. -/
theorem wellFormed_titledDocument (title : String) : WellFormed (titledDocument title) := by
  have hoperations : operationsOf (titledDocument title) = [] := rfl
  refine ⟨⟨_, rfl⟩, Or.inl rfl, Or.inr ⟨_, rfl⟩, ?_, ?_, ?_⟩
  all_goals
    rw [hoperations]
    exact nofun

/-- **A title with a half breaks a run off**, also where modules can be written. -/
theorem not_endsInOrder_of_title {title text : String} (hhalf : Text.isWhole title = false)
    (hread : store.read source = .ok text)
    (hparse : (DocumentFormat.ofFileName source.fileName).parse text = .ok (titledDocument title))
    (hwrite : Writable store target) : ¬EndsInOrder source target store := by
  rw [endsInOrder_iff_productFrom hwrite, productFrom_of_parse hread hparse,
    failsOnly_productOf_iff_of_wellFormed (wellFormed_titledDocument title)]
  rintro ⟨-, hpresentable⟩
  have hwhole := ((hpresentable [] rfl).title (.text title) rfl).2 title rfl
  rw [hhalf] at hwhole
  cases hwhole

/-! ### An index in digit signs -/

/-- The schema of maps. -/
def mapSchema : Value := .record [("type", .text "object")]

/-- An operation that takes what a segment into a list of schemas leads to. -/
def shapesOperation (segment : String) : Value :=
  .record [("requestBody", .record [("content", .record [("application/json",
    .record [("schema", .record [("$ref", .text ("#/shapes/" ++ segment))])])])])]

/-- The description of the operation, with a list of one schema. -/
def shapesDocument (segment : String) : Value :=
  .record [("shapes", .list [mapSchema]),
    ("paths", .record [("/a", .record [("post", shapesOperation segment)])])]

/-- The description in JSON. -/
def shapesText (segment : String) : String :=
  "\x7b\"shapes\":[\x7b\"type\":\"object\"\x7d],\"paths\":\x7b\"/a\":\x7b\"post\":\x7b"
    ++ "\"requestBody\":\x7b\"content\":\x7b\"application/json\":\x7b\"schema\":\x7b"
    ++ "\"$ref\":\"#/shapes/" ++ segment ++ "\"\x7d\x7d\x7d\x7d\x7d\x7d\x7d\x7d"

/-- The file of the description, and no module yet. -/
def shapesStore (segment : String) : FileStore :=
  ⟨[(["a.json"], .file (shapesText segment).toUTF8)]⟩

/-- The operation has parts of the right kinds. -/
theorem operationShaped_shapesOperation (segment : String) :
    Document.OperationShaped (shapesOperation segment) where
  isMap := ⟨_, rfl⟩
  identifier := Or.inl rfl
  summary := Or.inl rfl
  description := Or.inl rfl
  request := ⟨Or.inr ⟨_, rfl⟩, Or.inr ⟨_, rfl⟩, Or.inr ⟨_, rfl⟩⟩
  responses := Or.inl rfl
  answers := fun _ _ => ⟨Or.inl rfl, Or.inl rfl, Or.inl rfl⟩

/-- The description is well-formed when its segment leads to the schema, if it leads anywhere. -/
theorem wellFormed_shapesDocument {segment : String}
    (h : ∀ c, Pointer.resolve (shapesDocument segment) ("#/shapes/" ++ segment) = .ok c →
      c = mapSchema) : WellFormed (shapesDocument segment) := by
  have hoperations : operationsOf (shapesDocument segment) =
      [⟨.text "/a", "post", shapesOperation segment⟩] := rfl
  have hfamily : Schema.FamilyShaped (shapesDocument segment)
      (.record [("$ref", .text ("#/shapes/" ++ segment))]) := by
    -- The family has the reference in it, and the schema that the reference leads to.
    refine Schema.familyShaped_of_closed
      (P := fun v => v = .record [("$ref", .text ("#/shapes/" ++ segment))] ∨ v = mapSchema)
      (Or.inl rfl) ?_
    rintro v node (rfl | rfl) hbare
    · cases hbare
      have hpartless : Schema.SchemaShaped [(.text "$ref", .text ("#/shapes/" ++ segment))] ∧ _ :=
        Schema.schemaShaped_of_partless (by simp [Entries.get?_cons_text]) (Or.inr ⟨_, rfl⟩)
      obtain ⟨hshaped, hleads⟩ := hpartless
      refine ⟨hshaped, fun c hc => Or.inr ?_⟩
      obtain ⟨name, href, hc⟩ := hleads _ c hc
      cases href
      exact h c hc
    · cases hbare
      have hpartless : Schema.SchemaShaped [(.text "type", .text "object")] ∧ _ :=
        Schema.schemaShaped_of_partless (by simp [Entries.get?_cons_text]) (Or.inl rfl)
      obtain ⟨hshaped, hleads⟩ := hpartless
      refine ⟨hshaped, fun c hc => ?_⟩
      obtain ⟨name, href, -⟩ := hleads _ c hc
      cases href
  refine ⟨⟨_, rfl⟩, Or.inr ⟨_, rfl⟩, Or.inl rfl, ?_, ?_, ?_⟩
  · rw [hoperations, List.forall_mem_singleton]
    exact ⟨"/a", rfl⟩
  · rw [hoperations, List.forall_mem_singleton]
    exact operationShaped_shapesOperation segment
  · rw [hoperations, List.forall_mem_singleton]
    exact ⟨hfamily, fun _ _ => Schema.familyShaped_of_noNode nofun⟩

/-- A file can be written at the root under a name that no directory has. -/
theorem writable_of_name {name : String} (hname : name ≠ "" ∧ name ≠ "..")
    (hnull : Path.hasNull [name] = false) (hlong : Path.isLong name = false)
    (hplace : store.get? [name] ≠ some .directory) : Writable store [name] := by
  intro text hwhole
  obtain ⟨content, hcontent⟩ := Text.exists_bytes?_iff.mpr hwhole
  change (store.writeIn [] name text).1 = .ok ()
  unfold FileStore.writeIn
  rw [hcontent]
  dsimp only
  unfold FileStore.writeBytesIn
  dsimp only
  rw [if_neg hname.2, if_neg (by simp [hnull]), if_neg (by simp [hlong]), if_neg hname.1,
    List.nil_append,
    FileStore.replace_of_ne_directory _ (mt FileStore.get?_put_freshPath_iff.mp hplace)]

theorem writable_shapesStore (segment : String) : Writable (shapesStore segment) ["out.py"] :=
  have hnone : (shapesStore segment).get? ["out.py"] = none := rfl
  writable_of_name ⟨by decide, by decide⟩ (by decide) (by decide) (by simp [hnone])

/-- The description is what its text says. -/
theorem parse_shapesText : ∀ segment ∈ ["0", "²"],
    (DocumentFormat.ofFileName (Path.fileName ["a.json"])).parse (shapesText segment) =
      .ok (shapesDocument segment) := by
  have hformat : DocumentFormat.ofFileName (Path.fileName ["a.json"]) = .json := by decide +kernel
  rw [hformat, List.forall_mem_cons, List.forall_mem_singleton]
  constructor
  all_goals
    unfold shapesText
    -- The text is evaluated as the list of its characters.
    iterate 4 rw [← String.ofList_append]
    rw [DocumentFormat.parse, String.toList_ofList, DocumentFormat.parseText, Json.parse,
      Json.parseKeeping, String.toList_ofList]
    exact Except.eq_ok_of_toOption (by decide +kernel)

/-- With a plain index the run ends in good order. -/
theorem endsInOrder_shapesStore :
    WellFormed (shapesDocument "0") ∧ ¬Stumbles (shapesDocument "0") ∧
      ¬Pointer.Misreads (shapesDocument "0") "#/shapes/0" ∧
      (shapesStore "0").read ["a.json"] = .ok (shapesText "0") ∧
      (DocumentFormat.ofFileName (Path.fileName ["a.json"])).parse (shapesText "0") =
        .ok (shapesDocument "0") ∧
      Writable (shapesStore "0") ["out.py"] ∧
      EndsInOrder ["a.json"] ["out.py"] (shapesStore "0") := by
  obtain ⟨hpointer, hsynthesis⟩ := endsInOrder_iff (shapesDocument "0")
  have hresolve : Pointer.resolve (shapesDocument "0") ("#/shapes/" ++ "0") = .ok mapSchema := rfl
  have hwell : WellFormed (shapesDocument "0") := wellFormed_shapesDocument fun c hc =>
    Except.ok.inj (hc.symm.trans hresolve)
  obtain ⟨hsynthesis, hruns⟩ := hsynthesis hwell
  have hread : (shapesStore "0").read ["a.json"] = .ok (shapesText "0") :=
    FileStore.read_of_content rfl
  have hparse := parse_shapesText "0" (by decide)
  have hwrite := writable_shapesStore "0"
  have hunmarked : Annotations.derive AnnotationRule.table "a" = .ok .unmarked :=
    Annotations.derive_table_of_isSmall (by decide +kernel) (by decide +kernel)
  obtain ⟨tool, htool, hrecord⟩ : ∃ tool, tools (shapesDocument "0") = .ok [tool] ∧
      ∃ record, Json.plain tool.toRecord = .ok record :=
    ⟨_, tools_of_unnamed rfl rfl hunmarked rfl rfl rfl rfl rfl rfl, _, rfl⟩
  have hstumbles : ¬Stumbles (shapesDocument "0") := by
    rw [← hsynthesis, htool]
    exact .ok _
  have hpresentable : Presentable [tool] (shapesDocument "0") := by
    have hshowable : ∀ s, Text.isWhole s = true → (Value.text s).IsShowable := fun s hs =>
      (Value.isShowable_iff rfl).mpr hs
    refine ⟨List.forall_mem_singleton.mpr hrecord, fun v hv => ?_, fun v hv => ?_, ?_⟩
    · cases hv
      exact hshowable _ (by decide +kernel)
    · cases hv
      exact hshowable _ (by decide +kernel)
    · have hmany : ∀ n ≠ 0, 1 < Double.tenTo n := fun n hn => Nat.one_lt_pow hn (by decide)
      rw [Value.fits, Value.scalarFits, decide_eq_true_eq]
      exact hmany Text.maxDigits (by decide)
  refine ⟨hwell, hstumbles, (hpointer _).mp ?_, hread, hparse, hwrite, ?_⟩
  · rw [show "#/shapes/0" = "#/shapes/" ++ "0" from rfl, hresolve]
    exact .ok _
  · refine (hruns _ _ _ _ hread hparse hwrite).mpr ⟨hstumbles, fun found hfound => ?_⟩
    cases htool.symm.trans hfound
    exact hpresentable

/-- With a superscript for an index the reference is misread, and the run is broken off, though the
description is well-formed and its module could be written. -/
theorem superscript_breaks_off :
    WellFormed (shapesDocument "²") ∧
      Pointer.resolve (shapesDocument "²") "#/shapes/²" = .error (.notANumeral 10 "²") ∧
      tools (shapesDocument "²") = .error (.notANumeral 10 "²") ∧
      (shapesStore "²").read ["a.json"] = .ok (shapesText "²") ∧
      (DocumentFormat.ofFileName (Path.fileName ["a.json"])).parse (shapesText "²") =
        .ok (shapesDocument "²") ∧
      Writable (shapesStore "²") ["out.py"] ∧
      ¬EndsInOrder ["a.json"] ["out.py"] (shapesStore "²") := by
  have hresolve : Pointer.resolve (shapesDocument "²") ("#/shapes/" ++ "²") =
      .error (.notANumeral 10 "²") := rfl
  have htools : tools (shapesDocument "²") = .error (.notANumeral 10 "²") := rfl
  have hread : (shapesStore "²").read ["a.json"] = .ok (shapesText "²") :=
    FileStore.read_of_content rfl
  have hparse := parse_shapesText "²" (by decide)
  have hwrite := writable_shapesStore "²"
  refine ⟨wellFormed_shapesDocument fun c hc => (nomatch hresolve.symm.trans hc), hresolve, htools,
    hread, hparse, hwrite, fun hends => ?_⟩
  rw [endsInOrder_iff_productFrom hwrite, productFrom_of_parse hread hparse,
    productOf_of_error htools] at hends
  cases hends.1 _ rfl

end Generation

end ApiTools
