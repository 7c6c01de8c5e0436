import ApiTools.Generation
import ApiTools.Proofs.FileStore.Writing

/-!
# Runs that follow each other

A run works out the whole module before it writes anything, and writes it as a whole.  So a run that
fails leaves every file as it was, and a run that succeeds changes the one file that it writes.  This
holds of each run of a sequence, whatever the runs before it left behind.

## Main definitions

* `Generation.AttemptStep` — the ways in which a description is read and its module written.
* `Generation.Step`, `Generation.Step.IsSafe` — a run with the files before it, and what it may do to
  them.
* `Generation.trace`, `Generation.storeAfter` — the runs of a sequence, and the files after them.

## Main results

* `Generation.attempt_cases` — these are all the ways.
* `Generation.Step.isSafe` — **every run is safe.**
* `Generation.isSafe_runs` — **so is every run of a sequence**, and a file that none of them writes
  stays as it is.
-/

namespace ApiTools

namespace Generation

/-! ### One attempt -/

/-- The ways in which a description is read and its module written. -/
inductive AttemptStep (source target : Path) (store : FileStore) :
    Except Fault Product × FileStore → Prop where
  /-- There is no module to write. -/
  | unmade (fault : Fault) (hmade : productFrom store source = .error fault) :
    AttemptStep source target store (.error fault, store)
  /-- The module cannot be written. -/
  | unwritten (made : Product) (hmade : productFrom store source = .ok made) (fault : Fault)
    (later : FileStore) (hwrite : store.write target made.text = (.error fault, later)) :
    AttemptStep source target store (.error fault, later)
  /-- The module is written. -/
  | written (made : Product) (hmade : productFrom store source = .ok made) (later : FileStore)
    (hwrite : store.write target made.text = (.ok (), later)) :
    AttemptStep source target store (.ok made, later)

/-- **These are all the ways.** -/
theorem attempt_cases (source target : Path) (store : FileStore) :
    AttemptStep source target store (attempt source target store) := by
  unfold attempt
  split
  · next fault hmade => exact .unmade fault hmade
  · next made hmade =>
    split
    · next later hwrite => exact .written made hmade later hwrite
    · next fault later hwrite => exact .unwritten made hmade fault later hwrite

/-- What is made of a text that can be read. -/
theorem productFrom_of_read {store : FileStore} {source : Path} {text : String}
    (h : store.read source = .ok text) :
    productFrom store source = product source.fileName text := by
  unfold productFrom
  rw [h]
  rfl

/-- Nothing is written where nothing is made. -/
theorem attempt_of_error {source target : Path} {store : FileStore} {fault : Fault}
    (h : productFrom store source = .error fault) :
    attempt source target store = (.error fault, store) := by
  unfold attempt
  rw [h]

/-- The faults that abort a run are those of a reference. -/
theorem abortsGeneration_iff {fault : Fault} : fault.abortsGeneration = true ↔
    ∃ ref, fault = .unsupportedReference ref ∨ fault = .unresolvableReference ref := by
  cases fault <;> simp [Fault.abortsGeneration]

/-! ### One run -/

theorem store_ofFault (fault : Fault) (store : FileStore) :
    (Outcome.ofFault fault store).store = store := by
  unfold Outcome.ofFault
  split <;> rfl

theorem status?_ofFault (fault : Fault) (store : FileStore) :
    (Outcome.ofFault fault store).status? = if fault.abortsGeneration then some 1 else none := by
  unfold Outcome.ofFault
  split <;> rfl

/-- A fault never counts as success. -/
theorem status?_ofFault_ne_zero (fault : Fault) (store : FileStore) :
    (Outcome.ofFault fault store).status? ≠ some 0 := by
  rw [status?_ofFault]
  split <;> simp

/-- A run with the files before it. -/
structure Step where
  /-- Where the description is. -/
  source : Path
  /-- Where the module goes. -/
  target : Path
  /-- The files before the run. -/
  before : FileStore

namespace Step

/-- What the run attempts, with the files afterwards. -/
def attempted (step : Step) : Except Fault Product × FileStore :=
  attempt step.source step.target step.before

/-- What the run comes to. -/
def outcome (step : Step) : Outcome := runFor [step.source, step.target] step.before

/-- The files after the run. -/
def after (step : Step) : FileStore := step.outcome.store

/-- The module of a run: the one rendered for the tools of the description that it reads. -/
def Renders (step : Step) (module : String) : Prop :=
  ∃ text document tools context, step.before.read step.source = .ok text ∧
    (DocumentFormat.ofFileName step.source.fileName).parse text = .ok document ∧
    Synthesis.tools document = .ok tools ∧ ToolModule.context tools document = .ok context ∧
    ToolModule.render context = .ok module

/-- What a run may do to the files, by its status. -/
structure IsSafe (step : Step) : Prop where
  /-- A run that fails leaves every file as it is, and makes none. -/
  failed : step.outcome.status? ≠ some 0 →
    ∀ place, step.after.contentAt? place = step.before.contentAt? place
  /-- A run that succeeds writes its module, in which no half is left, and changes no other file. -/
  succeeded : step.outcome.status? = some 0 → ∃ module content, step.Renders module ∧
    Text.whole? module = some content ∧ step.after.read step.target = .ok content ∧
    ∀ place, step.after.contentAt? place =
      if place = step.target.place then some content.toUTF8 else step.before.contentAt? place
  /-- A run has status one exactly when a reference led nowhere. -/
  aborted : step.outcome.status? = some 1 ↔ ∃ ref,
    step.attempted.1 = .error (.unsupportedReference ref) ∨
      step.attempted.1 = .error (.unresolvableReference ref)
  /-- Such a run writes nothing at all, not even a directory. -/
  untouched : step.outcome.status? = some 1 → step.after = step.before

variable (step : Step)

/-- What is made is rendered for the tools of the description that was read. -/
theorem renders_of_productFrom {made : Product}
    (h : productFrom step.before step.source = .ok made) : step.Renders made.text := by
  obtain ⟨text, htext, h⟩ := Except.bind_eq_ok_iff.mp h
  obtain ⟨document, hdocument, h⟩ := Except.bind_eq_ok_iff.mp h
  obtain ⟨tools, htools, h⟩ := Except.bind_eq_ok_iff.mp h
  obtain ⟨context, hcontext, h⟩ := Except.bind_eq_ok_iff.mp h
  obtain ⟨module, hmodule, rfl⟩ := Except.bind_pure_eq_ok_iff.mp h
  exact ⟨text, document, tools, context, htext, hdocument, htools, hcontext, hmodule⟩

/-- An attempt that fails ends the run by its fault. -/
theorem outcome_of_error {fault : Fault} {later : FileStore}
    (h : step.attempted = (.error fault, later)) : step.outcome = .ofFault fault later := by
  change run step.source step.target step.before = _
  unfold run
  rw [show attempt step.source step.target step.before = _ from h]

/-- An attempt that succeeds ends the run in good order. -/
theorem outcome_of_ok {made : Product} {later : FileStore}
    (h : step.attempted = (.ok made, later)) :
    step.outcome =
      ⟨.ok .written, [writtenLine (Text.spelled step.target.toText) made.count], later⟩ := by
  change run step.source step.target step.before = _
  unfold run
  rw [show attempt step.source step.target step.before = _ from h]

/-- A failed attempt is safe if it leaves every file as it is, and everything after a fault of a
reference. -/
theorem isSafe_of_error {fault : Fault} {later : FileStore}
    (h : step.attempted = (.error fault, later))
    (hsame : ∀ place, later.contentAt? place = step.before.contentAt? place)
    (huntouched : fault.abortsGeneration = true → later = step.before) : step.IsSafe := by
  have houtcome := step.outcome_of_error h
  have hafter : step.after = later := by
    unfold after
    rw [houtcome, store_ofFault]
  have haborted : step.outcome.status? = some 1 ↔ fault.abortsGeneration = true := by
    rw [houtcome, status?_ofFault]
    split
    · next haborts => exact iff_of_true rfl haborts
    · next haborts => exact iff_of_false (by simp) haborts
  refine ⟨fun _ => ?_, fun hstatus => ?_, ?_, fun hstatus => ?_⟩
  · rw [hafter]
    exact hsame
  · rw [houtcome] at hstatus
    exact absurd hstatus (status?_ofFault_ne_zero fault later)
  · rw [haborted, abortsGeneration_iff, h]
    simp only [Except.error.injEq]
  · rw [hafter]
    exact huntouched (haborted.mp hstatus)

/-- **Every run is safe.** -/
theorem isSafe : step.IsSafe := by
  have hcases := attempt_cases step.source step.target step.before
  cases hattempt : step.attempted with
  | mk result later =>
    rw [show attempt step.source step.target step.before = _ from hattempt] at hcases
    cases hcases with
    | unmade fault hmade => exact step.isSafe_of_error hattempt (fun _ => rfl) fun _ => rfl
    | unwritten made hmade fault later hwrite =>
      have hfault : (step.before.write step.target made.text).1 = .error fault := by rw [hwrite]
      refine step.isSafe_of_error hattempt (fun place => ?_) fun haborts => ?_
      · have hsame := FileStore.contentAt?_write_of_error hfault place
        rw [hwrite] at hsame
        exact hsame
      · -- Writing fails for other reasons.
        rw [FileStore.abortsGeneration_write hfault] at haborts
        cases haborts
    | written made hmade later hwrite =>
      have houtcome := step.outcome_of_ok hattempt
      obtain ⟨bytes, hbytes, hwrote⟩ := FileStore.wrote_of_write (congrArg Prod.fst hwrite)
      rw [hwrite] at hwrote
      obtain ⟨content, hcontent, rfl⟩ := Option.map_eq_some_iff.mp hbytes
      have hafter : step.after = later := by
        unfold after
        rw [houtcome]
      have hsuccess : step.outcome.status? = some 0 := by
        rw [houtcome]
        rfl
      refine ⟨fun hstatus => absurd hsuccess hstatus, fun _ => ?_, ?_, fun hstatus => ?_⟩
      · rw [hafter]
        exact ⟨made.text, content, step.renders_of_productFrom hmade, hcontent,
          FileStore.read_of_content hwrote.content, hwrote.contentAt?⟩
      · rw [hsuccess, hattempt]
        exact iff_of_false (by simp) (by simp)
      · rw [hsuccess] at hstatus
        cases hstatus

end Step

/-! ### Sequences of runs -/

/-- The runs of a sequence of pairs of a description and a module, each one with the files that the
runs before it left behind. -/
def trace (store : FileStore) : List (Path × Path) → List Step
  | [] => []
  | (source, target) :: runs =>
    let step : Step := ⟨source, target, store⟩
    step :: trace step.after runs

/-- The files after the runs of a sequence. -/
def storeAfter (store : FileStore) : List (Path × Path) → FileStore
  | [] => store
  | (source, target) :: runs => storeAfter (Step.after ⟨source, target, store⟩) runs

/-- A file that no run of a sequence writes stays as it is. -/
theorem contentAt?_storeAfter {runs : List (Path × Path)} {store : FileStore} {place : Path}
    (h : ∀ step ∈ trace store runs, step.outcome.status? = some 0 → step.target.place ≠ place) :
    (storeAfter store runs).contentAt? place = store.contentAt? place := by
  induction runs generalizing store with
  | nil => rfl
  | cons run runs ih =>
    obtain ⟨source, target⟩ := run
    obtain ⟨hfirst, hrest⟩ := List.forall_mem_cons.mp h
    have hsafe := Step.isSafe ⟨source, target, store⟩
    rw [storeAfter, ih hrest]
    by_cases hstatus : (Step.outcome ⟨source, target, store⟩).status? = some 0
    · obtain ⟨module, content, -, -, -, hcontent⟩ := hsafe.succeeded hstatus
      rw [hcontent, if_neg (Ne.symm (hfirst hstatus))]
    · exact hsafe.failed hstatus place

/-- **Every run of a sequence is safe**: one that fails leaves every file as it is, one that succeeds
writes its module and nothing else, and one has status one exactly when a reference led nowhere.  A
file that none of them writes has in the end what it had in the beginning. -/
theorem isSafe_runs (store : FileStore) (runs : List (Path × Path)) :
    (∀ step ∈ trace store runs, step.IsSafe) ∧
      ∀ place, (∀ step ∈ trace store runs,
        step.outcome.status? = some 0 → step.target.place ≠ place) →
          (storeAfter store runs).contentAt? place = store.contentAt? place :=
  ⟨fun step _ => step.isSafe, fun _ => contentAt?_storeAfter⟩

/-- A description with a reference that leads nowhere. -/
def brokenText : String :=
  "\x7b\"paths\":\x7b\"/a\":\x7b\"post\":\x7b\"requestBody\":\x7b\"content\":\x7b"
    ++ "\"application/json\":\x7b\"schema\":\x7b\"$ref\":\"#/b\""
    ++ "\x7d\x7d\x7d\x7d\x7d\x7d\x7d\x7d"

/-- The description, and a module from before. -/
def brokenStore : FileStore :=
  ⟨[(["a.json"], .file brokenText.toUTF8), (["out.py"], .file "TOOLS = ()".toUTF8)]⟩

/-- The run for that description. -/
def brokenStep : Step := ⟨["a.json"], ["out.py"], brokenStore⟩

/-- The run for that description has status one, and the module from before stays as it was. -/
theorem isSafe_runs_brokenStore :
    brokenStep.outcome.status? = some 1 ∧
      (∀ step ∈ trace brokenStore [(["a.json"], ["out.py"])], step.IsSafe) ∧
      (storeAfter brokenStore [(["a.json"], ["out.py"])]).contentAt? ["out.py"] =
        some "TOOLS = ()".toUTF8 := by
  have hformat : DocumentFormat.ofFileName (Path.fileName ["a.json"]) = .json := by decide +kernel
  have hfails : (product (Path.fileName ["a.json"]) brokenText).fails Fault.abortsGeneration =
      true := by
    unfold product brokenText
    -- The text is evaluated as the list of its characters.
    iterate 2 rw [← String.ofList_append]
    rw [hformat, DocumentFormat.parse, String.toList_ofList, DocumentFormat.parseText, Json.parse,
      Json.parseKeeping, String.toList_ofList]
    decide +kernel
  obtain ⟨fault, hfault, haborts⟩ := Except.fails_iff.mp hfails
  have hread : brokenStore.read ["a.json"] = .ok brokenText := FileStore.read_of_content rfl
  have hattempted : brokenStep.attempted = (.error fault, brokenStore) :=
    attempt_of_error ((productFrom_of_read hread).trans hfault)
  have hstatus : brokenStep.outcome.status? = some 1 := by
    rw [brokenStep.outcome_of_error hattempted, status?_ofFault, if_pos haborts]
  obtain ⟨hsafe, hkept⟩ := isSafe_runs brokenStore [(["a.json"], ["out.py"])]
  refine ⟨hstatus, hsafe, hkept ["out.py"] ?_⟩
  intro step hstep hsuccess
  obtain rfl : step = brokenStep := List.mem_singleton.mp hstep
  rw [hstatus] at hsuccess
  cases hsuccess

end Generation

end ApiTools
