import ApiTools.DocumentFormat
import ApiTools.FileStore
import ApiTools.ToolModule

/-!
# A generation run

A run reads a description, makes its tools and writes the module that holds them. Everything is
worked out before anything is written. A reference that leads nowhere ends a run in good order,
with a line in the log; every other fault breaks it off.

## Main definitions

* `Generation.product` — the module for the description in a text.
* `Generation.attempt` — a description read and its module written.
* `Generation.run` — a run on a store of files, with its exit status.
-/

namespace ApiTools

namespace Generation

/-- Where the description is if no place is given. -/
def defaultSource : String := "spec/outline-openapi.yml"

/-- Where the module goes if no place is given. -/
def defaultTarget : String := "generated/outline_tools.py"

/-- A module to be written. -/
structure Product where
  /-- The text of the module. -/
  text : String
  /-- The number of tools in it. -/
  count : Nat
  deriving DecidableEq

/-- The module for a description. -/
def productOf (document : Value) : Except Fault Product := do
  let tools ← Synthesis.tools document
  let text ← ToolModule.render (← ToolModule.context tools document)
  return { text, count := tools.length }

/-- The module for the description in the text of a file. -/
def product (fileName text : String) : Except Fault Product := do
  productOf (← (DocumentFormat.ofFileName fileName).parse text)

/-- How a run that was not broken off ended. -/
inductive Ending where
  /-- The module was written. -/
  | written
  /-- The description has a reference that leads nowhere. -/
  | aborted
  deriving DecidableEq

/-- The exit status for an ending. -/
def Ending.status : Ending → Nat
  | written => 0
  | aborted => 1

/-- The log line of a module that was written. -/
def writtenLine (target : String) (count : Nat) : LogLine :=
  { level := .info
    speaker := "toolgen.codegen"
    text := "Generated " ++ target ++ " (" ++ toString count ++ " tools)" }

/-- The log line of a run that was aborted. -/
def abortedLine (fault : Fault) : LogLine :=
  { level := .error
    speaker := "toolgen"
    text := "Generation aborted, no output written: " ++ fault.message }

/-- What a run leaves behind. -/
structure Outcome where
  /-- How it ended, or what broke it off. -/
  result : Except Fault Ending
  /-- What it logged. -/
  log : List LogLine
  /-- The files afterwards. -/
  store : FileStore

/-- The exit status of a run, none if a fault broke it off. -/
def Outcome.status? (outcome : Outcome) : Option Nat := outcome.result.toOption.map Ending.status

/-- The outcome of a fault. -/
def Outcome.ofFault (fault : Fault) (store : FileStore) : Outcome :=
  if fault.abortsGeneration then ⟨.ok .aborted, [abortedLine fault], store⟩
  else ⟨.error fault, [], store⟩

/-- The module for the description in a file. -/
def productFrom (store : FileStore) (source : Path) : Except Fault Product := do
  product source.fileName (← store.read source)

/-- Reads a description and writes its module. The result is that module, or the fault on the way to
it, with the files afterwards. -/
def attempt (source target : Path) (store : FileStore) : Except Fault Product × FileStore :=
  match productFrom store source with
  | .error fault => (.error fault, store)
  | .ok made =>
    match store.write target made.text with
    | (.ok (), store) => (.ok made, store)
    | (.error fault, store) => (.error fault, store)

/-- A run that reads a description and writes its module. -/
def run (source target : Path) (store : FileStore) : Outcome :=
  match attempt source target store with
  | (.ok made, store) => ⟨.ok .written, [writtenLine (Text.spelled target.toText) made.count], store⟩
  | (.error fault, store) => .ofFault fault store

/-- A run for the paths given: the description, then the module. -/
def runFor (paths : List Path) (store : FileStore) : Outcome :=
  run (paths[0]?.getD (.ofText defaultSource)) (paths[1]?.getD (.ofText defaultTarget)) store

end Generation

end ApiTools
