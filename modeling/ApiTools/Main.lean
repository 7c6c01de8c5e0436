import ApiTools.Generation

/-!
# The command line

The program takes two paths: where the description is, and where the module goes. The module is
written to a fresh file beside its place and then moved there, so that a run that fails leaves the
old module as it was.
-/

namespace ApiTools

namespace Generation

/-- The argument at a position; an empty one counts as left out. -/
def argument (args : List String) (i : Nat) (fallback : String) : String :=
  match args[i]? with
  | none | some "" => fallback
  | some given => given

/-- The written form of a path as the system takes it. -/
def systemPath (given : String) (path : Path) : String :=
  let below := path.toText
  if given.startsWith "/" then "/" ++ below else if below.isEmpty then "." else below

/-- Prints a line of the log. -/
def printLine (line : LogLine) : IO Unit := IO.eprintln line.render

/-- A fresh file in a directory, open for writing, with its path. Names are tried one after the
other, as many as `tries`. -/
def createFresh (directory : String) : Nat → IO (String × IO.FS.Handle)
  | 0 => throw (IO.userError "no fresh file name")
  | tries + 1 => do
    let path := directory ++ "/tmp" ++ toString tries ++ ".tmp"
    try
      return (path, ← IO.FS.Handle.mk path .writeNew)
    catch fault =>
      if tries = 0 then throw fault else createFresh directory tries

/-- Writes a file as a whole, in a directory that is made if it is missing. -/
def writeWhole (given text : String) : IO String := do
  let path := Path.ofText given
  let target := systemPath given path
  let directory := systemPath given path.parent
  IO.FS.createDirAll directory
  let (fresh, handle) ← createFresh directory 10000
  try
    match Text.bytes? text with
    | some content => handle.write content
    | none => throw (IO.userError "the text cannot be encoded")
    handle.flush
    IO.FS.rename fresh target
  catch fault =>
    IO.FS.removeFile fresh
    throw fault
  return target

/-- A run on the files of the system. -/
def runOnSystem (args : List String) : IO UInt32 := do
  let source := argument args 0 defaultSource
  match product (Path.ofText source).fileName (← IO.FS.readFile source) with
  | .ok made =>
    let target ← writeWhole (argument args 1 defaultTarget) made.text
    printLine (writtenLine (Text.spelled target) made.count)
    return Ending.written.status.toUInt32
  | .error fault =>
    if fault.abortsGeneration then
      printLine (abortedLine fault)
      return Ending.aborted.status.toUInt32
    else
      throw (IO.userError ("generation failed: " ++ fault.message))

end Generation

end ApiTools

/-- Runs the generation for the paths on the command line. -/
def main (args : List String) : IO UInt32 := ApiTools.Generation.runOnSystem args
