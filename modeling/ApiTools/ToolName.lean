import ApiTools.Value.Access

/-!
# Tool names

The name of a tool is made from the identifier of its operation: the fixed start `outline_`, then
the identifier in snake case. Names that collide are told apart in two passes, first by the method
of the operation, then by a number.

## Main definitions

* `ToolName.snakeCase` — an identifier in snake case.
* `ToolName.ofIdentifier` — the name for an identifier.
* `ToolName.methodName` — the method a path calls.
* `ToolName.deduplicate` — the names of a list of tools, made different.
* `ToolName.deduplicateRecords` — the same for records of tools.
* `ToolName.renamedRecords` — the records with the names that they get.
-/

namespace ApiTools

namespace ToolName

/-! ### Snake case -/

/-- The text without one leading slash. -/
def dropSlash : List Char → List Char
  | '/' :: s => s
  | s => s

/-- An underscore in place of a dot. -/
def dotless (c : Char) : Char := if c = '.' then '_' else c

/-- An underscore between a small letter and a capital right after it, and the search goes on behind
both. ASCII letters only. -/
def splitHumps : List Char → List Char
  | c :: d :: s =>
    if c.isLower && d.isUpper then c :: '_' :: d :: splitHumps s else c :: splitHumps (d :: s)
  | s => s

/-- An underscore in place of what is no ASCII letter, digit or underscore. -/
def underscore (c : Char) : Char := if c.isAlphanum || c == '_' then c else '_'

/-- One underscore in place of each run of them. -/
def squeeze : List Char → List Char
  | c :: d :: s => if c = '_' ∧ d = '_' then squeeze (d :: s) else c :: squeeze (d :: s)
  | s => s

/-- An identifier in snake case: six rewrites of the whole text, one after the other. -/
def snakeChars (s : List Char) : List Char :=
  (squeeze ((splitHumps ((dropSlash s).map dotless)).map underscore)).map Char.toLower

/-- An identifier in snake case. -/
def snakeCase (s : String) : String := String.ofList (snakeChars s.toList)

/-- An identifier in snake case after a fixed start. -/
def startingWith (start identifier : String) : String := start ++ snakeCase identifier

/-- The tool name for an identifier. -/
def ofIdentifier (identifier : String) : String := startingWith "outline_" identifier

/-- The method that a path calls: the path without its leading slash. -/
def methodName (path : String) : String := String.ofList (dropSlash path.toList)

/-- The identifier of an operation: its own, or else the method that its path calls. -/
def identifier (path operation : Value) : Except Fault Value := do
  let own ← operation.field "operationId"
  if own.isTruthy then return own
  match path with
  | .text p => return .text (methodName p)
  | _ => throw .illTyped

/-! ### Names made different -/

/-- A kind of name. -/
structure NameKind (α : Type) where
  /-- Whether two names are the same. -/
  same : α → α → Bool
  /-- A name with an underscore and an ending. -/
  extend : α → String → α

/-- Texts. -/
def textKind : NameKind String := ⟨(· == ·), fun name ending => name ++ "_" ++ ending⟩

/-- Scalars, of which any can be a name in a record. -/
def scalarKind : NameKind Scalar :=
  ⟨Scalar.alike, fun name ending => .text (name.display ++ "_" ++ ending)⟩

section

variable {α : Type} (kind : NameKind α)

/-- Whether a name is among those seen. -/
def isSeen (seen : List α) (name : α) : Bool := seen.any (kind.same name)

/-- The names after the first pass: a name met before gets the method added. -/
def withMethods (seen : List α) : List (α × String) → List α
  | [] => []
  | (name, method) :: tools =>
    (if isSeen kind seen name then kind.extend name method else name)
      :: withMethods (name :: seen) tools

/-- A name not among those seen: the name itself, or the name with the first free number from two
on. Of as many numbers as there are names seen, one is free, for one name seen has no number. -/
def fresh (seen : List α) (name : α) : α :=
  if isSeen kind seen name then
    let numbered := (List.range seen.length).map fun k => kind.extend name (toString (k + 2))
    (numbered.find? fun candidate => !isSeen kind seen candidate).getD name
  else name

/-- The names after the second pass: each one different from those before it. -/
def withNumbers (seen : List α) : List α → List α
  | [] => []
  | name :: names =>
    let chosen := fresh kind seen name
    chosen :: withNumbers (chosen :: seen) names

/-- The names of a list of tools of one kind, given by name and method, made different. -/
def deduplicateKind (tools : List (α × String)) : List α :=
  withNumbers kind [] (withMethods kind [] tools)

end

/-- The names of a list of tools, given by name and method, made different. -/
def deduplicate (tools : List (String × String)) : List String := deduplicateKind textKind tools

/-- The name and method of a tool record. The method may be missing where the name is new. -/
def nameAndMethod (seen : List Scalar) (tool : Value) : Except Fault (Scalar × String) := do
  let name ← (← tool.entry "name").key
  if isSeen scalarKind seen name then return (name, (← tool.entry "http_method").display)
  else return (name, "")

/-- The names and methods of a list of tool records. -/
def namesAndMethods (seen : List Scalar) : List Value → Except Fault (List (Scalar × String))
  | [] => .ok []
  | tool :: tools => do
    let (name, method) ← nameAndMethod seen tool
    return (name, method) :: (← namesAndMethods (name :: seen) tools)

/-- The names of a list of tool records, made different. -/
def deduplicateRecords (tools : List Value) : Except Fault (List Scalar) := do
  return deduplicateKind scalarKind (← namesAndMethods [] tools)

/-- A tool record with another name in the place of its own. -/
def rename (tool : Value) (name : Scalar) : Value :=
  match tool with
  | .map es => .map (Entries.insert es (.text "name") (.scalar name))
  | v => v

/-- A list of tool records with their names made different. -/
def renamedRecords (tools : List Value) : Except Fault (List Value) := do
  return tools.zipWith rename (← deduplicateRecords tools)

end ToolName

end ApiTools
