import ApiTools.Yaml.Evaluation

/-!
# Reading YAML

A document is read in three steps: the text into tokens, these into a table of nodes, and the nodes
into a value.

## Main definitions

* `Yaml.parse` — the value of a text.
-/

namespace ApiTools

namespace Yaml

/-- How far a knot is laid open in a document, below what its references lead to: the way to the
schema of an operation and, from there, the ways through compositions and properties for as long as
schemas are followed. -/
def knotDepth : Nat := 150

/-- How far a knot is laid open in the document of a text, which its references may go down by one
level for every slash. -/
def depthFor (text : List Char) : Nat := knotDepth + text.count '/'

/-- The value of a text; a text without a document is null. -/
def parse (text : String) : Except Fault Value := do
  let some tokens := Token.ofText? text.toList | throw .malformedYaml
  match ← Node.ofTokens tokens with
  | none => return .null
  | some (root, nodes) =>
    return Form.valueOf (← Evaluation.forms? root nodes) (depthFor text.toList) root

end Yaml

end ApiTools
