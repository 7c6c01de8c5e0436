import ApiTools.Json.Reader
import ApiTools.Yaml.Reader

/-!
# The formats of a description

A description is written in JSON or in YAML, and the name of its file says which. In both, a
carriage return ends a line like a line feed, alone or with one. In YAML, a description that is
missing or empty reads as an empty map.

## Main definitions

* `DocumentFormat.ofFileName` — the format of a file.
* `DocumentFormat.parse` — the description in a text.
-/

namespace ApiTools

namespace Text

/-- A text in which every line end is a line feed. -/
def unifyLineEnds : List Char → List Char
  | [] => []
  | '\r' :: '\n' :: s => '\n' :: unifyLineEnds s
  | c :: s => (if c = '\r' then '\n' else c) :: unifyLineEnds s

end Text

/-- The format of a description. -/
inductive DocumentFormat where
  /-- JSON. -/
  | json
  /-- YAML, which every other file is written in. -/
  | yaml
  deriving DecidableEq

namespace DocumentFormat

/-- The ending of the names of JSON files. -/
def jsonEnding : List Char := ['.', 'j', 's', 'o', 'n']

/-- The format of a file. A name that is nothing but the ending does not have that ending. -/
def ofFileName (name : String) : DocumentFormat :=
  if jsonEnding.isSuffixOf name.toList && jsonEnding.length < name.length then json else yaml

/-- The description in a text with unified line ends. -/
def parseText (format : DocumentFormat) (text : String) : Except Fault Value :=
  match format with
  | json => Json.parse text
  | yaml => do return (← Yaml.parse text).orElse (.map [])

/-- The description in a text. -/
def parse (format : DocumentFormat) (text : String) : Except Fault Value :=
  format.parseText (String.ofList (Text.unifyLineEnds text.toList))

end DocumentFormat

end ApiTools
