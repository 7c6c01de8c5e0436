import ApiTools.Text.Punycode
import ApiTools.Text.Split
import ApiTools.Url.Label.Composition
import ApiTools.Url.Label.Direction
import ApiTools.Url.Label.Letter

/-!
# Labels of host names

A host name is made of labels with dots between them. A label that is not ASCII is written in ASCII
after a mark in front, by its plain characters and the steps to the others. It is composed, begins
with no mark, and holds letters that go together. A label is not empty, has no hyphen at its ends or
twice from the third place on, and is not longer than 63 characters.

## Main definitions

* `Label.isLabel` — whether a text is a label.
* `Label.ascii?` — the form in ASCII of a label.
* `Label.hostName?` — that of a host name that is not ASCII.
-/

namespace ApiTools

namespace Label

/-! ### Labels -/

/-- Whether the hyphens of a label are where they may be. -/
def hyphensFit (label : List Char) : Bool :=
  label.head? != some '-' && label.getLast? != some '-' && (label.drop 2).take 2 != ['-', '-']

/-- Whether a text is a label. -/
def isLabel (label : List Char) : Bool :=
  !label.isEmpty && hyphensFit label && !label.head?.any isMark && holdsFrom label [] label
    && isComposed label && directionsFit label

/-! ### The form in ASCII -/

/-- What stands in front of a label that is written by steps. -/
def stepped : List Char := "xn--".toList

/-- The label that is written by steps. Something has to be written, and it does not end in a
hyphen. -/
def unstepped? (written : List Char) : Option (List Char) :=
  let (plain, digits) := Punycode.parts '-' written
  let reading := Punycode.decode (plain.map Char.toNat) digits
  if written.isEmpty ∨ written.getLast? = some '-' ∨ !reading.isWhole then none
  else reading.codes.mapM Unicode.ofCode

/-- The form in ASCII of a label. One that is in that form already has to be that of a label. -/
def ascii? (label : List Char) : Option (List Char) :=
  let isAscii := label.all (·.toNat < 128)
  let isStepped := isAscii && stepped.isPrefixOf label
  let form := if isAscii then label else stepped ++ Punycode.encode label
  let isGood :=
    if isStepped then (unstepped? (label.drop stepped.length)).any isLabel else isLabel label
  if isGood && form.length ≤ 63 then some form else none

/-- The dots between labels. -/
def isDot (c : Char) : Bool := ['.', '\u3002', '\uff0e', '\uff61'].contains c

/-- The labels of a host name. -/
def labels (host : List Char) : List (List Char) :=
  Text.split '.' (host.map fun c => if isDot c then '.' else c)

/-- The form in ASCII of a host name. A dot may stand at its end. -/
def hostName? (host : List Char) : Option (List Char) :=
  let labels := labels host
  let isClosed := labels.getLast? == some []
  match (if isClosed then labels.dropLast else labels).mapM ascii? with
  | none => none
  | some forms =>
    let name := ['.'].intercalate (if isClosed then forms ++ [[]] else forms)
    if name.length ≤ (if isClosed then 254 else 253) then some name else none

end Label

end ApiTools
