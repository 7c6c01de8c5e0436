import ApiTools.Fault
import ApiTools.Text.Digit

/-!
# Reading values of unknown kind

Documents are read without a check of their shape beforehand. Each way of reading a value says what
it needs and fails with the fault that fits: a look-up needs a map, an iteration a list, the keys of
a map or the characters of a text, and a key a scalar. A knot is read as what it holds.

## Main definitions

* `Value.field?`, `Value.field` — look-up by name, absent if missing.
* `Value.entry` — look-up by name, a fault if missing.
* `Value.elements` — what an iteration visits.
* `Value.contains` — membership of a text.
* `Value.key` — the value as a key.
* `Value.members` — values put into a set.
* `Value.shown` — the value in running text, a fault if an integer is too long.
-/

namespace ApiTools

namespace Value

/-- The entries of a map, for a look-up. -/
def entries (v : Value) : Except Fault Entries :=
  match v.bare with
  | .map es => .ok es
  | _ => .error .noAccessor

/-- The value at a name, if the map has it. -/
def field? (v : Value) (name : String) : Except Fault (Option Value) := do
  return (← v.entries).get? name

/-- The value at a name, the absent value if the map does not have it. -/
def field (v : Value) (name : String) : Except Fault Value := do
  return ((← v.entries).get? name).getD .null

/-- The value that has to be at a name. -/
def entry (v : Value) (name : String) : Except Fault Value :=
  match v.bare with
  | .map es =>
    match Entries.get? es name with
    | some v => .ok v
    | none => .error (.missingKey (.text name))
  | _ => .error .illTyped

/-- What an iteration visits: items, keys, code points or bytes. -/
def elements (v : Value) : Except Fault (List Value) :=
  match v.bare with
  | .list items | .group _ items => .ok items
  | .map es => .ok (es.map fun e => .scalar e.1)
  | .text s => .ok ((Text.codePoints s.toList).map fun point => .text (Text.ofPoints [point]))
  | .scalar (.bytes b) => .ok (b.map fun byte => .int byte.toNat)
  | _ => .error .illTyped

/-- Whether one text stands inside another one. -/
def hasPart (part : List Char) : List Char → Bool
  | [] => part.isEmpty
  | c :: s => part.isPrefixOf (c :: s) || hasPart part s

/-- Whether a text is a key of a map, an item of a list or a part of a text. -/
def contains (v : Value) (name : String) : Except Fault Bool :=
  match v.bare with
  | .map es => .ok (Entries.hasKey es (.text name))
  | .list items | .group _ items => .ok (items.any (·.alike (.text name)))
  | .text s => .ok (hasPart name.toList s.toList)
  | _ => .error .illTyped

/-- The value as a key; lists and maps cannot be keys. -/
def key : Value → Except Fault Scalar
  | .scalar s => .ok s
  | _ => .error .illTyped

mutual

/-- Whether a value may be a member of a set: a scalar, or a pair of such values. -/
def isMember : Value → Bool
  | .scalar _ => true
  | .group .pair items => areMembers items
  | .group .set _ | .list _ | .map _ | .knot _ _ => false

/-- Whether all values of a list may be members of a set. -/
def areMembers : List Value → Bool
  | [] => true
  | x :: xs => isMember x && areMembers xs

end

/-- The scalars among the members of a set that is made of values. -/
def members (values : List Value) : Except Fault (List Scalar) :=
  if areMembers values then .ok (values.filterMap scalar?) else .error .illTyped

/-- The text of a value, for an operation on texts. Bytes have such operations too, but not with
texts. -/
def textOrFail : Value → Except Fault String
  | .text s => .ok s
  | .scalar (.bytes _) => .error .illTyped
  | _ => .error .noAccessor

/-! ### Long integers -/

/-- Whether a scalar can be written: an integer must not have too many digits. -/
def scalarFits : Scalar → Bool
  | .int n => decide (n.natAbs < Double.tenTo Text.maxDigits)
  | _ => true

mutual

/-- Whether every scalar in a value can be written. -/
def fits : Value → Bool
  | .scalar s => scalarFits s
  | .list items | .group _ items => allFit items
  | .map entries => entriesFit entries
  | .knot _ inside => fits inside

/-- Whether every scalar in the items of a list can be written. -/
def allFit : List Value → Bool
  | [] => true
  | x :: xs => fits x && allFit xs

/-- Whether every scalar in the entries of a map can be written. -/
def entriesFit : List (Scalar × Value) → Bool
  | [] => true
  | (key, x) :: es => scalarFits key && fits x && entriesFit es

end

/-- The value in running text. -/
def shown (v : Value) : Except Fault String :=
  if v.fits then .ok v.display else .error (.tooManyDigits none)

end Value

end ApiTools
