import ApiTools.Double.Basic
import ApiTools.Stamp

/-!
# Document values

A document is a tree of lists and maps over scalars. A map keeps its entries in the order of
first arrival; its keys are scalars, and texts in every JSON document. A document in YAML may also
hold bytes, pairs and sets, and a list or a map in it may contain itself: such a value is a knot,
laid open to a depth that no reading goes below.

Two equalities are told apart. Scalars are *alike* when a map takes them for one key: numbers by
value, where a boolean counts as zero or one. They are *equal* as data when they are alike and
both or neither is a boolean.

## Main definitions

* `Scalar`, `Value` — the tree.
* `Value.bare` — the value of a knot.
* `Scalar.alike`, `Value.alike` and `Scalar.equals`, `Value.equals` — the two equalities.
* `Value.sequenced` — what equality of data makes of pairs and bytes.
* `Entries.find?`, `Entries.insert`, `Entries.merge` — look-up and update of maps.
* `Value.isTruthy` — whether a value counts as given.
-/

namespace ApiTools

/-- A value without parts; also the key of a map. -/
inductive Scalar where
  /-- The absent value. -/
  | null
  /-- A truth value. -/
  | bool (b : Bool)
  /-- An integer. -/
  | int (n : Int)
  /-- A number with a point or an exponent. -/
  | double (d : Double)
  /-- A text. -/
  | text (s : String)
  /-- A day or a moment. -/
  | stamp (t : Stamp)
  /-- A sequence of bytes. -/
  | bytes (b : List UInt8)
  deriving DecidableEq, Inhabited

/-- How values are put together that make neither a list nor a map. -/
inductive Grouping where
  /-- A pair. -/
  | pair
  /-- A set, in order of arrival. -/
  | set
  deriving DecidableEq, Inhabited

/-- A document value. -/
inductive Value where
  /-- A value without parts. -/
  | scalar (s : Scalar)
  /-- A sequence. -/
  | list (items : List Value)
  /-- A map, its entries in order of arrival. -/
  | map (entries : List (Scalar × Value))
  /-- A pair or a set. -/
  | group (form : Grouping) (items : List Value)
  /-- A value that contains itself or one that does so, with its number in the document and what it
  holds. -/
  | knot (label : Nat) (inside : Value)
  deriving Inhabited

/-- The entries of a map. -/
abbrev Entries := List (Scalar × Value)

namespace Value

/-- The absent value. -/
@[match_pattern] abbrev null : Value := .scalar .null

/-- A truth value. -/
@[match_pattern] abbrev bool (b : Bool) : Value := .scalar (.bool b)

/-- An integer. -/
@[match_pattern] abbrev int (n : Int) : Value := .scalar (.int n)

/-- A number with a point or an exponent. -/
@[match_pattern] abbrev double (d : Double) : Value := .scalar (.double d)

/-- A text. -/
@[match_pattern] abbrev text (s : String) : Value := .scalar (.text s)

/-- A day or a moment. -/
@[match_pattern] abbrev stamp (t : Stamp) : Value := .scalar (.stamp t)

/-- The map with the given texts as keys. -/
def record (fields : List (String × Value)) : Value :=
  .map (fields.map fun f => (.text f.1, f.2))

end Value

/-! ### Structural equality -/

mutual

/-- Whether two values are the same tree. -/
def Value.decEq : (a b : Value) → Decidable (a = b)
  | .scalar s, .scalar t => decidable_of_iff (s = t) (by simp)
  | .list xs, .list ys =>
    match Value.decEqItems xs ys with
    | .isTrue h => .isTrue (by rw [h])
    | .isFalse h => .isFalse (by simpa using h)
  | .map es, .map fs =>
    match Value.decEqEntries es fs with
    | .isTrue h => .isTrue (by rw [h])
    | .isFalse h => .isFalse (by simpa using h)
  | .group f xs, .group g ys =>
    match instDecidableEqGrouping f g, Value.decEqItems xs ys with
    | .isTrue h, .isTrue k => .isTrue (by rw [h, k])
    | .isFalse h, _ => .isFalse (by simp [h])
    | _, .isFalse k => .isFalse (by simp [k])
  | .knot m x, .knot n y =>
    match Nat.decEq m n, Value.decEq x y with
    | .isTrue h, .isTrue k => .isTrue (by rw [h, k])
    | .isFalse h, _ => .isFalse (by simp [h])
    | _, .isFalse k => .isFalse (by simp [k])
  | .scalar _, .list _ | .scalar _, .map _ | .scalar _, .group _ _ | .scalar _, .knot _ _ =>
    .isFalse (by simp)
  | .list _, .scalar _ | .list _, .map _ | .list _, .group _ _ | .list _, .knot _ _ =>
    .isFalse (by simp)
  | .map _, .scalar _ | .map _, .list _ | .map _, .group _ _ | .map _, .knot _ _ =>
    .isFalse (by simp)
  | .group _ _, .scalar _ | .group _ _, .list _ | .group _ _, .map _ | .group _ _, .knot _ _ =>
    .isFalse (by simp)
  | .knot _ _, .scalar _ | .knot _ _, .list _ | .knot _ _, .map _ | .knot _ _, .group _ _ =>
    .isFalse (by simp)

/-- Whether two sequences are the same, item by item. -/
def Value.decEqItems : (xs ys : List Value) → Decidable (xs = ys)
  | [], [] => .isTrue rfl
  | [], _ :: _ => .isFalse (by simp)
  | _ :: _, [] => .isFalse (by simp)
  | x :: xs, y :: ys =>
    match Value.decEq x y, Value.decEqItems xs ys with
    | .isTrue h, .isTrue k => .isTrue (by rw [h, k])
    | .isFalse h, _ => .isFalse (by simp [h])
    | _, .isFalse k => .isFalse (by simp [k])

/-- Whether two lists of entries are the same, entry by entry. -/
def Value.decEqEntries : (es fs : List (Scalar × Value)) → Decidable (es = fs)
  | [], [] => .isTrue rfl
  | [], _ :: _ => .isFalse (by simp)
  | _ :: _, [] => .isFalse (by simp)
  | (k, x) :: es, (l, y) :: fs =>
    match instDecidableEqScalar k l, Value.decEq x y, Value.decEqEntries es fs with
    | .isTrue g, .isTrue h, .isTrue i => .isTrue (by rw [g, h, i])
    | .isFalse g, _, _ => .isFalse (by simp [g])
    | _, .isFalse h, _ => .isFalse (by simp [h])
    | _, _, .isFalse i => .isFalse (by simp [i])

end

instance : DecidableEq Value := Value.decEq

/-! ### Equality of data -/

namespace Scalar

/-- Whether two scalars are equal as data: numbers by value, a boolean only to a boolean. There is
one non-number in documents, equal to itself. -/
def equals : Scalar → Scalar → Bool
  | .null, .null => true
  | .bool a, .bool b => a == b
  | .int m, .int n => m == n
  | .int m, .double d => d.equalsInt m
  | .double d, .int n => d.equalsInt n
  | .double d, .double e => d == e || d.equals e
  | .text s, .text t => s == t
  | .stamp s, .stamp t => s.same t
  | .bytes a, .bytes b => a == b
  | _, _ => false

/-- A truth value as the number it counts for. -/
def counted : Scalar → Scalar
  | .bool b => .int (if b then 1 else 0)
  | s => s

/-- Whether a map takes two scalars for one key. -/
def alike (a b : Scalar) : Bool := a.counted.equals b.counted

@[simp] theorem alike_text (s t : String) : alike (.text s) (.text t) = (s == t) := rfl

/-- Keys and what stands at them, with something put at a key: a present key keeps its place and its
spelling, a new one goes to the end. -/
def putIn {α : Type} (key : Scalar) (value : α) (pairs : List (Scalar × α)) : List (Scalar × α) :=
  if pairs.any fun e => e.1.alike key then
    pairs.map fun e => if e.1.alike key then (e.1, value) else e
  else
    pairs ++ [(key, value)]

end Scalar

namespace Entries

/-- The value at a key. -/
def find? (entries : Entries) (key : Scalar) : Option Value :=
  (List.find? (fun e => e.1.alike key) entries).map (·.2)

/-- The value at a text key. -/
def get? (entries : Entries) (name : String) : Option Value := find? entries (.text name)

/-- Whether a key is present. -/
def hasKey (entries : Entries) (key : Scalar) : Bool := entries.any fun e => e.1.alike key

/-- The entries with a value put at a key. -/
def insert (entries : Entries) (key : Scalar) (value : Value) : Entries := key.putIn value entries

/-- The entries with those of another map put in, one after the other. -/
def merge (entries others : Entries) : Entries :=
  others.foldl (fun all e => insert all e.1 e.2) entries

end Entries

/-! ### Equality through lists and maps -/

mutual

/-- Whether two values are equal up to a relation on scalars. Maps are compared by key, in any
order. -/
def Value.equalBy (leaf : Scalar → Scalar → Bool) : Value → Value → Bool
  | .scalar s, .scalar t => leaf s t
  | .list xs, .list ys => Value.equalItems leaf xs ys
  | .group .pair xs, .group .pair ys => Value.equalItems leaf xs ys
  | .map es, .map fs => es.length == fs.length && Value.equalEntries leaf es fs
  | _, _ => false

/-- Equality of lists, item by item. -/
def Value.equalItems (leaf : Scalar → Scalar → Bool) : List Value → List Value → Bool
  | [], [] => true
  | x :: xs, y :: ys => Value.equalBy leaf x y && Value.equalItems leaf xs ys
  | _, _ => false

/-- Whether every entry has an equal one in the other map. -/
def Value.equalEntries (leaf : Scalar → Scalar → Bool) : List (Scalar × Value) → Entries → Bool
  | [], _ => true
  | (key, x) :: es, fs =>
    (match Entries.find? fs key with
      | some y => Value.equalBy leaf x y
      | none => false) && Value.equalEntries leaf es fs

end

mutual

/-- The value with a list in place of every sequence in it: of a pair, and of bytes, which are the
sequence of their numbers. -/
def Value.sequenced : Value → Value
  | .scalar (.bytes b) => .list (b.map fun byte => .int byte.toNat)
  | .list items | .group .pair items => .list (Value.sequencedItems items)
  | .map entries => .map (Value.sequencedEntries entries)
  | v => v

/-- The items of a list with lists in place of sequences. -/
def Value.sequencedItems : List Value → List Value
  | [] => []
  | x :: xs => Value.sequenced x :: Value.sequencedItems xs

/-- The entries of a map with lists in place of sequences in their values. -/
def Value.sequencedEntries : List (Scalar × Value) → Entries
  | [] => []
  | (key, x) :: es => (key, Value.sequenced x) :: Value.sequencedEntries es

end

namespace Value

/-- Equality of data, where a boolean equals only a boolean, and sequences of all kinds are compared
item by item. -/
def equals (a b : Value) : Bool := equalBy Scalar.equals a.sequenced b.sequenced

/-- Equality where a boolean counts as a number. -/
def alike : Value → Value → Bool := equalBy Scalar.alike

/-! ### Kinds of value -/

/-- Whether a value counts as given: not absent, false, zero or empty. -/
def isTruthy : Value → Bool
  | .null => false
  | .bool b => b
  | .int n => n != 0
  | .double d => !d.isZero
  | .text s => !s.isEmpty
  | .stamp _ => true
  | .scalar (.bytes b) => !b.isEmpty
  | .list items | .group _ items => !items.isEmpty
  | .map entries => !entries.isEmpty
  | .knot _ inside => inside.isTruthy

/-- The value, a knot as what it holds. -/
def bare : Value → Value
  | .knot _ inside => inside
  | v => v

/-- The value, or another one in place of a value that does not count as given. -/
def orElse (v fallback : Value) : Value := if v.isTruthy then v else fallback

/-- The text, if the value is one. -/
def text? : Value → Option String
  | .text s => some s
  | _ => none

/-- The scalar, if the value is one; only a scalar can be a key. -/
def scalar? : Value → Option Scalar
  | .scalar s => some s
  | _ => none

end Value

end ApiTools
