import ApiTools.Proofs.Document.Pointer
import ApiTools.Proofs.JsonSchema.Place
import Mathlib.Algebra.Group.Nat.Defs

/-!
# Addresses of nodes

Every node of a document, the root apart, has a reference that leads to it: the keys and indices of
its place between slashes, with the tildes and slashes of a key escaped.  The escapes of a key come
undone in the opposite order.  First each `~1` becomes a slash, and there is none but for a slash,
since every tilde of the key has a zero after it.  Then each `~0` becomes a tilde.

An index has to be readable, that is, it must not have too many digits.  No list that fits into a
memory has that many items.

## Main definitions

* `Pointer.escape` — a key as a segment.
* `Pointer.address` — the reference to a place.
* `Step.IsReadable` — the digits of an index are not too many.

## Main results

* `Pointer.unescape_escape` — **the escapes of a key come undone.**
* `Pointer.index_toDigits_eq_ok_iff` — an index is read from its digits if they are not too many.
* `Pointer.resolve_address` — **the reference to a place leads to the node there.**
-/

namespace ApiTools

/-! ### Segments -/

/-- The digits of an index are not too many to be read. -/
def Step.IsReadable : Step → Prop
  | .key _ => True
  | .index i => i < 10 ^ Text.maxDigits

namespace Pointer

/-- Replaces a character by a tilde with a mark after it. -/
def escapeMark (mark target : Char) (s : List Char) : List Char :=
  s.flatMap fun c => if c = target then ['~', mark] else [c]

/-- A key as a segment: first its tildes are escaped, then its slashes. -/
def escape (key : List Char) : List Char := escapeMark '1' '/' (escapeMark '0' '~' key)

/-- A step as a segment. -/
def segment : Step → List Char
  | .key name => escape name.toList
  | .index i => (toString i).toList

/-- The reference to a place. -/
def address (place : Place) : String :=
  String.ofList ('#' :: '/' :: ['/'].intercalate (place.map segment))

variable {mark result target : Char}

theorem unescapeMark_cons {c : Char} (hc : c ≠ '~') (s : List Char) :
    unescapeMark mark result (c :: s) = c :: unescapeMark mark result s := by
  rw [unescapeMark]
  rintro d t rfl
  exact absurd rfl hc

theorem unescapeMark_of_not_mem {s : List Char} (h : '~' ∉ s) : unescapeMark mark result s = s := by
  induction s with
  | nil => rfl
  | cons c s ih =>
    rw [List.mem_cons, not_or] at h
    rw [unescapeMark_cons (Ne.symm h.1), ih h.2]

theorem escapeMark_cons_self (s : List Char) :
    escapeMark mark target (target :: s) = '~' :: mark :: escapeMark mark target s := by
  rw [escapeMark, List.flatMap_cons, if_pos rfl]
  rfl

theorem escapeMark_cons {c : Char} (hc : c ≠ target) (s : List Char) :
    escapeMark mark target (c :: s) = c :: escapeMark mark target s := by
  rw [escapeMark, List.flatMap_cons, if_neg hc]
  rfl

theorem not_mem_escapeMark (htilde : target ≠ '~') (hmark : target ≠ mark) (s : List Char) :
    target ∉ escapeMark mark target s := by
  intro h
  obtain ⟨c, -, hc⟩ := List.mem_flatMap.mp h
  split at hc
  · simp [htilde, hmark] at hc
  · next hne => exact hne (List.mem_singleton.mp hc).symm

/-- Escaped tildes come undone. -/
theorem unescapeMark_escapeMark (key : List Char) :
    unescapeMark '0' '~' (escapeMark '0' '~' key) = key := by
  induction key with
  | nil => rfl
  | cons c key ih =>
    by_cases htilde : c = '~'
    · rw [htilde, escapeMark_cons_self, unescapeMark, if_pos rfl, ih]
    · rw [escapeMark_cons htilde, unescapeMark_cons htilde, ih]

/-- Escaped slashes come undone, and nothing else does: a tilde has a zero after it. -/
theorem unescapeMark_escape (key : List Char) :
    unescapeMark '1' '/' (escape key) = escapeMark '0' '~' key := by
  unfold escape
  induction key with
  | nil => rfl
  | cons c key ih =>
    by_cases htilde : c = '~'
    · rw [htilde, escapeMark_cons_self, escapeMark_cons (by decide), escapeMark_cons (by decide),
        unescapeMark, if_neg (by decide), unescapeMark_cons (by decide), ih]
    · rw [escapeMark_cons htilde]
      by_cases hslash : c = '/'
      · rw [hslash, escapeMark_cons_self, unescapeMark, if_pos rfl, ih]
      · rw [escapeMark_cons hslash, unescapeMark_cons htilde, ih]

/-- **The escapes of a key come undone.** -/
theorem unescape_escape (key : List Char) : unescape (escape key) = key := by
  rw [unescape, unescapeMark_escape, unescapeMark_escapeMark]

/-! ### Indices -/

theorem segment_index (i : Nat) : segment (.index i) = Nat.toDigits 10 i := Nat.toList_repr

/-- A decimal digit of ASCII has its value. -/
theorem decimalValue?_of_isDigit {c : Char} (h : c.isDigit = true) :
    Text.decimalValue? c = some (c.toNat - 48) := by
  have hrange : 48 ≤ c.toNat ∧ c.toNat ≤ 57 := Char.isDigit_iff_toNat.mp h
  have hzero : (0x30 ≤ c.toNat && c.toNat < 0x30 + 10) = true := by
    simp only [Bool.and_eq_true, decide_eq_true_eq]
    omega
  have hzeros : Text.decimalZeros = 0x30 :: Text.decimalZeros.tail := rfl
  rw [Text.decimalValue?, hzeros, List.find?_cons, hzero]
  rfl

theorem isDigit_of_mem_toDigits {i : Nat} {c : Char} (h : c ∈ Nat.toDigits 10 i) :
    c.isDigit = true := Nat.isDigit_of_mem_toDigits (by decide) (by decide) h

/-- The digits of an index denote it. -/
theorem naturalOf?_toDigits (i : Nat) : Text.naturalOf? (Nat.toDigits 10 i) = some i := by
  have hfrom : ∀ (digits : List Char) (start : Nat), (∀ c ∈ digits, c.isDigit = true) →
      digits.foldlM (fun n c => (Text.decimalValue? c).map (n * 10 + ·)) start =
        some (Nat.ofDigitChars 10 digits start) := by
    intro digits
    induction digits with
    | nil => exact fun start _ => rfl
    | cons c digits ih =>
      intro start hdigits
      obtain ⟨hc, hdigits⟩ := List.forall_mem_cons.mp hdigits
      rw [List.foldlM_cons, decimalValue?_of_isDigit hc, Nat.ofDigitChars_cons, Nat.mul_comm 10]
      exact ih _ hdigits
  rw [Text.naturalOf?, hfrom _ _ fun c => isDigit_of_mem_toDigits, Nat.ofDigitChars_ten_toDigits]

/-- **An index is read from its digits exactly if they are not too many.** -/
theorem index_toDigits_eq_ok_iff {i j : Nat} :
    index (Nat.toDigits 10 i) = .ok j ↔ j = i ∧ i < 10 ^ Text.maxDigits := by
  have hdecimal : ∀ c ∈ Nat.toDigits 10 i, Text.decimalValue? c ≠ none := fun c hc => by
    rw [decimalValue?_of_isDigit (isDigit_of_mem_toDigits hc)]
    exact Option.some_ne_none _
  have hlength : (Nat.toDigits 10 i).length ≤ Text.maxDigits ↔ i < 10 ^ Text.maxDigits := by
    have hpos : 0 < Text.maxDigits := by decide
    generalize Text.maxDigits = most at hpos ⊢
    exact Nat.length_toDigits_le_iff (by decide) hpos
  rw [← hlength]
  constructor
  · intro h
    refine ⟨?_, (exists_index_iff.mp ⟨j, h⟩).2⟩
    unfold index at h
    dsimp only at h
    rw [naturalOf?_toDigits] at h
    split at h
    · cases h
    · exact (Except.ok.inj h).symm
  · rintro ⟨rfl, hshort⟩
    obtain ⟨k, hk⟩ := exists_index_iff.mpr ⟨hdecimal, hshort⟩
    rw [hk]
    unfold index at hk
    dsimp only at hk
    rw [naturalOf?_toDigits] at hk
    split at hk
    · cases hk
    · exact hk.symm

/-! ### Places -/

/-- No segment holds a slash. -/
theorem slash_not_mem_segment (s : Step) : '/' ∉ segment s := by
  cases s with
  | key name => exact not_mem_escapeMark (by decide) (by decide) _
  | index i =>
    intro h
    rw [segment_index] at h
    cases isDigit_of_mem_toDigits h

/-- The segments of the reference to a place are those of its steps. -/
theorem segments?_address {place : Place} (h : place ≠ []) :
    segments? (address place).toList = some (place.map fun s => unescape (segment s)) := by
  have hsplit : Text.split '/' (['/'].intercalate (place.map segment)) = place.map segment := by
    refine Text.split_intercalate (by simpa using h) fun part hpart => ?_
    obtain ⟨s, -, rfl⟩ := List.mem_map.mp hpart
    exact slash_not_mem_segment s
  rw [address, String.toList_ofList, segments?, hsplit, List.map_map]
  rfl

/-- A segment leads where its step does. -/
theorem step_segment_eq_ok_iff {ref : String} {node child found : Value} {s : Step}
    (h : s.follow? node = some child) :
    step ref node (unescape (segment s)) = .ok found ↔ found = child ∧ s.IsReadable := by
  cases s with
  | key name =>
    cases node with
    | map es =>
      have hget : Entries.get? es name = some child := h
      rw [segment, unescape_escape, step]
      dsimp only [Value.bare]
      rw [String.ofList_toList, hget]
      simp [Step.IsReadable, eq_comm]
    | scalar | list | group | knot => cases h
  | index i =>
    cases node with
    | list items =>
      have hget : items[i]? = some child := h
      -- Digits have no mark in them, so that nothing in them is unescaped.
      have htilde : '~' ∉ Nat.toDigits 10 i := fun hmem => by cases isDigit_of_mem_toDigits hmem
      have hsegment : unescape (segment (.index i)) = Nat.toDigits 10 i := by
        rw [segment_index, unescape, unescapeMark_of_not_mem htilde, unescapeMark_of_not_mem htilde]
      have hdigits : ((Nat.toDigits 10 i).isEmpty ||
          !(Nat.toDigits 10 i).all Text.isDigit) = false := by
        rw [List.isEmpty_eq_false_iff.mpr Nat.toDigits_ne_nil, Bool.false_or, Bool.not_eq_false',
          List.all_eq_true]
        intro c hc
        rw [Text.isDigit, decimalValue?_of_isDigit (isDigit_of_mem_toDigits hc)]
        rfl
      rw [hsegment, step]
      dsimp only [Value.bare]
      rw [hdigits, if_neg Bool.false_ne_true, Except.bind_eq_ok_iff]
      constructor
      · rintro ⟨j, hj, hfound⟩
        obtain ⟨rfl, hshort⟩ := index_toDigits_eq_ok_iff.mp hj
        rw [hget] at hfound
        exact ⟨(Except.ok.inj hfound).symm, hshort⟩
      · rintro ⟨rfl, hshort⟩
        refine ⟨i, index_toDigits_eq_ok_iff.mpr ⟨rfl, hshort⟩, ?_⟩
        rw [hget]
        rfl
    | scalar | map | group | knot => cases h

/-- The segments of a place lead where the place does. -/
theorem foldlM_segments_eq_ok_iff {ref : String} {node target found : Value} {place : Place}
    (h : node.partAt? place = some target) :
    (place.map fun s => unescape (segment s)).foldlM (step ref) node = .ok found ↔
      found = target ∧ ∀ s ∈ place, s.IsReadable := by
  induction place generalizing node with
  | nil =>
    obtain rfl := Option.some.inj h
    simp [eq_comm, pure, Except.pure]
  | cons s place ih =>
    obtain ⟨child, hchild, hrest⟩ := Option.bind_eq_some_iff.mp h
    rw [List.map_cons, List.foldlM_cons, Except.bind_eq_ok_iff, List.forall_mem_cons]
    constructor
    · rintro ⟨next, hnext, hfound⟩
      obtain ⟨rfl, hreadable⟩ := (step_segment_eq_ok_iff hchild).mp hnext
      obtain ⟨hfound, hall⟩ := (ih hrest).mp hfound
      exact ⟨hfound, hreadable, hall⟩
    · rintro ⟨hfound, hreadable, hall⟩
      exact ⟨child, (step_segment_eq_ok_iff hchild).mpr ⟨rfl, hreadable⟩,
        (ih hrest).mpr ⟨hfound, hall⟩⟩

/-- The indices of a list that has less than `2 ^ 63` items can be read. -/
theorem isReadable_of_lt {s : Step} (h : ∀ i, s = .index i → i < 2 ^ 63) : s.IsReadable := by
  cases s with
  | key => trivial
  | index i =>
    calc i < 2 ^ 63 := h i rfl
      _ ≤ 10 ^ 63 := Nat.pow_le_pow_left (by decide) 63
      _ ≤ 10 ^ Text.maxDigits := Nat.pow_le_pow_right (by decide) (by decide)

/-- **The reference to a place leads to the node there**, whatever characters the keys on the way
have.  The indices are below `2 ^ 63`, as those of any list in a memory are; beyond that, the
reference leads there exactly if they can be read, and it never leads to another node. -/
theorem resolve_address {document target : Value} {place : Place} (hplace : place ≠ [])
    (h : document.partAt? place = some target) :
    ((∀ i, Step.index i ∈ place → i < 2 ^ 63) → resolve document (address place) = .ok target) ∧
      ∀ found, resolve document (address place) = .ok found ↔
        found = target ∧ ∀ s ∈ place, s.IsReadable := by
  have hiff : ∀ found, resolve document (address place) = .ok found ↔
      found = target ∧ ∀ s ∈ place, s.IsReadable := fun found => by
    rw [resolve, segments?_address hplace]
    exact foldlM_segments_eq_ok_iff h
  refine ⟨fun hshort => (hiff target).mpr ⟨rfl, fun s hs => ?_⟩, hiff⟩
  exact isReadable_of_lt fun i hi => hshort i (hi ▸ hs)

/-- A document with keys that look like escapes, like an index and like nothing. -/
def awkwardDocument : Value :=
  .record [("", .record [("~1",
    .list [.null, .record [("a/b~01", .record [("12", .bool true)])]])])]

/-- The place of the node that is furthest down. -/
def awkwardPlace : Place := [.key "", .key "~1", .index 1, .key "a/b~01", .key "12"]

/-- Its reference leads there. -/
theorem resolve_address_awkwardPlace :
    awkwardPlace ≠ [] ∧ awkwardDocument.partAt? awkwardPlace = some (.bool true) ∧
      (∀ i, Step.index i ∈ awkwardPlace → i < 2 ^ 63) ∧
      address awkwardPlace = "#//~01/1/a~1b~001/12" ∧
      resolve awkwardDocument "#//~01/1/a~1b~001/12" = .ok (.bool true) := by
  have hplace : awkwardPlace ≠ [] := List.cons_ne_nil _ _
  have hpart : awkwardDocument.partAt? awkwardPlace = some (.bool true) := rfl
  have hshort : ∀ i, Step.index i ∈ awkwardPlace → i < 2 ^ 63 := by
    intro i hi
    have hone : i = 1 := by simpa [awkwardPlace] using hi
    omega
  have haddress : address awkwardPlace = "#//~01/1/a~1b~001/12" := by decide +kernel
  refine ⟨hplace, hpart, hshort, haddress, ?_⟩
  rw [← haddress]
  exact (resolve_address hplace hpart).1 hshort

end Pointer

end ApiTools
