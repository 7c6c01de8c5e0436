import Mathlib.Logic.Relation
import ApiTools.Pointer
import ApiTools.Proofs.Outcome
import ApiTools.Proofs.Value.Entries

/-!
# Plain values

A value is *plain* when it is built from scalars by lists and maps and none of its maps holds a key
twice: it has no pair or set in it and does not contain itself.  Whatever a plain document holds is
plain.  Other properties are inherited in the same way, from a document by all that is read from it.

## Main definitions

* `Value.isPlain` — whether a value is plain.
* `Value.Part`, `Value.Holds` — what a value holds, directly and anywhere in it.
* `Value.Hereditary` — a property of plain values that all that is read from them inherits.

## Main results

* `Value.equals_refl_of_isPlain` — **a plain value is equal to itself.**
* `Value.hereditary_isPlain`, `Value.isPlain_of_holds` — whatever a plain value holds is plain.
* `Pointer.holds_resolveValue` — **a reference into a document leads to what the document holds.**
-/

namespace ApiTools

namespace Value

mutual

/-- Whether a value is built from scalars by lists and maps, no map holding a key twice. -/
def isPlain : Value → Bool
  | .scalar _ => true
  | .list items => allPlain items
  | .map entries => entriesPlain entries
  | .group _ _ | .knot _ _ => false

/-- Whether all items of a list are plain. -/
def allPlain : List Value → Bool
  | [] => true
  | x :: xs => isPlain x && allPlain xs

/-- Whether the entries of a map have distinct keys and plain values. -/
def entriesPlain : List (Scalar × Value) → Bool
  | [] => true
  | (key, x) :: es => !(es.any fun e => key.alike e.1) && isPlain x && entriesPlain es

end

@[simp] theorem isPlain_scalar (s : Scalar) : (Value.scalar s).isPlain = true := by
  simp [isPlain]

theorem isPlain_list {items : List Value} :
    (Value.list items).isPlain = true ↔ ∀ x ∈ items, x.isPlain = true := by
  rw [isPlain]
  induction items with
  | nil => simp [allPlain]
  | cons x xs ih => simp [allPlain, ih]

theorem isPlain_map {es : Entries} :
    (Value.map es).isPlain = true ↔
      Scalar.DistinctKeys es ∧ ∀ e ∈ es, e.2.isPlain = true := by
  rw [isPlain]
  induction es with
  | nil => simp [entriesPlain]
  | cons e es ih =>
    obtain ⟨key, x⟩ := e
    simp only [entriesPlain, Bool.and_eq_true, ih, Scalar.distinctKeys_cons, List.forall_mem_cons,
      Bool.not_eq_true', List.any_eq_false, Bool.not_eq_true]
    tauto

/-- What holds of a value when it holds of the values in it holds of all. -/
@[elab_as_elim]
theorem inductionOn {motive : Value → Prop} (scalar : ∀ s, motive (.scalar s))
    (list : ∀ items, (∀ x ∈ items, motive x) → motive (.list items))
    (map : ∀ es : Entries, (∀ e ∈ es, motive e.2) → motive (.map es))
    (group : ∀ form items, (∀ x ∈ items, motive x) → motive (.group form items))
    (knot : ∀ label inside, motive inside → motive (.knot label inside)) : ∀ v, motive v
  | .scalar s => scalar s
  | .list items => list items fun x hx =>
    have := List.sizeOf_lt_of_mem hx
    inductionOn scalar list map group knot x
  | .map es => map es fun e he =>
    have := List.sizeOf_lt_of_mem he
    have : sizeOf e.2 < sizeOf e := by
      obtain ⟨key, x⟩ := e
      simp
    inductionOn scalar list map group knot e.2
  | .group form items => group form items fun x hx =>
    have := List.sizeOf_lt_of_mem hx
    inductionOn scalar list map group knot x
  | .knot label inside => knot label inside (inductionOn scalar list map group knot inside)
  termination_by v => sizeOf v
  decreasing_by
    all_goals
      simp only [Value.list.sizeOf_spec, Value.map.sizeOf_spec, Value.group.sizeOf_spec,
        Value.knot.sizeOf_spec]
      omega

theorem isSome_text?_iff {v : Value} : v.text?.isSome = true ↔ ∃ s, v = .text s := by
  cases v with
  | scalar s => cases s <;> simp [text?]
  | list | map | group | knot => simp [text?]

/-! ### What plain values hold -/

theorem bare_of_isPlain {v : Value} (h : v.isPlain = true) : v.bare = v := by
  cases v with
  | scalar | list | map | group => rfl
  | knot => simp [isPlain] at h

/-- What a list, a map or a knot holds. -/
inductive Part : Value → Value → Prop where
  /-- The value of an entry. -/
  | entry {es : Entries} {e : Scalar × Value} (he : e ∈ es) : Part (.map es) e.2
  /-- An item. -/
  | item {items : List Value} {y : Value} (hy : y ∈ items) : Part (.list items) y
  /-- The inside of a knot. -/
  | inside {label : Nat} {y : Value} : Part (.knot label y) y

/-- A value is another one, or is somewhere in it. -/
def Holds (x y : Value) : Prop := Relation.ReflTransGen Part x y

theorem Holds.refl (x : Value) : x.Holds x := Relation.ReflTransGen.refl

theorem Holds.part {x y z : Value} (h : x.Holds y) (hz : y.Part z) : x.Holds z := h.tail hz

theorem Holds.trans {x y z : Value} (h : x.Holds y) (h' : y.Holds z) : x.Holds z :=
  Relation.ReflTransGen.trans h h'

theorem holds_bare (v : Value) : v.Holds v.bare := by
  cases v with
  | scalar | list | map | group => exact .refl _
  | knot => exact (Holds.refl _).part .inside

theorem part_find? {es : Entries} {key : Scalar} {v : Value} (hv : es.find? key = some v) :
    (Value.map es).Part v := by
  obtain ⟨e, he, -, rfl⟩ := Entries.exists_mem_of_find? hv
  exact .entry he

theorem isPlain_part {x y : Value} (h : x.isPlain = true) (hy : x.Part y) : y.isPlain = true := by
  cases hy with
  | entry he => exact (isPlain_map.mp h).2 _ he
  | item hy => exact isPlain_list.mp h _ hy
  | inside => simp [isPlain] at h

/-- What an iteration over a plain value visits is plain. -/
theorem isPlain_elements {v : Value} (h : v.isPlain = true) {items : List Value}
    (hitems : v.elements = .ok items) : ∀ x ∈ items, x.isPlain = true := by
  unfold elements at hitems
  rw [bare_of_isPlain h] at hitems
  split at hitems <;> cases hitems
  · exact isPlain_list.mp h
  · simp [isPlain] at h
  all_goals
    intro x hx
    obtain ⟨a, -, rfl⟩ := List.mem_map.mp hx
    rfl

/-- A property of plain values that what they hold has, too, and what an iteration over them visits;
and that values with nothing in them have. -/
structure Hereditary (P : Value → Prop) : Prop where
  /-- Only plain values have it. -/
  isPlain : ∀ {v}, P v → v.isPlain = true
  /-- What a value with it holds has it. -/
  part : ∀ {x y}, P x → x.Part y → P y
  /-- What an iteration over a value with it visits has it. -/
  elements : ∀ {v items}, P v → v.elements = .ok items → ∀ y ∈ items, P y
  /-- Null has it. -/
  null : P .null
  /-- The empty list has it. -/
  noItems : P (.list [])
  /-- The empty map has it. -/
  noEntries : P (.map [])

/-- **Being plain is hereditary.** -/
theorem hereditary_isPlain : Hereditary fun v => v.isPlain = true :=
  ⟨id, isPlain_part, fun h hitems => isPlain_elements h hitems, rfl, rfl, rfl⟩

namespace Hereditary

variable {P : Value → Prop} (hP : Hereditary P)

include hP

/-- Whatever a value with a hereditary property holds has it. -/
theorem of_holds {x y : Value} (h : P x) (hy : x.Holds y) : P y := by
  induction hy with
  | refl => exact h
  | tail _ hz ih => exact hP.part ih hz

/-- What a map has at a key, or null in its place, inherits its properties. -/
theorem getD {es : Entries} (h : P (.map es)) (name : String) :
    P ((es.get? name).getD .null) := by
  cases hv : es.get? name with
  | none => exact hP.null
  | some v => exact hP.part h (part_find? hv)

/-- A value that is read as a map inherits as a map what it has. -/
theorem entries {v : Value} (h : P v) {es : Entries} (hes : v.entries = .ok es) : P (.map es) := by
  unfold Value.entries at hes
  rw [bare_of_isPlain (hP.isPlain h)] at hes
  split at hes <;> cases hes
  exact h

/-- What is looked up in a value inherits its properties. -/
theorem field {v w : Value} (h : P v) {name : String} (hw : v.field name = .ok w) : P w := by
  obtain ⟨es, hes, hw⟩ := Except.bind_eq_ok_iff.mp hw
  obtain rfl := Except.ok.inj hw
  exact hP.getD (hP.entries h hes) name

/-- The keys of a map inherit its properties. -/
theorem key {es : Entries} (h : P (.map es)) {e : Scalar × Value} (he : e ∈ es) :
    P (.scalar e.1) :=
  hP.elements h rfl _ (List.mem_map_of_mem he)

end Hereditary

/-- A value with nothing in it holds itself only. -/
theorem eq_of_holds {x y : Value} (hnone : ∀ z, ¬x.Part z) (h : x.Holds y) : y = x := by
  rcases Relation.ReflTransGen.cases_head h with rfl | ⟨z, hz, -⟩
  · rfl
  · exact absurd hz (hnone z)

theorem eq_of_holds_scalar {s : Scalar} {y : Value} (h : (Value.scalar s).Holds y) :
    y = .scalar s :=
  eq_of_holds (fun z hz => by cases hz) h

theorem eq_of_holds_nil {y : Value} (h : (Value.map []).Holds y) : y = .map [] :=
  eq_of_holds (fun z hz => by cases hz with | entry he => cases he) h

/-- An iteration over a plain value visits what the value holds, or scalars. -/
theorem part_or_scalar_of_mem_elements {v : Value} (h : v.isPlain = true) {items : List Value}
    (hitems : v.elements = .ok items) {y : Value} (hy : y ∈ items) :
    v.Part y ∨ ∃ s, y = .scalar s := by
  unfold elements at hitems
  rw [bare_of_isPlain h] at hitems
  split at hitems <;> cases hitems
  · exact Or.inl (.item hy)
  · simp [isPlain] at h
  all_goals
    obtain ⟨a, -, rfl⟩ := List.mem_map.mp hy
    exact Or.inr ⟨_, rfl⟩

/-- **What is said of every map that a value holds is hereditary**, if it can be said of the empty
map. -/
theorem Hereditary.and_maps {P : Value → Prop} (hP : Hereditary P) {Q : Entries → Prop}
    (hnil : Q []) : Hereditary fun v => P v ∧ ∀ es, v.Holds (.map es) → Q es where
  isPlain h := hP.isPlain h.1
  part h hy := ⟨hP.part h.1 hy, fun es hes => h.2 es (((Holds.refl _).part hy).trans hes)⟩
  elements {v items} h hitems y hy := by
    refine ⟨hP.elements h.1 hitems y hy, fun es hes => ?_⟩
    rcases part_or_scalar_of_mem_elements (hP.isPlain h.1) hitems hy with hpart | ⟨s, rfl⟩
    · exact h.2 es (((Holds.refl _).part hpart).trans hes)
    · cases eq_of_holds_scalar hes
  null := ⟨hP.null, fun es hes => by cases eq_of_holds_scalar hes⟩
  noItems := ⟨hP.noItems, fun es hes => by
    cases eq_of_holds (fun z hz => by cases hz with | item hz => cases hz) hes⟩
  noEntries := ⟨hP.noEntries, fun es hes => by
    cases eq_of_holds_nil hes
    exact hnil⟩

theorem orElse_cases {P : Value → Prop} {v w : Value} (hv : P v) (hw : P w) : P (v.orElse w) := by
  unfold orElse
  split
  · exact hv
  · exact hw

/-- A map is taken as it is in front of no entries. -/
theorem bare_orElse_map {v : Value} {es : Entries} (h : v.bare = .map es) :
    (v.orElse (.map [])).bare = .map es := by
  unfold orElse
  split
  · exact h
  · next hempty =>
    have hes : es = [] := by
      cases v with
      | map | knot =>
        cases h
        simpa [isTruthy] using hempty
      | scalar | list | group => cases h
    rw [hes]
    rfl

/-- A list is taken as it is in front of no items. -/
theorem bare_orElse_list {v : Value} {items : List Value} (h : v.bare = .list items) :
    (v.orElse (.list [])).bare = .list items := by
  unfold orElse
  split
  · exact h
  · next hempty =>
    have hitems : items = [] := by
      cases v with
      | list | knot =>
        cases h
        simpa [isTruthy] using hempty
      | scalar | map | group => cases h
    rw [hitems]
    rfl

/-- Whatever a plain value holds is plain. -/
theorem isPlain_of_holds {x y : Value} (h : x.isPlain = true) (hy : x.Holds y) :
    y.isPlain = true :=
  hereditary_isPlain.of_holds h hy

/-- A value at a key of a plain map is plain. -/
theorem isPlain_find? {es : Entries} (h : (Value.map es).isPlain = true) {key : Scalar} {v : Value}
    (hv : es.find? key = some v) : v.isPlain = true :=
  isPlain_part h (part_find? hv)

/-- What a plain map has at a key, or null in its place, is plain. -/
theorem isPlain_getD {es : Entries} (h : (Value.map es).isPlain = true) (name : String) :
    ((es.get? name).getD .null).isPlain = true :=
  hereditary_isPlain.getD h name

theorem isPlain_merge {es fs : Entries} (h : (Value.map es).isPlain = true)
    (hfs : ∀ f ∈ fs, f.2.isPlain = true) : (Value.map (es.merge fs)).isPlain = true := by
  rw [isPlain_map] at h ⊢
  refine ⟨Entries.distinctKeys_merge h.1 fs, fun e he => ?_⟩
  obtain ⟨-, f, hf, hvalue⟩ := Entries.mem_merge he
  rw [← hvalue]
  rcases List.mem_append.mp hf with hf | hf
  · exact h.2 f hf
  · exact hfs f hf

/-! ### Equality -/

theorem sequencedItems_eq_map (items : List Value) :
    sequencedItems items = items.map sequenced := by
  induction items with
  | nil => rfl
  | cons x xs ih => rw [sequencedItems, ih, List.map_cons]

theorem sequencedEntries_eq_map (es : Entries) :
    sequencedEntries es = es.map fun e => (e.1, e.2.sequenced) := by
  induction es with
  | nil => rfl
  | cons e es ih => rw [sequencedEntries, ih, List.map_cons]

@[simp] theorem sequenced_list (items : List Value) :
    (Value.list items).sequenced = .list (items.map sequenced) := by
  rw [sequenced, sequencedItems_eq_map]

@[simp] theorem sequenced_map (es : Entries) :
    (Value.map es).sequenced = .map (es.map fun e => (e.1, e.2.sequenced)) := by
  rw [sequenced, sequencedEntries_eq_map]

/-- A plain value is so with lists in place of sequences, too. -/
theorem isPlain_sequenced {v : Value} (h : v.isPlain = true) : v.sequenced.isPlain = true := by
  induction v using inductionOn with
  | scalar s =>
    cases s with
    | bytes b =>
      rw [sequenced, isPlain_list, List.forall_mem_map]
      exact fun byte _ => isPlain_scalar _
    | null | bool | int | double | text | stamp => exact h
  | list items ih =>
    rw [sequenced_list, isPlain_list, List.forall_mem_map]
    exact fun x hx => ih x hx (isPlain_list.mp h x hx)
  | map es ih =>
    obtain ⟨hdistinct, hvalues⟩ := isPlain_map.mp h
    rw [sequenced_map, isPlain_map, List.forall_mem_map]
    exact ⟨Scalar.distinctKeys_map _ (fun _ => rfl) hdistinct,
      fun e he => ih e he (hvalues e he)⟩
  | group | knot => simp [isPlain] at h

mutual

theorem equalBy_refl : ∀ {v : Value}, v.isPlain = true → equalBy Scalar.equals v v = true
  | .scalar s, _ => Scalar.equals_refl s
  | .list items, h => equalItems_refl (isPlain_list.mp h)
  | .map es, h => by
    obtain ⟨hdistinct, hvalues⟩ := isPlain_map.mp h
    simp only [equalBy, BEq.rfl, Bool.true_and]
    exact equalEntries_refl hdistinct es (fun e he => he) hvalues
  | .group _ _, h => by simp [isPlain] at h
  | .knot _ _, h => by simp [isPlain] at h

theorem equalItems_refl : ∀ {items : List Value}, (∀ x ∈ items, x.isPlain = true) →
    equalItems Scalar.equals items items = true
  | [], _ => rfl
  | x :: xs, h => by
    have hx : equalBy Scalar.equals x x = true := equalBy_refl (h x List.mem_cons_self)
    rw [equalItems, hx, equalItems_refl fun y hy => h y (List.mem_cons_of_mem _ hy)]
    rfl

/-- Every entry of a map has an equal one in the map. -/
theorem equalEntries_refl {all : Entries} (hall : Scalar.DistinctKeys all) :
    ∀ es : List (Scalar × Value), (∀ e ∈ es, e ∈ all) → (∀ e ∈ es, e.2.isPlain = true) →
      equalEntries Scalar.equals es all = true
  | [], _, _ => by rw [equalEntries]
  | (key, x) :: es, hsub, hplain => by
    have hx : equalBy Scalar.equals x x = true :=
      equalBy_refl (hplain (key, x) List.mem_cons_self)
    have hfound : all.find? key = some x :=
      Entries.find?_eq_some hall (hsub (key, x) List.mem_cons_self)
    rw [equalEntries, hfound, equalEntries_refl hall es
      (fun e he => hsub e (List.mem_cons_of_mem _ he))
      (fun e he => hplain e (List.mem_cons_of_mem _ he))]
    simp [hx]

end

/-- **A plain value is equal to itself.** -/
theorem equals_refl_of_isPlain {v : Value} (h : v.isPlain = true) : v.equals v = true :=
  equalBy_refl (isPlain_sequenced h)

/-- Only null is equal to null. -/
theorem equals_null_iff {v : Value} : v.equals .null = true ↔ v = .null := by
  cases v with
  | scalar s => cases s <;> simp [equals, sequenced, equalBy, Scalar.equals]
  | list | map => simp [equals, sequenced, equalBy]
  | group form items => cases form <;> simp [equals, sequenced, equalBy]
  | knot => simp [equals, sequenced, equalBy]

end Value

/-! ### References -/

namespace Pointer

/-- One segment leads to what the node holds. -/
theorem holds_step {ref : String} {node v : Value} {segment : List Char}
    (hv : step ref node segment = .ok v) : node.Holds v := by
  refine (Value.holds_bare node).trans ?_
  unfold step at hv
  split at hv
  · next hbare =>
    rw [hbare]
    split at hv
    · next hfound =>
      cases hv
      exact (Value.Holds.refl _).part (Value.part_find? hfound)
    · cases hv
  · next items hbare =>
    rw [hbare]
    split at hv
    · cases hv
    · obtain ⟨i, -, hv⟩ := Except.bind_eq_ok_iff.mp hv
      split at hv
      · next hfound =>
        cases hv
        exact (Value.Holds.refl _).part (.item (List.mem_of_getElem? hfound))
      · cases hv
  · cases hv

/-- **A reference into a document leads to what the document holds.** -/
theorem holds_resolveValue {document ref v : Value} (hv : resolveValue document ref = .ok v) :
    document.Holds v := by
  obtain ⟨name, -, hv⟩ := Except.bind_eq_ok_iff.mp hv
  unfold resolve at hv
  split at hv
  · cases hv
  · exact Except.foldlM_keeps (P := fun v => document.Holds v)
      (fun _ _ _ _ hnode hstep => hnode.trans (holds_step hstep)) (.refl document) hv

/-- A reference into a plain document leads to a plain value. -/
theorem isPlain_resolveValue {document ref v : Value} (h : document.isPlain = true)
    (hv : resolveValue document ref = .ok v) : v.isPlain = true :=
  Value.isPlain_of_holds h (holds_resolveValue hv)

end Pointer

end ApiTools
