import ApiTools.Proofs.Double.Rounding
import ApiTools.Proofs.Value.Json

/-!
# Exact values

A value of JSON is *exact* when each number in it is one that its literal denotes: an integer that is
not too long, or a finite binary number in its normal form.  What is read from an exact value is
exact.

## Main definitions

* `Scalar.IsExact`, `Value.IsExact` — the property of scalars and of values.
* `Value.IsRead` — a value of JSON whose finite numbers are exact.

## Main results

* `Value.isExact_list`, `Value.isExact_map` — lists and maps of exact values are exact.
* `Value.hereditary_isExact` — **what is read from an exact value is exact.**
* `Value.IsRead.isExact_iff` — a value whose finite numbers are exact is exact when all are finite.
* `Value.fits_of_isExact` — an exact value can be written.
-/

namespace ApiTools

/-- A scalar of JSON with a literal that denotes it. -/
def Scalar.IsExact : Scalar → Prop
  | .null | .bool _ => True
  | .text s => Text.isJoined s = true
  | .int n => Value.scalarFits (.int n) = true
  | .double d => d.IsNormal
  | .stamp _ | .bytes _ => False

namespace Value

/-- A value of JSON with exact scalars only. -/
def IsExact (v : Value) : Prop := v.isJson = true ∧ ∀ s, v.Holds (.scalar s) → s.IsExact

theorem isExact_scalar {s : Scalar} : (Value.scalar s).IsExact ↔ s.IsExact := by
  constructor
  · exact fun h => h.2 s (.refl _)
  · intro h
    refine ⟨?_, fun t ht => ?_⟩
    · cases s with
      | null | bool | int | double => rfl
      | text s => exact h
      | stamp | bytes => exact absurd h id
    · cases eq_of_holds_scalar ht
      exact h

theorem isExact_text {s : String} (h : Text.isJoined s = true) : (Value.text s).IsExact :=
  isExact_scalar.mpr h

/-- What a value with parts holds is held by a part. -/
theorem forall_holds_iff {v : Value} (hscalar : ∀ s, v ≠ .scalar s) {Q : Scalar → Prop} :
    (∀ s, v.Holds (.scalar s) → Q s) ↔ ∀ y, v.Part y → ∀ s, y.Holds (.scalar s) → Q s := by
  constructor
  · exact fun h y hy s hs => h s (((Holds.refl v).part hy).trans hs)
  · intro h s hs
    rcases Relation.ReflTransGen.cases_head hs with heq | ⟨y, hy, hs⟩
    · exact absurd heq (hscalar s)
    · exact h y hy s hs

/-- What a list holds is held by an item. -/
theorem forall_holds_list_iff {Q : Scalar → Prop} {items : List Value} :
    (∀ s, (Value.list items).Holds (.scalar s) → Q s) ↔
      ∀ x ∈ items, ∀ s, x.Holds (.scalar s) → Q s := by
  rw [forall_holds_iff (by simp)]
  constructor
  · exact fun h x hx => h x (.item hx)
  · intro h y hy
    cases hy with
    | item hy => exact h y hy

/-- What a map holds is held by a value of it. -/
theorem forall_holds_map_iff {Q : Scalar → Prop} {es : Entries} :
    (∀ s, (Value.map es).Holds (.scalar s) → Q s) ↔
      ∀ e ∈ es, ∀ s, e.2.Holds (.scalar s) → Q s := by
  rw [forall_holds_iff (by simp)]
  constructor
  · exact fun h e he => h e.2 (.entry he)
  · intro h y hy
    cases hy with
    | entry he => exact h _ he

/-- A list of exact values is exact. -/
theorem isExact_list {items : List Value} :
    (Value.list items).IsExact ↔ ∀ x ∈ items, x.IsExact := by
  rw [IsExact, isJson_list, forall_holds_list_iff]
  exact forall₂_and.symm

/-- A map with distinct texts as keys and exact values is exact. -/
theorem isExact_map {es : Entries} :
    (Value.map es).IsExact ↔ Scalar.DistinctKeys es ∧ (∀ e ∈ es, IsName e.1) ∧
      ∀ e ∈ es, e.2.IsExact := by
  rw [IsExact, isJson_map, forall_holds_map_iff, and_assoc, and_assoc]
  exact and_congr_right fun _ => and_congr_right fun _ => forall₂_and.symm

/-- A record of exact fields is exact. -/
theorem recordable_isExact : Recordable IsExact where
  isJson h := h.1
  null := isExact_scalar.mpr trivial
  bool _ := isExact_scalar.mpr trivial
  text := isExact_text
  list := isExact_list.mpr
  map hdistinct htexts hvalues := isExact_map.mpr ⟨hdistinct, htexts, hvalues⟩

/-- **What is read from an exact value is exact.** -/
theorem hereditary_isExact : Hereditary IsExact :=
  hereditary_isJson_and (isExact_scalar (s := .null).mpr trivial).2 (fun _ hs => (isExact_text hs).2)
    forall_holds_list_iff fun _ => forall_holds_map_iff

/-- An exact value can be written. -/
theorem fits_of_isExact {v : Value} (h : v.IsExact) : v.fits = true := by
  induction v using Value.inductionOn with
  | scalar s =>
    rw [isExact_scalar] at h
    cases s with
    | int n => exact h
    | _ => rfl
  | list items ih =>
    rw [isExact_list] at h
    exact fits_list.mpr fun x hx => ih x hx (h x hx)
  | map es ih =>
    obtain ⟨-, htexts, hvalues⟩ := isExact_map.mp h
    refine fits_map.mpr fun e he => ⟨?_, ih e he (hvalues e he)⟩
    obtain ⟨name, hname, -⟩ := htexts e he
    rw [hname]
    rfl
  | group | knot => exact absurd h.1 (by simp [isJson])

/-! ### Numbers that need not be finite -/

/-- A value of JSON whose numbers are exact as far as they are finite. -/
def IsRead (v : Value) : Prop :=
  v.isJson = true ∧ ∀ s, v.Holds (.scalar s) → Json.isFiniteScalar s = true → s.IsExact

theorem isRead_scalar {s : Scalar} (hjson : s.isJson = true)
    (h : Json.isFiniteScalar s = true → s.IsExact) : (Value.scalar s).IsRead := by
  refine ⟨hjson, fun t ht => ?_⟩
  cases eq_of_holds_scalar ht
  exact h

theorem isRead_list {items : List Value} : (Value.list items).IsRead ↔ ∀ x ∈ items, x.IsRead := by
  rw [IsRead, isJson_list, forall_holds_list_iff]
  exact forall₂_and.symm

theorem isRead_map {es : Entries} :
    (Value.map es).IsRead ↔ Scalar.DistinctKeys es ∧ (∀ e ∈ es, IsName e.1) ∧
      ∀ e ∈ es, e.2.IsRead := by
  rw [IsRead, isJson_map, forall_holds_map_iff, and_assoc, and_assoc]
  exact and_congr_right fun _ => and_congr_right fun _ => forall₂_and.symm

theorem recordable_isRead : Recordable IsRead where
  isJson h := h.1
  null := isRead_scalar rfl fun _ => trivial
  bool _ := isRead_scalar rfl fun _ => trivial
  text h := isRead_scalar h fun _ => h
  list := isRead_list.mpr
  map hdistinct htexts hvalues := isRead_map.mpr ⟨hdistinct, htexts, hvalues⟩

/-- What is read from such a value is such a value. -/
theorem hereditary_isRead : Hereditary IsRead :=
  hereditary_isJson_and recordable_isRead.null.2 (fun _ hs => (recordable_isRead.text hs).2)
    forall_holds_list_iff fun _ => forall_holds_map_iff

/-- A value of JSON is finite when every scalar in it is. -/
theorem isFinite_iff_forall_holds {v : Value} (h : v.isJson = true) :
    Json.isFinite v = true ↔ ∀ s, v.Holds (.scalar s) → Json.isFiniteScalar s = true := by
  induction v using Value.inductionOn with
  | scalar s =>
    constructor
    · intro hfinite t ht
      cases eq_of_holds_scalar ht
      exact hfinite
    · exact fun hall => hall s (.refl _)
  | list items ih =>
    rw [forall_holds_list_iff, isFinite_list]
    exact forall₂_congr fun x hx => ih x hx (isJson_list.mp h x hx)
  | map es ih =>
    obtain ⟨-, htexts, hvalues⟩ := isJson_map.mp h
    rw [forall_holds_map_iff, isFinite_map]
    refine forall₂_congr fun e he => ?_
    obtain ⟨name, hname, -⟩ := htexts e he
    rw [hname, ← ih e he (hvalues e he)]
    exact and_iff_right rfl
  | group | knot => simp [isJson] at h

/-- An exact scalar is finite. -/
theorem isFiniteScalar_of_isExact {s : Scalar} (h : s.IsExact) : Json.isFiniteScalar s = true := by
  cases s with
  | double d =>
    cases d with
    | finite => rfl
    | nan | infinite => exact absurd h id
  | null | bool | int | text => rfl
  | stamp | bytes => exact absurd h id

/-- **A value whose finite numbers are exact is exact when all its numbers are finite.** -/
theorem IsRead.isExact_iff {v : Value} (h : v.IsRead) : v.IsExact ↔ Json.isFinite v = true := by
  rw [isFinite_iff_forall_holds h.1, IsExact, and_iff_right h.1]
  refine forall₂_congr fun s hs => ?_
  exact ⟨isFiniteScalar_of_isExact, h.2 s hs⟩

end Value

end ApiTools
