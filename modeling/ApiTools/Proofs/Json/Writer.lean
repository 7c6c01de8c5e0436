import ApiTools.Proofs.Outcome
import ApiTools.Proofs.Value.Json

/-!
# Values that can be written as JSON

A value of JSON is written scalar by scalar, and the only scalars that cannot be written are integers
of too many digits.  What cannot be written fails with a fault of its own, never with that of a
reference.

## Main results

* `Json.exists_write_iff` — **a value of JSON is written exactly when its integers are not too
  long.**
* `Json.failsOnly_write` — the faults of writing.
* `Json.fault?_plain` — **a value reads back exactly when it is written.**
-/

namespace ApiTools

namespace Json

theorem exists_intText_iff {n : Int} :
    (∃ text, intText n = .ok text) ↔ Value.scalarFits (.int n) = true := by
  rw [intText, Value.exists_shown_iff, Value.fits]

theorem exists_scalarText_iff (ascii : Bool) (s : Scalar) :
    (∃ text, scalarText ascii s = .ok text) ↔ Value.scalarFits s = true := by
  cases s with
  | int n => exact exists_intText_iff
  | bool b => cases b <;> exact iff_of_true ⟨_, rfl⟩ rfl
  | null | double | text | stamp | bytes => exact iff_of_true ⟨_, rfl⟩ rfl

/-- The items of a list are written when each of them is. -/
theorem exists_writeItems_iff {style : Style} {level : Nat} {items : List Value} :
    (∃ parts, writeItems style level items = .ok parts) ↔
      ∀ x ∈ items, ∃ text, writeAt style level x = .ok text := by
  induction items with
  | nil => exact iff_of_true ⟨[], by rw [writeItems]⟩ (List.forall_mem_nil _)
  | cons x xs ih =>
    rw [List.forall_mem_cons, ← ih]
    constructor
    · rintro ⟨parts, h⟩
      rw [writeItems] at h
      obtain ⟨first, hfirst, h⟩ := Except.bind_eq_ok_iff.mp h
      obtain ⟨rest, hrest, -⟩ := Except.bind_eq_ok_iff.mp h
      exact ⟨⟨first, hfirst⟩, rest, hrest⟩
    · rintro ⟨⟨first, hfirst⟩, rest, hrest⟩
      refine ⟨first :: rest, ?_⟩
      rw [writeItems]
      refine Except.bind_eq_ok_iff.mpr ⟨first, hfirst, ?_⟩
      exact Except.bind_eq_ok_iff.mpr ⟨rest, hrest, rfl⟩

/-- The members of a map with texts as keys are written when their values are. -/
theorem exists_writeMembers_iff {style : Style} {level : Nat} {es : Entries}
    (hkeys : ∀ e ∈ es, Value.IsName e.1) :
    (∃ parts, writeMembers style level es = .ok parts) ↔
      ∀ e ∈ es, ∃ text, writeAt style level e.2 = .ok text := by
  induction es with
  | nil => exact iff_of_true ⟨[], by rw [writeMembers]⟩ (List.forall_mem_nil _)
  | cons e es ih =>
    obtain ⟨key, x⟩ := e
    obtain ⟨⟨name, rfl, -⟩, hrest⟩ := List.forall_mem_cons.mp hkeys
    rw [List.forall_mem_cons, ← ih hrest]
    constructor
    · rintro ⟨parts, h⟩
      rw [writeMembers] at h
      obtain ⟨_, -, h⟩ := Except.bind_eq_ok_iff.mp h
      obtain ⟨first, hfirst, h⟩ := Except.bind_eq_ok_iff.mp h
      obtain ⟨rest, hrest, -⟩ := Except.bind_eq_ok_iff.mp h
      exact ⟨⟨first, hfirst⟩, rest, hrest⟩
    · rintro ⟨⟨first, hfirst⟩, rest, hrest⟩
      let separator := if style.indent.isSome then ": " else ":"
      refine ⟨(quoted style.ascii name ++ separator ++ first) :: rest, ?_⟩
      rw [writeMembers]
      refine Except.bind_eq_ok_iff.mpr ⟨name, rfl, ?_⟩
      refine Except.bind_eq_ok_iff.mpr ⟨first, hfirst, ?_⟩
      exact Except.bind_eq_ok_iff.mpr ⟨rest, hrest, rfl⟩

/-- A value of JSON is written at a level exactly when its integers are not too long. -/
theorem exists_writeAt_iff {v : Value} (h : v.isJson = true) (style : Style) (level : Nat) :
    (∃ text, writeAt style level v = .ok text) ↔ v.fits = true := by
  induction v using Value.inductionOn generalizing level with
  | scalar s =>
    rw [writeAt, Value.fits]
    exact exists_scalarText_iff style.ascii s
  | list items ih =>
    have hitems := Value.isJson_list.mp h
    rw [writeAt, Except.exists_bind_pure_iff, exists_writeItems_iff, Value.fits_list]
    exact forall₂_congr fun x hx => ih x hx (hitems x hx) (level + 1)
  | map es ih =>
    obtain ⟨-, hkeys, hvalues⟩ := Value.isJson_map.mp h
    rw [writeAt, Except.exists_bind_pure_iff, exists_writeMembers_iff hkeys, Value.fits_map]
    refine forall₂_congr fun e he => ?_
    obtain ⟨name, hname, -⟩ := hkeys e he
    rw [ih e he (hvalues e he) (level + 1), hname]
    exact ⟨fun hfits => ⟨rfl, hfits⟩, And.right⟩
  | group | knot => simp [Value.isJson] at h

/-- **A value of JSON is written exactly when its integers are not too long.** -/
theorem exists_write_iff {v : Value} (h : v.isJson = true) (style : Style) :
    (∃ text, write style v = .ok text) ↔ v.fits = true := exists_writeAt_iff h style 0

/-! ### The faults of writing -/

open Except

theorem failsOnly_intText (n : Int) : (intText n).FailsOnly (·.abortsGeneration = false) :=
  Value.failsOnly_shown (.int n)

theorem failsOnly_keyText (key : Scalar) :
    (keyText key).FailsOnly (·.abortsGeneration = false) := by
  cases key with
  | int n => exact failsOnly_intText n
  | bool b => cases b <;> exact .ok _
  | null | double | text => exact .ok _
  | stamp | bytes => exact .error rfl

theorem failsOnly_scalarText (ascii : Bool) (s : Scalar) :
    (scalarText ascii s).FailsOnly (·.abortsGeneration = false) := by
  cases s with
  | int n => exact failsOnly_intText n
  | bool b => cases b <;> exact .ok _
  | null | double | text | stamp | bytes => exact .ok _

theorem failsOnly_writeItems {style : Style} {level : Nat} {items : List Value}
    (h : ∀ x ∈ items, (writeAt style level x).FailsOnly (·.abortsGeneration = false)) :
    (writeItems style level items).FailsOnly (·.abortsGeneration = false) := by
  induction items with
  | nil => exact .ok _
  | cons x xs ih =>
    obtain ⟨hfirst, hrest⟩ := List.forall_mem_cons.mp h
    rw [writeItems]
    exact hfirst.bind fun _ => (ih hrest).bind fun _ => .ok _

theorem failsOnly_writeMembers {style : Style} {level : Nat} {es : Entries}
    (h : ∀ e ∈ es, (writeAt style level e.2).FailsOnly (·.abortsGeneration = false)) :
    (writeMembers style level es).FailsOnly (·.abortsGeneration = false) := by
  induction es with
  | nil => exact .ok _
  | cons e es ih =>
    obtain ⟨hfirst, hrest⟩ := List.forall_mem_cons.mp h
    rw [writeMembers]
    exact (failsOnly_keyText e.1).bind fun _ => hfirst.bind fun _ => (ih hrest).bind fun _ => .ok _

theorem failsOnly_writeAt (style : Style) (level : Nat) (v : Value) :
    (writeAt style level v).FailsOnly (·.abortsGeneration = false) := by
  induction v using Value.inductionOn generalizing level with
  | scalar s =>
    rw [writeAt]
    exact failsOnly_scalarText _ s
  | list items ih =>
    rw [writeAt]
    exact (failsOnly_writeItems fun x hx => ih x hx _).bind fun _ => .ok _
  | map es ih =>
    rw [writeAt]
    exact (failsOnly_writeMembers fun e he => ih e he _).bind fun _ => .ok _
  | group form items ih =>
    cases form with
    | pair =>
      rw [writeAt]
      exact (failsOnly_writeItems fun x hx => ih x hx _).bind fun _ => .ok _
    | set =>
      rw [writeAt]
      exact .ok _
  | knot label inside ih =>
    rw [writeAt]
    exact (ih level).bind fun _ => .error rfl

/-- **The faults of writing are not those of a reference.** -/
theorem failsOnly_write (style : Style) (v : Value) :
    (write style v).FailsOnly (·.abortsGeneration = false) := failsOnly_writeAt style 0 v

theorem fault?_plainItems {style : Style} {level : Nat} {items : List Value}
    (h : ∀ x ∈ items, (plain x).fault? = (writeAt style level x).fault?) :
    (plainItems items).fault? = (writeItems style level items).fault? := by
  induction items with
  | nil => rfl
  | cons x xs ih =>
    obtain ⟨hfirst, hrest⟩ := List.forall_mem_cons.mp h
    have hplain : (plainItems (x :: xs)).fault? = (plain x).fault?.or (plainItems xs).fault? :=
      fault?_bind fun _ _ => fault?_bind_pure _ _
    have hwrite : (writeItems style level (x :: xs)).fault? =
        (writeAt style level x).fault?.or (writeItems style level xs).fault? :=
      fault?_bind fun _ _ => fault?_bind_pure _ _
    rw [hplain, hwrite, hfirst, ih hrest]

theorem fault?_plainEntries {style : Style} {level : Nat} {done es : Entries}
    (h : ∀ e ∈ es, (plain e.2).fault? = (writeAt style level e.2).fault?) :
    (plainEntries done es).fault? = (writeMembers style level es).fault? := by
  induction es generalizing done with
  | nil => rfl
  | cons e es ih =>
    obtain ⟨hfirst, hrest⟩ := List.forall_mem_cons.mp h
    have hplain : (plainEntries done (e :: es)).fault? =
        (keyText e.1).fault?.or ((plain e.2).fault?.or (writeMembers style level es).fault?) :=
      fault?_bind fun _ _ => fault?_bind fun _ _ => ih hrest
    have hwrite : (writeMembers style level (e :: es)).fault? =
        (keyText e.1).fault?.or
          ((writeAt style level e.2).fault?.or (writeMembers style level es).fault?) :=
      fault?_bind fun _ _ => fault?_bind fun _ _ => fault?_bind_pure _ _
    rw [hplain, hwrite, hfirst]

/-- **A value reads back exactly when it is written**, and otherwise both fail with one fault. -/
theorem fault?_plain (style : Style) (level : Nat) (v : Value) :
    (plain v).fault? = (writeAt style level v).fault? := by
  induction v using Value.inductionOn generalizing level with
  | scalar s =>
    rw [plain, writeAt]
    refine (fault?_bind_pure _ _).trans ?_
    cases s with
    | int n => exact fault?_bind_pure _ _
    | bool b => cases b <;> rfl
    | null | double | text | stamp | bytes => rfl
  | list items ih =>
    rw [plain, writeAt]
    exact ((fault?_bind_pure _ _).trans (fault?_plainItems fun x hx => ih x hx _)).trans
      (fault?_bind_pure _ _).symm
  | map es ih =>
    rw [plain, writeAt]
    exact ((fault?_bind_pure _ _).trans (fault?_plainEntries fun e he => ih e he _)).trans
      (fault?_bind_pure _ _).symm
  | group form items ih =>
    cases form with
    | pair =>
      rw [plain, writeAt]
      exact ((fault?_bind_pure _ _).trans (fault?_plainItems fun x hx => ih x hx _)).trans
        (fault?_bind_pure _ _).symm
    | set =>
      rw [plain, writeAt]
      rfl
  | knot label inside ih =>
    have hplain : (plain (.knot label inside)).fault? = (plain inside).fault?.or (some .circular) :=
      fault?_bind fun _ _ => rfl
    have hwrite : (writeAt style level (.knot label inside)).fault? =
        (writeAt style level inside).fault?.or (some .circular) :=
      fault?_bind fun _ _ => rfl
    rw [hplain, hwrite, ih]

/-- So the faults of reading back are not those of a reference. -/
theorem failsOnly_plain (v : Value) : (plain v).FailsOnly (·.abortsGeneration = false) :=
  (failsOnly_write compact v).of_fault? (fault?_plain compact 0 v)

end Json

end ApiTools
