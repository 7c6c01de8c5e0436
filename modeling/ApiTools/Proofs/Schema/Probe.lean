import Mathlib.Data.Fintype.EquivFin
import ApiTools.Proofs.Schema.Reading

/-!
# Values made for a schema

No schema that can be compiled is out of reach: there is a plain value that satisfies it.  More than
that, every schema in a node shows in the values that satisfy the node.  Given a value for the inner
schema, there is one for the node that has it as a part and that satisfies the node under another
reading only if the part satisfies the inner schema under that reading.

## Main definitions

* `Schema.assign` — a map with a value for each declared property.
* `Schema.Probes` — a value tells about a schema in a node.

## Main results

* `Schema.objectSatisfies_assign` — what a node asks of such a map.
* `Schema.exists_satisfies` — **a schema that can be compiled is satisfied by a plain value.**
* `Schema.exists_probe` — **every schema in a node is probed by a value that satisfies the node.**
-/

namespace ApiTools

namespace Schema

variable {document schema : Value} {mode : Mode} {room : Nat} {visited : List String}
variable {satisfies : Value → Value → Prop} {node : Entries}

/-! ### Keys that are not there -/

/-- Some text is no key of the given ones. -/
theorem exists_fresh (keys : List Scalar) :
    ∃ name, ∀ key ∈ keys, key.alike (.text name) = false := by
  obtain ⟨name, hname⟩ :=
    Infinite.exists_notMem_finset (keys.filterMap fun key => (Value.scalar key).text?).toFinset
  refine ⟨name, fun key hkey => Bool.eq_false_iff.mpr fun halike => hname ?_⟩
  rw [Scalar.alike_text_iff] at halike
  subst halike
  exact List.mem_toFinset.mpr (List.mem_filterMap.mpr ⟨_, hkey, rfl⟩)

/-! ### Maps made property by property -/

/-- A map with a value for each declared property. -/
def assign (value : Scalar × Value → Value) (node : Entries) : Entries :=
  (declaredProperties node).map fun p => (p.1, value p)

variable {value : Scalar × Value → Value} {extras : Entries}

theorem mem_assign {p : Scalar × Value} (hp : p ∈ declaredProperties node) :
    (p.1, value p) ∈ assign value node := List.mem_map_of_mem hp

theorem distinctKeys_assign (hnode : (Value.map node).isPlain = true) :
    Scalar.DistinctKeys (assign value node) :=
  Scalar.distinctKeys_map _ (fun _ => rfl)
    (Value.isPlain_map.mp (isPlain_declaredProperties hnode)).1

/-- Values for the declared properties and for further keys make a map with distinct keys. -/
theorem distinctKeys_assign_append (hnode : (Value.map node).isPlain = true)
    (hextras : Scalar.DistinctKeys extras)
    (hfresh : ∀ e ∈ extras, ∀ p ∈ declaredProperties node, p.1.alike e.1 = false) :
    Scalar.DistinctKeys (assign value node ++ extras) := by
  refine List.pairwise_append.mpr ⟨distinctKeys_assign hnode, hextras, ?_⟩
  intro e he f hf
  obtain ⟨p, hp, rfl⟩ := List.mem_map.mp he
  exact hfresh f hf p hp

theorem isPlain_assign_append (hnode : (Value.map node).isPlain = true)
    (hvalue : ∀ p ∈ declaredProperties node, (value p).isPlain = true)
    (hextras : (Value.map extras).isPlain = true)
    (hfresh : ∀ e ∈ extras, ∀ p ∈ declaredProperties node, p.1.alike e.1 = false) :
    (Value.map (assign value node ++ extras)).isPlain = true := by
  rw [Value.isPlain_map] at hextras ⊢
  refine ⟨distinctKeys_assign_append hnode hextras.1 hfresh, ?_⟩
  refine List.forall_mem_append.mpr ⟨fun e he => ?_, hextras.2⟩
  obtain ⟨p, hp, rfl⟩ := List.mem_map.mp he
  exact hvalue p hp

/-- **What a node asks of a map made property by property** it asks of the values put in. -/
theorem objectSatisfies_assign (hnode : (Value.map node).isPlain = true)
    (hvalue : ∀ p ∈ declaredProperties node,
      PropertySatisfies satisfies mode node p.1 p.2 (value p))
    (hextras : Scalar.DistinctKeys extras)
    (hfresh : ∀ e ∈ extras, ∀ p ∈ declaredProperties node, p.1.alike e.1 = false)
    (hextra : ∀ e ∈ extras, ExtraSatisfies satisfies mode node e.2) :
    ObjectSatisfies satisfies mode node (assign value node ++ extras) where
  present p hp _ := by
    rw [Entries.hasKey_iff]
    exact ⟨_, List.mem_append_left _ (mem_assign hp), Scalar.alike_refl p.1⟩
  declared p hp y hy := by
    have hmem : (p.1, value p) ∈ assign value node ++ extras :=
      List.mem_append_left _ (mem_assign hp)
    have hfound := Entries.find?_eq_some (distinctKeys_assign_append hnode hextras hfresh) hmem
    obtain rfl : value p = y := Option.some.inj (hfound.symm.trans hy)
    exact hvalue p hp
  undeclared e he hdeclared := by
    rcases List.mem_append.mp he with he | he
    · obtain ⟨p, hp, rfl⟩ := List.mem_map.mp he
      exact absurd (hdeclared p hp) (by simp [Scalar.alike_refl])
    · exact hextra e he

/-! ### Values for every kind -/

theorem isPlain_members (hnode : (Value.map node).isPlain = true) :
    ∀ v ∈ members node, v.isPlain = true :=
  of_mem_members Value.hereditary_isPlain hnode

/-- A listed value satisfies a list of values. -/
theorem listed_of_mem (hnode : (Value.map node).isPlain = true) {v : Value}
    (hv : v ∈ members node) : Listed mode (members node) v :=
  Or.inr ⟨v, hv, Value.equals_refl_of_isPlain (isPlain_members hnode v hv)⟩

variable (hnode : (Value.map node).isPlain = true)
variable (hinner : ∀ c, Inner mode node c → ∃ y, y.isPlain = true ∧ satisfies c y)

include hinner in
/-- There are values for all declared properties. -/
theorem exists_values (hkind : kind node = .object) :
    ∃ value : Scalar × Value → Value, ∀ p ∈ declaredProperties node,
      (value p).isPlain = true ∧ satisfies p.2 (value p) := by
  have hvalue : ∀ p ∈ declaredProperties node, ∃ y : Value, y.isPlain = true ∧ satisfies p.2 y :=
    fun p hp => hinner p.2 (.property hkind p hp)
  choose! value hvalue using hvalue
  exact ⟨value, hvalue⟩

include hnode hinner in
/-- One step: if there are values for the schemas in a node, there is one for the node. -/
theorem exists_kindSatisfies : ∃ x, x.isPlain = true ∧ KindSatisfies satisfies mode node x := by
  unfold KindSatisfies
  cases hkind : kind node with
  | object =>
    obtain ⟨value, hvalue⟩ := exists_values hinner hkind
    refine ⟨.map (assign value node ++ []), ?_, _, rfl, ?_⟩
    · exact isPlain_assign_append hnode (fun p hp => (hvalue p hp).1) rfl (by simp)
    · exact objectSatisfies_assign hnode (fun p hp => Or.inl (hvalue p hp).2)
        Scalar.distinctKeys_nil (by simp) (by simp)
  -- A list without items is as every node asks.
  | array => exact ⟨.list [], rfl, [], rfl, by simp⟩
  | string =>
    dsimp only
    cases hmembers : members node with
    | nil => exact ⟨.text "", rfl, by simp [allTexts]⟩
    | cons v values =>
      rw [← hmembers]
      have hv : v ∈ members node := by simp [hmembers]
      refine ⟨v, isPlain_members hnode v hv, ?_⟩
      split
      · next hall =>
        have htext : v.text?.isSome = true := List.all_eq_true.mp hall v hv
        exact ⟨Value.isSome_text?_iff.mp htext, Or.inr (listed_of_mem hnode hv)⟩
      · exact listed_of_mem hnode hv
  | number => exact ⟨.int 0, rfl, Or.inl ⟨0, rfl⟩⟩
  | boolean => exact ⟨.bool true, rfl, true, rfl⟩
  | enumeration =>
    obtain ⟨v, hv⟩ := List.exists_mem_of_ne_nil _ (members_ne_nil_of_enumeration hkind)
    exact ⟨v, isPlain_members hnode v hv, listed_of_mem hnode hv⟩
  | reference | composite | union | unresolved => exact ⟨.null, rfl, trivial⟩

/-- **A schema that can be compiled is satisfied by a plain value.** -/
theorem exists_satisfies (hdocument : document.isPlain = true) (hschema : schema.isPlain = true)
    {v : Validator} (h : compileWithin document mode room schema visited = .ok v) :
    ∃ x, x.isPlain = true ∧ Satisfies document mode room schema visited x := by
  induction room generalizing schema visited v with
  | zero => exact ⟨.null, rfl, trivial⟩
  | succ room ih =>
    cases compileWithin_succ_iff.mp h with
    | cut r hr hnil _ => exact ⟨.null, rfl, r, hr, Or.inl hnil⟩
    | built r hr hne bare described hbare _ _ =>
      have hnode := isPlain_resolveWithin hdocument hschema hr
      obtain ⟨x, hplain, hx⟩ := exists_kindSatisfies hnode fun c hc => by
        obtain ⟨w, hw⟩ := (exists_bareValidator_iff.mp ⟨bare, hbare⟩).2 c hc
        exact ih (isPlain_of_inner hnode hc) hw
      exact ⟨x, hplain, r, hr, Or.inr (Or.inr hx)⟩

/-! ### Probes -/

/-- A value tells about a part of it and a schema in a node: under whatever reading the value is
what the node asks for, the part satisfies the schema, or is null in an answer. -/
def Probes (mode : Mode) (node : Entries) (c y x : Value) : Prop :=
  ∀ reading, KindSatisfies reading mode node x → reading c y ∨ (mode = .output ∧ y = .null)

variable (hnode : (Value.map node).isPlain = true)
variable (hinner : ∀ c, Inner mode node c → ∃ y, y.isPlain = true ∧ satisfies c y)

include hnode hinner

/-- A map that is as a node asks may have any value at a declared property that is as asked. -/
theorem exists_object_with_property (hkind : kind node = .object) {p : Scalar × Value}
    (hp : p ∈ declaredProperties node) {y : Value} (hy : y.isPlain = true)
    (hsat : PropertySatisfies satisfies mode node p.1 p.2 y) :
    ∃ es : Entries, (Value.map es).isPlain = true ∧ ObjectSatisfies satisfies mode node es ∧
      es.find? p.1 = some y := by
  -- All other properties have values of their own, so that only the given one decides.
  obtain ⟨value, hvalue⟩ := exists_values hinner hkind
  have hplain : (Value.map (assign (Function.update value p y) node ++ [])).isPlain = true := by
    refine isPlain_assign_append hnode (fun q hq => ?_) rfl (by simp)
    rw [Function.update_apply]
    split
    · exact hy
    · exact (hvalue q hq).1
  refine ⟨_, hplain, objectSatisfies_assign hnode (fun q hq => ?_) Scalar.distinctKeys_nil
    (by simp) (by simp), ?_⟩
  · rw [Function.update_apply]
    split
    · next heq => exact heq ▸ hsat
    · exact Or.inl (hvalue q hq).2
  · have hmem : (p.1, Function.update value p y p) ∈
        assign (Function.update value p y) node ++ [] :=
      List.mem_append_left _ (mem_assign hp)
    rw [Entries.find?_eq_some (Value.isPlain_map.mp hplain).1 hmem, Function.update_self]

/-- A map that is as a node asks may have any value that is as asked at some undeclared key. -/
theorem exists_object_with_extra (hkind : kind node = .object) {y : Value} (hy : y.isPlain = true)
    (hsat : ExtraSatisfies satisfies mode node y) :
    ∃ (es : Entries) (e : Scalar × Value), (Value.map es).isPlain = true ∧
      ObjectSatisfies satisfies mode node es ∧ e ∈ es ∧ e.2 = y ∧
      ∀ p ∈ declaredProperties node, p.1.alike e.1 = false := by
  obtain ⟨value, hvalue⟩ := exists_values hinner hkind
  obtain ⟨name, hname⟩ := exists_fresh ((declaredProperties node).map (·.1))
  have hfresh : ∀ p ∈ declaredProperties node, p.1.alike (.text name) = false :=
    fun p hp => hname p.1 (List.mem_map_of_mem hp)
  refine ⟨assign value node ++ [(.text name, y)], (.text name, y), ?_, ?_, by simp, rfl, hfresh⟩
  · exact isPlain_assign_append hnode (fun p hp => (hvalue p hp).1)
      (Value.isPlain_map.mpr (by simp [Scalar.DistinctKeys, hy])) (by simpa using hfresh)
  · exact objectSatisfies_assign hnode (fun p hp => Or.inl (hvalue p hp).2)
      (by simp [Scalar.DistinctKeys]) (by simpa using hfresh) (by simpa using hsat)

/-- **Every schema in a node is probed by a value that satisfies the node.** -/
theorem exists_probe {c : Value} (hc : Inner mode node c) {y : Value} (hy : y.isPlain = true)
    (hsat : satisfies c y) :
    ∃ x, x.isPlain = true ∧ KindSatisfies satisfies mode node x ∧ x ≠ .null ∧
      Probes mode node c y x := by
  unfold Probes KindSatisfies
  cases hc with
  | property hkind p hp =>
    rw [hkind]
    obtain ⟨es, hplain, hes, hfind⟩ :=
      exists_object_with_property hnode hinner hkind hp hy (Or.inl hsat)
    refine ⟨.map es, hplain, ⟨es, rfl, hes⟩, nofun, ?_⟩
    rintro reading ⟨fs, hfs, hreading⟩
    cases hfs
    exact (hreading.declared p hp y hfind).imp_right fun h => ⟨h.1, h.2.2⟩
  | extra hkind hmode fs hbare =>
    rw [hkind]
    obtain ⟨es, e, hplain, hes, he, rfl, hfresh⟩ :=
      exists_object_with_extra hnode hinner hkind hy (Or.inr (Or.inr ⟨⟨fs, hbare⟩, hsat⟩))
    refine ⟨.map es, hplain, ⟨es, rfl, hes⟩, nofun, ?_⟩
    rintro reading ⟨gs, hgs, hreading⟩
    cases hgs
    rcases hreading.undeclared e he hfresh with houtput | hfree | ⟨-, h⟩
    · exact absurd (houtput.symm.trans hmode) (by decide)
    · exact absurd (hfree.symm.trans hbare) (by simp)
    · exact Or.inl h
  | item hkind htruthy =>
    rw [hkind]
    refine ⟨.list [y], Value.isPlain_list.mpr (by simpa using hy), ⟨[y], rfl, ?_⟩, nofun, ?_⟩
    · exact fun _ z hz => List.mem_singleton.mp hz ▸ hsat
    · rintro reading ⟨items, hitems, hreading⟩
      cases hitems
      exact Or.inl (hreading htruthy y List.mem_cons_self)

end Schema

end ApiTools
