import ApiTools.Proofs.Schema.Built
import ApiTools.Proofs.Validator.Parts

/-!
# The parts of a compiled validator

The validators right below that of a node are compiled from the schemas in the node, with less room
than the node has, or accept everything.  So what holds of every part of a compiled validator is
proved along the room; nothing is asked of the document, whose references may run in circles.

## Main results

* `Schema.mem_children_bareValidator` — **what is right below the validator of a node is compiled from
  a schema in it**, or accepts everything.
* `Schema.of_part` — a property of compiled validators is shown of every part of them at once.
* `Schema.documents_of_part` — **every part of a compiled validator is documented by a text that is
  not empty, or not at all.**
* `Schema.countP_isLayer_le` — **a path down a compiled validator goes through no more lists and maps
  than there was room.**
-/

namespace ApiTools

namespace Schema

open Validator

variable {document schema : Value} {mode : Mode} {room : Nat} {visited : List String}
variable {compileChild : Value → Except Fault Validator} {node : Entries} {v w c : Validator}

/-! ### What is right below -/

theorem description_stringValidator (values : List Value) :
    (stringValidator mode values).description = .null := by
  unfold stringValidator
  split
  · rfl
  · split <;> rfl

theorem description_bareValidator (h : bareValidator compileChild mode node = .ok w) :
    w.description = .null := by
  cases bareValidator_eq_ok_iff.mp h with
  | string _ hw => exact hw ▸ description_stringValidator _
  | object _ _ _ _ _ _ _ hw | items _ _ _ _ hw | freeItems _ _ hw | number _ hw | boolean _ hw
  | listed _ _ hw | unlisted _ _ hw | free _ hw => exact hw ▸ rfl

theorem children_stringValidator (values : List Value) :
    (stringValidator mode values).children = [] := by
  unfold stringValidator
  split
  · rfl
  · split <;> rfl

/-- **What is right below the validator of a node is compiled from a schema in it**, or accepts
everything. -/
theorem mem_children_bareValidator (h : bareValidator compileChild mode node = .ok w)
    (hc : c ∈ w.children) :
    c = .any .null ∨ ∃ s, Inner mode node s ∧ compileChild s = .ok c := by
  cases bareValidator_eq_ok_iff.mp h with
  | object hkind required rules extras _ hrules hextras hw =>
    subst hw
    rcases mem_children_object.mp hc with ⟨rule, hrule, rfl⟩ | hc
    · obtain ⟨p, hp, v, hv, rfl⟩ := List.exists_of_mem_forall₂ hrules.flip hrule
      exact .inr ⟨p.2, .property hkind p hp, hv⟩
    · exact .inr ⟨_, hextras.inner hkind hc⟩
  | items hkind htruthy v hv hw =>
    subst hw
    obtain rfl := List.mem_singleton.mp hc
    exact .inr ⟨_, .item hkind htruthy, hv⟩
  | freeItems _ _ hw =>
    subst hw
    exact .inl (List.mem_singleton.mp hc)
  | string _ hw =>
    rw [hw, children_stringValidator] at hc
    cases hc
  | number _ hw | boolean _ hw | listed _ _ hw | unlisted _ _ hw | free _ hw =>
    subst hw
    cases hc

/-- Documenting a node puts no part below its validator, and takes none away. -/
theorem children_described (h : described node v = .ok w) : w.children = v.children := by
  obtain ⟨text?, -, rfl⟩ := described_eq_ok_iff.mp h
  cases text? with
  | none => rfl
  | some text => exact children_withDescription v _

theorem documents_described (h : described node v = .ok w) (hv : v.description = .null) :
    w.description.Documents fun _ => True := by
  obtain ⟨text?, htext, rfl⟩ := described_eq_ok_iff.mp h
  cases text? with
  | none => exact .inl hv
  | some text =>
    exact .inr ⟨text, ne_empty_of_documentation htext, trivial, description_withDescription v _⟩

/-! ### All parts -/

/-- The validator that accepts everything is its only part. -/
theorem eq_of_part_any {d : Value} (h : (any d).Part w) : w = .any d := by
  rcases part_iff.mp h with rfl | ⟨c, hc, -⟩
  · rfl
  · cases hc

/-- **What the validators of nodes have, and those that accept everything or null, every part of a
compiled validator has.** -/
theorem of_part {Q : Validator → Prop} (hany : Q (.any .null))
    (hnode : ∀ {compileChild : Value → Except Fault Validator} {node : Entries} {bare w : Validator},
      bareValidator compileChild mode node = .ok bare → described node bare = .ok w → Q w)
    (hnull : ∀ w, Q (.nullable .null w))
    (h : compileWithin document mode room schema visited = .ok v) (hw : v.Part w) : Q w := by
  have hleaf : ∀ {w}, (any .null).Part w → Q w := by
    intro w hw
    rw [eq_of_part_any hw]
    exact hany
  induction room generalizing schema visited v w with
  | zero =>
    cases h
    exact hleaf hw
  | succ room ih =>
    cases compileWithin_succ_iff.mp h with
    | cut _ _ _ hv => exact hleaf (hv ▸ hw)
    | built r _ _ bare described hbare hdescribed hv =>
      -- What is below the described validator is compiled with less room.
      have hinner : ∀ w, described.Part w → Q w := by
        refine forall_part_iff.mpr ⟨hnode hbare hdescribed, fun c hc w hw => ?_⟩
        rw [children_described hdescribed] at hc
        rcases mem_children_bareValidator hbare hc with rfl | ⟨s, -, hs⟩
        · exact hleaf hw
        · exact ih hs hw
      subst hv
      unfold withNull at hw
      split at hw
      · rcases part_iff.mp hw with rfl | ⟨c, hc, hbelow⟩
        · exact hnull _
        · obtain rfl := List.mem_singleton.mp hc
          exact hinner w hbelow
      · exact hinner w hw

/-- **Every part of a compiled validator is documented by a text that is not empty, or not at
all.** -/
theorem documents_of_part (h : compileWithin document mode room schema visited = .ok v)
    (hw : v.Part w) : w.description.Documents fun _ => True := by
  refine of_part (Q := fun w => w.description.Documents fun _ => True) (.inl rfl) ?_
    (fun _ => .inl rfl) h hw
  intro compileChild node bare w hbare hdescribed
  exact documents_described hdescribed (description_bareValidator hbare)

/-! ### Layers on a path -/

/-- Only the validator itself is on a path from one that accepts everything. -/
theorem countP_path_any {d : Value} {path : List Validator} (h : (any d).Path path) :
    path.countP isLayer = 0 := by
  cases h with
  | leaf => rfl
  | down hc => cases hc

/-- **A path down a compiled validator goes through no more lists and maps than there was room.** -/
theorem countP_isLayer_le (h : compileWithin document mode room schema visited = .ok v)
    {path : List Validator} (hpath : v.Path path) : path.countP isLayer ≤ room := by
  induction room generalizing schema visited v path with
  | zero =>
    cases h
    rw [countP_path_any hpath]
  | succ room ih =>
    cases compileWithin_succ_iff.mp h with
    | cut _ _ _ hv =>
      rw [countP_path_any (hv ▸ hpath)]
      exact Nat.zero_le _
    | built r _ _ bare described hbare hdescribed hv =>
      -- The validator of the node is one more layer at most, above what has less room.
      have hself : ∀ {path}, described.Path path → path.countP isLayer ≤ room + 1 := by
        intro path hpath
        cases hpath with
        | leaf =>
          rw [List.countP_singleton]
          split <;> omega
        | @down _ c path hc hpath =>
          rw [children_described hdescribed] at hc
          have hbelow : path.countP isLayer ≤ room := by
            rcases mem_children_bareValidator hbare hc with rfl | ⟨s, -, hs⟩
            · rw [countP_path_any hpath]
              exact Nat.zero_le _
            · exact ih hs hpath
          rw [List.countP_cons]
          split <;> omega
      subst hv
      unfold withNull at hpath
      split at hpath
      · -- What accepts null is no layer.
        cases hpath with
        | leaf hv => cases hv
        | down hc hpath =>
          obtain rfl := List.mem_singleton.mp hc
          rw [List.countP_cons_of_neg (by simp [isLayer])]
          exact hself hpath
      · exact hself hpath

end Schema

end ApiTools
