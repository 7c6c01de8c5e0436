import ApiTools.Proofs.Validator.Tree
import Mathlib.Logic.Relation

/-!
# The parts of a validator

A validator is a tree: the validators of the items of a list, of the properties of a map and inside
one that accepts null are right below it.  What is said of every part is said of the validator
itself and of the parts of those right below; a path goes down to one of them at each step, until it
comes to a leaf.

## Main definitions

* `Validator.children` — the validators right below a validator.
* `Validator.Part` — a validator is another one, or somewhere below it.
* `Validator.Path` — a path from a validator down to a leaf.
* `Validator.isLayer` — a validator of lists or of maps.

## Main results

* `Validator.forall_part_iff` — **what every part has, the validator has, and every part of those
  right below it.**
-/

namespace ApiTools

namespace Validator

/-- The validators right below a validator: that of the items of a list, that inside one that
accepts null, those of the properties of a map and the one that comes with its policy. -/
def children : Validator → List Validator
  | .array _ items => [items]
  | .nullable _ inner => [inner]
  | .object _ rules extras => rules.map Rule.validator ++ extras.validator?.toList
  | .any _ | .string _ _ | .literal _ _ | .number _ | .boolean _ => []

/-- A validator is another one, or somewhere below it. -/
def Part (v w : Validator) : Prop := Relation.ReflTransGen (fun v c => c ∈ v.children) v w

/-- A path from a validator down to a leaf, with the validators that it goes through. -/
inductive Path : Validator → List Validator → Prop where
  /-- A leaf has nothing below it. -/
  | leaf {v : Validator} (hv : v.children = []) : Path v [v]
  /-- The path goes on from a validator that is right below. -/
  | down {v c : Validator} {path : List Validator} (hc : c ∈ v.children) (h : Path c path) :
    Path v (v :: path)

/-- Whether a validator is one of lists or of maps. -/
def isLayer : Validator → Bool
  | .array _ _ | .object _ _ _ => true
  | .any _ | .string _ _ | .literal _ _ | .number _ | .boolean _ | .nullable _ _ => false

section

variable {v w c d : Validator} {e : Value}

theorem Part.refl (v : Validator) : v.Part v := Relation.ReflTransGen.refl

/-- A part is the validator itself, or a part of one right below it. -/
theorem part_iff : v.Part w ↔ v = w ∨ ∃ c ∈ v.children, c.Part w :=
  Relation.ReflTransGen.cases_head_iff

/-- **What every part has, the validator has, and every part of those right below it.** -/
theorem forall_part_iff {P : Validator → Prop} :
    (∀ w, v.Part w → P w) ↔ P v ∧ ∀ c ∈ v.children, ∀ w, c.Part w → P w := by
  constructor
  · intro h
    refine ⟨h v (.refl v), fun c hc w hw => h w ?_⟩
    exact part_iff.mpr (.inr ⟨c, hc, hw⟩)
  · rintro ⟨hself, hbelow⟩ w hw
    rcases part_iff.mp hw with rfl | ⟨c, hc, hw⟩
    · exact hself
    · exact hbelow c hc w hw

theorem mem_children_object {rules : List Rule} {extras : Extras} :
    c ∈ (object e rules extras).children ↔
      (∃ rule ∈ rules, rule.validator = c) ∨ extras.validator? = some c := by
  simp [children]

/-- What is below a validator does not depend on its description. -/
theorem children_withDescription (v : Validator) (e : Value) :
    (v.withDescription e).children = v.children := by
  cases v <;> rfl

theorem description_withDescription (v : Validator) (e : Value) :
    (v.withDescription e).description = e := by
  cases v <;> rfl

end

end Validator

end ApiTools
