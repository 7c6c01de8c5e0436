import ApiTools.Proofs.Outcome
import ApiTools.Proofs.Validator.Tree

/-!
# Rules in another order

A map is checked against each of its rules, so that their order makes no difference to what is
accepted.  Nor does the spelling of their names: a name that is no text may be spelled in several ways
as a key.

## Main definitions

* `Rule.Same` — two rules ask the same of one property.
* `Rule.SameUpToOrder` — the same rules in some order.

## Main results

* `Rule.SameUpToOrder.perm` — with texts as names, such lists are rearrangements of each other.
* `Validator.isValid_object_of_sameUpToOrder` — **the same rules in any order accept the same
  values.**
-/

namespace ApiTools

namespace Rule

/-- Two rules ask the same of one property: their names are one key, and nothing else differs. -/
structure Same (rule other : Rule) : Prop where
  /-- Their names are one key. -/
  name : ∃ k l, rule.name = .scalar k ∧ other.name = .scalar l ∧ k.alike l = true
  /-- They have one validator. -/
  validator : rule.validator = other.validator
  /-- Both require the property, or neither does. -/
  required : rule.required = other.required
  /-- Both leave null in its place, or neither does. -/
  nullable : rule.nullable = other.nullable

/-- The same rules in some order. -/
def SameUpToOrder (rules others : List Rule) : Prop :=
  ∃ ordered : List Rule, ordered.Perm others ∧ List.Forall₂ Same rules ordered

namespace Same

variable {rule other : Rule}

/-- The same rules accept the same entries. -/
theorem accepts_iff (h : rule.Same other) (es : Entries) : rule.Accepts es ↔ other.Accepts es := by
  obtain ⟨k, l, hk, hl, halike⟩ := h.name
  unfold Accepts admitsNull isRequired
  rw [hk, hl, h.validator, h.required, h.nullable]
  simp only [Value.scalar?, Option.any_some, Option.mem_some_iff, forall_eq',
    Entries.hasKey_congr halike, Entries.find?_congr halike]

/-- The same rules are for the same keys. -/
theorem declares_eq (h : rule.Same other) (key : Scalar) : rule.declares key = other.declares key := by
  obtain ⟨k, l, hk, hl, halike⟩ := h.name
  unfold declares
  rw [hk, hl, Value.scalar?, Value.scalar?, Option.any_some, Option.any_some, Scalar.alike_comm k,
    Scalar.alike_comm l, Scalar.alike_congr halike]

/-- The same rules are equal if the name is a text. -/
theorem eq_of_text (h : rule.Same other) (hrule : ∃ s, rule.name = .text s) : rule = other := by
  obtain ⟨k, l, hk, hl, halike⟩ := h.name
  obtain ⟨s, hs⟩ := hrule
  cases hk.symm.trans hs
  obtain rfl := Scalar.text_alike_iff.mp halike
  obtain ⟨name, validator, required, nullable⟩ := rule
  obtain ⟨name', validator', required', nullable'⟩ := other
  obtain rfl : name = name' := hs.trans hl.symm
  obtain rfl : validator = validator' := h.validator
  obtain rfl : required = required' := h.required
  obtain rfl : nullable = nullable' := h.nullable
  rfl

end Same

namespace SameUpToOrder

variable {rules others : List Rule}

/-- What holds of all rules alike holds of all the same rules in another order. -/
theorem forall_iff (h : SameUpToOrder rules others) {P : Rule → Prop}
    (hP : ∀ rule other, rule.Same other → (P rule ↔ P other)) :
    (∀ rule ∈ rules, P rule) ↔ ∀ other ∈ others, P other := by
  obtain ⟨ordered, hperm, hsame⟩ := h
  rw [List.forall_mem_iff_of_forall₂ hsame fun rule _ other => hP rule other]
  simp only [hperm.mem_iff]

/-- **With texts as names, the same rules in another order are a rearrangement.** -/
theorem perm (h : SameUpToOrder rules others) (htexts : ∀ rule ∈ rules, ∃ s, rule.name = .text s) :
    rules.Perm others := by
  obtain ⟨ordered, hperm, hsame⟩ := h
  have heq : List.Forall₂ Eq rules ordered :=
    ((List.forall₂_and_left _ _).mpr ⟨htexts, hsame⟩).imp fun _ _ h => h.2.eq_of_text h.1
  rw [List.forall₂_eq_eq_eq] at heq
  exact heq ▸ hperm

end SameUpToOrder

end Rule

namespace Validator

open JsonSchema Rule

/-- **The same rules in any order accept the same values.** -/
theorem isValid_object_of_sameUpToOrder {rules others : List Rule} (h : SameUpToOrder rules others)
    (hrules : Distinct rules) (hothers : Distinct others) (d e : Value) (extras : Extras)
    (x : Value) : (object d rules extras).isValid x = (object e others extras).isValid x := by
  rw [Bool.eq_iff_iff, isValid_object hrules, isValid_object hothers]
  refine exists_congr fun es => and_congr_right fun _ => and_congr ?_ ?_
  · exact h.forall_iff fun rule other hsame => hsame.accepts_iff es
  · have hundeclared : ∀ e, e ∈ undeclared (keys rules) es ↔ e ∈ undeclared (keys others) es := by
      intro e
      rw [mem_undeclared_keys_iff, mem_undeclared_keys_iff,
        h.forall_iff fun rule other hsame => by rw [hsame.declares_eq]]
    cases extras with
    | reject spare => simp [Extras.Accepts, List.eq_nil_iff_forall_not_mem, hundeclared]
    | allow spare => rfl
    | typed v => simp [Extras.Accepts, hundeclared]

end Validator

end ApiTools
