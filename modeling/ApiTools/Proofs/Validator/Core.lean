import ApiTools.Proofs.Validator.Tree

/-!
# What governs a part of a value

A validator may be wrapped to accept null.  Every other value is checked by what is inside, the
*core*.  So the core says which rules govern the keys of a map, and which validator checks the value
at a key, or an item of a list; where it says nothing, everything is accepted.

## Main definitions

* `Validator.core` — the validator without the wrappers.
* `Validator.rulesAt`, `Validator.entryAt`, `Validator.itemsAt` — what governs keys, entries, items.

## Main results

* `Validator.isValid_core` — **the core accepts the same values, null apart.**
* `Rule.eq_of_declares` — one rule at most is for a key.
-/

namespace ApiTools

namespace Rule

/-- One rule at most is for a key. -/
theorem eq_of_declares {rules : List Rule} (hdistinct : Distinct rules) {key : Scalar}
    {rule rule' : Rule} (hrule : rule ∈ rules) (hrule' : rule' ∈ rules)
    (hkey : rule.declares key = true) (hkey' : rule'.declares key = true) : rule = rule' := by
  have hpairwise : rules.Pairwise fun r s =>
      ∀ k ∈ r.name.scalar?, ∀ l ∈ s.name.scalar?, k.alike l = false :=
    List.pairwise_filterMap.mp hdistinct
  -- Two names of the key are alike.
  have hsame : ∀ {r s : Rule}, r.declares key = true → s.declares key = true →
      (∀ k ∈ r.name.scalar?, ∀ l ∈ s.name.scalar?, k.alike l = false) → False := by
    intro r s hr hs hrs
    obtain ⟨k, hk, hkalike⟩ := declares_iff.mp hr
    obtain ⟨l, hl, hlalike⟩ := declares_iff.mp hs
    have halike : k.alike l = true := Scalar.alike_trans hkalike (Scalar.alike_symm hlalike)
    rw [hrs k hk l hl] at halike
    cases halike
  clear hdistinct
  induction hpairwise with
  | nil => cases hrule
  | @cons r rules hr _ ih =>
    rcases List.mem_cons.mp hrule with rfl | hmem <;>
      rcases List.mem_cons.mp hrule' with rfl | hmem'
    · rfl
    · exact (hsame hkey hkey' (hr _ hmem')).elim
    · exact (hsame hkey' hkey (hr _ hmem)).elim
    · exact ih hmem hmem'

/-- What a rule asks of entries depends on what is at its name only. -/
theorem accepts_congr {rule : Rule} {es fs : Entries}
    (h : ∀ key ∈ rule.name.scalar?, fs.find? key = es.find? key) :
    rule.Accepts fs ↔ rule.Accepts es := by
  unfold Accepts
  cases hname : rule.name.scalar? with
  | none => simp
  | some key =>
    have hfind := h key hname
    simp [Entries.hasKey_eq_isSome_find?, hfind]

end Rule

namespace Validator

/-- The validator without the wrappers that accept null. -/
def core : Validator → Validator
  | .nullable _ inner => core inner
  | v => v

variable {v : Validator} {x : Value}

/-- **The core accepts the same values, null apart.** -/
theorem isValid_core (v : Validator) (hx : x ≠ .null) : v.core.isValid x = v.isValid x := by
  fun_induction core v with
  | case1 d inner ih => rw [ih, Bool.eq_iff_iff, isValid_nullable, or_iff_right hx]
  | case2 => rfl

/-- The core has no wrapper. -/
theorem core_ne_nullable (v : Validator) (d : Value) (inner : Validator) :
    v.core ≠ .nullable d inner := by
  fun_induction core v with
  | case1 _ _ ih => exact ih
  | case2 v h => exact h d inner

/-- The rules for the keys of a map. -/
def rulesAt (v : Validator) : List Rule := v.core.rules?.getD []

/-- The validator of the value at a key. -/
def entryAt (v : Validator) (key : Scalar) : Validator :=
  match v.core with
  | .object _ rules extras =>
    match rules.find? (·.declares key) with
    | some rule => rule.validator
    | none =>
      match extras with
      | .typed w => w
      | .reject _ | .allow _ => .any .null
  | _ => .any .null

/-- The validator of the items of a list. -/
def itemsAt (v : Validator) : Validator :=
  match v.core with
  | .array _ items => items
  | _ => .any .null

end Validator

end ApiTools
