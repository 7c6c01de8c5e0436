import ApiTools.Pointer
import ApiTools.Proofs.Outcome
import Mathlib.Data.List.TakeWhile

/-!
# References that are misread

A reference that leads nowhere fails with the fault of its reference, and a run that follows it ends
in good order.  There is one exception: a segment into a list is taken for an index when it has
digits only, and among these are digit signs, such as superscripts, which no index can be read
from.  Nor can it be read from too many digits.

## Main definitions

* `Pointer.Garbled` — digits that no index can be read from.
* `Pointer.Misreads` — a reference with such a segment into a list.

## Main results

* `Pointer.exists_index_iff` — an index is read from digits that are not garbled.
* `Pointer.resolve_breaks_iff`, `Pointer.failsOnly_resolve_iff` — **a reference fails with another
  fault than its own exactly when it is misread.**
-/

namespace ApiTools

namespace Pointer

/-- Digits that no index can be read from. -/
structure Garbled (segment : List Char) : Prop where
  /-- There is a character. -/
  nonempty : segment ≠ []
  /-- Every character counts as a digit. -/
  digits : ∀ c ∈ segment, Text.isDigit c = true
  /-- One of them is a digit sign, or there are too many. -/
  unreadable : (∃ c ∈ segment, Text.decimalValue? c = none) ∨ Text.maxDigits < segment.length

/-- A reference has a segment into a list that is garbled. -/
inductive Misreads (document : Value) (ref : String) : Prop where
  /-- The segments before it lead to the list. -/
  | intro (before : List (List Char)) (segment : List Char) (after : List (List Char))
    (hsegments : segments? ref.toList = some (before ++ segment :: after)) (node : Value)
    (hnode : before.foldlM (step ref) document = .ok node) (items : List Value)
    (hbare : node.bare = .list items) (hgarbled : Garbled segment)

/-- A numeral is read from decimal digits. -/
theorem exists_naturalOf?_iff {segment : List Char} :
    (∃ n, Text.naturalOf? segment = some n) ↔ ∀ c ∈ segment, Text.decimalValue? c ≠ none := by
  have hfrom : ∀ start, (∃ n, segment.foldlM
      (fun n c => (Text.decimalValue? c).map (n * 10 + ·)) start = some n) ↔
        ∀ c ∈ segment, Text.decimalValue? c ≠ none := by
    induction segment with
    | nil => exact fun start => iff_of_true ⟨start, rfl⟩ (List.forall_mem_nil _)
    | cons c segment ih =>
      intro start
      rw [List.foldlM_cons, List.forall_mem_cons]
      cases hc : Text.decimalValue? c with
      | none => simp
      | some digit => simpa using ih (start * 10 + digit)
  exact hfrom 0

/-- **An index is read from digits that are all decimal and not too many.** -/
theorem exists_index_iff {segment : List Char} :
    (∃ i, index segment = .ok i) ↔
      (∀ c ∈ segment, Text.decimalValue? c ≠ none) ∧ segment.length ≤ Text.maxDigits := by
  unfold index
  dsimp only
  by_cases hdecimal : ∀ c ∈ segment, Text.decimalValue? c ≠ none
  · -- All digits are in front of the first sign then, as there is none.
    have hfront : (segment.takeWhile fun c => (Text.decimalValue? c).isSome) = segment :=
      List.takeWhile_eq_self_iff.mpr fun c hc => Option.isSome_iff_ne_none.mpr (hdecimal c hc)
    obtain ⟨n, hn⟩ := exists_naturalOf?_iff.mpr hdecimal
    rw [hfront, hn]
    split
    · next hlong => simp [Nat.not_le.mpr hlong]
    · next hshort => exact iff_of_true ⟨n, rfl⟩ ⟨hdecimal, Nat.not_lt.mp hshort⟩
  · have hnone : Text.naturalOf? segment = none :=
      Option.eq_none_iff_forall_ne_some.mpr fun n hn => hdecimal (exists_naturalOf?_iff.mp ⟨n, hn⟩)
    rw [hnone]
    refine iff_of_false ?_ fun h => hdecimal h.1
    rintro ⟨i, hi⟩
    split at hi <;> contradiction

/-- Reading an index fails at a digit sign, and at too many digits. -/
theorem exists_index_error_iff {segment : List Char} :
    (∃ e, index segment = .error e) ↔
      (∃ c ∈ segment, Text.decimalValue? c = none) ∨ Text.maxDigits < segment.length := by
  have hfails : (∃ e, index segment = .error e) ↔ ¬∃ i, index segment = .ok i := by
    cases index segment <;> simp
  rw [hfails, exists_index_iff, not_and_or, Nat.not_le]
  simp only [ne_eq, not_forall, not_not, exists_prop]

/-- The faults of an index do not end a run in good order. -/
theorem abortsGeneration_index {segment : List Char} {e : Fault} (h : index segment = .error e) :
    e.abortsGeneration = false := by
  unfold index at h
  dsimp only at h
  split at h
  · cases h
    rfl
  · split at h <;> cases h
    rfl

/-- A step fails with another fault than that of its reference where it is into a list by a garbled
segment. -/
theorem step_breaks_iff {ref : String} {node : Value} {segment : List Char} :
    (∃ e, step ref node segment = .error e ∧ e.abortsGeneration = false) ↔
      ∃ items, node.bare = .list items ∧ Garbled segment := by
  constructor
  · rintro ⟨e, h, hother⟩
    unfold step at h
    split at h
    · split at h <;> cases h
      cases hother
    · next items hbare =>
      split at h
      · cases h
        cases hother
      · next hdigits =>
        simp only [Bool.or_eq_true, not_or, Bool.not_eq_true, List.isEmpty_eq_false_iff,
          Bool.not_eq_false', List.all_eq_true] at hdigits
        refine ⟨items, hbare, hdigits.1, hdigits.2, ?_⟩
        rcases Except.bind_eq_error_iff.mp h with hindex | ⟨i, -, h⟩
        · exact exists_index_error_iff.mp ⟨e, hindex⟩
        · split at h <;> cases h
          cases hother
    · cases h
      cases hother
  · rintro ⟨items, hbare, hnonempty, hdigits, hunreadable⟩
    obtain ⟨e, he⟩ := exists_index_error_iff.mpr hunreadable
    refine ⟨e, ?_, abortsGeneration_index he⟩
    have hall : segment.all Text.isDigit = true := List.all_eq_true.mpr hdigits
    have hcond : (segment.isEmpty || !segment.all Text.isDigit) = false := by
      rw [hall, List.isEmpty_eq_false_iff.mpr hnonempty]
      rfl
    unfold step
    rw [hbare]
    dsimp only
    rw [hcond, he]
    rfl

/-- **A reference fails with another fault than that of its reference exactly when it is
misread.** -/
theorem resolve_breaks_iff {document : Value} {ref : String} :
    (∃ e, resolve document ref = .error e ∧ e.abortsGeneration = false) ↔
      Misreads document ref := by
  unfold resolve
  constructor
  · rintro ⟨e, h, hother⟩
    split at h
    · cases h
      cases hother
    · next segments hsegments =>
      obtain ⟨before, segment, after, node, rfl, hnode, h⟩ := Except.foldlM_eq_error_iff.mp h
      obtain ⟨items, hbare, hgarbled⟩ := step_breaks_iff.mp ⟨e, h, hother⟩
      exact .intro before segment after hsegments node hnode items hbare hgarbled
  · rintro ⟨before, segment, after, hsegments, node, hnode, items, hbare, hgarbled⟩
    obtain ⟨e, h, hother⟩ := step_breaks_iff.mpr ⟨items, hbare, hgarbled⟩
    rw [hsegments]
    exact ⟨e, Except.foldlM_eq_error_iff.mpr ⟨before, segment, after, node, rfl, hnode, h⟩, hother⟩

/-- **A reference fails with its own fault only, exactly when it is not misread.** -/
theorem failsOnly_resolve_iff {document : Value} {ref : String} :
    (resolve document ref).FailsOnly (·.abortsGeneration = true) ↔ ¬Misreads document ref := by
  rw [← resolve_breaks_iff]
  exact Except.FailsOnly.iff_not_exists

end Pointer

end ApiTools
