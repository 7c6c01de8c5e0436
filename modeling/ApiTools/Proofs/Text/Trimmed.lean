import ApiTools.Text.Blank
import Mathlib.Data.List.Basic
import Mathlib.Data.List.TakeWhile

/-!
# Trimmed texts

What is left when characters of a class are taken away from one end of a text is found by cutting the
text in two: one part has such characters only, and the other does not begin with one of them at the
cut.  There is one such cut.  A text is trimmed by a cut at either end.

## Main definitions

* `Text.IsTrimmed` — a text has no white space at its ends.

## Main results

* `Text.dropWhile_eq_iff`, `Text.trimEnd_eq_iff` — what a cut at one end leaves.
* `Text.trim_eq_iff` — **a text is trimmed to the one trimmed text in it with white space around it.**
* `Text.trim_eq_nil_iff` — nothing is left of white space only.
-/

namespace ApiTools

namespace Text

/-- A text has no white space at its ends. -/
structure IsTrimmed (s : List Char) : Prop where
  /-- It does not begin with white space. -/
  head : ∀ c ∈ s.head?, isBlank c = false
  /-- It does not end with white space. -/
  last : ∀ c ∈ s.getLast?, isBlank c = false

/-- A text is trimmed when its first and its last character are no white space, if it has any. -/
theorem isTrimmed_iff {s : List Char} :
    IsTrimmed s ↔
      (s.head?.all fun c => !isBlank c) = true ∧ (s.getLast?.all fun c => !isBlank c) = true := by
  simp only [Option.all_eq_true, Bool.not_eq_true']
  exact ⟨fun h => ⟨h.head, h.last⟩, fun h => ⟨h.1, h.2⟩⟩

instance (s : List Char) : Decidable (IsTrimmed s) := decidable_of_iff' _ isTrimmed_iff

variable {p : Char → Bool} {s t r : List Char}

/-! ### A cut at one end -/

/-- Characters are taken away from the front up to the first one that is not in the class. -/
theorem dropWhile_eq_iff :
    s.dropWhile p = t ↔
      ∃ front, s = front ++ t ∧ (∀ c ∈ front, p c = true) ∧ ∀ c ∈ t.head?, p c = false := by
  constructor
  · rintro rfl
    refine ⟨s.takeWhile p, List.takeWhile_append_dropWhile.symm,
      fun c hc => List.mem_takeWhile_imp hc, fun c hc => ?_⟩
    have hstop := List.head?_dropWhile_not p s
    rwa [Option.mem_def.mp hc] at hstop
  · rintro ⟨front, rfl, hfront, hhead⟩
    rw [List.dropWhile_append_of_pos hfront]
    cases t with
    | nil => rfl
    | cons c t => exact List.dropWhile_cons_of_neg (by simp [hhead c rfl])

/-- Characters are taken away from the end up to the last one that is not in the class. -/
theorem trimEnd_eq_iff :
    trimEnd p s = t ↔
      ∃ tail, s = t ++ tail ∧ (∀ c ∈ tail, p c = true) ∧ ∀ c ∈ t.getLast?, p c = false := by
  rw [trimEnd, List.reverse_eq_iff, dropWhile_eq_iff, List.head?_reverse]
  constructor
  · rintro ⟨front, hs, hfront, hlast⟩
    refine ⟨front.reverse, ?_, fun c hc => hfront c (List.mem_reverse.mp hc), hlast⟩
    rw [← List.reverse_reverse s, hs, List.reverse_append, List.reverse_reverse]
  · rintro ⟨tail, rfl, htail, hlast⟩
    exact ⟨tail.reverse, List.reverse_append, fun c hc => htail c (List.mem_reverse.mp hc), hlast⟩

theorem trimEnd_of_getLast? (h : ∀ c ∈ s.getLast?, p c = false) : trimEnd p s = s :=
  trimEnd_eq_iff.mpr ⟨[], (List.append_nil s).symm, by simp, h⟩

/-- What is put behind a text and taken away with its end makes no difference. -/
theorem trimEnd_append_of_forall (h : ∀ c ∈ r, p c = true) : trimEnd p (s ++ r) = trimEnd p s := by
  obtain ⟨tail, hs, htail, hlast⟩ := trimEnd_eq_iff.mp (rfl : trimEnd p s = trimEnd p s)
  refine trimEnd_eq_iff.mpr ⟨tail ++ r, ?_, List.forall_mem_append.mpr ⟨htail, h⟩, hlast⟩
  rw [← List.append_assoc, ← hs]

/-! ### A cut at both ends -/

/-- The end of a trimmed text may be replaced by something trimmed. -/
theorem IsTrimmed.replaceEnd (h : IsTrimmed (s ++ t)) (hr : IsTrimmed r) (hne : r ≠ []) :
    IsTrimmed (s ++ r) where
  head c hc := by
    rw [List.head?_append, Option.mem_def, Option.or_eq_some_iff] at hc
    rcases hc with hc | ⟨-, hc⟩
    · exact h.head c (List.mem_head?_append_of_mem_head? hc)
    · exact hr.head c hc
  last c hc := hr.last c (by rwa [List.getLast?_append_of_ne_nil s hne] at hc)

/-- **A text is trimmed to the one trimmed text in it with white space around it.** -/
theorem trim_eq_iff :
    trim s = t ↔
      IsTrimmed t ∧ ∃ before after, s = before ++ t ++ after ∧
        (∀ c ∈ before, isBlank c = true) ∧ ∀ c ∈ after, isBlank c = true := by
  constructor
  · rintro rfl
    obtain ⟨before, hs, hbefore, hhead⟩ :=
      dropWhile_eq_iff.mp (rfl : s.dropWhile isBlank = s.dropWhile isBlank)
    obtain ⟨after, hcut, hafter, hlast⟩ :=
      trimEnd_eq_iff.mp (rfl : trimEnd isBlank (s.dropWhile isBlank) = trim s)
    have hrest : s.dropWhile isBlank = trim s ++ after := hcut
    refine ⟨⟨fun c hc => hhead c ?_, hlast⟩, before, after, ?_, hbefore, hafter⟩
    · rw [hrest]
      exact List.mem_head?_append_of_mem_head? hc
    · rw [List.append_assoc, ← hrest, ← hs]
  · rintro ⟨htrimmed, before, after, rfl, hbefore, hafter⟩
    rw [trim, List.append_assoc, List.dropWhile_append_of_pos hbefore]
    cases t with
    -- Between white space only, the first cut takes away the second white space as well.
    | nil => rw [List.nil_append, List.dropWhile_eq_nil_iff.mpr hafter]; rfl
    | cons c t =>
      rw [List.cons_append, List.dropWhile_cons_of_neg (by simp [htrimmed.head c rfl])]
      exact trimEnd_eq_iff.mpr ⟨after, rfl, hafter, htrimmed.last⟩

theorem isTrimmed_trim (s : List Char) : IsTrimmed (trim s) := (trim_eq_iff.mp rfl).1

theorem trim_of_isTrimmed (h : IsTrimmed s) : trim s = s :=
  trim_eq_iff.mpr ⟨h, [], [], by simp, by simp, by simp⟩

/-- Nothing is left of white space only, and of nothing else. -/
theorem trim_eq_nil_iff : trim s = [] ↔ ∀ c ∈ s, isBlank c = true := by
  rw [trim_eq_iff]
  constructor
  · rintro ⟨-, before, after, rfl, hbefore, hafter⟩
    simpa using List.forall_mem_append.mpr ⟨hbefore, hafter⟩
  · exact fun h => ⟨⟨by simp, by simp⟩, s, [], by simp, h, by simp⟩

end Text

end ApiTools
