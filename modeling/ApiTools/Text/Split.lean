/-!
# The parts of a text

A text is cut at every separator, and the parts with separators between them are the text again.

## Main definitions

* `Text.split` — the parts of a text between separators.

## Main results

* `Text.intercalate_split` — nothing is lost.
* `Text.split_intercalate` — parts without separators are found again.
-/

namespace ApiTools

namespace Text

/-- The parts of a text between separators. A text without a separator is one part. -/
def split (separator : Char) : List Char → List (List Char)
  | [] => [[]]
  | c :: s =>
    if c = separator then [] :: split separator s
    else
      match split separator s with
      | first :: rest => (c :: first) :: rest
      | [] => [[c]]

/-- There is always a part. -/
theorem split_ne_nil (separator : Char) (s : List Char) : split separator s ≠ [] := by
  fun_cases split separator s <;> simp

/-- The parts with separators between them are the text. -/
theorem intercalate_split (separator : Char) (s : List Char) :
    [separator].intercalate (split separator s) = s := by
  fun_induction split separator s with
  | case1 => rfl
  | case2 s ih =>
    obtain ⟨first, rest, hs⟩ := List.exists_cons_of_ne_nil (split_ne_nil separator s)
    simp_all [List.intercalate]
  | case3 c s h first rest hs ih =>
    rw [hs] at ih
    cases rest <;> simp_all [List.intercalate]
  | case4 c s h hs => exact absurd hs (split_ne_nil separator s)

variable {separator : Char}

/-- A text without separators is one part. -/
theorem split_of_not_mem {s : List Char} (h : separator ∉ s) : split separator s = [s] := by
  induction s with
  | nil => rfl
  | cons c s ih =>
    rw [List.mem_cons, not_or] at h
    rw [split, if_neg (Ne.symm h.1), ih h.2]

/-- The first part ends at the first separator. -/
theorem split_append {s : List Char} (h : separator ∉ s) (t : List Char) :
    split separator (s ++ separator :: t) = s :: split separator t := by
  induction s with
  | nil => rw [List.nil_append, split, if_pos rfl]
  | cons c s ih =>
    rw [List.mem_cons, not_or] at h
    rw [List.cons_append, split, if_neg (Ne.symm h.1), ih h.2]

/-- Parts without separators are found again. -/
theorem split_intercalate {parts : List (List Char)} (hparts : parts ≠ [])
    (h : ∀ part ∈ parts, separator ∉ part) :
    split separator ([separator].intercalate parts) = parts := by
  induction parts with
  | nil => exact absurd rfl hparts
  | cons part parts ih =>
    obtain ⟨hpart, hrest⟩ := List.forall_mem_cons.mp h
    cases parts with
    | nil => rw [List.intercalate_singleton, split_of_not_mem hpart]
    | cons second parts =>
      rw [List.intercalate_cons_cons, List.append_assoc, List.singleton_append,
        split_append hpart, ih (List.cons_ne_nil _ _) hrest]

end Text

end ApiTools
