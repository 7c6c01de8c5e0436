import ApiTools.Proofs.Value.Plain
import ApiTools.Value.Literal

/-!
# What is written is never empty

Every literal has a character in it, whatever the value.  In running text a text stands as it is, so
there only the empty text leaves nothing; and that one does not count as given.

## Main results

* `Value.literalWithin_ne_empty` — a literal is not empty.
* `Value.display_ne_empty` — **what counts as given shows.**
-/

namespace ApiTools

theorem Double.layout_ne_empty (digits : List Char) (point : Int) : layout digits point ≠ "" := by
  unfold layout
  dsimp only
  split
  · have hmark : (if point - 1 < 0 then "e-" else "e+") ≠ "" := by split <;> simp
    simp only [Ne, String.append_eq_empty_iff, hmark, and_false, false_and, not_false_eq_true]
  · split
    · simp [String.append_eq_empty_iff]
    · split <;> simp [String.append_eq_empty_iff]

theorem Double.toText_ne_empty (d : Double) : d.toText ≠ "" := by
  cases d with
  | nan => simp [toText]
  | infinite negative => cases negative <;> simp [toText]
  | finite negative m e =>
    rw [toText, Ne, String.append_eq_empty_iff, not_and]
    intro _
    unfold magnitudeText
    split
    · simp
    · exact layout_ne_empty _ _

theorem Stamp.dayText_ne_empty (d : Day) : dayText d ≠ "" := by
  simp [dayText, String.append_eq_empty_iff]

theorem Stamp.toText_ne_empty (t : Stamp) : t.toText ≠ "" := by
  cases t with
  | day d => exact dayText_ne_empty d
  | moment d c ahead => simp [toText, String.append_eq_empty_iff]

theorem Stamp.toLiteral_ne_empty (t : Stamp) : t.toLiteral ≠ "" := by
  -- Either literal ends in a bracket.
  have hends : ∀ s : String, s ++ ")" ≠ "" := by simp [String.append_eq_empty_iff]
  cases t with
  | day d =>
    unfold toLiteral
    exact hends _
  | moment d c ahead =>
    unfold toLiteral
    exact hends _

theorem Scalar.toLiteral_ne_empty (s : Scalar) : s.toLiteral ≠ "" := by
  cases s with
  | null => simp [toLiteral]
  | bool b => cases b <;> simp [toLiteral]
  | int n =>
    cases n with
    | ofNat n => exact Nat.repr_ne_empty
    | negSucc n => exact fun h => absurd (String.append_eq_empty_iff.mp h).1 (by simp)
  | double d => exact d.toText_ne_empty
  | text s => simp [toLiteral, quoteText, Text.quoted]
  | stamp t => exact t.toLiteral_ne_empty
  | bytes b => simp [toLiteral, quoteBytes, String.append_eq_empty_iff]

namespace Value

/-- A literal is not empty. -/
theorem literalWithin_ne_empty (v : Value) : ∀ around, v.literalWithin around ≠ "" := by
  induction v using inductionOn with
  | scalar s => exact fun _ => s.toLiteral_ne_empty
  | list items => simp [literalWithin, String.append_eq_empty_iff]
  | map es => simp [literalWithin, String.append_eq_empty_iff]
  | group form items =>
    intro around
    cases form with
    | pair => simp [literalWithin, String.append_eq_empty_iff]
    | set =>
      rw [literalWithin]
      split <;> simp [String.append_eq_empty_iff]
  | knot label inside ih =>
    intro around
    rw [literalWithin]
    split
    · unfold dots
      split <;> simp
    · exact ih _

/-- **What counts as given shows.** -/
theorem display_ne_empty {v : Value} (h : v.isTruthy = true) : v.display ≠ "" := by
  cases v with
  | scalar s =>
    cases s with
    | text s => simpa [display, Scalar.display, isTruthy] using h
    | stamp t => exact t.toText_ne_empty
    | null => exact Scalar.toLiteral_ne_empty .null
    | bool b => exact Scalar.toLiteral_ne_empty (.bool b)
    | int n => exact Scalar.toLiteral_ne_empty (.int n)
    | double d => exact Scalar.toLiteral_ne_empty (.double d)
    | bytes b => exact Scalar.toLiteral_ne_empty (.bytes b)
  | list | map | group | knot => exact literalWithin_ne_empty _ []

end Value

end ApiTools
