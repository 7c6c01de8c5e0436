import ApiTools.Proofs.ToolName.Renaming
import Mathlib.Tactic.IntervalCases

/-!
# The characters of tool names

A name made from an identifier has small ASCII letters, digits and underscores only, whatever the
identifier is.  What is added to tell names apart does not bring in other characters: it is a method
in small letters, or a number.

## Main definitions

* `ToolName.isNameChar` — the characters.
* `ToolName.capitals` — the letters that are put in small.
* `ToolName.Spelled` — a text of these.

## Main results

* `ToolName.spelled_snakeCase` — **so is an identifier in snake case spelled.**
* `ToolName.IsMadeFrom.exists_rest` — **so are the names made different behind their start**, if the
  names and the methods were.
-/

namespace ApiTools

namespace ToolName

/-- Whether a character may be in a tool name. -/
def isNameChar (c : Char) : Bool := c.isLower || c.isDigit || c == '_'

/-- A text of characters that may be in a tool name. -/
def Spelled (name : String) : Prop := ∀ c ∈ name.toList, isNameChar c = true

/-! ### Snake case -/

/-- The capitals among the ASCII letters. -/
def capitals : List Char := "ABCDEFGHIJKLMNOPQRSTUVWXYZ".toList

theorem mem_capitals {c : Char} (hupper : c.isUpper = true) : c ∈ capitals := by
  obtain ⟨hlow, hhigh⟩ : 65 ≤ c.toNat ∧ c.toNat ≤ 90 := of_decide_eq_true hupper
  rw [← Char.ofNat_toNat c]
  generalize c.toNat = code at hlow hhigh
  interval_cases code <;> decide

/-- What holds of each capital holds of a capital. -/
theorem of_isUpper {p : Char → Bool} (h : capitals.all p = true) {c : Char}
    (hupper : c.isUpper = true) : p c = true :=
  List.all_eq_true.mp h c (mem_capitals hupper)

/-- What is no capital is in small. -/
theorem toLower_of_isUpper_eq_false {c : Char} (h : c.isUpper = false) : c.toLower = c :=
  dif_neg fun hrange => by
    rw [show c.isUpper = true from decide_eq_true hrange] at h
    cases h

theorem isAlphanum_eq (c : Char) :
    c.isAlphanum = ((c.isUpper || c.isLower) || c.isDigit) := rfl

/-- Letters and digits in small letters may be in a name. -/
theorem isNameChar_toLower {c : Char} (h : c.isAlphanum = true) : isNameChar c.toLower = true := by
  by_cases hupper : c.isUpper = true
  · exact of_isUpper (p := fun c => isNameChar c.toLower) (by decide) hupper
  · rw [toLower_of_isUpper_eq_false (by simpa using hupper)]
    simp only [isAlphanum_eq, hupper, Bool.or_eq_true] at h
    simp only [isNameChar, Bool.or_eq_true]
    tauto

theorem isNameChar_underscore (c : Char) : isNameChar (underscore c).toLower = true := by
  unfold underscore
  split
  · next h =>
    rcases (Bool.or_eq_true _ _).mp h with halnum | hbar
    · exact isNameChar_toLower halnum
    · rw [beq_iff_eq.mp hbar]
      rfl
  · rfl

/-- Squeezing runs brings in nothing. -/
theorem squeeze_subset (s : List Char) : squeeze s ⊆ s := by
  fun_induction squeeze s with
  | case1 c d s _ ih => exact List.subset_cons_of_subset c ih
  | case2 c d s _ ih => exact List.cons_subset_cons c ih
  | case3 s => exact List.Subset.refl s

/-- **An identifier in snake case has the characters of names only.** -/
theorem spelled_snakeCase (identifier : String) : Spelled (snakeCase identifier) := by
  intro c hc
  rw [snakeCase, String.toList_ofList, snakeChars] at hc
  obtain ⟨d, hd, rfl⟩ := List.mem_map.mp hc
  obtain ⟨e, -, rfl⟩ := List.mem_map.mp (squeeze_subset _ hd)
  exact isNameChar_underscore e

theorem spelled_append {a b : String} : Spelled (a ++ b) ↔ Spelled a ∧ Spelled b := by
  unfold Spelled
  rw [String.toList_append, List.forall_mem_append]

instance (name : String) : Decidable (Spelled name) :=
  List.decidableBAll (isNameChar · = true) name.toList

/-! ### Names made different -/

theorem spelled_toString (k : Nat) : Spelled (toString k) := by
  intro c hc
  rw [Nat.toString_eq_repr, Nat.toList_repr] at hc
  have hdigit : c.isDigit = true := Nat.isDigit_of_mem_toDigits (by decide) (by decide) hc
  simp [isNameChar, hdigit]

/-- A text with an underscore and an ending is spelled as both are. -/
theorem spelled_append_bar {a ending : String} (ha : Spelled a) (hending : Spelled ending) :
    Spelled (a ++ "_" ++ ending) :=
  spelled_append.mpr ⟨spelled_append.mpr ⟨ha, by decide⟩, hending⟩

/-- **A name made different starts as it did, and goes on with the characters of names only**, if it
did and the method has no others. -/
theorem IsMadeFrom.exists_rest {i : Nat} {start rest method name : String}
    (h : IsMadeFrom i (start ++ rest, method) name) (hrest : Spelled rest)
    (hmethod : Spelled method) : ∃ more, name = start ++ more ∧ Spelled more := by
  obtain ⟨base, hbase, hname⟩ := h
  obtain ⟨own, rfl, hown⟩ : ∃ own, base = start ++ own ∧ Spelled own := by
    rcases hbase with rfl | rfl
    · exact ⟨rest, rfl, hrest⟩
    · exact ⟨rest ++ "_" ++ method, by simp only [String.append_assoc],
        spelled_append_bar hrest hmethod⟩
  rcases hname with rfl | ⟨k, -, -, rfl⟩
  · exact ⟨own, rfl, hown⟩
  · exact ⟨own ++ "_" ++ toString k, by simp only [String.append_assoc],
      spelled_append_bar hown (spelled_toString k)⟩

end ToolName

end ApiTools
