import ApiTools.Proofs.ToolName.Alphabet
import Mathlib.Data.List.Chain

/-!
# Snake case in one pass

An identifier is put in snake case by rewriting all of it six times.  One pass over its characters
gives the same, if it remembers the character before: a letter or digit is taken over in small, with
an underscore in front of a capital that follows a small letter, and each run of other characters
becomes one underscore.

A small letter with a capital behind it is skipped together with that capital when underscores are put
in, so a pair that starts at the capital is not looked at.  No such pair is one to split, for a
capital is no small letter.

## Main definitions

* `ToolName.onePass` — the pass, behind a given character.

## Main results

* `ToolName.snakeChars_eq_onePass` — **the six rewrites give what one pass gives.**
* `ToolName.isChain_snakeChars` — no two underscores follow each other.
* `ToolName.snakeCase_snakeCase` — **snake case stays as it is.**
-/

namespace ApiTools

namespace ToolName

/-- A text in snake case, from a place behind the given character on: a letter or digit is written in
small, with an underscore in front of a capital that follows a small letter; of a run of other
characters, the first one is written as an underscore. -/
def onePass (before : Option Char) : List Char → List Char
  | [] => []
  | c :: s =>
    if c.isAlphanum then
      (if before.any Char.isLower && c.isUpper then ['_', c.toLower] else [c.toLower])
        ++ onePass (some c) s
    else if before.any fun b => !b.isAlphanum then onePass (some c) s
    else '_' :: onePass (some c) s

/-! ### Classes of characters -/

section

variable {c d : Char}

theorem isAlphanum_of_isLower (h : c.isLower = true) : c.isAlphanum = true := by
  simp [isAlphanum_eq, h]

theorem isAlphanum_of_isUpper (h : c.isUpper = true) : c.isAlphanum = true := by
  simp [isAlphanum_eq, h]

/-- A capital is no small letter. -/
theorem isLower_eq_false_of_isUpper (h : c.isUpper = true) : c.isLower = false := by
  simpa using of_isUpper (p := fun c => !c.isLower) (by decide) h

/-- The character that the rewrites leave of one before letters are put in small. -/
theorem underscore_dotless (c : Char) :
    underscore (dotless c) = if c.isAlphanum then c else '_' := by
  unfold dotless
  split
  · next h => rw [h]; rfl
  · unfold underscore
    by_cases hbar : c = '_'
    · rw [hbar]; rfl
    · simp [hbar]

/-- An underscore is left in place of what is no letter or digit, and only there. -/
theorem underscore_dotless_eq_bar_iff : underscore (dotless c) = '_' ↔ c.isAlphanum = false := by
  rw [underscore_dotless]
  cases h : c.isAlphanum with
  | false => simp
  | true =>
    simp only [if_true, Bool.true_eq_false, iff_false]
    rintro rfl
    revert h
    decide

theorem isLower_dotless (c : Char) : (dotless c).isLower = c.isLower := by
  unfold dotless
  split
  · next h => rw [h]; rfl
  · rfl

theorem isUpper_dotless (c : Char) : (dotless c).isUpper = c.isUpper := by
  unfold dotless
  split
  · next h => rw [h]; rfl
  · rfl

end

/-! ### The rewrites, one character at a time -/

/-- Nothing is lost by going on behind a pair: the next pair to split does not start in it. -/
theorem splitHumps_cons_cons (c d : Char) (s : List Char) :
    splitHumps (c :: d :: s) =
      if c.isLower && d.isUpper then c :: '_' :: splitHumps (d :: s)
      else c :: splitHumps (d :: s) := by
  rw [splitHumps]
  split
  · next h =>
    have hlower : d.isLower = false :=
      isLower_eq_false_of_isUpper ((Bool.and_eq_true _ _).mp h).2
    cases s with
    | nil => rfl
    | cons e s => rw [splitHumps, if_neg (by simp [hlower])]
  · rfl

/-- What the rewrites make of a text before runs of underscores are cut. -/
def marked (s : List Char) : List Char := (splitHumps (s.map dotless)).map underscore

theorem marked_cons_cons (c d : Char) (s : List Char) :
    marked (c :: d :: s) =
      if c.isLower && d.isUpper then underscore (dotless c) :: '_' :: marked (d :: s)
      else underscore (dotless c) :: marked (d :: s) := by
  unfold marked
  rw [List.map_cons, List.map_cons, splitHumps_cons_cons, isLower_dotless, isUpper_dotless]
  split <;> rfl

/-- A character that is written in place stands at the head. -/
theorem exists_marked_eq (c : Char) (s : List Char) :
    ∃ rest, marked (c :: s) = underscore (dotless c) :: rest := by
  cases s with
  | nil => exact ⟨[], rfl⟩
  | cons d s =>
    rw [marked_cons_cons]
    split
    · exact ⟨_, rfl⟩
    · exact ⟨_, rfl⟩

theorem squeeze_cons_cons (c d : Char) (s : List Char) :
    squeeze (c :: d :: s) =
      if c = '_' ∧ d = '_' then squeeze (d :: s) else c :: squeeze (d :: s) := by
  rw [squeeze]

/-- **What the rewrites make of a text starts with what they make of its first character, and goes on
with one pass behind it.** -/
theorem map_toLower_squeeze_marked (c : Char) (s : List Char) :
    (squeeze (marked (c :: s))).map Char.toLower =
      (underscore (dotless c)).toLower :: onePass (some c) s := by
  -- Along the text, with the character before it.
  induction s generalizing c with
  | nil => rfl
  | cons d s ih =>
    have ih := ih d
    obtain ⟨rest, hrest⟩ := exists_marked_eq d s
    rw [marked_cons_cons]
    by_cases hhump : (c.isLower && d.isUpper) = true
    · -- A small letter and a capital: the underscore between them is alone.
      obtain ⟨hlower, hupper⟩ := (Bool.and_eq_true _ _).mp hhump
      have hc : underscore (dotless c) ≠ '_' := fun h => by
        rw [underscore_dotless_eq_bar_iff, isAlphanum_of_isLower hlower] at h
        cases h
      have hd : underscore (dotless d) ≠ '_' := fun h => by
        rw [underscore_dotless_eq_bar_iff, isAlphanum_of_isUpper hupper] at h
        cases h
      rw [if_pos hhump, squeeze_cons_cons, if_neg fun h => hc h.1]
      rw [hrest] at ih ⊢
      rw [squeeze_cons_cons, if_neg fun h => hd h.2, List.map_cons, List.map_cons, ih]
      have halnum := isAlphanum_of_isUpper hupper
      rw [onePass, if_pos halnum, Option.any_some, if_pos hhump, underscore_dotless d, if_pos halnum]
      rfl
    · rw [if_neg hhump]
      rw [hrest] at ih ⊢
      rw [squeeze_cons_cons]
      cases hd : d.isAlphanum with
      | true =>
        have hbar : ¬(underscore (dotless c) = '_' ∧ underscore (dotless d) = '_') := fun h => by
          rw [underscore_dotless_eq_bar_iff, underscore_dotless_eq_bar_iff, hd] at h
          cases h.2
        rw [if_neg hbar, List.map_cons, ih, onePass, if_pos hd, Option.any_some, if_neg hhump,
          underscore_dotless d, if_pos hd]
        rfl
      | false =>
        have hbar := underscore_dotless_eq_bar_iff.mpr hd
        cases hc : c.isAlphanum with
        | true =>
          have hne : ¬(underscore (dotless c) = '_' ∧ underscore (dotless d) = '_') := fun h => by
            rw [underscore_dotless_eq_bar_iff, hc] at h
            cases h.1
          rw [if_neg hne, List.map_cons, ih, onePass, hd, hbar]
          simp [hc]
        | false =>
          -- Inside a run nothing is written.
          have hc' := underscore_dotless_eq_bar_iff.mpr hc
          rw [if_pos ⟨hc', hbar⟩, ih, onePass, hd, hbar, hc']
          simp [hc]

/-- **The six rewrites give what one pass gives.** -/
theorem snakeChars_eq_onePass (s : List Char) : snakeChars s = onePass none (dropSlash s) := by
  unfold snakeChars
  cases dropSlash s with
  | nil => rfl
  | cons c s =>
    have hpass := map_toLower_squeeze_marked c s
    rw [marked] at hpass
    rw [hpass, underscore_dotless, onePass]
    cases h : c.isAlphanum with
    | true => simp
    | false => simp

/-! ### No two underscores -/

/-- Two characters are not both underscores. -/
def NotBothBars (c d : Char) : Prop := ¬(c = '_' ∧ d = '_')

/-- No other character becomes an underscore when it is put in small. -/
theorem eq_bar_of_toLower {c : Char} (h : c.toLower = '_') : c = '_' := by
  cases hupper : c.isUpper with
  | false => rwa [toLower_of_isUpper_eq_false hupper] at h
  | true =>
    have hother := of_isUpper (p := fun c => c.toLower != '_') (by decide) hupper
    exact absurd h (by simpa using hother)

/-- What a text starts with stays at the head when runs are cut. -/
theorem exists_squeeze_eq (c : Char) (s : List Char) : ∃ rest, squeeze (c :: s) = c :: rest := by
  induction s generalizing c with
  | nil => exact ⟨[], rfl⟩
  | cons d s ih =>
    rw [squeeze_cons_cons]
    split
    · next h =>
      obtain ⟨rest, hrest⟩ := ih d
      exact ⟨rest, by rw [hrest, h.1, h.2]⟩
    · exact ⟨_, rfl⟩

theorem isChain_squeeze (s : List Char) : (squeeze s).IsChain NotBothBars := by
  fun_induction squeeze s with
  | case1 c d s _ ih => exact ih
  | case2 c d s hbars ih =>
    obtain ⟨rest, hrest⟩ := exists_squeeze_eq d s
    rw [hrest] at ih ⊢
    exact .cons_cons hbars ih
  | case3 s hshort =>
    cases s with
    | nil => exact .nil
    | cons c s =>
      cases s with
      | nil => exact .singleton c
      | cons d s => exact absurd rfl (hshort c d s)

/-- **No two underscores follow each other in snake case.** -/
theorem isChain_snakeChars (s : List Char) : (snakeChars s).IsChain NotBothBars := by
  unfold snakeChars
  rw [List.isChain_map]
  refine (isChain_squeeze _).imp fun c d h hbars => h ?_
  exact ⟨eq_bar_of_toLower hbars.1, eq_bar_of_toLower hbars.2⟩

/-- Two underscores do not stand anywhere in such a text. -/
theorem not_infix_of_isChain {s : List Char} (h : s.IsChain NotBothBars) :
    ¬['_', '_'] <:+: s := by
  intro hinfix
  have hpair : NotBothBars '_' '_' := by
    have hchain := h.infix hinfix
    simpa using hchain
  exact hpair ⟨rfl, rfl⟩

/-! ### Snake case again -/

section

variable {c : Char}

theorem isUpper_eq_false_of_isNameChar (h : isNameChar c = true) : c.isUpper = false := by
  cases hupper : c.isUpper with
  | false => rfl
  | true =>
    have hother := of_isUpper (p := fun c => !isNameChar c) (by decide) hupper
    simp [h] at hother

theorem eq_bar_of_isNameChar (h : isNameChar c = true) (halnum : c.isAlphanum = false) :
    c = '_' := by
  simp only [isNameChar, Bool.or_eq_true, beq_iff_eq] at h
  simp only [isAlphanum_eq, Bool.or_eq_false_iff] at halnum
  simpa [halnum] using h

/-- The pass takes over the characters of names, as long as no two underscores follow each other. -/
theorem onePass_eq_self {s : List Char} (hname : ∀ d ∈ c :: s, isNameChar d = true)
    (hchain : (c :: s).IsChain NotBothBars) : onePass (some c) s = s := by
  induction s generalizing c with
  | nil => rfl
  | cons d s ih =>
    obtain ⟨hc, hrest⟩ := List.forall_mem_cons.mp hname
    have hd := (List.forall_mem_cons.mp hrest).1
    obtain ⟨hbars, hchain⟩ := List.isChain_cons_cons.mp hchain
    have hupper := isUpper_eq_false_of_isNameChar hd
    rw [onePass, ih hrest hchain]
    cases halnum : d.isAlphanum with
    | true => simp [hupper, toLower_of_isUpper_eq_false hupper]
    | false =>
      -- The underscore is the first of its run, for the one before it would be another.
      have hbar := eq_bar_of_isNameChar hd halnum
      have hbefore : c.isAlphanum = true := by
        by_contra hno
        exact hbars ⟨eq_bar_of_isNameChar hc (by simpa using hno), hbar⟩
      simp [hbefore, hbar]

end

/-- A text of the characters of names in which no two underscores follow each other stays as it
is. -/
theorem snakeChars_eq_self {s : List Char} (hname : ∀ d ∈ s, isNameChar d = true)
    (hchain : s.IsChain NotBothBars) : snakeChars s = s := by
  cases s with
  | nil => rfl
  | cons c s =>
    have hc := (List.forall_mem_cons.mp hname).1
    have hdrop : dropSlash (c :: s) = c :: s := by
      unfold dropSlash
      split
      · next heq =>
        obtain ⟨rfl, -⟩ := List.cons.inj heq
        cases hc
      · rfl
    have hupper := isUpper_eq_false_of_isNameChar hc
    rw [snakeChars_eq_onePass, hdrop, onePass, onePass_eq_self hname hchain]
    cases halnum : c.isAlphanum with
    | true => simp [toLower_of_isUpper_eq_false hupper]
    | false => simp [eq_bar_of_isNameChar hc halnum]

/-- **Snake case stays as it is.** -/
theorem snakeCase_snakeCase (identifier : String) :
    snakeCase (snakeCase identifier) = snakeCase identifier := by
  have hname := spelled_snakeCase identifier
  have hchars : (snakeCase identifier).toList = snakeChars identifier.toList := by
    rw [snakeCase, String.toList_ofList]
  rw [Spelled, hchars] at hname
  rw [snakeCase, hchars, snakeChars_eq_self hname (isChain_snakeChars _)]
  rfl

end ToolName

end ApiTools
