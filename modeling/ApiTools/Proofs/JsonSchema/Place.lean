import ApiTools.JsonSchema.Place
import Mathlib.Data.List.Basic

/-!
# Places and their written forms

A place leads from a value to one of its parts.  It can be written without loss: a key that is a word
goes after a point, and any other one is quoted in brackets, so that the steps can be told apart.  The
form that is shown differs from this only in keys that are a word with a line feed at the end, which
it takes for a word.

## Main definitions

* `Step.follow?`, `Value.partAt?` — the part of a value at a place.
* `Place.isWord`, `Place.isFed` — words, and words with a line feed at the end.
* `Place.written` — the form without loss.

## Main results

* `Place.written_injective` — **two places are never written alike.**
* `Place.render_append_eq_iff` — **the form that is shown is the one without loss, unless a key is a
  word with a line feed.**
-/

namespace ApiTools

/-! ### Parts of a value -/

/-- What one step leads to. -/
def Step.follow? : Step → Value → Option Value
  | .key name, .map es => Entries.get? es name
  | .index i, .list items => items[i]?
  | _, _ => none

/-- The part of a value at a place. -/
def Value.partAt? : Value → Place → Option Value
  | x, [] => some x
  | x, step :: place => (step.follow? x).bind fun y => y.partAt? place

namespace Value

@[simp] theorem partAt?_nil (x : Value) : x.partAt? [] = some x := rfl

/-- A part of what a step leads to is a part. -/
theorem partAt?_cons {x y : Value} {step : Step} (h : step.follow? x = some y) (place : Place) :
    x.partAt? (step :: place) = y.partAt? place := by
  rw [partAt?, h, Option.bind_some]

end Value

namespace Place

/-! ### Words -/

/-- Whether characters are a word: letters, digits and underscores, with a letter in front. -/
def isWord : List Char → Bool
  | [] => false
  | c :: s => c.isAlpha && s.all isWordChar

/-- Whether characters are a word with a line feed at the end. -/
def isFed (s : List Char) : Bool := s.getLast? == some '\n' && isWord s.dropLast

theorem all_isWordChar {s : List Char} (h : isWord s = true) : ∀ c ∈ s, isWordChar c = true := by
  cases s with
  | nil => cases h
  | cons c s =>
    rw [isWord, Bool.and_eq_true, List.all_eq_true] at h
    refine List.forall_mem_cons.mpr ⟨?_, h.2⟩
    simp [isWordChar, Char.isAlphanum, h.1]

/-- What is written plainly is a word, perhaps with a line feed at the end. -/
theorem isPlain_eq (s : List Char) : isPlain s = (isWord s || isFed s) := by
  cases s with
  | nil => rfl
  | cons c s =>
    by_cases hlast : s.getLast? = some '\n'
    · obtain ⟨front, rfl⟩ := List.getLast?_eq_some_iff.mp hlast
      have hfeed : isWordChar '\n' = false := by decide
      have hword : isWord (c :: (front ++ ['\n'])) = false := by simp [isWord, hfeed]
      have hfed : isFed (c :: (front ++ ['\n'])) = isWord (c :: front) := by
        rw [← List.cons_append, isFed, List.getLast?_concat, List.dropLast_concat]
        simp
      rw [hword, hfed, Bool.false_or, isPlain, if_pos hlast, List.dropLast_concat, isWord]
    · have hfed : isFed (c :: s) = false := by
        cases s with
        | nil => simp [isFed, isWord]
        | cons d s => simp [isFed, List.getLast?_cons_cons, hlast]
      rw [isPlain, if_neg hlast, hfed, Bool.or_false, isWord]

/-! ### The form without loss -/

/-- A step, written so that it can be told from all others. -/
def writtenStep : Step → String
  | .index i => "[" ++ toString i ++ "]"
  | .key name =>
    if isWord name.toList then "." ++ name
    else "['" ++ String.ofList (name.toList.flatMap escaped) ++ "']"

/-- A place, written without loss. -/
def written (place : Place) : String := place.foldl (fun text step => text ++ writtenStep step) "$"

theorem toList_foldl_append (f : Step → String) (place : Place) (text : String) :
    (place.foldl (fun text step => text ++ f step) text).toList =
      text.toList ++ place.flatMap fun step => (f step).toList := by
  induction place generalizing text with
  | nil => simp
  | cons step place ih => rw [List.foldl_cons, ih, String.toList_append, List.flatMap_cons,
      List.append_assoc]

/-- What follows a step is the end or another step. -/
def Follows (s : List Char) : Prop := ∀ c ∈ s.head?, c = '.' ∨ c = '['

theorem follows_nil : Follows [] := nofun

/-- Characters of a class end where one begins that is not. -/
theorem eq_of_append {p : Char → Bool} {a b s t : List Char} (ha : ∀ c ∈ a, p c = true)
    (hb : ∀ c ∈ b, p c = true) (hs : ∀ c ∈ s.head?, p c = false) (ht : ∀ c ∈ t.head?, p c = false)
    (h : a ++ s = b ++ t) : a = b ∧ s = t := by
  have hnone : ∀ {s : List Char}, (∀ c ∈ s.head?, p c = false) → s.takeWhile p = [] := by
    intro s hs
    cases s with
    | nil => rfl
    | cons c s => rw [List.takeWhile_cons, if_neg (by simp [hs c rfl])]
  have hclass : a = b := by
    have htake := congrArg (List.takeWhile p) h
    rwa [List.takeWhile_append_of_pos ha, List.takeWhile_append_of_pos hb, hnone hs, hnone ht,
      List.append_nil, List.append_nil] at htake
  subst hclass
  exact ⟨rfl, List.append_cancel_left h⟩

/-- A word ends where the next step begins. -/
theorem eq_of_word_append {a b s t : List Char} (ha : isWord a = true) (hb : isWord b = true)
    (hs : Follows s) (ht : Follows t) (h : a ++ s = b ++ t) : a = b ∧ s = t := by
  have hnone : ∀ {s : List Char}, Follows s → ∀ c ∈ s.head?, isWordChar c = false := by
    intro s hs c hc
    rcases hs c hc with rfl | rfl <;> rfl
  exact eq_of_append (all_isWordChar ha) (all_isWordChar hb) (hnone hs) (hnone ht) h

/-- An escaped character can be told from what follows it. -/
theorem eq_of_escaped {c d : Char} {s t : List Char} (h : escaped c ++ s = escaped d ++ t) :
    c = d ∧ s = t := by
  unfold escaped at h
  split at h <;> split at h
  · obtain ⟨-, h⟩ := List.cons.inj h
    exact List.cons.inj h
  · next hd => exact absurd (Or.inl (List.cons.inj h).1.symm) hd
  · next hc _ => exact absurd (Or.inl (List.cons.inj h).1) hc
  · exact List.cons.inj h

/-- An escaped character is not taken for a quote. -/
theorem escaped_append_ne {c : Char} {s t : List Char} : escaped c ++ s ≠ '\'' :: t := by
  intro h
  unfold escaped at h
  split at h
  · cases (List.cons.inj h).1
  · next hc => exact hc (Or.inr (List.cons.inj h).1)

/-- A quoted key ends at the first quote that is not escaped. -/
theorem eq_of_escaped_append {a b s t : List Char}
    (h : a.flatMap escaped ++ '\'' :: s = b.flatMap escaped ++ '\'' :: t) : a = b ∧ s = t := by
  induction a generalizing b with
  | nil =>
    cases b with
    | nil => exact ⟨rfl, (List.cons.inj h).2⟩
    | cons d b =>
      rw [List.flatMap_cons, List.append_assoc] at h
      exact absurd h.symm escaped_append_ne
  | cons c a ih =>
    cases b with
    | nil =>
      rw [List.flatMap_cons, List.append_assoc] at h
      exact absurd h escaped_append_ne
    | cons d b =>
      rw [List.flatMap_cons, List.flatMap_cons, List.append_assoc, List.append_assoc] at h
      obtain ⟨rfl, hrest⟩ := eq_of_escaped h
      obtain ⟨rfl, hst⟩ := ih hrest
      exact ⟨rfl, hst⟩

/-- An index ends at its bracket. -/
theorem eq_of_toDigits_append {i j : Nat} {s t : List Char}
    (h : Nat.toDigits 10 i ++ ']' :: s = Nat.toDigits 10 j ++ ']' :: t) : i = j ∧ s = t := by
  have hdigits : ∀ n : Nat, ∀ c ∈ Nat.toDigits 10 n, c.isDigit = true := fun n c hc =>
    Nat.isDigit_of_mem_toDigits (by decide) (by decide) hc
  have hbracket : ∀ s : List Char, ∀ c ∈ (']' :: s).head?, c.isDigit = false := by
    rintro s c hc
    obtain rfl := Option.some.inj hc
    rfl
  obtain ⟨hij, hst⟩ := eq_of_append (hdigits i) (hdigits j) (hbracket s) (hbracket t) h
  refine ⟨?_, (List.cons.inj hst).2⟩
  rw [← Nat.ofDigitChars_ten_toDigits (n := i), hij, Nat.ofDigitChars_ten_toDigits]

/-- The characters of a written index. -/
theorem toList_writtenStep_index (i : Nat) :
    (writtenStep (.index i)).toList = '[' :: (Nat.toDigits 10 i ++ [']']) := by
  simp [writtenStep, Nat.toString_eq_repr]

/-- The characters of a written key. -/
theorem toList_writtenStep_key (name : String) :
    (writtenStep (.key name)).toList =
      if isWord name.toList = true then '.' :: name.toList
      else '[' :: '\'' :: (name.toList.flatMap escaped ++ ['\'', ']']) := by
  rw [writtenStep]
  split <;> simp

/-- A written step begins with a point or a bracket. -/
theorem exists_cons_writtenStep (step : Step) :
    ∃ c s, (writtenStep step).toList = c :: s ∧ (c = '.' ∨ c = '[') := by
  cases step with
  | index i => exact ⟨_, _, toList_writtenStep_index i, Or.inr rfl⟩
  | key name =>
    rw [toList_writtenStep_key]
    split
    · exact ⟨_, _, rfl, Or.inl rfl⟩
    · exact ⟨_, _, rfl, Or.inr rfl⟩

theorem follows_writtenStep (step : Step) (s : List Char) :
    Follows ((writtenStep step).toList ++ s) := by
  obtain ⟨c, rest, hstep, hc⟩ := exists_cons_writtenStep step
  rw [hstep]
  rintro d ⟨⟩
  exact hc

theorem follows_flatMap (place : Place) :
    Follows (place.flatMap fun step => (writtenStep step).toList) := by
  cases place with
  | nil => exact follows_nil
  | cons step place => exact follows_writtenStep step _

/-- An index is not taken for a key: a digit stands where the point or the quote would. -/
theorem writtenStep_index_append_ne (i : Nat) (name : String) (s t : List Char) :
    (writtenStep (.index i)).toList ++ s ≠ (writtenStep (.key name)).toList ++ t := by
  rw [toList_writtenStep_index, toList_writtenStep_key]
  intro h
  split at h
  · cases (List.cons.inj h).1
  · obtain ⟨c, digits, hdigits⟩ := List.exists_cons_of_ne_nil (Nat.toDigits_ne_nil (n := i) (b := 10))
    rw [hdigits] at h
    obtain rfl : c = '\'' := (List.cons.inj (List.cons.inj h).2).1
    have hquote : '\'' ∈ Nat.toDigits 10 i := hdigits ▸ List.mem_cons_self
    cases Nat.isDigit_of_mem_toDigits (by decide) (by decide) hquote

/-- **A written step can be told from all others, and from what follows it.** -/
theorem eq_of_writtenStep_append {a b : Step} {s t : List Char} (hs : Follows s) (ht : Follows t)
    (h : (writtenStep a).toList ++ s = (writtenStep b).toList ++ t) : a = b ∧ s = t := by
  cases a with
  | index i =>
    cases b with
    | index j =>
      rw [toList_writtenStep_index, toList_writtenStep_index] at h
      simp only [List.cons_append, List.append_assoc, List.nil_append] at h
      obtain ⟨rfl, hst⟩ := eq_of_toDigits_append (List.cons.inj h).2
      exact ⟨rfl, hst⟩
    | key name => exact absurd h (writtenStep_index_append_ne i name s t)
  | key name =>
    cases b with
    | index j => exact absurd h.symm (writtenStep_index_append_ne j name t s)
    | key other =>
      rw [toList_writtenStep_key, toList_writtenStep_key] at h
      split at h <;> split at h
      · next hname hother =>
        obtain ⟨hsame, hst⟩ := eq_of_word_append hname hother hs ht (List.cons.inj h).2
        exact ⟨congrArg Step.key (String.toList_injective hsame), hst⟩
      · cases (List.cons.inj h).1
      · cases (List.cons.inj h).1
      · simp only [List.cons_append, List.append_assoc, List.nil_append] at h
        obtain ⟨hsame, hst⟩ := eq_of_escaped_append (List.cons.inj (List.cons.inj h).2).2
        exact ⟨congrArg Step.key (String.toList_injective hsame), (List.cons.inj hst).2⟩

theorem toList_written (place : Place) :
    place.written.toList = '$' :: place.flatMap fun step => (writtenStep step).toList :=
  toList_foldl_append writtenStep place "$"

/-- **Two places are never written alike.** -/
theorem written_injective {p q : Place} (h : p.written = q.written) : p = q := by
  have hsteps := congrArg String.toList h
  rw [toList_written, toList_written] at hsteps
  replace hsteps := (List.cons.inj hsteps).2
  clear h
  have hne : ∀ (step : Step) (p : Place),
      [] ≠ (step :: p).flatMap fun step => (writtenStep step).toList := by
    intro step p
    obtain ⟨c, rest, hstep, -⟩ := exists_cons_writtenStep step
    rw [List.flatMap_cons, hstep]
    exact (List.cons_ne_nil _ _).symm
  induction p generalizing q with
  | nil =>
    cases q with
    | nil => rfl
    | cons step q => exact absurd hsteps (hne step q)
  | cons step p ih =>
    cases q with
    | nil => exact absurd hsteps.symm (hne step p)
    | cons other q =>
      obtain ⟨rfl, hrest⟩ := eq_of_writtenStep_append (follows_flatMap p) (follows_flatMap q) hsteps
      rw [ih hrest]

/-! ### The form that is shown -/

/-- Whether a step is to a key that is a word with a line feed at the end. -/
def isFedStep : Step → Bool
  | .key name => isFed name.toList
  | .index _ => false

/-- Any other step is shown as it is written. -/
theorem renderStep_eq {step : Step} (h : isFedStep step = false) :
    renderStep step = writtenStep step := by
  cases step with
  | index i => rfl
  | key name =>
    have hfed : isFed name.toList = false := h
    rw [renderStep, writtenStep, isPlain_eq, hfed, Bool.or_false]

/-- A key that is a word with a line feed is shown after a point, and written in brackets. -/
theorem renderStep_append_ne {step : Step} (h : isFedStep step = true) (s t : List Char) :
    (renderStep step).toList ++ s ≠ (writtenStep step).toList ++ t := by
  cases step with
  | index i => cases h
  | key name =>
    have hfed : isFed name.toList = true := h
    have hword : isWord name.toList = false := by
      rw [isFed, Bool.and_eq_true, beq_iff_eq] at hfed
      rw [← Bool.not_eq_true]
      intro hword
      cases all_isWordChar hword _ (List.mem_of_getLast? hfed.1)
    rw [toList_writtenStep_key, renderStep, isPlain_eq, hfed, Bool.or_true, if_pos rfl, hword,
      if_neg Bool.false_ne_true]
    simp

theorem toList_render (place : Place) :
    place.render.toList = '$' :: place.flatMap fun step => (renderStep step).toList :=
  toList_foldl_append renderStep place "$"

/-- **A place is shown as it is written, unless a key on the way is a word with a line feed**; so it
is when more follows. -/
theorem render_append_eq_iff (place : Place) (s t : String) :
    place.render ++ s = place.written ++ t ↔
      (∀ step ∈ place, isFedStep step = false) ∧ s = t := by
  have hrest : s = t ↔ s.toList = t.toList := String.toList_inj.symm
  rw [hrest, ← String.toList_inj, String.toList_append, String.toList_append, toList_render,
    toList_written, List.cons_append, List.cons_append, List.cons_inj_right]
  generalize s.toList = s
  generalize t.toList = t
  induction place with
  | nil => simp
  | cons step place ih =>
    rw [List.flatMap_cons, List.flatMap_cons, List.append_assoc, List.append_assoc,
      List.forall_mem_cons, and_assoc]
    cases hstep : isFedStep step with
    | true => exact iff_of_false (renderStep_append_ne hstep _ _) (by simp)
    | false =>
      rw [renderStep_eq hstep, List.append_cancel_left_eq]
      exact ih.trans (and_iff_right rfl).symm

end Place

end ApiTools
