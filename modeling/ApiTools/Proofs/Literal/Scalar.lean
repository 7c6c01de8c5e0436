import ApiTools.Proofs.Literal.Lines
import ApiTools.Proofs.Literal.Reader
import ApiTools.Value.Literal

/-!
# Literals of scalars

The literal of an exact scalar denotes it.  It stands in one line: quotes hide what ends a line, and
names and numbers have nothing of the kind in them.

## Main results

* `Literal.denotes_scalar` — **the literal of an exact scalar denotes the scalar.**
* `Literal.oneLine_toLiteral` — **it has no line end in it.**
-/

namespace ApiTools

namespace Literal

variable {names : String → Option Char} {s t : List Char} {v : Value}

/-! ### Names -/

theorem readValue_word {c : Char} (hc : c ∉ ['[', '\x7b', '\'', '"']) (fuel : Nat) (s : List Char) :
    readValue names (fuel + 1) (c :: s) = readWord (c :: s) := by
  simp only [List.mem_cons, List.not_mem_nil, or_false, not_or] at hc
  obtain ⟨hlist, hmap, hsingle, hdouble⟩ := hc
  rw [readValue, openingQuotes?, if_neg (not_or.mpr ⟨hsingle, hdouble⟩)]
  · rfl
  · rintro t heq
    exact hlist (List.cons.inj heq).1
  · rintro t heq
    exact hmap (List.cons.inj heq).1

/-- What a word is read as it denotes. -/
theorem denotes_word {c : Char} (hc : c ∉ ['[', '\x7b', '\'', '"', ']', '#'])
    (hgap : isGap c = false)
    (h : ∀ rest, Separated rest → readWord (c :: (s ++ rest)) = some (v, rest)) :
    Denotes (c :: s) v := by
  simp only [List.mem_cons, List.not_mem_nil, or_false, not_or] at hc
  obtain ⟨hlist, hmap, hsingle, hdouble, hclose, hhash⟩ := hc
  refine ⟨fun rest => skip_token hgap hhash _, by simpa using hclose, ?_⟩
  intro names fuel rest hfuel hrest
  obtain ⟨fuel, rfl⟩ : ∃ k, fuel = k + 1 := ⟨fuel - 1, by omega⟩
  rw [List.cons_append, readValue_word (by simp [hlist, hmap, hsingle, hdouble]), h rest hrest]

theorem denotes_null : Denotes "None".toList .null :=
  denotes_word (by decide) rfl fun _ _ => rfl

theorem denotes_true : Denotes "True".toList (.bool true) :=
  denotes_word (by decide) rfl fun _ _ => rfl

theorem denotes_false : Denotes "False".toList (.bool false) :=
  denotes_word (by decide) rfl fun _ _ => rfl

/-! ### Numbers -/

/-- A number begins with a digit. -/
theorem exists_digit_of_readNumber {negative : Bool} {found : Value × List Char}
    (h : Json.readNumber negative s = .ok found) : ∃ c t, s = c :: t ∧ c.isDigit = true := by
  cases s with
  | nil => cases h
  | cons c s =>
    refine ⟨c, s, rfl, ?_⟩
    by_contra hc
    have hspan : Json.spanDigits (c :: s) = ([], c :: s) := by
      rw [Json.spanDigits, List.span_eq_takeWhile_dropWhile, List.takeWhile_cons_of_neg hc,
        List.dropWhile_cons_of_neg hc]
    have hnone : Json.readWhole (c :: s) = none := by
      rw [Json.readWhole, hspan]
      rintro t heq
      obtain rfl := (List.cons.inj heq).1
      exact hc rfl
    rw [Json.readNumber, hnone] at h
    cases h

theorem afterWord?_eq_none {word : String} {c d : Char} {more : List Char}
    (hword : word.toList = d :: more) (hd : d ≠ c) (s : List Char) :
    Json.afterWord? word (c :: s) = none := by
  rw [Json.afterWord?, hword, if_neg (by simp [List.isPrefixOf, hd])]

/-- What begins with a digit is no name. -/
theorem readName_digit {c : Char} (hc : c.isDigit = true) (s : List Char) :
    readName (c :: s) = none := by
  have hne : ∀ d : Char, d.isDigit = false → d ≠ c := by
    rintro d hd rfl
    rw [hc] at hd
    cases hd
  unfold readName
  simp only [List.findSome?_cons, List.findSome?_nil]
  rw [afterWord?_eq_none rfl (hne 'N' rfl),
    afterWord?_eq_none rfl (hne 'T' rfl),
    afterWord?_eq_none rfl (hne 'F' rfl)]
  rfl

/-- **What is read as a number wherever one can end denotes it**, with its sign in front. -/
theorem denotes_number {negative : Bool}
    (h : ∀ rest, Json.EndsNumber rest → Json.readNumber negative (s ++ rest) = .ok (v, rest)) :
    Denotes ((if negative then ['-'] else []) ++ s) v := by
  have hcomma : Separated [','] := ⟨',', [], rfl, by decide⟩
  obtain ⟨c, t, hs, hc⟩ := exists_digit_of_readNumber (h [','] hcomma.endsNumber)
  obtain ⟨t, rfl⟩ : ∃ t, s = c :: t := by
    cases s with
    | nil =>
      cases hs
      cases hc
    | cons d s => exact ⟨s, by rw [(List.cons.inj hs).1]⟩
  cases negative with
  | true =>
    refine denotes_word (by decide) rfl fun rest hrest => ?_
    rw [List.append_eq, List.nil_append, readWord, h rest hrest.endsNumber]
    rfl
  | false =>
    have hne : ∀ d : Char, d.isDigit = false → c ≠ d := by
      rintro d hd rfl
      rw [hc] at hd
      cases hd
    have hgap : isGap c = false := by
      simp [isGap, hne ' ' rfl, hne '\t' rfl, hne '\x0c' rfl, hne '\n' rfl]
    refine denotes_word ?_ hgap fun rest hrest => ?_
    · simp [hne '[' rfl, hne '\x7b' rfl, hne '\'' rfl, hne '"' rfl, hne ']' rfl, hne '#' rfl]
    · have hread := h rest hrest.endsNumber
      rw [List.cons_append] at hread
      rw [readWord, readName_digit hc, hread]
      · rfl
      · rintro u heq
        exact hne '-' rfl (List.cons.inj heq).1

/-! ### Scalars -/

/-- The same for a text. -/
theorem denotes_signed {negative : Bool} {text : String}
    (h : ∀ rest, Json.EndsNumber rest →
      Json.readNumber negative (text.toList ++ rest) = .ok (v, rest)) :
    Denotes ((if negative then "-" else "") ++ text).toList v := by
  have hsign : (if negative then "-" else "").toList = if negative then ['-'] else [] := by
    cases negative <;> rfl
  rw [String.toList_append, hsign]
  exact denotes_number h

theorem denotes_int {n : Int} (h : Value.scalarFits (.int n) = true) :
    Denotes (toString n).toList (.int n) := by
  rw [Value.scalarFits, decide_eq_true_eq] at h
  have hread : ∀ negative : Bool,
      Denotes ((if negative then "-" else "") ++ toString n.natAbs).toList
        (.int (if negative then -(n.natAbs : Int) else n.natAbs)) :=
    fun _ => denotes_signed fun _ => Json.readNumber_natText h
  cases n with
  | ofNat n =>
    have hpositive := hread false
    rw [if_neg (by decide), if_neg (by decide), String.empty_append] at hpositive
    exact hpositive
  | negSucc n =>
    have hnegative := hread true
    rw [if_pos rfl, if_pos rfl] at hnegative
    exact hnegative

/-- A quoted text denotes the text. -/
theorem denotes_quoteText (t : String) : Denotes (quoteText t).toList (.text t) := by
  have hone : sideBySide ['\n'] [t.toList] = (quoteText t).toList := by
    rw [quoteText, String.toList_ofList]
    simp [sideBySide]
  have htext := denotes_text (passed_gap (c := '\n') rfl) rfl (List.cons_ne_nil t.toList [])
  rwa [hone, List.flatten_singleton, String.ofList_toList] at htext

/-- **The literal of an exact scalar denotes the scalar.** -/
theorem denotes_scalar {s : Scalar} (h : s.IsExact) : Denotes s.toLiteral.toList (.scalar s) := by
  cases s with
  | null => exact denotes_null
  | bool b =>
    cases b with
    | true => exact denotes_true
    | false => exact denotes_false
  | int n => exact denotes_int h
  | double d =>
    cases d with
    | nan | infinite => exact absurd h id
    | finite negative m e => exact denotes_signed fun rest => Json.readNumber_magnitudeText h
  | text t => exact denotes_quoteText t
  | stamp | bytes => exact absurd h id

/-! ### Lines -/

/-- What ends a line is not printable. -/
theorem isLineEnd_of_isPrintable {c : Char} (h : Text.isPrintable c = true) :
    Text.isLineEnd c = false := by
  unfold Text.isPrintable at h
  unfold Text.isLineEnd
  generalize c.toNat = code at h ⊢
  rw [← Bool.not_eq_true]
  intro hends
  simp only [Text.inRanges, Text.lineEndRanges, List.any_cons, List.any_nil, Bool.or_false,
    Bool.or_eq_true, Bool.and_eq_true, decide_eq_true_eq] at hends
  have hcodes : code = 10 ∨ code = 11 ∨ code = 12 ∨ code = 13 ∨ code = 28 ∨ code = 29 ∨
      code = 30 ∨ code = 0x85 ∨ code = 0x2028 ∨ code = 0x2029 := by
    omega
  rcases hcodes with rfl | rfl | rfl | rfl | rfl | rfl | rfl | rfl | rfl | rfl
  all_goals exact absurd h (by decide +kernel)

/-- What is printed for a value has no line end in it. -/
theorem oneLine_of_isPrinted (h : Text.IsPrinted s) : OneLine s := fun c hc => by
  rcases h c hc with hprintable | rfl
  · exact isLineEnd_of_isPrintable hprintable
  · decide

/-- A quoted text is in one line, whatever the text. -/
theorem oneLine_quoted (s : List Char) : OneLine (Text.quoted s) :=
  oneLine_of_isPrinted (Text.isPrinted_quoted s)

/-- **The literal of a scalar is in one line.** -/
theorem oneLine_toLiteral (s : Scalar) : OneLine s.toLiteral.toList :=
  oneLine_of_isPrinted s.isPrinted_toLiteral

end Literal

end ApiTools
