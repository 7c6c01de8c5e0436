import ApiTools.Proofs.Json.Writer
import ApiTools.Proofs.Value.Printed

/-!
# Halves in what is written as JSON

A text that is written in one line keeps its halves, one by one, and every other code point of it is
written by characters.  So no two halves come together that were apart, and what is written of a
value of JSON is joined; and it is whole exactly when every text in the value is, the keys of its
maps included.

## Main definitions

* `Value.allTexts` — whether all texts in a value are as said, the keys of its maps included.
* `Json.WrittenFor`, `Json.Kept` — what is written for a code point.

## Main results

* `Json.exists_kept_codePoints` — the code points that are written for a text.
* `Json.isJoined_write` — **what is written of a value of JSON is joined.**
* `Json.isWhole_write_iff` — **it is whole exactly when all texts in the value are.**
-/

namespace ApiTools

open Text CodePoint

namespace Json

variable {g h : CodePoint} {points : List CodePoint} {s t : List Char}

/-! ### One code point -/

/-- What is written for a code point: its own spelling, or ordinary characters. -/
inductive WrittenFor (g : CodePoint) : List Char → Prop where
  /-- The code point is kept. -/
  | itself : WrittenFor g g.spelled
  /-- It is a character that is escaped. -/
  | escape (c : Char) (l : List Char) (hall : AreOrdinary (c :: l)) (hg : g ≠ .stray)
    (hchar : g.char?.isSome = true) : WrittenFor g (c :: l)

theorem areOrdinary_hex (width n : Nat) : AreOrdinary (hex width n) := fun c hc =>
  isOrdinary_of_isPrintable (isPrintable_of_mem_hex width n c hc)

theorem areOrdinary_unit (n : Nat) : AreOrdinary ('\\' :: 'u' :: hex 4 n) :=
  List.forall_mem_cons.mpr ⟨by decide, List.forall_mem_cons.mpr ⟨by decide, areOrdinary_hex 4 n⟩⟩

theorem areOrdinary_units (m n : Nat) :
    AreOrdinary ('\\' :: 'u' :: (hex 4 m ++ '\\' :: 'u' :: hex 4 n)) := by
  rw [← List.cons_append, ← List.cons_append, AreOrdinary, List.forall_mem_append]
  exact ⟨areOrdinary_unit m, areOrdinary_unit n⟩

theorem writtenFor_escaped (c : Char) : WrittenFor (.char c) (escaped false c) := by
  have hchar : ∀ d l, AreOrdinary (d :: l) → WrittenFor (.char c) (d :: l) :=
    fun d l hall => .escape d l hall (by simp) rfl
  unfold escaped
  split_ifs with hhidden
  · rcases hhidden with rfl | rfl <;> exact hchar _ _ (by decide)
  all_goals first
    | exact hchar _ _ (by decide)
    | exact .itself
    | skip
  unfold unitEscape
  dsimp only
  split
  · exact hchar _ _ (areOrdinary_unit _)
  · exact hchar _ _ (areOrdinary_units _ _)

theorem writtenFor_escapedPoint (g : CodePoint) : WrittenFor g (escapedPoint false g) := by
  cases g with
  | char c => exact writtenFor_escaped c
  | half n => exact .itself
  | stray => exact .itself

/-- The code points that are written for one: itself, or characters for a character. -/
inductive Kept (g : CodePoint) : List CodePoint → Prop where
  /-- The code point is kept. -/
  | itself : Kept g [g]
  /-- There are characters in its place. -/
  | chars (c : Char) (l : List Char) (hchar : g.char?.isSome = true) :
    Kept g (.char c :: l.map .char)

/-- What is written for a code point has such code points, whatever follows; only a sign that spells
nothing must not come to stand in front of a mark. -/
theorem WrittenFor.exists_kept (h : WrittenFor g s)
    (ht : g = .stray → ∀ d ∈ t.head?, ofMark? d = none) :
    ∃ part, Kept g part ∧ codePoints (s ++ t) = part ++ codePoints t := by
  cases h with
  | itself =>
    refine ⟨[g], .itself, ?_⟩
    by_cases hg : g = .stray
    · subst hg
      exact codePoints_stray (ht rfl)
    · exact codePoints_spelled_append hg t
  | escape c l hall hg hchar =>
    exact ⟨_, .chars c l hchar, codePoints_ordinary_append hall t⟩

/-! ### Whole texts -/

/-- What is written for a text does not begin with a mark, unless the text does. -/
theorem head?_flatMap_escapedPoint (hs : ∀ d ∈ s.head?, ofMark? d = none)
    (ht : ∀ d ∈ t.head?, ofMark? d = none) :
    ∀ d ∈ ((codePoints s).flatMap (escapedPoint false) ++ t).head?, ofMark? d = none := by
  have hspelled := flatMap_codePoints s
  cases hpoints : codePoints s with
  | nil => exact ht
  | cons g points =>
    -- The first code point is kept, and then the text begins with its spelling, or it is escaped.
    rw [hpoints, List.flatMap_cons] at hspelled
    rw [List.flatMap_cons, List.append_assoc]
    have hwritten := writtenFor_escapedPoint g
    generalize escapedPoint false g = first at hwritten ⊢
    cases hwritten with
    | itself =>
      rw [List.head?_append_of_ne_nil _ (spelled_ne_nil g)]
      rwa [← hspelled, List.head?_append_of_ne_nil _ (spelled_ne_nil g)] at hs
    | escape c l hall => simpa using (hall c List.mem_cons_self).2

/-- **The code points that are written for a text, one after the other.** -/
theorem exists_kept_codePoints (s : List Char)
    (ht : ∀ d ∈ t.head?, ofMark? d = none) :
    ∃ parts, List.Forall₂ Kept (codePoints s) parts ∧
      codePoints ((codePoints s).flatMap (escapedPoint false) ++ t) =
        parts.flatten ++ codePoints t := by
  -- One code point in front of a text, which is a sign that spells nothing only if no mark follows.
  have hstep : ∀ g s, (g = .stray → ∀ d ∈ s.head?, ofMark? d = none) →
      (∃ parts, List.Forall₂ Kept (codePoints s) parts ∧
        codePoints ((codePoints s).flatMap (escapedPoint false) ++ t) =
          parts.flatten ++ codePoints t) →
      ∃ parts, List.Forall₂ Kept (g :: codePoints s) parts ∧
        codePoints ((g :: codePoints s).flatMap (escapedPoint false) ++ t) =
          parts.flatten ++ codePoints t := by
    rintro g s hg ⟨parts, hparts, heq⟩
    obtain ⟨part, hpart, hfirst⟩ := (writtenFor_escapedPoint g).exists_kept fun hstray =>
      head?_flatMap_escapedPoint (hg hstray) ht
    refine ⟨part :: parts, .cons hpart hparts, ?_⟩
    rw [List.flatMap_cons, List.append_assoc, hfirst, heq, List.flatten_cons, List.append_assoc]
  have hnil : ∃ parts, List.Forall₂ Kept (codePoints []) parts ∧
      codePoints ((codePoints []).flatMap (escapedPoint false) ++ t) =
        parts.flatten ++ codePoints t := ⟨[], .nil, rfl⟩
  fun_induction codePoints s with
  | case1 => exact hnil
  | case2 c => exact hstep _ [] (by simp) hnil
  | case3 d s g hg ih => exact hstep g s (fun hstray => absurd hstray (ne_stray_of_ofMark? hg)) ih
  | case4 d s hnone ih => exact hstep .stray (d :: s) (fun _ => by simpa using hnone) ih
  | case5 c d s hc ih => exact hstep (.char c) (d :: s) (by simp) ih

/-- What is written for code points has code points that are apart exactly when these are. -/
theorem areApart_flatten_iff {parts : List (List CodePoint)}
    (hparts : List.Forall₂ Kept points parts) :
    AreApart parts.flatten ↔ AreApart points := by
  induction hparts with
  | nil => rfl
  | @cons g part points parts hpart hparts ih =>
    rw [List.flatten_cons]
    cases hpart with
    | chars c l hchar =>
      refine (areApart_chars_append (l := c :: l)).trans (ih.trans ?_)
      exact (List.isChain_cons.trans (and_iff_right fun _ _ => isPair_of_isSome_left hchar)).symm
    | itself =>
      refine List.isChain_cons.trans ((and_congr ?_ ih).trans List.isChain_cons.symm)
      cases hparts with
      | nil => rfl
      | cons hnext =>
        cases hnext with
        | itself => rfl
        | chars c l hchar =>
          -- A half is kept, so that both code points behind this one are characters.
          refine iff_of_true (fun h hh => ?_) fun h hh => ?_
          · obtain rfl : .char c = h := Option.some.inj hh
            exact isPair_char_right
          · obtain rfl := Option.some.inj hh
            exact isPair_of_isSome_right hchar

/-- What is written for code points that are not escaped is whole when none of them is a half. -/
theorem all_isSome_flatten {parts : List (List CodePoint)}
    (hparts : List.Forall₂ Kept points parts) :
    parts.flatten.all (·.char?.isSome) = points.all (·.char?.isSome) := by
  induction hparts with
  | nil => rfl
  | @cons g part points parts hpart hparts ih =>
    rw [List.flatten_cons, List.all_append, ih, List.all_cons]
    cases hpart with
    | itself => rw [List.all_cons, List.all_nil, Bool.and_true]
    | chars c l hchar =>
      have hchars : ((c :: l).map CodePoint.char).all (·.char?.isSome) = true := by
        rw [List.all_map, List.all_eq_true]
        exact fun _ _ => rfl
      rw [← List.map_cons, hchars, hchar]

/-- The code points of a text between its quotes. -/
theorem exists_kept_quoted (s : String) :
    ∃ parts, List.Forall₂ Kept (codePoints s.toList) parts ∧
      codePoints (quoted false s).toList = .char '"' :: (parts.flatten ++ [.char '"']) := by
  have hquote : ∀ d ∈ ['"'].head?, ofMark? d = none := fun d hd => by
    obtain rfl := Option.some.inj hd
    decide
  obtain ⟨parts, hparts, heq⟩ := exists_kept_codePoints s.toList hquote
  refine ⟨parts, hparts, ?_⟩
  rw [quoted, String.toList_ofList, codePoints_cons (by decide), heq]
  rfl

/-- A text is joined between its quotes when it is joined. -/
theorem isJoined_quoted (s : String) : isJoined (quoted false s) = isJoined s := by
  obtain ⟨parts, hparts, heq⟩ := exists_kept_quoted s
  rw [Bool.eq_iff_iff, isJoined_iff, isJoined_iff, heq, ← areApart_flatten_iff hparts]
  refine (areApart_append_cons (s := [])).trans ((and_iff_right List.isChain_nil).trans ?_)
  exact areApart_append_cons.trans (and_iff_left List.isChain_nil)

/-- It is whole between its quotes when it is whole. -/
theorem isWhole_quoted (s : String) : isWhole (quoted false s) = isWhole s := by
  obtain ⟨parts, hparts, heq⟩ := exists_kept_quoted s
  rw [isWhole, heq, isWhole, ← all_isSome_flatten hparts]
  simp [CodePoint.char?]

end Json

/-! ### Values -/

namespace Value

mutual

/-- Whether all texts in a value are as said, the keys of its maps included. -/
def allTexts (p : String → Bool) : Value → Bool
  | .scalar s => (Value.scalar s).text?.all p
  | .list items | .group _ items => itemTexts p items
  | .map entries => entryTexts p entries
  | .knot _ inside => allTexts p inside

/-- Whether all texts in the items of a list are as said. -/
def itemTexts (p : String → Bool) : List Value → Bool
  | [] => true
  | x :: xs => allTexts p x && itemTexts p xs

/-- Whether all texts in the entries of a map are as said. -/
def entryTexts (p : String → Bool) : List (Scalar × Value) → Bool
  | [] => true
  | (key, x) :: es => (Value.scalar key).text?.all p && allTexts p x && entryTexts p es

end

variable {p : String → Bool}

theorem allTexts_list {items : List Value} :
    (Value.list items).allTexts p = true ↔ ∀ x ∈ items, x.allTexts p = true := by
  rw [allTexts]
  induction items with
  | nil => simp [itemTexts]
  | cons x xs ih => simp [itemTexts, ih]

theorem allTexts_map {es : Entries} :
    (Value.map es).allTexts p = true ↔
      ∀ e ∈ es, (Value.scalar e.1).allTexts p = true ∧ e.2.allTexts p = true := by
  rw [allTexts]
  induction es with
  | nil => simp [entryTexts]
  | cons e es ih => simp [entryTexts, allTexts, ih, and_assoc]

/-- The texts in a value of JSON are joined. -/
theorem allTexts_isJoined {v : Value} (h : v.isJson = true) : v.allTexts Text.isJoined = true := by
  induction v using inductionOn with
  | scalar s =>
    cases s with
    | text s => exact h
    | null | bool | int | double | stamp | bytes => rfl
  | list items ih => exact allTexts_list.mpr fun x hx => ih x hx (isJson_list.mp h x hx)
  | map es ih =>
    obtain ⟨-, hnames, hvalues⟩ := isJson_map.mp h
    refine allTexts_map.mpr fun e he => ⟨?_, ih e he (hvalues e he)⟩
    obtain ⟨name, hname, hjoined⟩ := hnames e he
    rw [hname]
    exact hjoined
  | group | knot => simp [isJson] at h

/-- A value of JSON is joined in running text. -/
theorem isJoined_of_shown {v : Value} (hv : v.isJson = true) {text : String}
    (h : v.shown = .ok text) : isJoined text = true := by
  by_cases htext : ∃ s, v = .text s
  · obtain ⟨s, rfl⟩ := htext
    obtain rfl := Except.ok.inj h
    exact hv
  · exact isJoined_of_isWhole (isWhole_of_isUnmarked (isUnmarked_of_shown (not_exists.mp htext) h))

end Value

namespace Json

section

variable {p : String → Bool} (hp : Sided p) (hquoted : ∀ s, p (quoted false s) = p s)
variable (hplain : ∀ s : String, IsUnmarked s.toList → p s = true)

include hp hquoted hplain

omit hp in
/-- A scalar is written with its text, or without a mark. -/
theorem scalarText_iff {s : Scalar} (hs : s.isJson = true) {text : String}
    (h : scalarText false s = .ok text) :
    p text = true ↔ (Value.scalar s).allTexts p = true := by
  have hdouble : ∀ d, IsUnmarked (doubleText d).toList := by
    intro d
    unfold doubleText
    split
    · decide
    · decide
    · decide
    · exact d.isPrinted_toText.isUnmarked
  cases s with
  | text s =>
    obtain rfl := Except.ok.inj h
    rw [hquoted]
    rfl
  | null =>
    obtain rfl := Except.ok.inj h
    exact iff_of_true (hplain _ (by decide)) rfl
  | bool b =>
    refine iff_of_true (hplain _ ?_) rfl
    cases b <;> obtain rfl := Except.ok.inj h <;> decide
  | int n =>
    refine iff_of_true (hplain _ ?_) rfl
    have hshown : (Value.int n).shown = .ok text := h
    unfold Value.shown at hshown
    split at hshown <;> cases hshown
    exact (Scalar.isPrinted_toLiteral (.int n)).isUnmarked
  | double d =>
    obtain rfl := Except.ok.inj h
    exact iff_of_true (hplain _ (hdouble d)) rfl
  | stamp | bytes => cases hs

omit hp hquoted hplain in
/-- The parts of a list are written with the texts of its items. -/
theorem writeItems_iff {items : List Value} {level : Nat} {parts : List String}
    (hitems : ∀ x ∈ items, ∀ text, writeAt compact level x = .ok text →
      (p text = true ↔ x.allTexts p = true))
    (h : writeItems compact level items = .ok parts) :
    (∀ part ∈ parts, p part = true) ↔ ∀ x ∈ items, x.allTexts p = true := by
  induction items generalizing parts with
  | nil =>
    rw [writeItems] at h
    cases h
    exact iff_of_true (List.forall_mem_nil _) (List.forall_mem_nil _)
  | cons x xs ih =>
    rw [writeItems] at h
    obtain ⟨first, hfirst, h⟩ := Except.bind_eq_ok_iff.mp h
    obtain ⟨rest, hrest, h⟩ := Except.bind_eq_ok_iff.mp h
    obtain ⟨hx, hxs⟩ := List.forall_mem_cons.mp hitems
    rw [← Except.ok.inj h, List.forall_mem_cons, List.forall_mem_cons, hx first hfirst, ih hxs hrest]

omit hplain in
/-- The members of a map are written with its keys and the texts of its values. -/
theorem writeMembers_iff {es : Entries} {level : Nat} {parts : List String}
    (hnames : ∀ e ∈ es, Value.IsName e.1)
    (hvalues : ∀ e ∈ es, ∀ text, writeAt compact level e.2 = .ok text →
      (p text = true ↔ e.2.allTexts p = true))
    (h : writeMembers compact level es = .ok parts) :
    (∀ part ∈ parts, p part = true) ↔
      ∀ e ∈ es, (Value.scalar e.1).allTexts p = true ∧ e.2.allTexts p = true := by
  induction es generalizing parts with
  | nil =>
    rw [writeMembers] at h
    cases h
    exact iff_of_true (List.forall_mem_nil _) (List.forall_mem_nil _)
  | cons e es ih =>
    obtain ⟨key, x⟩ := e
    obtain ⟨⟨name, hname, -⟩, hkeys⟩ := List.forall_mem_cons.mp hnames
    obtain rfl : key = .text name := hname
    rw [writeMembers] at h
    obtain ⟨_, htext, h⟩ := Except.bind_eq_ok_iff.mp h
    obtain ⟨first, hfirst, h⟩ := Except.bind_eq_ok_iff.mp h
    obtain ⟨rest, hrest, h⟩ := Except.bind_eq_ok_iff.mp h
    obtain rfl := Except.ok.inj htext
    obtain ⟨hx, hvalues⟩ := List.forall_mem_cons.mp hvalues
    have hmember : p (quoted compact.ascii name ++ ":" ++ first) = true ↔
        p name = true ∧ x.allTexts p = true := by
      rw [hp.between (by decide), ← hx first hfirst]
      exact and_congr_left fun _ => iff_of_eq (congrArg (· = true) (hquoted name))
    rw [← Except.ok.inj h, List.forall_mem_cons, List.forall_mem_cons, ih hkeys hvalues hrest]
    exact and_congr_left fun _ => hmember

omit hquoted hplain in
/-- Parts between brackets have what the whole has. -/
theorem bracketed_iff (level : Nat) {opening closing : String} (hopening : IsSeparator opening)
    (hclosing : IsSeparator closing) (parts : List String) :
    p (bracketed compact level opening closing parts) = true ↔ ∀ part ∈ parts, p part = true := by
  cases parts with
  | nil =>
    refine iff_of_true ?_ nofun
    have hempty := (hp.bracketed_iff (s := "") hopening hclosing).mpr hp.empty
    rwa [String.append_empty] at hempty
  | cons part parts =>
    exact (hp.bracketed_iff hopening hclosing).trans (hp.intercalate_iff (by decide))

/-- **What is written of a value of JSON is put together from its texts.** -/
theorem writeAt_iff {v : Value} (hv : v.isJson = true) {level : Nat} {text : String}
    (h : writeAt compact level v = .ok text) : p text = true ↔ v.allTexts p = true := by
  induction v using Value.inductionOn generalizing level text with
  | scalar s =>
    rw [writeAt] at h
    exact scalarText_iff hquoted hplain hv h
  | list items ih =>
    rw [writeAt] at h
    obtain ⟨parts, hparts, h⟩ := Except.bind_eq_ok_iff.mp h
    rw [← Except.ok.inj h, bracketed_iff hp level (by decide) (by decide), Value.allTexts_list]
    exact writeItems_iff
      (fun x hx text htext => ih x hx (Value.isJson_list.mp hv x hx) htext) hparts
  | map es ih =>
    rw [writeAt] at h
    obtain ⟨parts, hparts, h⟩ := Except.bind_eq_ok_iff.mp h
    obtain ⟨-, hnames, hvalues⟩ := Value.isJson_map.mp hv
    rw [← Except.ok.inj h, bracketed_iff hp level (by decide) (by decide), Value.allTexts_map]
    exact writeMembers_iff hp hquoted hnames
      (fun e he text htext => ih e he (hvalues e he) htext) hparts
  | group | knot => simp [Value.isJson] at hv

end

/-- **What is written of a value of JSON is joined.** -/
theorem isJoined_write {v : Value} (hv : v.isJson = true) {text : String}
    (h : write compact v = .ok text) : isJoined text = true :=
  (writeAt_iff sided_isJoined isJoined_quoted
    (fun _ h => isJoined_of_isWhole (isWhole_of_isUnmarked h)) hv h).mpr
    (Value.allTexts_isJoined hv)

/-- **It is whole exactly when all texts in the value are.** -/
theorem isWhole_write_iff {v : Value} (hv : v.isJson = true) {text : String}
    (h : write compact v = .ok text) : isWhole text = true ↔ v.allTexts isWhole = true :=
  writeAt_iff sided_isWhole isWhole_quoted (fun _ => isWhole_of_isUnmarked) hv h

end Json

end ApiTools
