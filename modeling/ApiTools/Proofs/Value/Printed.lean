import ApiTools.Proofs.Text.CodePoint
import ApiTools.Proofs.Value.Plain
import ApiTools.Value.Layout

/-!
# What a literal is printed with

A literal is put together from names, digits, signs and quoted texts, and what is not printable in a
text is written by a letter or a code.  So every character of a literal in one line is printable,
but for a sign in a text that has not been spelled.  None of them ends a line, and none of them
stands for a half behind the sign: a literal is whole, whatever is in the texts that it is for.

## Main definitions

* `Text.IsPrinted` — every character is printable, or a sign.

## Main results

* `Text.isPrinted_quoted` — a quoted text is printed so.
* `Scalar.isPrinted_toLiteral`, `Value.isPrinted_toLiteral` — **so is the literal of every value.**
* `Value.isUnmarked_layout` — **spread over several lines it has no mark in it, either.**
-/

namespace ApiTools

namespace Text

/-- Every character is printable, or a sign. -/
def IsPrinted (s : List Char) : Prop := ∀ c ∈ s, isPrintable c = true ∨ c = CodePoint.sign

instance (s : List Char) : Decidable (IsPrinted s) :=
  List.decidableBAll (fun c => isPrintable c = true ∨ c = CodePoint.sign) s

variable {s t : List Char} {c : Char}

theorem isPrinted_append : IsPrinted (s ++ t) ↔ IsPrinted s ∧ IsPrinted t := List.forall_mem_append

theorem isPrinted_cons :
    IsPrinted (c :: s) ↔ (isPrintable c = true ∨ c = CodePoint.sign) ∧ IsPrinted s :=
  List.forall_mem_cons

theorem isUnmarked_append : IsUnmarked (s ++ t) ↔ IsUnmarked s ∧ IsUnmarked t :=
  List.forall_mem_append

/-- What is said of the characters of parts and of what stands between them is said of those of the
whole. -/
theorem forall_mem_intercalate {p : Char → Prop} {sep : List Char} (hsep : ∀ c ∈ sep, p c)
    {parts : List (List Char)} (hparts : ∀ part ∈ parts, ∀ c ∈ part, p c) :
    ∀ c ∈ sep.intercalate parts, p c := by
  induction parts with
  | nil => exact nofun
  | cons part parts ih =>
    obtain ⟨hpart, hparts⟩ := List.forall_mem_cons.mp hparts
    cases parts with
    | nil => simpa using hpart
    | cons next parts =>
      rw [List.intercalate_cons_cons, List.append_assoc]
      exact List.forall_mem_append.mpr
        ⟨hpart, List.forall_mem_append.mpr ⟨hsep, ih hparts⟩⟩

/-- Nothing that is printed is a mark. -/
theorem IsPrinted.isUnmarked (h : IsPrinted s) : IsUnmarked s := fun c hc => by
  rcases h c hc with hprintable | rfl
  · exact (isOrdinary_of_isPrintable hprintable).2
  · exact ofMark?_sign

/-! ### Digits -/

theorem isPrintable_of_mem_toDigits {base : Nat} (hpos : 1 < base) (hbase : base ≤ 16) (n : Nat) :
    ∀ c ∈ Nat.toDigits base n, isPrintable c = true := by
  have hdigit : ∀ d < 16, isPrintable (Nat.digitChar d) = true := by decide
  induction n using Nat.strongRecOn with
  | ind n ih =>
    rcases Nat.lt_or_ge n base with hlt | hge
    · rw [Nat.toDigits_of_lt_base hlt]
      exact List.forall_mem_singleton.mpr (hdigit n (by omega))
    · rw [Nat.toDigits_of_base_le hpos hge, List.forall_mem_append]
      refine ⟨ih _ (Nat.div_lt_self (by omega) hpos), ?_⟩
      have hmod := Nat.mod_lt n (by omega : 0 < base)
      exact List.forall_mem_singleton.mpr (hdigit _ (by omega))

theorem isPrintable_of_mem_zeros (k : Nat) : ∀ c ∈ List.replicate k '0', isPrintable c = true :=
  fun c hc => by
    rw [List.eq_of_mem_replicate hc]
    decide

theorem isPrinted_zeros (k : Nat) : IsPrinted (List.replicate k '0') := fun c hc =>
  .inl (isPrintable_of_mem_zeros k c hc)

theorem isPrinted_toString (n : Nat) : IsPrinted (toString n).toList := by
  rw [Nat.toString_eq_repr, Nat.repr_eq_ofList_toDigits, String.toList_ofList]
  exact fun c hc => .inl (isPrintable_of_mem_toDigits (by decide) (by decide) n c hc)

theorem isPrinted_toString_int (n : Int) : IsPrinted (toString n).toList := by
  cases n with
  | ofNat n => exact isPrinted_toString n
  | negSucc n =>
    have htext : toString (Int.negSucc n) = "-" ++ toString (n + 1) := rfl
    rw [htext, String.toList_append, isPrinted_append]
    exact ⟨by decide, isPrinted_toString (n + 1)⟩

/-- A number in hexadecimal digits is printable. -/
theorem isPrintable_of_mem_hex (width n : Nat) : ∀ c ∈ hex width n, isPrintable c = true :=
  List.forall_mem_append.mpr
    ⟨isPrintable_of_mem_zeros _, isPrintable_of_mem_toDigits (by decide) (by decide) n⟩

theorem isPrinted_hex (width n : Nat) : IsPrinted (hex width n) := fun c hc =>
  .inl (isPrintable_of_mem_hex width n c hc)

/-! ### Quoted texts -/

/-- The quotes of a text. -/
theorem quoteFor_cases (s : List Char) : quoteFor s = '\'' ∨ quoteFor s = '"' := by
  unfold quoteFor
  split
  · exact .inr rfl
  · exact .inl rfl

theorem isPrinted_escaped {quote : Char} (hquote : quote = '\'' ∨ quote = '"') (c : Char) :
    IsPrinted (escaped quote c) := by
  unfold escaped
  split_ifs with hhidden hline hreturn htab hprintable hsmall hmiddle
  · rcases hhidden with rfl | rfl
    · rcases hquote with rfl | rfl <;> decide
    · decide
  · decide
  · decide
  · decide
  · exact List.forall_mem_singleton.mpr (.inl hprintable)
  all_goals
    refine isPrinted_cons.mpr ⟨by decide, isPrinted_cons.mpr ⟨by decide, isPrinted_hex _ _⟩⟩

theorem isPrinted_escapedPoint {quote : Char} (hquote : quote = '\'' ∨ quote = '"')
    (g : CodePoint) : IsPrinted (escapedPoint quote g) := by
  cases g with
  | char c => exact isPrinted_escaped hquote c
  | half n => exact isPrinted_cons.mpr ⟨by decide, isPrinted_cons.mpr ⟨by decide, isPrinted_hex _ _⟩⟩
  | stray => exact List.forall_mem_singleton.mpr (.inr rfl)

/-- **A quoted text is printed with what is printable.** -/
theorem isPrinted_quoted (s : List Char) : IsPrinted (quoted s) := by
  have hquote := quoteFor_cases s
  have hprintable : isPrintable (quoteFor s) = true := by
    rcases hquote with h | h <;> rw [h] <;> decide
  rw [quoted, isPrinted_cons, isPrinted_append]
  refine ⟨.inl hprintable, fun c hc => ?_, List.forall_mem_singleton.mpr (.inl hprintable)⟩
  obtain ⟨g, -, hc⟩ := List.mem_flatMap.mp hc
  exact isPrinted_escapedPoint hquote g c hc

end Text

open Text

/-! ### Scalars -/

/-- A number is printed so, wherever its point stands. -/
theorem Double.isPrinted_layout {digits : List Char} (hdigits : IsPrinted digits) (point : Int) :
    IsPrinted (layout digits point).toList := by
  have htake : ∀ n, IsPrinted (digits.take n) := fun n c hc => hdigits c (List.mem_of_mem_take hc)
  have hdrop : ∀ n, IsPrinted (digits.drop n) := fun n c hc => hdigits c (List.mem_of_mem_drop hc)
  have hzeros : ∀ n, IsPrinted (zeros n).toList := fun n => by
    rw [zeros, String.toList_ofList]
    exact isPrinted_zeros n
  have hpoint : IsPrinted ".".toList ∧ IsPrinted "0.".toList ∧ IsPrinted ".0".toList := by decide
  have hmark : IsPrinted (if point - 1 < 0 then "e-" else "e+").toList := by
    split <;> decide
  have hplaces : IsPrinted (if (digits.drop 1).isEmpty then "" else
      "." ++ String.ofList (digits.drop 1)).toList := by
    split
    · decide
    · simp only [String.toList_append, String.toList_ofList, isPrinted_append]
      exact ⟨hpoint.1, hdrop 1⟩
  have hwidth : ∀ n : Nat, IsPrinted
      (if (toString n).length < 2 then "0" ++ toString n else toString n).toList := by
    intro n
    split
    · rw [String.toList_append, isPrinted_append]
      exact ⟨by decide, isPrinted_toString n⟩
    · exact isPrinted_toString n
  unfold layout
  dsimp only
  split
  · simp only [String.toList_append, String.toList_ofList, isPrinted_append]
    exact ⟨⟨⟨htake 1, hplaces⟩, hmark⟩, hwidth _⟩
  · split_ifs
    all_goals simp only [String.toList_append, String.toList_ofList, isPrinted_append]
    · exact ⟨⟨hpoint.2.1, hzeros _⟩, hdigits⟩
    · exact ⟨⟨hdigits, hzeros _⟩, hpoint.2.2⟩
    · exact ⟨⟨htake _, hpoint.1⟩, hdrop _⟩

theorem Double.isPrinted_toText (d : Double) : IsPrinted d.toText.toList := by
  cases d with
  | nan => decide
  | infinite negative => cases negative <;> decide
  | finite negative m e =>
    rw [toText, String.toList_append, isPrinted_append]
    refine ⟨by cases negative <;> decide, ?_⟩
    unfold magnitudeText
    split
    · decide
    · exact isPrinted_layout (isPrinted_toString _) _

theorem isPrinted_padded (width n : Nat) : IsPrinted (padded width n).toList := by
  simp only [padded, String.toList_append, String.toList_ofList, isPrinted_append]
  exact ⟨isPrinted_zeros _, isPrinted_toString n⟩

/-- Parts with a comma and a blank between two of them are printed so when each of them is. -/
theorem isPrinted_commas {parts : List String} (h : ∀ part ∈ parts, IsPrinted part.toList) :
    IsPrinted (", ".intercalate parts).toList := by
  rw [String.toList_intercalate]
  exact forall_mem_intercalate (by decide : IsPrinted ", ".toList) (List.forall_mem_map.mpr h)

theorem isPrinted_bracketed {opening inside closing : String}
    (hopening : IsPrinted opening.toList) (hinside : IsPrinted inside.toList)
    (hclosing : IsPrinted closing.toList) : IsPrinted (opening ++ inside ++ closing).toList := by
  rw [String.toList_append, String.toList_append, isPrinted_append, isPrinted_append]
  exact ⟨⟨hopening, hinside⟩, hclosing⟩

namespace Stamp

theorem isPrinted_dayText (d : Day) : IsPrinted (dayText d).toList := by
  simp only [dayText, String.toList_append, isPrinted_append]
  exact ⟨⟨⟨⟨isPrinted_padded 4 _, by decide⟩, isPrinted_padded 2 _⟩, by decide⟩, isPrinted_padded 2 _⟩

/-- A stamp in running text is printed so. -/
theorem isPrinted_toText (t : Stamp) : IsPrinted t.toText.toList := by
  cases t with
  | day d => exact isPrinted_dayText d
  | moment d c ahead =>
    have hmicro : IsPrinted (if c.micro = 0 then "" else "." ++ padded 6 c.micro).toList := by
      split
      · decide
      · rw [String.toList_append, isPrinted_append]
        exact ⟨by decide, isPrinted_padded 6 _⟩
    have hahead : IsPrinted ((ahead.map aheadText).getD "").toList := by
      cases ahead with
      | none => decide
      | some minutes =>
        simp only [Option.map_some, Option.getD_some, aheadText, String.toList_append,
          isPrinted_append]
        refine ⟨⟨⟨?_, isPrinted_padded 2 _⟩, by decide⟩, isPrinted_padded 2 _⟩
        split <;> decide
    simp only [toText, String.toList_append, isPrinted_append]
    exact ⟨⟨⟨⟨⟨⟨⟨⟨isPrinted_dayText d, by decide⟩, isPrinted_padded 2 _⟩, by decide⟩,
      isPrinted_padded 2 _⟩, by decide⟩, isPrinted_padded 2 _⟩, hmicro⟩, hahead⟩

theorem isPrinted_spanLiteral (minutes : Int) : IsPrinted (spanLiteral minutes).toList := by
  have hparts : ∀ part ∈ (if minutes.fdiv 1440 = 0 then [] else
        ["days=" ++ toString (minutes.fdiv 1440)])
      ++ (if minutes.fmod 1440 * 60 = 0 then [] else
        ["seconds=" ++ toString (minutes.fmod 1440 * 60)]), IsPrinted part.toList := by
    refine List.forall_mem_append.mpr ⟨?_, ?_⟩
    all_goals
      split
      · exact nofun
      · rw [List.forall_mem_singleton, String.toList_append, isPrinted_append]
        exact ⟨by decide, isPrinted_toString_int _⟩
  exact isPrinted_bracketed (by decide +kernel) (isPrinted_commas hparts) (by decide)

/-- So is a stamp as an expression. -/
theorem isPrinted_toLiteral (t : Stamp) : IsPrinted t.toLiteral.toList := by
  have hnumbers : ∀ numbers : List Nat, ∀ part ∈ numbers.map toString, IsPrinted part.toList :=
    fun numbers => List.forall_mem_map.mpr fun n _ => isPrinted_toString n
  cases t with
  | day d =>
    exact isPrinted_bracketed (by decide +kernel) (isPrinted_commas (hnumbers _)) (by decide)
  | moment d c ahead =>
    refine isPrinted_bracketed (by decide +kernel)
      (isPrinted_commas (List.forall_mem_append.mpr ⟨hnumbers _, ?_⟩)) (by decide)
    split
    · exact nofun
    · exact List.forall_mem_singleton.mpr (by decide +kernel)
    · exact List.forall_mem_singleton.mpr
        (isPrinted_bracketed (by decide +kernel) (isPrinted_spanLiteral _) (by decide))

end Stamp

theorem isPrinted_quoteBytes (bytes : List UInt8) : IsPrinted (quoteBytes bytes).toList := by
  have hquote := quoteFor_cases (bytes.map fun b => Char.ofNat b.toNat)
  have hprintable : isPrintable (quoteFor (bytes.map fun b => Char.ofNat b.toNat)) = true := by
    rcases hquote with h | h <;> rw [h] <;> decide
  simp only [quoteBytes, String.toList_append, String.toList_ofList, isPrinted_append,
    isPrinted_cons]
  refine ⟨by decide, .inl hprintable, fun c hc => ?_, .inl hprintable, nofun⟩
  obtain ⟨b, -, hc⟩ := List.mem_flatMap.mp hc
  split at hc
  · exact isPrinted_escaped hquote _ c hc
  · exact isPrinted_cons.mpr ⟨by decide, isPrinted_cons.mpr ⟨by decide, isPrinted_hex _ _⟩⟩ c hc

/-- **The literal of a scalar is printed with what is printable.** -/
theorem Scalar.isPrinted_toLiteral (s : Scalar) : IsPrinted s.toLiteral.toList := by
  cases s with
  | null => decide
  | bool b => cases b <;> decide
  | int n => exact isPrinted_toString_int n
  | double d => exact d.isPrinted_toText
  | text t =>
    rw [toLiteral, quoteText, String.toList_ofList]
    exact isPrinted_quoted t.toList
  | stamp t => exact t.isPrinted_toLiteral
  | bytes b => exact isPrinted_quoteBytes b

/-! ### Values -/

namespace Value

theorem isPrinted_dots (v : Value) : IsPrinted v.dots.toList := by
  unfold dots
  split <;> decide

theorem itemLiterals_eq_map (around : List Nat) (items : List Value) :
    itemLiterals around items = items.map (literalWithin around) := by
  induction items with
  | nil => rfl
  | cons x xs ih => rw [itemLiterals, ih, List.map_cons]

theorem entryLiterals_eq_map (around : List Nat) (es : Entries) :
    entryLiterals around es =
      es.map fun e => e.1.toLiteral ++ ": " ++ e.2.literalWithin around := by
  induction es with
  | nil => rfl
  | cons e es ih => rw [entryLiterals, ih, List.map_cons]

theorem isPrinted_literalWithin (v : Value) :
    ∀ around, IsPrinted (v.literalWithin around).toList := by
  have hitems : ∀ {around : List Nat} {items : List Value},
      (∀ x ∈ items, IsPrinted (x.literalWithin around).toList) →
      IsPrinted (", ".intercalate (itemLiterals around items)).toList := by
    intro around items h
    rw [itemLiterals_eq_map]
    exact isPrinted_commas (List.forall_mem_map.mpr h)
  induction v using inductionOn with
  | scalar s => exact fun _ => s.isPrinted_toLiteral
  | list items ih =>
    intro around
    rw [literalWithin]
    exact isPrinted_bracketed (by decide) (hitems fun x hx => ih x hx around) (by decide)
  | map es ih =>
    intro around
    rw [literalWithin, entryLiterals_eq_map]
    refine isPrinted_bracketed (by decide) (isPrinted_commas ?_) (by decide)
    exact List.forall_mem_map.mpr fun e he =>
      isPrinted_bracketed e.1.isPrinted_toLiteral (by decide) (ih e he around)
  | group form items ih =>
    intro around
    cases form with
    | pair =>
      rw [literalWithin]
      exact isPrinted_bracketed (by decide) (hitems fun x hx => ih x hx around) (by decide)
    | set =>
      rw [literalWithin]
      split
      · decide
      · exact isPrinted_bracketed (by decide) (hitems fun x hx => ih x hx around) (by decide)
  | knot label inside ih =>
    intro around
    rw [literalWithin]
    split
    · exact inside.isPrinted_dots
    · exact ih _

/-- **The literal of a value is printed with what is printable.** -/
theorem isPrinted_toLiteral (v : Value) : IsPrinted v.toLiteral.toList :=
  v.isPrinted_literalWithin []

/-- In running text only a text may have a mark in it. -/
theorem isUnmarked_display {v : Value} (h : ∀ s, v ≠ .text s) : IsUnmarked v.display.toList := by
  cases v with
  | scalar s =>
    cases s with
    | text s => exact absurd rfl (h s)
    | stamp t => exact t.isPrinted_toText.isUnmarked
    | null => exact (Scalar.isPrinted_toLiteral .null).isUnmarked
    | bool b => exact (Scalar.isPrinted_toLiteral (.bool b)).isUnmarked
    | int n => exact (Scalar.isPrinted_toLiteral (.int n)).isUnmarked
    | double d => exact (Scalar.isPrinted_toLiteral (.double d)).isUnmarked
    | bytes b => exact (Scalar.isPrinted_toLiteral (.bytes b)).isUnmarked
  | list | map | group | knot => exact (isPrinted_toLiteral _).isUnmarked

theorem isUnmarked_of_shown {v : Value} (hv : ∀ s, v ≠ .text s) {text : String}
    (h : v.shown = .ok text) : IsUnmarked text.toList := by
  unfold shown at h
  split at h <;> cases h
  exact isUnmarked_display hv

end Value

/-! ### Several lines -/

namespace Layout

theorem isUnmarked_lineStart (column : Nat) : IsUnmarked (lineStart column).toList := by
  simp only [lineStart, String.toList_append, String.toList_ofList, isUnmarked_append]
  refine ⟨by decide, fun c hc => ?_⟩
  obtain rfl := List.eq_of_mem_replicate hc
  decide

theorem isUnmarked_bracketed {opening inside closing : String}
    (hopening : IsUnmarked opening.toList) (hinside : IsUnmarked inside.toList)
    (hclosing : IsUnmarked closing.toList) : IsUnmarked (opening ++ inside ++ closing).toList := by
  rw [String.toList_append, String.toList_append, isUnmarked_append, isUnmarked_append]
  exact ⟨⟨hopening, hinside⟩, hclosing⟩

theorem isUnmarked_textLiterals (column after : Nat) (s : String) :
    ∀ part ∈ textLiterals column after s, IsUnmarked part.toList := by
  refine List.forall_mem_map.mpr fun piece _ => ?_
  rw [String.toList_ofList]
  exact (isPrinted_quoted piece).isUnmarked

/-- Parts under each other have no mark between them. -/
theorem isUnmarked_intercalate {sep : String} (hsep : IsUnmarked sep.toList) {parts : List String}
    (hparts : ∀ part ∈ parts, IsUnmarked part.toList) :
    IsUnmarked (sep.intercalate parts).toList := by
  rw [String.toList_intercalate]
  exact forall_mem_intercalate hsep (List.forall_mem_map.mpr hparts)

theorem isUnmarked_joined (column : Nat) {parts : List String}
    (hparts : ∀ part ∈ parts, IsUnmarked part.toList) :
    IsUnmarked (joined column parts).toList := by
  refine isUnmarked_intercalate ?_ hparts
  rw [String.toList_append, isUnmarked_append]
  exact ⟨by decide, isUnmarked_lineStart _⟩

theorem isUnmarked_itemsAt {items : List Value}
    (h : ∀ x ∈ items, ∀ column after, IsUnmarked (valueAt column after x).toList)
    (column after : Nat) : ∀ part ∈ itemsAt column after items, IsUnmarked part.toList := by
  induction items with
  | nil => exact nofun
  | cons x xs ih =>
    obtain ⟨hx, hxs⟩ := List.forall_mem_cons.mp h
    exact List.forall_mem_cons.mpr ⟨hx _ _, ih hxs⟩

theorem isUnmarked_entriesAt {es : Entries}
    (h : ∀ e ∈ es, ∀ column after, IsUnmarked (valueAt column after e.2).toList)
    (column after : Nat) : ∀ part ∈ entriesAt column after es, IsUnmarked part.toList := by
  induction es with
  | nil => exact nofun
  | cons e es ih =>
    obtain ⟨he, hes⟩ := List.forall_mem_cons.mp h
    refine List.forall_mem_cons.mpr ⟨?_, ih hes⟩
    exact isUnmarked_bracketed e.1.isPrinted_toLiteral.isUnmarked (by decide) (he _ _)

/-- A literal has no mark in it, wherever it starts. -/
theorem isUnmarked_valueAt (v : Value) :
    ∀ column after, IsUnmarked (valueAt column after v).toList := by
  have hline : ∀ v : Value, IsUnmarked v.toLiteral.toList := fun v => v.isPrinted_toLiteral.isUnmarked
  induction v using Value.inductionOn with
  | scalar s =>
    intro column after
    cases s with
    | text t =>
      rw [valueAt]
      split
      · exact (Scalar.isPrinted_toLiteral (.text t)).isUnmarked
      · exact isUnmarked_intercalate (isUnmarked_lineStart _) (isUnmarked_textLiterals _ _ _)
    | _ =>
      rw [valueAt]
      · exact (Scalar.isPrinted_toLiteral _).isUnmarked
      · nofun
  | list items ih =>
    intro column after
    rw [valueAt]
    split
    · exact hline _
    · exact isUnmarked_bracketed (by decide) (isUnmarked_joined _ (isUnmarked_itemsAt ih _ _))
        (by decide)
  | map es ih =>
    intro column after
    rw [valueAt]
    split
    · exact hline _
    · exact isUnmarked_bracketed (by decide) (isUnmarked_joined _ (isUnmarked_entriesAt ih _ _))
        (by decide)
  | group form items | knot label inside =>
    intro column after
    rw [valueAt]
    exact hline _

end Layout

/-- **The literal of a value has no mark in it, over however many lines it is spread.** -/
theorem Value.isUnmarked_layout (v : Value) : IsUnmarked v.layout.toList := by
  unfold layout
  split
  · next s =>
    have hpieces := Layout.isUnmarked_textLiterals 1 1 s
    dsimp only
    split
    · exact (Scalar.isPrinted_toLiteral (.text s)).isUnmarked
    · split
      · next piece heq =>
        rw [heq] at hpieces
        exact hpieces piece (List.mem_singleton_self piece)
      · exact Layout.isUnmarked_bracketed (by decide)
          (Layout.isUnmarked_intercalate (Layout.isUnmarked_lineStart 1) hpieces) (by decide)
  · exact Layout.isUnmarked_valueAt _ 0 0

end ApiTools
