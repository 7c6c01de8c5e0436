import ApiTools.Proofs.Text.Trimmed

/-!
# Moving lines to the right

The lines of a text after the first one are moved to the right.  A text can be cut at its line feeds
for that, or at every character that ends a line, where an empty line is left as it is.  When a text
has no other line end than the line feed, and no empty line, the two are the same.

## Main definitions

* `Literal.OneLine`, `Literal.Lined` — a text in one line, or in several.
* `Literal.shiftBy` — a text with its lines moved, cut at its line feeds.
* `Literal.indentBy` — the same, cut at every line end.

## Main results

* `Literal.shiftBy_of_oneLine`, `Literal.shiftBy_intercalate` — only a line feed is moved.
* `Literal.indentBy_of_lined` — **a text in lines is moved the same way wherever it is cut.**
-/

namespace ApiTools

namespace Literal

variable {n : Nat} {s t : List Char} {parts : List (List Char)}

/-- A text in one line. -/
def OneLine (s : List Char) : Prop := ∀ c ∈ s, Text.isLineEnd c = false

instance (s : List Char) : Decidable (OneLine s) :=
  List.decidableBAll (Text.isLineEnd · = false) s

theorem oneLine_append : OneLine (s ++ t) ↔ OneLine s ∧ OneLine t := List.forall_mem_append

theorem oneLine_cons {c : Char} : OneLine (c :: s) ↔ Text.isLineEnd c = false ∧ OneLine s :=
  List.forall_mem_cons

/-- A text of lines that are not empty, with a line feed between two of them and no other line
end. -/
inductive Lined : List Char → Prop where
  /-- One line. -/
  | one {l : List Char} (hl : OneLine l) (hne : l ≠ []) : Lined l
  /-- A line above others. -/
  | cons {l s : List Char} (hl : OneLine l) (hne : l ≠ []) (hs : Lined s) : Lined (l ++ '\n' :: s)

/-- What stands in front of the first line belongs to it. -/
theorem Lined.after (h : Lined t) (hs : OneLine s) : Lined (s ++ t) := by
  cases h with
  | one hl hne => exact .one (oneLine_append.mpr ⟨hs, hl⟩) (by simp [hne])
  | cons hl hne ht =>
    rw [← List.append_assoc]
    exact .cons (oneLine_append.mpr ⟨hs, hl⟩) (by simp [hne]) ht

theorem Lined.append (hs : Lined s) (ht : Lined t) : Lined (s ++ t) := by
  induction hs with
  | one hl => exact ht.after hl
  | cons hl hne _ ih =>
    rw [List.append_assoc]
    exact .cons hl hne ih

/-- One text stands above another. -/
theorem Lined.above (hs : Lined s) (ht : Lined t) : Lined (s ++ '\n' :: t) := by
  induction hs with
  | one hl hne => exact .cons hl hne ht
  | cons hl hne _ ih =>
    rw [List.append_assoc]
    exact .cons hl hne ih

/-- Parts stay in lines when what stands between two of them keeps two texts in lines. -/
theorem lined_intercalate {sep : List Char}
    (hsep : ∀ {s t}, Lined s → Lined t → Lined (s ++ (sep ++ t))) (hne : parts ≠ [])
    (h : ∀ part ∈ parts, Lined part) : Lined (sep.intercalate parts) := by
  induction parts with
  | nil => exact absurd rfl hne
  | cons part parts ih =>
    rw [List.forall_mem_cons] at h
    cases parts with
    | nil => simpa using h.1
    | cons next parts =>
      rw [List.intercalate_cons_cons, List.append_assoc]
      exact hsep h.1 (ih (List.cons_ne_nil next parts) h.2)

theorem oneLine_blanks (n : Nat) : OneLine (List.replicate n ' ') := fun c hc => by
  rw [List.eq_of_mem_replicate hc]
  rfl

/-- No other character than the line feed ends a line. -/
theorem Lined.eq_of_isLineEnd (h : Lined s) : ∀ c ∈ s, Text.isLineEnd c = true → c = '\n' := by
  induction h with
  | one hl =>
    intro c hc hends
    rw [hl c hc] at hends
    cases hends
  | cons hl _ _ ih =>
    intro c hc hends
    rcases List.mem_append.mp hc with hc | hc
    · rw [hl c hc] at hends
      cases hends
    · rcases List.mem_cons.mp hc with rfl | hc
      · rfl
      · exact ih c hc hends

/-! ### Moving lines -/

/-- A text with its lines after the first one moved to the right. -/
def shiftBy (n : Nat) (s : List Char) : List Char :=
  s.flatMap fun c => if c = '\n' then '\n' :: List.replicate n ' ' else [c]

@[simp] theorem shiftBy_append : shiftBy n (s ++ t) = shiftBy n s ++ shiftBy n t :=
  List.flatMap_append

theorem shiftBy_cons_of_ne {c : Char} (hc : c ≠ '\n') : shiftBy n (c :: s) = c :: shiftBy n s := by
  rw [shiftBy, List.flatMap_cons, if_neg hc]
  rfl

/-- One line stays where it is. -/
theorem shiftBy_of_oneLine (h : OneLine s) : shiftBy n s = s := by
  induction s with
  | nil => rfl
  | cons c s ih =>
    obtain ⟨hc, hs⟩ := oneLine_cons.mp h
    have hne : c ≠ '\n' := by
      rintro rfl
      cases hc
    rw [shiftBy_cons_of_ne hne, ih hs]

theorem shiftBy_intercalate (sep : List Char) (parts : List (List Char)) :
    shiftBy n (sep.intercalate parts) = (shiftBy n sep).intercalate (parts.map (shiftBy n)) := by
  induction parts with
  | nil => rfl
  | cons part parts ih =>
    cases parts with
    | nil => simp
    | cons next parts =>
      rw [List.intercalate_cons_cons, shiftBy_append, shiftBy_append, ih, List.map_cons,
        List.map_cons, List.map_cons, List.intercalate_cons_cons]

theorem mem_shiftBy {c : Char} (h : c ∈ shiftBy n s) : c = '\n' ∨ c = ' ' ∨ c ∈ s := by
  obtain ⟨d, hd, hc⟩ := List.mem_flatMap.mp h
  split at hc
  · rcases List.mem_cons.mp hc with rfl | hc
    · exact .inl rfl
    · exact .inr (.inl (List.eq_of_mem_replicate hc))
  · rw [List.mem_singleton] at hc
    exact .inr (.inr (hc ▸ hd))

/-- A text in lines has no carriage return, wherever its lines are moved. -/
theorem Lined.return_notMem (h : Lined s) : '\r' ∉ shiftBy n s := by
  intro hmem
  rcases mem_shiftBy hmem with hc | hc | hc
  · exact absurd hc (by decide)
  · exact absurd hc (by decide)
  · exact absurd (h.eq_of_isLineEnd _ hc rfl) (by decide)

/-! ### Cutting at every line end -/

/-- A text with its lines after the first one moved to the right, cut at every line end. Empty lines
stay empty, and a line feed is put between two lines. -/
def indentBy (n : Nat) (s : List Char) : List Char :=
  match (Text.lines (s ++ ['\n'])).map (Text.trimEnd Text.isLineEnd) with
  | [] => []
  | first :: rest =>
    ['\n'].intercalate
      (first :: rest.map fun l => if l.isEmpty then l else List.replicate n ' ' ++ l)

theorem takeLine_of_oneLine {l : List Char} (h : OneLine l) (t : List Char) :
    Text.takeLine (l ++ '\n' :: t) = (l ++ ['\n'], t) := by
  induction l with
  | nil => rfl
  | cons c l ih =>
    obtain ⟨hc, hl⟩ := oneLine_cons.mp h
    rw [List.cons_append, Text.takeLine, if_neg (by simp [hc]), ih hl]
    · rfl
    · rintro s rfl
      cases hc

/-- The first line of a text, and the others. -/
theorem lines_of_oneLine {l : List Char} (h : OneLine l) (t : List Char) :
    Text.lines (l ++ '\n' :: t) = (l ++ ['\n']) :: Text.lines t := by
  obtain ⟨c, s, hs⟩ : ∃ c s, l ++ '\n' :: t = c :: s := List.exists_cons_of_ne_nil (by simp)
  rw [hs, Text.lines, ← hs, takeLine_of_oneLine h]

theorem trimEnd_of_oneLine {l : List Char} (h : OneLine l) :
    Text.trimEnd Text.isLineEnd (l ++ ['\n']) = l :=
  Text.trimEnd_eq_iff.mpr
    ⟨['\n'], rfl, List.forall_mem_singleton.mpr rfl, fun c hc => h c (List.mem_of_mem_getLast? hc)⟩

/-- A text in lines is put together from its lines. -/
theorem Lined.exists_lines (h : Lined s) :
    ∃ first rest, (Text.lines (s ++ ['\n'])).map (Text.trimEnd Text.isLineEnd) = first :: rest ∧
      s = ['\n'].intercalate (first :: rest) ∧ ∀ l ∈ first :: rest, OneLine l ∧ l ≠ [] := by
  induction h with
  | @one l hl hne =>
    refine ⟨l, [], ?_, by simp, by simpa using ⟨hl, hne⟩⟩
    rw [lines_of_oneLine hl, Text.lines, List.map_singleton, trimEnd_of_oneLine hl]
  | @cons l s hl hne _ ih =>
    obtain ⟨first, rest, hcut, heq, hall⟩ := ih
    refine ⟨l, first :: rest, ?_, ?_, List.forall_mem_cons.mpr ⟨⟨hl, hne⟩, hall⟩⟩
    · rw [List.append_assoc, List.cons_append, lines_of_oneLine hl, List.map_cons,
        trimEnd_of_oneLine hl, hcut]
    · rw [List.intercalate_cons_cons, ← heq, List.append_assoc, List.singleton_append]

theorem intercalate_map_append (sep gap first : List Char) (rest : List (List Char)) :
    (sep ++ gap).intercalate (first :: rest) =
      sep.intercalate (first :: rest.map fun l => gap ++ l) := by
  induction rest generalizing first with
  | nil => simp
  | cons next rest ih =>
    rw [List.intercalate_cons_cons, ih, List.map_cons, List.intercalate_cons_cons]
    cases rest <;> simp

/-- **A text in lines is moved the same way wherever it is cut.** -/
theorem indentBy_of_lined (h : Lined s) : indentBy n s = shiftBy n s := by
  obtain ⟨first, rest, hcut, heq, hall⟩ := h.exists_lines
  rw [List.forall_mem_cons] at hall
  obtain ⟨⟨hfirst, -⟩, hall⟩ := hall
  have hmoved : (rest.map fun l => if l.isEmpty then l else List.replicate n ' ' ++ l) =
      rest.map fun l => List.replicate n ' ' ++ l :=
    List.map_congr_left fun l hl => if_neg (by simpa using (hall l hl).2)
  have hsame : (first :: rest).map (shiftBy n) = first :: rest := by
    rw [List.map_cons, shiftBy_of_oneLine hfirst,
      List.map_congr_left fun l hl => shiftBy_of_oneLine (hall l hl).1, List.map_id']
  have hsep : shiftBy n ['\n'] = ['\n'] ++ List.replicate n ' ' := by simp [shiftBy]
  rw [indentBy, hcut]
  dsimp only
  rw [hmoved, heq, shiftBy_intercalate, hsame, hsep, intercalate_map_append]

end Literal

end ApiTools
