import ApiTools.Proofs.Literal.Scalar
import ApiTools.Proofs.Outcome
import ApiTools.Value.Layout

/-!
# Literals in several lines

A literal that is spread over lines denotes the same value as in one line: the parts of a list or a
map stand under each other, and the pieces of a text put together are the text.  This stays so when
the lines are moved to the right, since a line only ends between two parts.

## Main definitions

* `Literal.Written` — a text in lines that denotes a value when its lines are moved to the right.

## Main results

* `Layout.flatten_pieces` — **the pieces of a text put together are the text.**
* `Literal.written_list`, `Literal.written_map` — parts between brackets denote a list or a map.
* `Literal.written_valueAt` — **the literal of an exact value denotes the value**, wherever it starts
  and however far its lines are moved.
-/

namespace ApiTools

/-! ### The pieces of a text -/

namespace Text

theorem takeLine_append (s : List Char) : (takeLine s).1 ++ (takeLine s).2 = s := by
  fun_induction takeLine s with
  | case1 | case2 | case3 => rfl
  | case4 c s _ _ _ _ heq ih =>
    rw [heq] at ih
    rw [List.cons_append, ih]

/-- The lines of a text put together are the text. -/
theorem flatten_lines (s : List Char) : (lines s).flatten = s := by
  fun_induction lines s with
  | case1 => rfl
  | case2 c s ih => rw [List.flatten_cons, ih, takeLine_append]

/-- The words that are done, the last one first, and the one being read in reverse, put together. -/
def gathered (state : List Char × List (List Char)) : List Char :=
  state.2.reverse.flatten ++ state.1.reverse

theorem gathered_foldl {f : List Char × List (List Char) → Char → List Char × List (List Char)}
    (hf : ∀ state c, gathered (f state c) = gathered state ++ [c]) (s : List Char)
    (state : List Char × List (List Char)) :
    gathered (s.foldl f state) = gathered state ++ s := by
  induction s generalizing state with
  | nil => rw [List.foldl_nil, List.append_nil]
  | cons c s ih => rw [List.foldl_cons, ih, hf, List.append_assoc, List.singleton_append]

/-- The words of a text put together are the text. -/
theorem flatten_words (s : List Char) : (words s).flatten = s := by
  unfold words
  generalize hfound : List.foldl _ _ s = found
  have hgathered : gathered found = s := by
    rw [← hfound, gathered_foldl]
    · rfl
    · rintro ⟨current, done⟩ c
      cases current with
      | nil => simp [gathered]
      | cons last current =>
        dsimp only
        split <;> simp [gathered]
  obtain ⟨current, done⟩ := found
  dsimp only
  rw [← hgathered]
  split
  · next hnone =>
    rw [List.isEmpty_iff] at hnone
    simp [gathered, hnone]
  · simp [gathered]

end Text

namespace Layout

/-- Packing words into pieces keeps what they say. -/
theorem flatten_pack (column after : Nat) (current : List Char) (words : List (List Char)) :
    (pack column after current words).flatten = current ++ words.flatten := by
  fun_induction pack column after current words with
  | case1 current hnone =>
    rw [List.isEmpty_iff] at hnone
    rw [hnone]
    rfl
  | case2 current hsome => simp
  | case3 current word words room longer hfits ih =>
    rw [ih, List.flatten_cons, List.append_assoc]
  | case4 current word words room longer hfits hnone ih =>
    rw [List.isEmpty_iff] at hnone
    rw [ih, hnone, List.nil_append, List.flatten_cons]
  | case5 current word words room longer hfits hsome ih =>
    rw [List.flatten_cons, ih, List.flatten_cons]

/-- **The pieces of the lines of a text put together are the text.** -/
theorem flatten_pieces (column after : Nat) (lines : List (List Char)) :
    (pieces column after lines).flatten = lines.flatten := by
  have hline : ∀ room line, (if fits column room (Text.quoted line) then [line]
      else pack column room [] (Text.words line)).flatten = line := by
    intro room line
    split
    · exact List.flatten_singleton
    · rw [flatten_pack, List.nil_append, Text.flatten_words]
  induction lines with
  | nil => rfl
  | cons line lines ih => rw [pieces, List.flatten_append, hline, ih, List.flatten_cons]

end Layout

namespace Literal

variable {n : Nat} {s t gap : List Char} {v : Value} {parts : List (List Char)}

/-! ### The start of a line -/

theorem toList_lineStart (column : Nat) :
    (Layout.lineStart column).toList = '\n' :: List.replicate column ' ' := by
  have hline : "\n".toList = ['\n'] := rfl
  simp only [Layout.lineStart, String.toList_append, String.toList_ofList, hline,
    List.singleton_append]

/-- A new line keeps two texts in lines. -/
theorem lined_lineStart (column : Nat) (hs : Lined s) (ht : Lined t) :
    Lined (s ++ ((Layout.lineStart column).toList ++ t)) := by
  rw [toList_lineStart, List.cons_append]
  exact hs.above (ht.after (oneLine_blanks column))

/-- The start of a line is moved. -/
theorem shiftBy_lineStart (n column : Nat) :
    shiftBy n (Layout.lineStart column).toList = '\n' :: List.replicate (n + column) ' ' := by
  have hline : shiftBy n ['\n'] = '\n' :: List.replicate n ' ' := by simp [shiftBy]
  rw [toList_lineStart, ← List.singleton_append, shiftBy_append, hline,
    shiftBy_of_oneLine (oneLine_blanks column), List.cons_append, List.replicate_append_replicate]

theorem passed_lineStart (n column : Nat) :
    Passed (shiftBy n (Layout.lineStart column).toList) := by
  rw [shiftBy_lineStart]
  apply passed_of_forall
  rw [List.forall_mem_cons]
  exact ⟨rfl, fun c hc => by rw [List.eq_of_mem_replicate hc]; rfl⟩

/-! ### Parts in brackets -/

theorem ItemsText.after_gap {vs : List Value} (hgap : Passed gap) (h : ItemsText t vs) :
    ItemsText (gap ++ t) vs := by
  cases h with
  | nil hgap' => exact .nil (hgap.append hgap')
  | last hgap' hs =>
    rw [← List.append_assoc]
    exact .last (hgap.append hgap') hs
  | cons hgap' hs ht =>
    rw [← List.append_assoc]
    exact .cons (hgap.append hgap') hs ht

theorem EntriesText.after_gap {es : Entries} (hgap : Passed gap) (h : EntriesText t es) :
    EntriesText (gap ++ t) es := by
  cases h with
  | nil hgap' => exact .nil (hgap.append hgap')
  | last hgap' name hinner hs =>
    rw [← List.append_assoc]
    exact .last (hgap.append hgap') name hinner hs
  | cons hgap' name hinner hs ht =>
    rw [← List.append_assoc]
    exact .cons (hgap.append hgap') name hinner hs ht

/-- Literals of items between commas and gaps. -/
theorem itemsText_intercalate (hgap : Passed gap) {vs : List Value}
    (h : List.Forall₂ Denotes parts vs) : ItemsText ((',' :: gap).intercalate parts) vs := by
  induction h with
  | nil => exact .nil passed_nil
  | @cons part v parts vs hs hrest ih =>
    cases hrest with
    | nil => simpa using ItemsText.last passed_nil hs
    | cons =>
      rw [List.intercalate_cons_cons, List.append_assoc, List.cons_append]
      exact .cons passed_nil hs (.after_gap hgap ih)

/-- What stands for an entry: its key, and its value after a colon. -/
inductive EntryText : List Char → Scalar × Value → Prop where
  /-- The key is a text. -/
  | mk {inner s : List Char} {v : Value} (name : String) (hinner : Passed inner)
    (hs : Denotes s v) : EntryText (Text.quoted name.toList ++ ':' :: (inner ++ s)) (.text name, v)

/-- Entries between commas and gaps. -/
theorem entriesText_intercalate (hgap : Passed gap) {es : Entries}
    (h : List.Forall₂ EntryText parts es) : EntriesText ((',' :: gap).intercalate parts) es := by
  induction h with
  | nil => exact .nil passed_nil
  | @cons part e parts es hpart hrest ih =>
    cases hpart with
    | mk name hinner hs =>
      cases hrest with
      | nil => simpa using EntriesText.last passed_nil name hinner hs
      | cons =>
        have hcons := EntriesText.cons passed_nil name hinner hs (.after_gap hgap ih)
        rw [List.intercalate_cons_cons]
        simpa using hcons

/-! ### Values -/

/-- A text in lines denotes a value when its lines are moved to the right. -/
structure Written (n : Nat) (text : String) (v : Value) : Prop where
  /-- It is in lines. -/
  lined : Lined text.toList
  /-- It denotes the value. -/
  denotes : Denotes (shiftBy n text.toList) v

/-- A text in lines stands for an entry when its lines are moved to the right. -/
structure EntryWritten (n : Nat) (text : String) (e : Scalar × Value) : Prop where
  /-- It is in lines. -/
  lined : Lined text.toList
  /-- It stands for the entry. -/
  stands : EntryText (shiftBy n text.toList) e

/-- What may stand between two parts: a comma and a gap. -/
structure Parting (n : Nat) (sep : String) : Prop where
  /-- It keeps two texts in lines. -/
  lined : ∀ {s t}, Lined s → Lined t → Lined (s ++ (sep.toList ++ t))
  /-- It is a comma and a gap. -/
  parts : ∃ gap, Passed gap ∧ shiftBy n sep.toList = ',' :: gap

theorem parting_blank (n : Nat) : Parting n ", " where
  lined hs ht := hs.append (ht.after (by decide))
  parts := ⟨[' '], passed_gap rfl, rfl⟩

theorem parting_line (n column : Nat) : Parting n ("," ++ Layout.lineStart column) where
  lined hs ht := by
    rw [String.toList_append, List.append_assoc, ← List.append_assoc]
    exact lined_lineStart column (hs.append (.one (by decide) (by decide))) ht
  parts := by
    refine ⟨_, passed_lineStart n column, ?_⟩
    rw [String.toList_append, shiftBy_append]
    rfl

theorem written_scalar (n : Nat) {s : Scalar} (h : s.IsExact) :
    Written n s.toLiteral (.scalar s) where
  lined := .one (oneLine_toLiteral _) (denotes_scalar h).ne_nil
  denotes := by
    rw [shiftBy_of_oneLine (oneLine_toLiteral _)]
    exact denotes_scalar h

/-- Parts between brackets are in lines. -/
theorem lined_bracketed {opening sep closing : String} {texts : List String}
    (hopening : OneLine opening.toList) (hclosing : OneLine closing.toList)
    (hne : opening.toList ≠ [] ∧ closing.toList ≠ [])
    (hsep : ∀ {s t}, Lined s → Lined t → Lined (s ++ (sep.toList ++ t)))
    (h : ∀ text ∈ texts, Lined text.toList) :
    Lined (opening ++ sep.intercalate texts ++ closing).toList := by
  rw [String.toList_append, String.toList_append, String.toList_intercalate, List.append_assoc]
  have hclose : Lined closing.toList := .one hclosing hne.2
  cases texts with
  | nil => exact hclose.after hopening
  | cons text texts =>
    have hparts : ∀ part ∈ (text :: texts).map String.toList, Lined part :=
      List.forall_mem_map.mpr h
    exact ((lined_intercalate hsep (by simp) hparts).append hclose).after hopening

/-- **Parts between brackets denote a list.** -/
theorem written_list {sep : String} (hsep : Parting n sep) {texts : List String}
    {items : List Value} (h : List.Forall₂ (Written n) texts items) :
    Written n ("[" ++ sep.intercalate texts ++ "]") (.list items) where
  lined := by
    refine lined_bracketed (by decide) (by decide) (by decide) hsep.lined fun text htext => ?_
    obtain ⟨v, -, hv⟩ := List.exists_of_mem_forall₂ h htext
    exact hv.lined
  denotes := by
    obtain ⟨gap, hgap, hparts⟩ := hsep.parts
    have hopen : shiftBy n "[".toList = ['['] := rfl
    have hclose : shiftBy n "]".toList = [']'] := rfl
    have hitems : List.Forall₂ Denotes (texts.map fun text => shiftBy n text.toList) items :=
      List.forall₂_map_left_iff.mpr (h.imp fun _ _ => Written.denotes)
    have hlist := denotes_list (itemsText_intercalate hgap hitems)
    simp only [String.toList_append, String.toList_intercalate, shiftBy_append, hopen, hclose,
      shiftBy_intercalate, hparts, List.map_map]
    exact hlist

/-- **Entries between braces denote a map**, if their keys are distinct. -/
theorem written_map {sep : String} (hsep : Parting n sep) {texts : List String} {es : Entries}
    (h : List.Forall₂ (EntryWritten n) texts es) (hdistinct : Scalar.DistinctKeys es) :
    Written n ("\x7b" ++ sep.intercalate texts ++ "\x7d") (.map es) where
  lined := by
    refine lined_bracketed (by decide) (by decide) (by decide) hsep.lined fun text htext => ?_
    obtain ⟨e, -, he⟩ := List.exists_of_mem_forall₂ h htext
    exact he.lined
  denotes := by
    obtain ⟨gap, hgap, hparts⟩ := hsep.parts
    have hopen : shiftBy n "\x7b".toList = ['\x7b'] := rfl
    have hclose : shiftBy n "\x7d".toList = ['\x7d'] := rfl
    have hentries : List.Forall₂ EntryText (texts.map fun text => shiftBy n text.toList) es :=
      List.forall₂_map_left_iff.mpr (h.imp fun _ _ => EntryWritten.stands)
    have hmap := denotes_map (entriesText_intercalate hgap hentries) hdistinct
    simp only [String.toList_append, String.toList_intercalate, shiftBy_append, hopen, hclose,
      shiftBy_intercalate, hparts, List.map_map]
    exact hmap

/-- A key and the literal of its value stand for an entry. -/
theorem entryWritten {e : Scalar × Value} {name text : String} (hname : e.1 = .text name)
    (h : Written n text e.2) : EntryWritten n (e.1.toLiteral ++ ": " ++ text) e := by
  obtain ⟨key, x⟩ := e
  cases hname
  have hkey : OneLine (Scalar.text name).toLiteral.toList := by
    rw [Scalar.toLiteral, quoteText, String.toList_ofList]
    exact oneLine_quoted name.toList
  have hquoted : shiftBy n (Scalar.text name).toLiteral.toList = Text.quoted name.toList := by
    rw [shiftBy_of_oneLine hkey, Scalar.toLiteral, quoteText, String.toList_ofList]
  have hcolon : shiftBy n ": ".toList = [':', ' '] := rfl
  have hentry := EntryText.mk name (passed_gap (c := ' ') rfl) h.denotes
  refine ⟨?_, ?_⟩
  · rw [String.toList_append, String.toList_append]
    exact h.lined.after (oneLine_append.mpr ⟨hkey, by decide⟩)
  · simp only [String.toList_append, shiftBy_append, hcolon, hquoted]
    simpa using hentry

/-- **The literal of an exact value in one line denotes the value.** -/
theorem written_literalWithin (n : Nat) {v : Value} (h : v.IsExact) (around : List Nat) :
    Written n (v.literalWithin around) v := by
  induction v using Value.inductionOn with
  | scalar s =>
    rw [Value.literalWithin]
    exact written_scalar n (Value.isExact_scalar.mp h)
  | list items ih =>
    have hitems := Value.isExact_list.mp h
    rw [Value.literalWithin, Value.itemLiterals_eq_map]
    refine written_list (parting_blank n) (List.forall₂_map_left_iff.mpr ?_)
    exact List.forall₂_same.mpr fun x hx => ih x hx (hitems x hx)
  | map es ih =>
    obtain ⟨hdistinct, htexts, hvalues⟩ := Value.isExact_map.mp h
    rw [Value.literalWithin, Value.entryLiterals_eq_map]
    refine written_map (parting_blank n) (List.forall₂_map_left_iff.mpr ?_) hdistinct
    refine List.forall₂_same.mpr fun e he => ?_
    obtain ⟨name, hname, -⟩ := htexts e he
    exact entryWritten hname (ih e he (hvalues e he))
  | group | knot => exact absurd h.1 (by simp [Value.isJson])

/-- **The pieces of a text under each other denote the text.** -/
theorem written_pieces (n column after : Nat) {t : String} (ht : t.isEmpty = false) :
    Written n ((Layout.lineStart column).intercalate (Layout.textLiterals column after t))
      (.text t) := by
  have hflatten := Layout.flatten_pieces column after (Text.lines t.toList)
  rw [Text.flatten_lines] at hflatten
  have hne : Layout.pieces column after (Text.lines t.toList) ≠ [] := by
    intro hnil
    rw [hnil] at hflatten
    have : t = "" := String.toList_eq_nil_iff.mp hflatten.symm
    rw [this] at ht
    cases ht
  have hpieces : (Layout.textLiterals column after t).map String.toList =
      (Layout.pieces column after (Text.lines t.toList)).map Text.quoted := by
    rw [Layout.textLiterals, List.map_map]
    exact List.map_congr_left fun piece _ => String.toList_ofList
  have hshifted : ((Layout.pieces column after (Text.lines t.toList)).map Text.quoted).map
      (shiftBy n) = (Layout.pieces column after (Text.lines t.toList)).map Text.quoted := by
    rw [List.map_map]
    exact List.map_congr_left fun piece _ => shiftBy_of_oneLine (oneLine_quoted piece)
  refine ⟨?_, ?_⟩
  · rw [String.toList_intercalate, hpieces]
    refine lined_intercalate (lined_lineStart column) (by simpa using hne) ?_
    exact List.forall_mem_map.mpr fun piece _ => .one (oneLine_quoted piece) (by simp [Text.quoted])
  · have hline : (shiftBy n (Layout.lineStart column).toList).head? = some '\n' := by
      rw [shiftBy_lineStart]
      rfl
    have htext := denotes_text (passed_lineStart n column) hline hne
    rw [hflatten, String.ofList_toList] at htext
    rw [String.toList_intercalate, shiftBy_intercalate, hpieces, hshifted]
    exact htext

theorem forall₂_itemsAt {R : String → Value → Prop} {column : Nat} {items : List Value}
    (h : ∀ x ∈ items, ∀ after, R (Layout.valueAt column after x) x) (after : Nat) :
    List.Forall₂ R (Layout.itemsAt column after items) items := by
  induction items with
  | nil => exact .nil
  | cons x xs ih =>
    rw [List.forall_mem_cons] at h
    rw [Layout.itemsAt]
    exact .cons (h.1 _) (ih h.2)

theorem forall₂_entriesAt {R : String → Scalar × Value → Prop} {es : Entries}
    (h : ∀ e ∈ es, ∀ column after, R (e.1.toLiteral ++ ": " ++ Layout.valueAt column after e.2) e)
    (column after : Nat) : List.Forall₂ R (Layout.entriesAt column after es) es := by
  induction es with
  | nil => exact .nil
  | cons e es ih =>
    rw [List.forall_mem_cons] at h
    rw [Layout.entriesAt]
    exact .cons (h.1 _ _) (ih h.2)

/-- **The literal of an exact value denotes the value**, wherever it starts, whatever follows it, and
however far its lines are moved to the right. -/
theorem written_valueAt (n : Nat) {v : Value} (h : v.IsExact) :
    ∀ column after, Written n (Layout.valueAt column after v) v := by
  -- What is short enough is one literal, and anything else is written part by part.
  have hone : Written n v.toLiteral v := written_literalWithin n h []
  induction v using Value.inductionOn with
  | scalar s =>
    intro column after
    cases s with
    | text t =>
      rw [Layout.valueAt]
      split
      · exact hone
      · next hlong =>
        rw [Bool.or_eq_true, not_or, Bool.not_eq_true, Bool.not_eq_true] at hlong
        exact written_pieces n column after hlong.2
    | _ =>
      rw [Layout.valueAt]
      · exact hone
      · simp
  | list items ih =>
    intro column after
    rw [Layout.valueAt]
    split
    · exact hone
    · have hitems := Value.isExact_list.mp h
      refine written_list (parting_line n (column + 1)) (forall₂_itemsAt ?_ (after + 1))
      exact fun x hx =>
        ih x hx (hitems x hx) (written_literalWithin n (hitems x hx) []) (column + 1)
  | map es ih =>
    intro column after
    rw [Layout.valueAt]
    split
    · exact hone
    · obtain ⟨hdistinct, htexts, hvalues⟩ := Value.isExact_map.mp h
      refine written_map (parting_line n (column + 1)) (forall₂_entriesAt ?_ _ _) hdistinct
      intro e he column after
      obtain ⟨name, hname, -⟩ := htexts e he
      exact entryWritten hname
        (ih e he (hvalues e he) (written_literalWithin n (hvalues e he) []) column after)
  | group | knot => exact absurd h.1 (by simp [Value.isJson])

end Literal

end ApiTools
