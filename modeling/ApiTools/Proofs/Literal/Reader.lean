import ApiTools.Proofs.Json.Number
import ApiTools.Proofs.Literal.Quoted
import ApiTools.Proofs.Value.Entries

/-!
# Reading literals in source

A source denotes a value by a literal: a name for null and the truth values, a number, texts side by
side, a list in brackets or a map in braces.  Inside brackets blanks, line ends and comments are
passed over, and a comma may stand after the last item.  Numbers have more forms in a source than in
JSON, and keys of maps need not be texts; a literal in another form is not read here, nor is one after
which something other than a separator stands where one has to.

What is written down denotes a value when it is read as that value wherever a separator follows.

## Main definitions

* `Literal.skip` — the source from the next token on.
* `Literal.readValue` — the value of the literal in front of a source, and the rest.
* `Literal.Denotes` — some characters denote a value.
* `Literal.ItemsText`, `Literal.EntriesText` — what may stand between brackets.

## Main results

* `Literal.denotes_list`, `Literal.denotes_map` — **items and entries side by side denote a list and a
  map.**
* `Literal.denotes_text` — pieces of a text under each other denote the text.
-/

namespace ApiTools

namespace Literal

/-! ### Gaps -/

/-- Whether a character may stand between tokens inside brackets. -/
def isGap (c : Char) : Bool := c == ' ' || c == '\t' || c == '\x0c' || c == '\n'

/-- The source from the next token on, when a comment may have begun. -/
def skipFrom (comment : Bool) : List Char → List Char
  | [] => []
  | c :: s =>
    if comment then
      if c = '\x00' then c :: s else skipFrom (c != '\n') s
    else if c = '#' then skipFrom true s
    else if isGap c then skipFrom false s
    else c :: s

/-- The source from the next token on. -/
def skip (s : List Char) : List Char := skipFrom false s

/-! ### Values -/

variable (names : String → Option Char)

/-- The text of literals side by side, and the rest. -/
def readTexts : Nat → List Char → Option (List Char × List Char)
  | 0, _ => none
  | fuel + 1, s => do
    let (first, rest) ← readQuoted names s
    if (openingQuotes? (skip rest)).isSome then
      let (more, rest) ← readTexts fuel (skip rest)
      return (first ++ more, rest)
    else return (first, rest)

/-- A value that is spelled by a name, and the rest. -/
def readName (s : List Char) : Option (Value × List Char) :=
  [("None", Value.null), ("True", .bool true), ("False", .bool false)].findSome?
    fun (word, v) => (Json.afterWord? word s).map fun rest => (v, rest)

/-- A number or a name, and the rest. -/
def readWord : List Char → Option (Value × List Char)
  | '-' :: s => (Json.readNumber true s).toOption
  | s =>
    match readName s with
    | some found => some found
    | none => (Json.readNumber false s).toOption

mutual

/-- The value of the literal in front of a source, and the rest. -/
def readValue : Nat → List Char → Option (Value × List Char)
  | 0, _ => none
  | fuel + 1, s =>
    match s with
    | '[' :: s => readItems fuel [] (skip s)
    | '\x7b' :: s => readEntries fuel [] (skip s)
    | s =>
      if (openingQuotes? s).isSome then
        (readTexts names (fuel + 1) s).map fun found => (.text (String.ofList found.1), found.2)
      else readWord s

/-- The items of a list from the next one on; those before it are given in reverse. -/
def readItems : Nat → List Value → List Char → Option (Value × List Char)
  | 0, _, _ => none
  | fuel + 1, done, s =>
    match s with
    | ']' :: rest => some (.list done.reverse, rest)
    | s => do
      let (v, rest) ← readValue fuel s
      match skip rest with
      | ',' :: rest => readItems fuel (v :: done) (skip rest)
      | ']' :: rest => some (.list (v :: done).reverse, rest)
      | _ => none

/-- The entries of a map from the next one on, with those before it. -/
def readEntries : Nat → Entries → List Char → Option (Value × List Char)
  | 0, _, _ => none
  | fuel + 1, done, s =>
    match s with
    | '\x7d' :: rest => some (.map done, rest)
    | s => do
      let (key, rest) ← readTexts names (fuel + 1) s
      match skip rest with
      | ':' :: rest => do
        let (v, rest) ← readValue fuel (skip rest)
        let done := Entries.insert done (.text (String.ofList key)) v
        match skip rest with
        | ',' :: rest => readEntries fuel done (skip rest)
        | '\x7d' :: rest => some (.map done, rest)
        | _ => none
      | _ => none

end

/-- The value of the literal after some blanks in a line, and the rest. -/
def read (s : List Char) : Option (Value × List Char) :=
  readValue names (s.length + 1) (s.dropWhile fun c => c == ' ' || c == '\t' || c == '\x0c')

/-! ### What is passed over -/

/-- Characters that are passed over between tokens. -/
def Passed (gap : List Char) : Prop := ∀ s, skip (gap ++ s) = skip s

theorem passed_nil : Passed [] := fun _ => rfl

theorem Passed.append {g h : List Char} (hg : Passed g) (hh : Passed h) : Passed (g ++ h) := by
  intro s
  rw [List.append_assoc, hg, hh]

theorem passed_gap {c : Char} (hc : isGap c = true) : Passed [c] := by
  intro s
  have hhash : c ≠ '#' := by
    rintro rfl
    exact absurd hc (by decide)
  rw [List.singleton_append, skip, skipFrom, if_neg (by simp), if_neg hhash, if_pos hc]
  rfl

theorem passed_of_forall {gap : List Char} (h : ∀ c ∈ gap, isGap c = true) : Passed gap := by
  induction gap with
  | nil => exact passed_nil
  | cons c gap ih =>
    rw [List.forall_mem_cons] at h
    exact (passed_gap h.1).append (ih h.2)

/-- A comment is passed over with the end of its line. -/
theorem passed_comment {comment : List Char} (h : ∀ c ∈ comment, c ≠ '\x00' ∧ c ≠ '\n') :
    Passed ('#' :: (comment ++ ['\n'])) := by
  have hinside : ∀ s, skipFrom true (comment ++ '\n' :: s) = skipFrom false s := by
    intro s
    induction comment with
    | nil => simp [skipFrom]
    | cons c comment ih =>
      rw [List.forall_mem_cons] at h
      rw [List.cons_append, skipFrom, if_pos rfl, if_neg h.1.1, bne_iff_ne.mpr h.1.2]
      exact ih h.2
  intro s
  have hsource : '#' :: (comment ++ ['\n']) ++ s = '#' :: (comment ++ '\n' :: s) := by simp
  rw [hsource, skip, skipFrom, if_neg (by simp), if_pos rfl]
  exact hinside s

/-! ### What denotes a value -/

/-- What stands after a value or a key: a separator. -/
def Separated (rest : List Char) : Prop := ∃ c s, rest = c :: s ∧ c ∈ [',', ':', ']', '\x7d']

/-- Some characters denote a value: they begin with a token, and are read as the value wherever a
separator follows. -/
structure Denotes (s : List Char) (v : Value) : Prop where
  /-- There is nothing to pass over in front. -/
  starts : ∀ rest, skip (s ++ rest) = s ++ rest
  /-- They do not close a list. -/
  opens : s.head? ≠ some ']'
  /-- They are read as the value. -/
  reads : ∀ names fuel rest, s.length < fuel → Separated rest →
    readValue names fuel (s ++ rest) = some (v, rest)

variable {names : String → Option Char} {s t gap rest : List Char} {v : Value} {fuel : Nat}

/-- What denotes a value has a character in it. -/
theorem Denotes.ne_nil (h : Denotes s v) : s ≠ [] := by
  rintro rfl
  exact absurd (h.starts [' ']) (by decide)

theorem skip_token {c : Char} (hgap : isGap c = false) (hhash : c ≠ '#') (s : List Char) :
    skip (c :: s) = c :: s := by
  rw [skip, skipFrom, if_neg (by simp), if_neg hhash, if_neg (by simp [hgap])]

/-- A separator is a token of its own. -/
theorem of_mem_separators {c : Char} (hc : c ∈ [',', ':', ']', '\x7d']) :
    (isGap c = false ∧ c ≠ '#') ∧ (c.isDigit = false ∧ c ∉ ['.', 'e', 'E']) ∧
      c ≠ '\'' ∧ c ≠ '"' := by
  simp only [List.mem_cons, List.not_mem_nil, or_false] at hc
  rcases hc with rfl | rfl | rfl | rfl <;> decide

theorem Separated.skip_eq (h : Separated rest) : skip rest = rest := by
  obtain ⟨c, s, rfl, hc⟩ := h
  obtain ⟨⟨hgap, hhash⟩, -⟩ := of_mem_separators hc
  exact skip_token hgap hhash s

theorem Separated.endsNumber (h : Separated rest) : Json.EndsNumber rest := by
  obtain ⟨c, s, rfl, hc⟩ := h
  intro d hd
  cases hd
  exact (of_mem_separators hc).2.1

theorem Separated.not_quote (h : Separated rest) :
    rest.head? ≠ some '\'' ∧ rest.head? ≠ some '"' := by
  obtain ⟨c, s, rfl, hc⟩ := h
  simpa using (of_mem_separators hc).2.2

/-! ### Lists -/

/-- What may stand between the brackets of a list. -/
inductive ItemsText : List Char → List Value → Prop where
  /-- There is no item any more. -/
  | nil {gap : List Char} (hgap : Passed gap) : ItemsText gap []
  /-- The last item needs no comma. -/
  | last {gap s : List Char} {v : Value} (hgap : Passed gap) (hs : Denotes s v) :
    ItemsText (gap ++ s) [v]
  /-- An item is followed by a comma. -/
  | cons {gap s t : List Char} {v : Value} {vs : List Value} (hgap : Passed gap) (hs : Denotes s v)
    (ht : ItemsText t vs) : ItemsText (gap ++ (s ++ ',' :: t)) (v :: vs)

theorem readItems_succ {done : List Value} (h : s.head? ≠ some ']') :
    readItems names (fuel + 1) done s = (do
      let (v, rest) ← readValue names fuel s
      match skip rest with
      | ',' :: rest => readItems names fuel (v :: done) (skip rest)
      | ']' :: rest => some (.list (v :: done).reverse, rest)
      | _ => none) := by
  rw [readItems]
  rintro rest rfl
  exact h rfl

theorem head?_append_ne (hs : Denotes s v) (t : List Char) : (s ++ t).head? ≠ some ']' := by
  rw [List.head?_append_of_ne_nil _ hs.ne_nil]
  exact hs.opens

/-- **The items between the brackets are read.** -/
theorem readItems_of_itemsText {vs : List Value} (h : ItemsText t vs) :
    ∀ fuel done rest, t.length + 1 < fuel →
      readItems names fuel done (skip (t ++ ']' :: rest)) =
        some (.list (done.reverse ++ vs), rest) := by
  have hclose : ∀ rest, skip (']' :: rest) = ']' :: rest := skip_token rfl (by decide)
  have hcomma : ∀ rest, skip (',' :: rest) = ',' :: rest := skip_token rfl (by decide)
  induction h with
  | nil hgap =>
    intro fuel done rest hfuel
    obtain ⟨fuel, rfl⟩ : ∃ k, fuel = k + 1 := ⟨fuel - 1, by omega⟩
    rw [hgap, hclose, readItems, List.append_nil]
  | @last gap s v hgap hs =>
    intro fuel done rest hfuel
    obtain ⟨fuel, rfl⟩ : ∃ k, fuel = k + 1 := ⟨fuel - 1, by omega⟩
    rw [List.length_append] at hfuel
    rw [List.append_assoc, hgap, hs.starts, readItems_succ (head?_append_ne hs _),
      hs.reads names fuel _ (by omega) ⟨']', rest, rfl, by decide⟩]
    simp [hclose]
  | @cons gap s t v vs hgap hs _ ih =>
    intro fuel done rest hfuel
    obtain ⟨fuel, rfl⟩ : ∃ k, fuel = k + 1 := ⟨fuel - 1, by omega⟩
    have hpos : 0 < s.length := List.length_pos_of_ne_nil hs.ne_nil
    simp only [List.length_append, List.length_cons] at hfuel
    rw [List.append_assoc, List.append_assoc, List.cons_append, hgap, hs.starts,
      readItems_succ (head?_append_ne hs _),
      hs.reads names fuel _ (by omega) ⟨',', t ++ ']' :: rest, rfl, by decide⟩]
    rw [Option.bind_eq_bind, Option.bind_some]
    simp only [hcomma]
    rw [ih fuel (v :: done) rest (by omega), List.reverse_cons, List.append_assoc]
    rfl

/-- Items in brackets are read as a list, whatever follows. -/
theorem readValue_list {vs : List Value} (h : ItemsText t vs) (hfuel : t.length + 2 < fuel) :
    readValue names fuel ('[' :: (t ++ ']' :: rest)) = some (.list vs, rest) := by
  obtain ⟨fuel, rfl⟩ : ∃ k, fuel = k + 1 := ⟨fuel - 1, by omega⟩
  rw [readValue, readItems_of_itemsText h fuel [] rest (by omega)]
  rfl

/-- **Items in brackets denote a list.** -/
theorem denotes_list {vs : List Value} (h : ItemsText t vs) :
    Denotes ('[' :: (t ++ [']'])) (.list vs) where
  starts rest := skip_token rfl (by decide) _
  opens := by simp
  reads names fuel rest hfuel _ := by
    simp only [List.length_cons, List.length_append, List.length_nil] at hfuel
    rw [List.cons_append, List.append_assoc, List.singleton_append]
    exact readValue_list h (by omega)

/-! ### Texts -/

/-- Pieces of a text side by side. -/
def sideBySide (gap : List Char) (pieces : List (List Char)) : List Char :=
  gap.intercalate (pieces.map Text.quoted)

/-- The quotes of a text open a literal. -/
theorem openingQuotes?_append (piece t : List Char) :
    ∃ quote s, (quote = '\'' ∨ quote = '"') ∧ Text.quoted piece ++ t = quote :: s := by
  exact ⟨Text.quoteFor piece, _, Text.quoteFor_cases piece, List.cons_append⟩

theorem isSome_openingQuotes? {quote : Char} (h : quote = '\'' ∨ quote = '"') (s : List Char) :
    (openingQuotes? (quote :: s)).isSome = true := by
  rw [openingQuotes?, if_pos h]
  rfl

theorem skip_quote {quote : Char} (h : quote = '\'' ∨ quote = '"') (s : List Char) :
    skip (quote :: s) = quote :: s := by
  rcases h with rfl | rfl <;> exact skip_token rfl (by decide) s

/-- Pieces side by side begin with a quote. -/
theorem exists_quote_sideBySide (gap piece : List Char) (pieces : List (List Char))
    (rest : List Char) :
    ∃ quote s, (quote = '\'' ∨ quote = '"') ∧
      sideBySide gap (piece :: pieces) ++ rest = quote :: s := by
  cases pieces with
  | nil =>
    have hone : sideBySide gap [piece] = Text.quoted piece := by simp [sideBySide]
    rw [hone]
    exact openingQuotes?_append piece rest
  | cons next pieces =>
    have hmore : sideBySide gap (piece :: next :: pieces) ++ rest =
        Text.quoted piece ++ (gap ++ sideBySide gap (next :: pieces) ++ rest) := by
      simp [sideBySide]
    rw [hmore]
    exact openingQuotes?_append piece _

/-- **Pieces under each other are read as one text.** -/
theorem readTexts_sideBySide (names : String → Option Char) (hgap : Passed gap)
    (hline : gap.head? = some '\n') {pieces : List (List Char)} (hne : pieces ≠ [])
    (hrest : Separated rest) :
    ∀ fuel, (sideBySide gap pieces).length < fuel →
      readTexts names fuel (sideBySide gap pieces ++ rest) = some (pieces.flatten, rest) := by
  induction pieces with
  | nil => exact absurd rfl hne
  | cons piece pieces ih =>
    intro fuel hfuel
    obtain ⟨fuel, rfl⟩ : ∃ k, fuel = k + 1 := ⟨fuel - 1, by omega⟩
    cases pieces with
    | nil =>
      have hone : sideBySide gap [piece] = Text.quoted piece := by simp [sideBySide]
      have hnone : openingQuotes? rest = none := by
        obtain ⟨hsingle, hdouble⟩ := hrest.not_quote
        obtain ⟨c, s, rfl, -⟩ := hrest
        rw [List.head?_cons, Ne, Option.some.injEq] at hsingle hdouble
        rw [openingQuotes?, if_neg (not_or.mpr ⟨hsingle, hdouble⟩)]
      rw [hone, readTexts, readQuoted_quoted piece hrest.not_quote]
      simp [hrest.skip_eq, hnone]
    | cons next pieces =>
      have hmore : sideBySide gap (piece :: next :: pieces) =
          Text.quoted piece ++ gap ++ sideBySide gap (next :: pieces) := by
        simp [sideBySide]
      have hfollows : (gap ++ (sideBySide gap (next :: pieces) ++ rest)).head? = some '\n' := by
        rw [List.head?_append, hline]
        rfl
      obtain ⟨quote, s, hquote, hs⟩ := exists_quote_sideBySide gap next pieces rest
      have hpos : 0 < (Text.quoted piece).length := by simp [Text.quoted]
      rw [hmore, List.length_append, List.length_append] at hfuel
      rw [hmore, List.append_assoc, List.append_assoc, readTexts,
        readQuoted_quoted piece (by rw [hfollows]; decide), Option.bind_eq_bind, Option.bind_some]
      dsimp only
      rw [hgap, hs, skip_quote hquote, if_pos (isSome_openingQuotes? hquote s), ← hs,
        ih (by simp) fuel (by omega)]
      rfl

/-- **Pieces of a text under each other denote the text.** -/
theorem denotes_text (hgap : Passed gap) (hline : gap.head? = some '\n')
    {pieces : List (List Char)} (hne : pieces ≠ []) :
    Denotes (sideBySide gap pieces) (.text (String.ofList pieces.flatten)) := by
  have hopen : ∀ rest, ∃ quote s, (quote = '\'' ∨ quote = '"') ∧
      sideBySide gap pieces ++ rest = quote :: s := by
    intro rest
    obtain ⟨piece, pieces, rfl⟩ := List.exists_cons_of_ne_nil hne
    exact exists_quote_sideBySide gap piece pieces rest
  refine ⟨fun rest => ?_, ?_, fun names fuel rest hfuel hrest => ?_⟩
  · obtain ⟨quote, s, hquote, hs⟩ := hopen rest
    rw [hs, skip_quote hquote]
  · obtain ⟨quote, s, hquote, hs⟩ := hopen []
    rw [List.append_nil] at hs
    rw [hs]
    rcases hquote with rfl | rfl <;> simp
  · obtain ⟨quote, s, hquote, hs⟩ := hopen rest
    have hread := readTexts_sideBySide names hgap hline hne hrest fuel hfuel
    obtain ⟨fuel, rfl⟩ : ∃ k, fuel = k + 1 := ⟨fuel - 1, by omega⟩
    rw [hs] at hread ⊢
    have hsome := isSome_openingQuotes? hquote s
    rw [readValue, if_pos hsome, hread]
    · rfl
    all_goals
      rintro t heq
      cases heq
      rcases hquote with h | h <;> cases h

/-! ### Maps -/

/-- What may stand between the braces of a map. -/
inductive EntriesText : List Char → Entries → Prop where
  /-- There is no entry any more. -/
  | nil {gap : List Char} (hgap : Passed gap) : EntriesText gap []
  /-- The last entry needs no comma. -/
  | last {gap inner s : List Char} {v : Value} (hgap : Passed gap) (name : String)
    (hinner : Passed inner) (hs : Denotes s v) :
    EntriesText (gap ++ (Text.quoted name.toList ++ ':' :: (inner ++ s))) [(.text name, v)]
  /-- An entry is followed by a comma. -/
  | cons {gap inner s t : List Char} {v : Value} {es : Entries} (hgap : Passed gap) (name : String)
    (hinner : Passed inner) (hs : Denotes s v) (ht : EntriesText t es) :
    EntriesText (gap ++ (Text.quoted name.toList ++ ':' :: (inner ++ (s ++ ',' :: t))))
      ((.text name, v) :: es)

theorem readTexts_quoted (hrest : Separated rest) (piece : List Char) :
    ∀ fuel, (Text.quoted piece).length < fuel →
      readTexts names fuel (Text.quoted piece ++ rest) = some (piece, rest) := by
  have hone : sideBySide ['\n'] [piece] = Text.quoted piece := by simp [sideBySide]
  have hread := readTexts_sideBySide names (passed_gap (c := '\n') rfl) rfl
    (List.cons_ne_nil piece []) hrest
  rwa [hone, List.flatten_singleton] at hread

/-- One entry is read: its key, its value, and what stands after it. -/
theorem readEntries_succ {done : Entries} {name : String} {inner : List Char}
    (hinner : Passed inner) (hs : Denotes s v) (hrest : Separated rest)
    (hfuel : (Text.quoted name.toList).length + s.length ≤ fuel) :
    readEntries names (fuel + 1) done (Text.quoted name.toList ++ ':' :: (inner ++ (s ++ rest))) =
      match skip rest with
      | ',' :: rest => readEntries names fuel (done.insert (.text name) v) (skip rest)
      | '\x7d' :: rest => some (.map (done.insert (.text name) v), rest)
      | _ => none := by
  have hcolon : ∀ s, skip (':' :: s) = ':' :: s := skip_token rfl (by decide)
  have hpos : 0 < (Text.quoted name.toList).length := by simp [Text.quoted]
  rw [readEntries, readTexts_quoted ⟨':', _, rfl, by decide⟩ _ _ (by omega), Option.bind_eq_bind,
    Option.bind_some]
  · simp only [hcolon]
    rw [hinner, hs.starts, hs.reads names fuel rest (by omega) hrest, Option.bind_eq_bind,
      Option.bind_some]
    simp only [String.ofList_toList]
  · intro t heq
    obtain ⟨quote, u, hquote, hu⟩ :=
      openingQuotes?_append name.toList (':' :: (inner ++ (s ++ rest)))
    rw [hu] at heq
    cases heq
    rcases hquote with h | h <;> cases h

/-- **The entries between the braces are read.** -/
theorem readEntries_of_entriesText {es : Entries} (h : EntriesText t es) :
    ∀ fuel done rest, t.length + 1 < fuel → Scalar.DistinctKeys (done ++ es) →
      readEntries names fuel done (skip (t ++ '\x7d' :: rest)) =
        some (.map (done ++ es), rest) := by
  have hclose : ∀ rest, skip ('\x7d' :: rest) = '\x7d' :: rest := skip_token rfl (by decide)
  have hcomma : ∀ rest, skip (',' :: rest) = ',' :: rest := skip_token rfl (by decide)
  have hopen : ∀ name t, skip (Text.quoted name ++ t) = Text.quoted name ++ t := by
    intro name t
    obtain ⟨quote, s, hquote, hs⟩ := openingQuotes?_append name t
    rw [hs, skip_quote hquote]
  induction h with
  | nil hgap =>
    intro fuel done rest hfuel _
    obtain ⟨fuel, rfl⟩ : ∃ k, fuel = k + 1 := ⟨fuel - 1, by omega⟩
    rw [hgap, hclose, readEntries, List.append_nil]
  | @last gap inner s v hgap name hinner hs =>
    intro fuel done rest hfuel hdistinct
    obtain ⟨fuel, rfl⟩ : ∃ k, fuel = k + 1 := ⟨fuel - 1, by omega⟩
    simp only [List.length_append, List.length_cons] at hfuel
    simp only [List.append_assoc, List.cons_append]
    rw [hgap, hopen, readEntries_succ hinner hs ⟨'\x7d', rest, rfl, by decide⟩ (by omega),
      Entries.insert_append hdistinct]
    simp only [hclose]
  | @cons gap inner s t v es hgap name hinner hs _ ih =>
    intro fuel done rest hfuel hdistinct
    obtain ⟨fuel, rfl⟩ : ∃ k, fuel = k + 1 := ⟨fuel - 1, by omega⟩
    simp only [List.length_append, List.length_cons] at hfuel
    have hpos : 0 < s.length := List.length_pos_of_ne_nil hs.ne_nil
    simp only [List.append_assoc, List.cons_append]
    rw [hgap, hopen, readEntries_succ hinner hs ⟨',', _, rfl, by decide⟩ (by omega),
      Entries.insert_append hdistinct]
    simp only [hcomma]
    rw [List.append_cons] at hdistinct
    rw [ih fuel _ rest (by omega) hdistinct, ← List.append_cons]

/-- **Entries in braces denote a map**, if their keys are distinct. -/
theorem denotes_map {es : Entries} (h : EntriesText t es) (hdistinct : Scalar.DistinctKeys es) :
    Denotes ('\x7b' :: (t ++ ['\x7d'])) (.map es) where
  starts rest := skip_token rfl (by decide) _
  opens := by simp
  reads names fuel rest hfuel _ := by
    obtain ⟨fuel, rfl⟩ : ∃ k, fuel = k + 1 := ⟨fuel - 1, by omega⟩
    simp only [List.length_cons, List.length_append, List.length_nil] at hfuel
    rw [List.cons_append, List.append_assoc, List.singleton_append, readValue,
      readEntries_of_entriesText h fuel [] rest (by omega) hdistinct]
    rfl

end Literal

end ApiTools
