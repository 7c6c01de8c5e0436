import ApiTools.Annotation

/-!
# Where tokens occur

A rule is matched by the pattern of its tokens.  The pattern is escaped when it is written, so its
alternatives are the tokens again, whatever characters they are made of; and it is searched without
regard to case, which is a comparison of letters: every character is one of the forms of a letter,
and two characters are the same exactly when their letters are.

## Main definitions

* `Text.letter` — the letter of a character.
* `Text.Occurs` — the letters of a token stand side by side in a text.
* `Text.isSmall` — a character of ASCII that is no capital.
* `AnnotationRule.Matches` — some token of a rule occurs in a text, or it has none.

## Main results

* `Text.sameLetter_iff` — **equality without case is equality of letters**, so it is an equivalence.
* `Text.occurs_iff_of_isSmall` — among small letters a token occurs where it stands.
* `Pattern.read_ofTokens` — **the alternatives of the pattern of some tokens are the tokens.**
* `Pattern.search_iff` — a pattern is found where one of its alternatives occurs.
* `AnnotationRule.isMatch_iff` — **a rule matches where one of its tokens occurs.**
-/

namespace ApiTools

namespace Text

/-! ### Letters -/

/-- The other lower-case forms of a letter, one of which is given by its number. -/
def formsOf (n : Nat) : List Nat := (variants.lookup n).getD []

/-- The least of the lower-case forms of a letter. -/
def leastForm (n : Nat) : Nat := (formsOf n).foldl min n

/-- The letter of a character, by the least of its lower-case forms. -/
def letter (c : Char) : Nat := leastForm (lower c).toNat

theorem formsOf_of_not_mem {n : Nat} (h : n ∉ variants.map Prod.fst) : formsOf n = [] := by
  unfold formsOf
  rw [List.lookup_eq_none_iff.mpr]
  · rfl
  · intro e he
    exact bne_iff_ne.mpr fun heq => h (List.mem_map.mpr ⟨e, he, heq.symm⟩)

/-- The forms that are listed for a letter are listed themselves, so is the least of them, and they
have the same least form exactly when they are listed for each other. -/
theorem forms_of_variants :
    ∀ n ∈ variants.map Prod.fst, (∀ m ∈ formsOf n, m ∈ variants.map Prod.fst) ∧
      leastForm n ∈ variants.map Prod.fst ∧
      ∀ m ∈ variants.map Prod.fst, (m = n ∨ m ∈ formsOf n ↔ leastForm n = leastForm m) := by
  decide +kernel

/-- Two numbers are forms of one letter exactly when the least forms agree. -/
theorem leastForm_eq_iff {n m : Nat} : m = n ∨ m ∈ formsOf n ↔ leastForm n = leastForm m := by
  have halone : ∀ {k : Nat}, k ∉ variants.map Prod.fst → leastForm k = k := fun hk => by
    unfold leastForm
    rw [formsOf_of_not_mem hk]
    rfl
  by_cases hn : n ∈ variants.map Prod.fst
  · obtain ⟨hforms, hleast, hiff⟩ := forms_of_variants n hn
    by_cases hm : m ∈ variants.map Prod.fst
    · exact hiff m hm
    · refine iff_of_false ?_ ?_
      · rintro (rfl | hmem)
        · exact hm hn
        · exact hm (hforms m hmem)
      · intro heq
        rw [halone hm] at heq
        exact hm (heq ▸ hleast)
  · rw [halone hn, formsOf_of_not_mem hn]
    by_cases hm : m ∈ variants.map Prod.fst
    · refine iff_of_false ?_ ?_
      · rintro (rfl | hmem)
        · exact hn hm
        · cases hmem
      · intro heq
        exact hn (heq ▸ (forms_of_variants m hm).2.1)
    · rw [halone hm, or_iff_left List.not_mem_nil, eq_comm]

/-- **Equality without case is equality of letters.** -/
theorem sameLetter_iff {c d : Char} : sameLetter c d = true ↔ letter c = letter d := by
  have hnumber : (lower c == lower d) = true ↔ (lower d).toNat = (lower c).toNat := by
    rw [beq_iff_eq, Char.toNat_inj, eq_comm]
  have hforms : (formsOf (lower c).toNat).contains (lower d).toNat = true ↔
      (lower d).toNat ∈ formsOf (lower c).toNat := List.contains_iff_mem
  have hsame : sameLetter c d = (lower c == lower d ||
      (formsOf (lower c).toNat).contains (lower d).toNat) := rfl
  rw [hsame, Bool.or_eq_true, hnumber, hforms]
  exact leastForm_eq_iff

/-- A text begins with another one exactly when its letters do. -/
theorem startsWithLetters_iff {token s : List Char} :
    startsWithLetters token s = true ↔ token.map letter <+: s.map letter := by
  induction token generalizing s with
  | nil => simp [startsWithLetters]
  | cons t token ih =>
    cases s with
    | nil => simp [startsWithLetters]
    | cons c s =>
      rw [startsWithLetters, Bool.and_eq_true, sameLetter_iff, ih, List.map_cons, List.map_cons,
        List.cons_prefix_cons]

/-- The letters of a token stand side by side in a text. -/
def Occurs (token s : String) : Prop := token.toList.map letter <:+: s.toList.map letter

instance (token s : String) : Decidable (Occurs token s) :=
  inferInstanceAs (Decidable (_ <:+: _))

/-- What occurs in a text occurs in every text around it. -/
theorem Occurs.around {token s : String} (h : Occurs token s) (before after : String) :
    Occurs token (before ++ s ++ after) := by
  unfold Occurs
  rw [String.toList_append, String.toList_append, List.map_append, List.map_append]
  exact h.trans (List.infix_append _ _ _)

/-! ### Small letters -/

/-- A character of ASCII that is no capital. -/
def isSmall (c : Char) : Bool := c.toNat < 0x41 || 0x5A < c.toNat && c.toNat < 0x80

/-- Such a character is its own lower case: all runs of capitals begin behind ASCII, but one. -/
theorem lower_of_isSmall {c : Char} (h : isSmall c = true) : lower c = c := by
  have hruns : ∀ r ∈ lowerRuns, 0x80 ≤ r.1 ∨ r.1 = 0x41 ∧ r.2.1 = 0x5A := by decide +kernel
  have hnone : lowerRuns.find? (fun r =>
      r.1 ≤ c.toNat && c.toNat ≤ r.2.1 && (c.toNat - r.1) % r.2.2.1 == 0) = none := by
    refine List.find?_eq_none.mpr fun r hr => ?_
    have hrun := hruns r hr
    simp only [isSmall, Bool.or_eq_true, Bool.and_eq_true, decide_eq_true_eq] at h ⊢
    omega
  unfold lower
  rw [hnone]

/-- It is the least form of its letter as well. -/
theorem letter_of_isSmall {c : Char} (h : isSmall c = true) : letter c = c.toNat := by
  have hleast : ∀ n ∈ variants.map Prod.fst, n < 0x80 → leastForm n = n := by decide +kernel
  have hlt : c.toNat < 0x80 := by
    simp only [isSmall, Bool.or_eq_true, Bool.and_eq_true, decide_eq_true_eq] at h
    omega
  rw [letter, lower_of_isSmall h]
  by_cases hmem : c.toNat ∈ variants.map Prod.fst
  · exact hleast _ hmem hlt
  · unfold leastForm
    rw [formsOf_of_not_mem hmem]
    rfl

/-- **Among small letters a token occurs where it stands.** -/
theorem occurs_iff_of_isSmall {token s : String} (htoken : token.toList.all isSmall = true)
    (hs : s.toList.all isSmall = true) : Occurs token s ↔ token.toList <:+: s.toList := by
  have hletters : ∀ {l : List Char}, l.all isSmall = true →
      l.map letter = l.map Char.toNat := fun hl =>
    List.map_congr_left fun c hc => letter_of_isSmall (List.all_eq_true.mp hl c hc)
  unfold Occurs
  rw [hletters htoken, hletters hs]
  constructor
  · intro h
    obtain ⟨l, hl, heq⟩ := List.infix_map_iff.mp h
    exact (List.map_inj_right fun c d => Char.toNat_inj.mp).mp heq ▸ hl
  · exact fun h => h.map _

end Text

/-! ### Patterns -/

namespace Pattern

/-- What is escaped is not a letter or a digit. -/
theorem isAlphanum_of_mem_escaped {c : Char} (h : c ∈ escaped) : c.isAlphanum = false := by
  have hall : escaped.all (!·.isAlphanum) = true := by decide
  simpa using List.all_eq_true.mp hall c h

/-- Every operator is escaped. -/
theorem mem_escaped_of_mem_operators {c : Char} (h : c ∈ operators) : c ∈ escaped := by
  have hall : operators.all (escaped.contains ·) = true := by decide
  simpa using List.all_eq_true.mp hall c h

variable {before : List (List Char)} {letters rest : List Char}

/-- A character that needs no backslash is read as itself. -/
theorem readFrom_cons_of_not_mem_escaped {c : Char} (h : c ∉ escaped) :
    readFrom before letters (c :: rest) = readFrom before (c :: letters) rest := by
  have hslash : c ≠ '\\' := fun heq => h (heq ▸ by decide)
  have hbar : c ≠ '|' := fun heq => h (heq ▸ by decide)
  have hplain : c ∉ operators := fun hop => h (mem_escaped_of_mem_operators hop)
  rw [readFrom, if_neg hplain]
  · exact fun _ _ heq _ => hslash heq
  · exact fun heq _ => hslash heq
  · exact hbar

/-- An escaped character is read as itself. -/
theorem readFrom_escape_one (c : Char) :
    readFrom before letters ((if c ∈ escaped then ['\\', c] else [c]) ++ rest) =
      readFrom before (c :: letters) rest := by
  split
  · next h =>
    rw [List.cons_append, List.singleton_append, readFrom, isAlphanum_of_mem_escaped h]
    rfl
  · next h => exact readFrom_cons_of_not_mem_escaped h

/-- An escaped text is read as itself, behind what was read before. -/
theorem readFrom_escape_append (before : List (List Char)) (letters token rest : List Char) :
    readFrom before letters (escape token ++ rest) =
      readFrom before (token.reverse ++ letters) rest := by
  induction token generalizing letters with
  | nil => rfl
  | cons c token ih =>
    unfold escape at ih ⊢
    rw [List.flatMap_cons, List.append_assoc, readFrom_escape_one, ih, List.reverse_cons,
      List.append_assoc]
    rfl

theorem ofTokens_singleton (t : String) : ofTokens [t] = escape t.toList := by
  simp [ofTokens]

theorem ofTokens_cons_cons (t u : String) (tokens : List String) :
    ofTokens (t :: u :: tokens) = escape t.toList ++ '|' :: ofTokens (u :: tokens) := by
  simp [ofTokens, List.intercalate]

/-- Behind other alternatives, those of a pattern of tokens are the tokens. -/
theorem readFrom_ofTokens (t : String) (tokens : List String) :
    readFrom before [] (ofTokens (t :: tokens)) =
      some (before.reverse ++ (t :: tokens).map String.toList) := by
  induction tokens generalizing t before with
  | nil =>
    have hlast := readFrom_escape_append before [] t.toList []
    rw [List.append_nil, List.append_nil, readFrom, List.reverse_reverse,
      List.reverse_cons] at hlast
    rw [ofTokens_singleton, hlast]
    rfl
  | cons u tokens ih =>
    rw [ofTokens_cons_cons, readFrom_escape_append, List.append_nil, readFrom, List.reverse_reverse,
      ih, List.reverse_cons, List.append_assoc]
    rfl

/-- **The alternatives of the pattern of some tokens are the tokens**, whatever they are made of;
without tokens it is the empty text alone. -/
theorem read_ofTokens (tokens : List String) :
    read (ofTokens tokens) = some (if tokens = [] then [[]] else tokens.map String.toList) := by
  cases tokens with
  | nil => rfl
  | cons t tokens => exact readFrom_ofTokens t tokens

theorem matchesAt_iff {alternatives : List (List Char)} {s : List Char} :
    matchesAt alternatives s = true ↔
      ∃ letters ∈ alternatives, letters.map Text.letter <+: s.map Text.letter := by
  unfold matchesAt
  rw [List.any_eq_true]
  exact exists_congr fun letters => and_congr_right fun _ => Text.startsWithLetters_iff

/-- A pattern is found where the letters of one of its alternatives stand side by side. -/
theorem search_iff {alternatives : List (List Char)} {s : List Char} :
    search alternatives s = true ↔
      ∃ letters ∈ alternatives, letters.map Text.letter <:+: s.map Text.letter := by
  induction s with
  | nil =>
    rw [search, matchesAt_iff]
    simp [List.map_nil]
  | cons c s ih =>
    rw [search, Bool.or_eq_true, matchesAt_iff]
    refine (or_congr_right ih).trans ?_
    rw [← exists_or]
    refine exists_congr fun letters => ?_
    rw [← and_or_left, List.map_cons, List.infix_cons_iff]

end Pattern

/-! ### Rules -/

namespace AnnotationRule

/-- A token of a rule occurs in a text, or it has none. -/
def Matches (rule : AnnotationRule) (identifier : String) : Prop :=
  rule.tokens = [] ∨ ∃ token ∈ rule.tokens, Text.Occurs token identifier

instance (rule : AnnotationRule) (identifier : String) : Decidable (rule.Matches identifier) :=
  inferInstanceAs (Decidable (_ ∨ _))

/-- **A rule matches where one of its tokens occurs**, and everywhere if it has none. -/
theorem isMatch_iff {rule : AnnotationRule} {identifier : String} :
    rule.isMatch identifier = true ↔ rule.Matches identifier := by
  unfold isMatch Matches
  rw [Pattern.read_ofTokens]
  dsimp only
  rw [Pattern.search_iff]
  by_cases hnone : rule.tokens = []
  · rw [if_pos hnone]
    exact iff_of_true ⟨[], List.mem_singleton_self _, List.nil_infix⟩ (Or.inl hnone)
  · rw [if_neg hnone, or_iff_right hnone]
    constructor
    · rintro ⟨letters, hletters, hoccurs⟩
      obtain ⟨token, htoken, rfl⟩ := List.mem_map.mp hletters
      exact ⟨token, htoken, hoccurs⟩
    · rintro ⟨token, htoken, hoccurs⟩
      exact ⟨token.toList, List.mem_map_of_mem htoken, hoccurs⟩

/-- What matches a text matches every text around it. -/
theorem Matches.around {rule : AnnotationRule} {identifier : String}
    (h : rule.Matches identifier) (before after : String) :
    rule.Matches (before ++ identifier ++ after) :=
  h.imp_right fun ⟨token, htoken, hoccurs⟩ => ⟨token, htoken, hoccurs.around before after⟩

end AnnotationRule

end ApiTools
