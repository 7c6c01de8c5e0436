import ApiTools.Text.CodePoint
import ApiTools.Text.Digit
import Mathlib.Data.List.Infix

/-!
# Reading texts in source

A literal of a text stands between quotes, one or three of a kind.  Its end is found first: it is the
next closing quote, where a backslash hides the character after it.  Then the escapes in what stands
between the quotes are undone.  A backslash that begins no escape stands for itself.

A source has no NUL and no carriage return: the reader of a source turns every line end into a line
feed.

## Main definitions

* `Literal.unescape` — what escaped characters stand for.
* `Literal.scan` — the characters up to a closing quote, and the rest.
* `Literal.readQuoted` — the text of a literal, and the rest.
* `Literal.StandsForItself` — a text that can stand between triple quotes as it is.

## Main results

* `Literal.scan_eq_some` — the characters, the quote and the rest are the source.
* `Literal.unescape_eq_some` — undoing escapes makes a text shorter, or leaves it.
* `Literal.readQuoted_triple_iff` — **a text between triple quotes is read as itself, up to the quotes
  after it, exactly when it stands for itself.**
-/

namespace ApiTools

namespace Literal

/-! ### Escapes -/

/-- The characters that letters and signs after a backslash stand for. -/
def letters : List (Char × Char) :=
  [('\\', '\\'), ('\'', '\''), ('"', '"'), ('a', '\x07'), ('b', '\x08'), ('t', '\t'), ('n', '\n'),
   ('v', '\x0b'), ('f', '\x0c'), ('r', '\r')]

/-- The octal digits. -/
def octalDigits : List Char := ['0', '1', '2', '3', '4', '5', '6', '7']

/-- What an escape stands for, and how many characters it takes after the backslash. -/
abbrev Front := Option (List Char × Nat)

/-- The code point of a number of hexadecimal digits after a letter. -/
def hexEscape (count : Nat) (s : List Char) : Front :=
  let digits := (s.take count).filterMap Text.hexDigit?
  let code := digits.foldl (fun n d => n * 16 + d) 0
  if digits.length = count ∧ code < 0x110000 then
    some ((CodePoint.ofCode code).spelled, count + 1)
  else none

/-- Up to three octal digits. -/
def octalEscape (s : List Char) : Front :=
  let digits := (s.take 3).takeWhile (· ∈ octalDigits)
  some ([Char.ofNat (digits.foldl (fun n d => n * 8 + (d.toNat - 48)) 0)], digits.length)

/-- A name in braces after a letter. -/
def nameEscape (names : String → Option Char) : List Char → Front
  | '\x7b' :: s => do
    let name := s.takeWhile (· != '\x7d')
    let c ← names (String.ofList name)
    if name.length < s.length then some ((CodePoint.char c).spelled, name.length + 3) else none
  | _ => none

/-- What stands after a backslash. -/
def escape (names : String → Option Char) : List Char → Front
  | [] => none
  | c :: s =>
    if c = '\n' then some ([], 1)
    else if c = 'x' then hexEscape 2 s
    else if c = 'u' then hexEscape 4 s
    else if c = 'U' then hexEscape 8 s
    else if c = 'N' then nameEscape names s
    else if c ∈ octalDigits then octalEscape (c :: s)
    else
      match letters.lookup c with
      | some d => some ([d], 1)
      | none => some (['\\', c], 1)

/-- What escaped characters stand for. -/
def unescape (names : String → Option Char) : List Char → Option (List Char)
  | [] => some []
  | c :: s =>
    if c = '\\' then do
      let (front, size) ← escape names s
      return front ++ (← unescape names (s.drop size))
    else (unescape names s).map (c :: ·)
  termination_by s => s.length
  decreasing_by
    all_goals simp only [List.length_drop, List.length_cons]
    all_goals omega

/-- The characters that begin an escape after a backslash. -/
def escapeMarks : List Char :=
  ['\n', 'x', 'u', 'U', 'N'] ++ octalDigits ++ letters.map Prod.fst

/-- No backslash begins an escape. -/
def Unescaped (s : List Char) : Prop := ∀ c ∈ escapeMarks, ¬['\\', c] <:+: s

/-- The spelling of a code point has one character, or two. -/
theorem length_spelled_le (g : CodePoint) : g.spelled.length ≤ 2 := by
  cases g with
  | char c =>
    rw [CodePoint.spelled]
    split <;> simp
  | half | stray => simp [CodePoint.spelled]

theorem size_hexEscape {count size : Nat} {s front : List Char} (hcount : 0 < count)
    (h : hexEscape count s = some (front, size)) :
    front.length ≤ size ∧ 1 ≤ size ∧ size ≤ s.length + 1 := by
  unfold hexEscape at h
  dsimp only at h
  split at h
  · next hlength =>
    cases h
    have hread := List.length_filterMap_le Text.hexDigit? (s.take count)
    rw [hlength.1, List.length_take] at hread
    have hspelled := length_spelled_le
    exact ⟨(hspelled _).trans (by omega), by omega, by omega⟩
  · cases h

theorem size_octalEscape {size : Nat} {c : Char} {s front : List Char} (hc : c ∈ octalDigits)
    (h : octalEscape (c :: s) = some (front, size)) :
    front.length ≤ size ∧ 1 ≤ size ∧ size ≤ s.length + 1 := by
  cases h
  have hpos : 1 ≤ (((c :: s).take 3).takeWhile (· ∈ octalDigits)).length := by simp [hc]
  refine ⟨hpos, hpos, ?_⟩
  · have := (List.takeWhile_prefix (p := (· ∈ octalDigits)) (l := (c :: s).take 3)).length_le
    rw [List.length_take, List.length_cons] at this
    exact this.trans (Nat.min_le_right _ _)

theorem size_nameEscape {names : String → Option Char} {size : Nat} {s front : List Char}
    (h : nameEscape names s = some (front, size)) :
    front.length ≤ size ∧ 1 ≤ size ∧ size ≤ s.length + 1 := by
  unfold nameEscape at h
  split at h
  · obtain ⟨c, -, h⟩ := Option.bind_eq_some_iff.mp h
    split at h
    · next rest _ hlength =>
      cases h
      refine ⟨(length_spelled_le _).trans (by omega), by omega, ?_⟩
      rw [List.length_cons]
      omega
    · cases h
  · cases h

/-- **What an escape stands for is shorter than the escape**; a backslash that begins none stands
for itself. -/
theorem escape_eq_some {names : String → Option Char} {c : Char} {s front : List Char} {size : Nat}
    (h : escape names (c :: s) = some (front, size)) :
    (c ∈ escapeMarks ∧ front.length ≤ size ∧ 1 ≤ size ∧ size ≤ s.length + 1) ∨
      (c ∉ escapeMarks ∧ front = ['\\', c] ∧ size = 1) := by
  rw [escape] at h
  split_ifs at h with hline hx hu hU hN hoctal
  · cases h
    exact .inl ⟨by simp [escapeMarks, hline], by simp, le_refl 1, by simp⟩
  · exact .inl ⟨by simp [escapeMarks, hx], size_hexEscape (by decide) h⟩
  · exact .inl ⟨by simp [escapeMarks, hu], size_hexEscape (by decide) h⟩
  · exact .inl ⟨by simp [escapeMarks, hU], size_hexEscape (by decide) h⟩
  · exact .inl ⟨by simp [escapeMarks, hN], size_nameEscape h⟩
  · exact .inl ⟨by simp [escapeMarks, hoctal], size_octalEscape hoctal h⟩
  · split at h
    · next d hd =>
      cases h
      obtain ⟨l, r, hsplit, -⟩ := List.lookup_eq_some_iff.mp hd
      have hmem : c ∈ letters.map Prod.fst := by simp [hsplit]
      exact .inl ⟨List.mem_append_right _ hmem, le_refl 1, le_refl 1, by simp⟩
    · next hnone =>
      cases h
      refine .inr ⟨?_, rfl, rfl⟩
      have hletters : c ∉ letters.map Prod.fst := by
        rw [List.mem_map]
        rintro ⟨p, hp, rfl⟩
        simpa using List.lookup_eq_none_iff.mp hnone p hp
      simp only [escapeMarks, List.mem_append, List.mem_cons, List.not_mem_nil, or_false]
      tauto

theorem escape_of_not_mem {names : String → Option Char} {c : Char} (hc : c ∉ escapeMarks)
    (s : List Char) : escape names (c :: s) = some (['\\', c], 1) := by
  simp only [escapeMarks, List.mem_append, List.mem_cons, List.not_mem_nil, or_false, not_or] at hc
  obtain ⟨⟨⟨hline, hx, hu, hU, hN⟩, hoctal⟩, hletters⟩ := hc
  have hnone : letters.lookup c = none := by
    rw [List.lookup_eq_none_iff]
    intro p hp
    rw [bne_iff_ne]
    rintro rfl
    exact hletters (List.mem_map_of_mem hp)
  rw [escape, if_neg hline, if_neg hx, if_neg hu, if_neg hU, if_neg hN, if_neg hoctal, hnone]

/-! ### Texts without escapes -/

theorem unescaped_cons_of_ne {c : Char} (hc : c ≠ '\\') {s : List Char} :
    Unescaped (c :: s) ↔ Unescaped s := by
  refine forall₂_congr fun d _ => not_congr ?_
  rw [List.infix_cons_iff, or_iff_right]
  exact fun h => hc (List.cons_prefix_cons.mp h).1.symm

theorem unescaped_cons_cons {c : Char} {s : List Char} :
    Unescaped ('\\' :: c :: s) ↔ c ∉ escapeMarks ∧ Unescaped s := by
  constructor
  · intro h
    have hc : c ∉ escapeMarks := fun hmem => h c hmem ⟨[], s, rfl⟩
    refine ⟨hc, fun d hd hinfix => h d hd ?_⟩
    exact List.infix_cons (List.infix_cons hinfix)
  · rintro ⟨hc, h⟩ d hd hinfix
    have hne : c ≠ '\\' := by
      rintro rfl
      exact hc (by decide)
    rcases List.infix_cons_iff.mp hinfix with hprefix | hinfix
    · obtain ⟨rest, hrest⟩ := hprefix
      cases hrest
      exact hc hd
    · exact (unescaped_cons_of_ne hne).mpr h d hd hinfix

variable {names : String → Option Char}

/-- **Undoing escapes makes a text shorter, or leaves it**, and it leaves only a text without
escapes. -/
theorem unescape_eq_some {raw text : List Char} (h : unescape names raw = some text) :
    text.length ≤ raw.length ∧ (text.length = raw.length → text = raw ∧ Unescaped raw) := by
  -- An escape takes several characters at once, so that the induction is on the length.
  induction hn : raw.length using Nat.strongRecOn generalizing raw text with
  | ind n ih =>
    cases raw with
    | nil =>
      rw [unescape] at h
      cases h
      exact ⟨by simp, fun _ => ⟨rfl, fun c _ hinfix => by simp at hinfix⟩⟩
    | cons c s =>
      rw [unescape] at h
      rw [List.length_cons] at hn
      split_ifs at h with hc
      · obtain ⟨⟨front, size⟩, hfront, h⟩ := Option.bind_eq_some_iff.mp h
        obtain ⟨rest, hrest, h⟩ := Option.bind_eq_some_iff.mp h
        cases h
        cases s with
        | nil => cases hfront
        | cons d s =>
          have hlength : ((d :: s).drop size).length = s.length + 1 - size := by simp
          rw [List.length_cons] at hn
          obtain ⟨hshort, hsame⟩ := ih _ (by omega) hrest rfl
          rw [hlength] at hshort hsame
          rcases escape_eq_some hfront with ⟨-, hfew, hpos, hsize⟩ | ⟨hd, rfl, rfl⟩
          · -- An escape gives fewer characters than it takes, and then the text is shorter.
            have : (front ++ rest).length < n := by
              rw [List.length_append]
              omega
            exact ⟨this.le, fun heq => absurd heq this.ne⟩
          · -- A backslash that escapes nothing stands for itself.
            rw [List.length_append]
            refine ⟨by simp; omega, fun heq => ?_⟩
            obtain ⟨rfl, hunescaped⟩ := hsame (by simp at heq; omega)
            subst hc
            exact ⟨rfl, unescaped_cons_cons.mpr ⟨hd, hunescaped⟩⟩
      · obtain ⟨rest, hrest, rfl⟩ := Option.map_eq_some_iff.mp h
        obtain ⟨hshort, hsame⟩ := ih _ (by omega) hrest rfl
        rw [List.length_cons]
        refine ⟨by omega, fun heq => ?_⟩
        obtain ⟨rfl, hunescaped⟩ := hsame (by omega)
        exact ⟨rfl, (unescaped_cons_of_ne hc).mpr hunescaped⟩

/-- What is at the end of the tail of a text is at the end of the text. -/
theorem getLast?_tail {c d : Char} {s : List Char} (h : (c :: s).getLast? ≠ some d) :
    s.getLast? ≠ some d := by
  intro heq
  cases s with
  | nil => cases heq
  | cons e s => exact h (by rw [List.getLast?_cons_cons, heq])

/-- A text without escapes stays as it is, if no backslash is left open at its end. -/
theorem unescape_of_unescaped {s : List Char} (h : Unescaped s) (hlast : s.getLast? ≠ some '\\') :
    unescape names s = some s := by
  induction hn : s.length using Nat.strongRecOn generalizing s with
  | ind n ih =>
    cases s with
    | nil => rw [unescape]
    | cons c s =>
      rw [List.length_cons] at hn
      rw [unescape]
      split_ifs with hc
      · subst hc
        cases s with
        | nil => exact absurd rfl hlast
        | cons d s =>
          obtain ⟨hd, hs⟩ := unescaped_cons_cons.mp h
          rw [List.length_cons] at hn
          have hrest := ih _ (by omega) hs (getLast?_tail (getLast?_tail hlast)) rfl
          rw [escape_of_not_mem hd]
          exact Option.bind_eq_some_iff.mpr ⟨_, rfl, Option.bind_eq_some_iff.mpr ⟨s, hrest, rfl⟩⟩
      · have hs := (unescaped_cons_of_ne hc).mp h
        rw [ih _ (by omega) hs (getLast?_tail hlast) rfl]
        rfl

/-! ### Finding the end -/

/-- Whether a character cannot stand between quotes: no line end between single ones, and nothing
that is in no source. -/
def breaks (lines : Bool) (c : Char) : Bool :=
  c == '\x00' || c == '\r' || (c == '\n' && !lines)

/-- The characters up to a closing quote, and the rest. A backslash hides the character after it. -/
def scan (close : List Char) (lines : Bool) : List Char → Option (List Char × List Char)
  | [] => none
  | c :: s =>
    if close.isPrefixOf (c :: s) then some ([], (c :: s).drop close.length)
    else if breaks lines c then none
    else if c = '\\' then
      match s with
      | [] => none
      | d :: s =>
        if breaks true d then none
        else (scan close lines s).map fun found => (c :: d :: found.1, found.2)
    else (scan close lines s).map fun found => (c :: found.1, found.2)

/-- The quotes that a literal opens with: one, or three of a kind. -/
def openingQuotes? : List Char → Option (List Char)
  | q :: s =>
    if q = '\'' ∨ q = '"' then some (if [q, q].isPrefixOf s then [q, q, q] else [q]) else none
  | [] => none

/-- The text of the literal at the front, and the rest. -/
def readQuoted (names : String → Option Char) (s : List Char) : Option (List Char × List Char) := do
  let quotes ← openingQuotes? s
  let (raw, rest) ← scan quotes (1 < quotes.length) (s.drop quotes.length)
  return (← unescape names raw, rest)

variable {close s raw rest : List Char} {lines : Bool}

theorem breaks_of_breaks_true {c : Char} (h : breaks true c = true) : breaks lines c = true := by
  simp only [breaks, Bool.not_true, Bool.and_false, Bool.or_false] at h
  simp [breaks, h]

theorem scan_close (hclose : close ≠ []) (rest : List Char) :
    scan close lines (close ++ rest) = some ([], rest) := by
  obtain ⟨c, more, rfl⟩ := List.exists_cons_of_ne_nil hclose
  have hopen : (c :: more).isPrefixOf (c :: (more ++ rest)) = true :=
    List.isPrefixOf_iff_prefix.mpr (List.prefix_append (c :: more) rest)
  rw [List.cons_append, scan.eq_def]
  dsimp only
  rw [if_pos hopen]
  simp

theorem scan_cons {c : Char} (hopen : close.isPrefixOf (c :: s) = false)
    (hbreaks : breaks lines c = false) (hc : c ≠ '\\') :
    scan close lines (c :: s) =
      (scan close lines s).map fun found => (c :: found.1, found.2) := by
  rw [scan.eq_def]
  dsimp only
  rw [if_neg (by simp [hopen]), if_neg (by simp [hbreaks]), if_neg hc]

theorem scan_hidden {c : Char} (hopen : close.isPrefixOf ('\\' :: c :: s) = false)
    (hbreaks : breaks true c = false) :
    scan close lines ('\\' :: c :: s) =
      (scan close lines s).map fun found => ('\\' :: c :: found.1, found.2) := by
  rw [scan.eq_def]
  dsimp only
  rw [if_neg (by simp [hopen]), if_neg (by simp [breaks]), if_pos rfl, if_neg (by simp [hbreaks])]

/-- **The characters, the quotes and the rest are the source.** -/
theorem scan_eq_some (h : scan close lines s = some (raw, rest)) :
    s = raw ++ close ++ rest ∧ ∀ c ∈ raw, breaks true c = false := by
  fun_induction scan close lines s generalizing raw with
  | case1 | case3 | case4 | case5 => cases h
  | case2 c s hprefix =>
    cases h
    refine ⟨?_, nofun⟩
    exact (List.prefix_iff_eq_append.mp (List.isPrefixOf_iff_prefix.mp hprefix)).symm
  | case6 d s hd hbreaks hprefix ih =>
    obtain ⟨⟨more, _⟩, hmore, heq⟩ := Option.map_eq_some_iff.mp h
    cases heq
    obtain ⟨hs, hraw⟩ := ih hmore
    refine ⟨by rw [hs]; rfl, ?_⟩
    rw [List.forall_mem_cons, List.forall_mem_cons]
    exact ⟨by decide, by simpa using hd, hraw⟩
  | case7 c s hprefix hbreaks hc ih =>
    obtain ⟨⟨more, _⟩, hmore, heq⟩ := Option.map_eq_some_iff.mp h
    cases heq
    obtain ⟨hs, hraw⟩ := ih hmore
    refine ⟨by rw [hs]; rfl, ?_⟩
    rw [List.forall_mem_cons]
    refine ⟨?_, hraw⟩
    rw [← Bool.not_eq_true]
    exact fun h => hbreaks (breaks_of_breaks_true h)

/-! ### Texts between triple quotes -/

/-- Three double quotes. -/
def tripleQuotes : List Char := ['"', '"', '"']

/-- A text that can stand between triple quotes as it is. -/
structure StandsForItself (s : List Char) : Prop where
  /-- No character of it is in no source. -/
  unbroken : ∀ c ∈ s, breaks true c = false
  /-- No backslash begins an escape. -/
  unescaped : Unescaped s
  /-- It does not close the literal. -/
  unclosed : ¬tripleQuotes <:+: s

namespace StandsForItself

theorem tail {c : Char} (h : StandsForItself (c :: s)) (hc : c ≠ '\\') : StandsForItself s :=
  ⟨fun d hd => h.unbroken d (List.mem_cons_of_mem c hd), (unescaped_cons_of_ne hc).mp h.unescaped,
    fun hinfix => h.unclosed (List.infix_cons hinfix)⟩

theorem drop_two {c : Char} (h : StandsForItself ('\\' :: c :: s)) : StandsForItself s :=
  ⟨fun d hd => h.unbroken d (by simp [hd]), (unescaped_cons_cons.mp h.unescaped).2,
    fun hinfix => h.unclosed (List.infix_cons (List.infix_cons hinfix))⟩

end StandsForItself

/-- A text that stands for itself is scanned up to the quotes after it, unless it ends in a quote or
a backslash. -/
theorem scan_of_standsForItself (h : StandsForItself raw) (hquote : raw.getLast? ≠ some '"')
    (hbackslash : raw.getLast? ≠ some '\\') :
    scan tripleQuotes true (raw ++ tripleQuotes ++ rest) = some (raw, rest) := by
  induction hn : raw.length using Nat.strongRecOn generalizing raw with
  | ind n ih =>
    cases raw with
    | nil => exact scan_close (by decide) rest
    | cons c s =>
      rw [List.length_cons] at hn
      -- The last character is before any quotes that could close the literal.
      have hopen : tripleQuotes.isPrefixOf (c :: s ++ tripleQuotes ++ rest) = false := by
        rw [← Bool.not_eq_true, List.isPrefixOf_iff_prefix, List.append_assoc]
        intro hprefix
        rcases List.prefix_or_prefix_of_prefix hprefix (List.prefix_append _ _) with hin | hout
        · exact h.unclosed hin.isInfix
        · have hlast := List.getLast?_eq_some_getLast (List.cons_ne_nil c s)
          have hmem := hout.subset (List.mem_of_getLast? hlast)
          simp only [tripleQuotes, List.mem_cons, List.not_mem_nil, or_false, or_self] at hmem
          exact hquote (hmem ▸ hlast)
      rw [List.cons_append, List.cons_append] at hopen ⊢
      by_cases hc : c = '\\'
      · subst hc
        cases s with
        | nil => exact absurd rfl hbackslash
        | cons d s =>
          rw [List.length_cons] at hn
          rw [List.cons_append, List.cons_append] at hopen ⊢
          rw [scan_hidden hopen (h.unbroken d (by simp)), ih _ (by omega) h.drop_two
            (getLast?_tail (getLast?_tail hquote)) (getLast?_tail (getLast?_tail hbackslash)) rfl]
          rfl
      · rw [scan_cons hopen (h.unbroken c (by simp)) hc,
          ih _ (by omega) (h.tail hc) (getLast?_tail hquote) (getLast?_tail hbackslash) rfl]
        rfl

/-- What is scanned up to triple quotes does not close the literal, if it has no escapes. -/
theorem unclosed_of_scan (h : scan tripleQuotes true s = some (raw, rest))
    (hraw : Unescaped raw) : ¬tripleQuotes <:+: raw := by
  generalize hclose : tripleQuotes = close, true = lines at h
  fun_induction scan close lines s generalizing raw with
  | case1 | case3 | case4 | case5 => cases h
  | case2 c s hprefix =>
    cases h
    rw [← hclose]
    decide
  | case6 d s hd hbreaks hprefix ih =>
    obtain ⟨⟨more, _⟩, hmore, heq⟩ := Option.map_eq_some_iff.mp h
    cases heq
    obtain ⟨hd, hmore'⟩ := unescaped_cons_cons.mp hraw
    intro hinfix
    rcases List.infix_cons_iff.mp hinfix with hfirst | hinfix
    · rw [← hclose] at hfirst
      exact absurd (List.cons_prefix_cons.mp hfirst).1 (by decide)
    · rcases List.infix_cons_iff.mp hinfix with hfirst | hinfix
      · rw [← hclose] at hfirst
        rw [← (List.cons_prefix_cons.mp hfirst).1] at hd
        exact hd (by decide)
      · exact ih hmore' hmore hinfix
  | case7 c s hprefix hbreaks hc ih =>
    obtain ⟨⟨more, _⟩, hmore, heq⟩ := Option.map_eq_some_iff.mp h
    cases heq
    intro hinfix
    rcases List.infix_cons_iff.mp hinfix with hfirst | hinfix
    · rw [(scan_eq_some hmore).1, List.append_assoc, ← List.cons_append] at hprefix
      exact hprefix (List.isPrefixOf_iff_prefix.mpr (hfirst.trans (List.prefix_append _ _)))
    · exact ih ((unescaped_cons_of_ne hc).mp hraw) hmore hinfix

theorem openingQuotes?_triple (s : List Char) :
    openingQuotes? (tripleQuotes ++ s) = some tripleQuotes := rfl

/-- A literal between triple quotes is scanned, and then its escapes are undone. -/
theorem readQuoted_triple {found : List Char × List Char} :
    readQuoted names (tripleQuotes ++ s) = some found ↔
      ∃ inside, scan tripleQuotes true s = some (inside, found.2) ∧
        unescape names inside = some found.1 := by
  rw [readQuoted, openingQuotes?_triple]
  change Option.bind (scan tripleQuotes true s) _ = _ ↔ _
  simp only [Option.bind_eq_some_iff, Prod.exists, bind, pure, Option.some.injEq]
  constructor
  · rintro ⟨inside, rest, hscan, text, htext, rfl⟩
    exact ⟨inside, hscan, htext⟩
  · rintro ⟨inside, hscan, htext⟩
    exact ⟨inside, found.2, hscan, found.1, htext, rfl⟩

/-- **Between triple quotes, only a text that stands for itself is read as a text of its length, up
to the quotes after it.** -/
theorem readQuoted_triple_iff {text : List Char} (hquote : raw.getLast? ≠ some '"')
    (hbackslash : raw.getLast? ≠ some '\\') (hlength : raw.length ≤ text.length) :
    readQuoted names (tripleQuotes ++ (raw ++ tripleQuotes ++ rest)) = some (text, rest) ↔
      text = raw ∧ StandsForItself raw := by
  rw [readQuoted_triple]
  constructor
  · rintro ⟨inside, hscan, hinside⟩
    obtain ⟨hsource, hunbroken⟩ := scan_eq_some hscan
    obtain rfl : raw = inside := by
      rw [List.append_assoc, List.append_assoc] at hsource
      exact List.append_cancel_right hsource
    obtain ⟨hshort, hsame⟩ := unescape_eq_some hinside
    obtain ⟨heq, hunescaped⟩ := hsame (Nat.le_antisymm hshort hlength)
    exact ⟨heq, hunbroken, hunescaped, unclosed_of_scan hscan hunescaped⟩
  · rintro ⟨rfl, h⟩
    exact ⟨text, scan_of_standsForItself h hquote hbackslash,
      unescape_of_unescaped h.unescaped hbackslash⟩

/-! ### Texts in parts -/

/-- What has not the character between two texts is in one of them if it is in both together. -/
theorem infix_append_cons_iff {l a b : List Char} {x : Char} (hx : x ∉ l) :
    l <:+: a ++ x :: b ↔ l <:+: a ∨ l <:+: b := by
  constructor
  · intro h
    induction a with
    | nil =>
      rcases List.infix_cons_iff.mp h with hprefix | hinfix
      · cases l with
        | nil => exact .inl (List.infix_refl _)
        | cons y l =>
          obtain ⟨rfl, -⟩ := List.cons_prefix_cons.mp hprefix
          exact absurd List.mem_cons_self hx
      · exact .inr hinfix
    | cons y a ih =>
      rcases List.infix_cons_iff.mp h with hprefix | hinfix
      · have hin : l <+: y :: a ++ [x] := by
          change l <+: y :: a ++ x :: b at hprefix
          rw [List.append_cons] at hprefix
          rcases List.prefix_or_prefix_of_prefix hprefix (List.prefix_append _ b) with hin | hout
          · exact hin
          · exact absurd (hout.subset (by simp)) hx
        rcases List.prefix_concat_iff.mp hin with rfl | hin
        · exact absurd (by simp) hx
        · exact .inl hin.isInfix
      · exact (ih hinfix).imp List.infix_cons id
  · rintro (h | h)
    · exact h.trans (List.prefix_append a (x :: b)).isInfix
    · exact (List.infix_cons h).trans (List.suffix_append a (x :: b)).isInfix

/-- A text stands for itself when its two sides do, unless what is between them means something. -/
theorem standsForItself_append_cons {a b : List Char} {x : Char} (hbreaks : breaks true x = false)
    (hx : x ∉ '\\' :: '"' :: escapeMarks) :
    StandsForItself (a ++ x :: b) ↔ StandsForItself a ∧ StandsForItself b := by
  rw [List.mem_cons, List.mem_cons, not_or, not_or] at hx
  obtain ⟨hbackslash, hquote, hmark⟩ := hx
  have hpair : ∀ c ∈ escapeMarks, (['\\', c] <:+: a ++ x :: b ↔
      ['\\', c] <:+: a ∨ ['\\', c] <:+: b) := by
    intro c hc
    refine infix_append_cons_iff ?_
    rw [List.mem_cons, List.mem_singleton, not_or]
    exact ⟨hbackslash, fun heq => hmark (heq ▸ hc)⟩
  have hquotes : tripleQuotes <:+: a ++ x :: b ↔ tripleQuotes <:+: a ∨ tripleQuotes <:+: b :=
    infix_append_cons_iff (by simp [tripleQuotes, hquote])
  constructor
  · intro h
    refine ⟨⟨fun c hc => h.unbroken c (by simp [hc]), fun c hc hin => ?_, fun hin => ?_⟩,
      ⟨fun c hc => h.unbroken c (by simp [hc]), fun c hc hin => ?_, fun hin => ?_⟩⟩
    · exact h.unescaped c hc ((hpair c hc).mpr (.inl hin))
    · exact h.unclosed (hquotes.mpr (.inl hin))
    · exact h.unescaped c hc ((hpair c hc).mpr (.inr hin))
    · exact h.unclosed (hquotes.mpr (.inr hin))
  · rintro ⟨ha, hb⟩
    refine ⟨fun c hc => ?_, fun c hc hin => ?_, fun hin => ?_⟩
    · rcases List.mem_append.mp hc with hc | hc
      · exact ha.unbroken c hc
      · rcases List.mem_cons.mp hc with rfl | hc
        · exact hbreaks
        · exact hb.unbroken c hc
    · exact ((hpair c hc).mp hin).elim (ha.unescaped c hc) (hb.unescaped c hc)
    · exact (hquotes.mp hin).elim ha.unclosed hb.unclosed

theorem standsForItself_iff :
    StandsForItself s ↔ (∀ c ∈ s, breaks true c = false) ∧
      (∀ c ∈ escapeMarks, ¬['\\', c] <:+: s) ∧ ¬tripleQuotes <:+: s :=
  ⟨fun h => ⟨h.unbroken, h.unescaped, h.unclosed⟩, fun h => ⟨h.1, h.2.1, h.2.2⟩⟩

/-- A text is looked through, and not every character there is. -/
instance (s : List Char) : Decidable (StandsForItself s) :=
  letI := List.decidableBAll (breaks true · = false) s
  letI := List.decidableBAll (fun c => ¬['\\', c] <:+: s) escapeMarks
  decidable_of_iff _ standsForItself_iff.symm

/-- A text without quotes and backslashes stands for itself, if it has no character that is in no
source. -/
theorem standsForItself_of_all (h : s.all (fun c => c != '"' && c != '\\' && !breaks true c) = true) :
    StandsForItself s := by
  rw [List.all_eq_true] at h
  have hplain : ∀ c ∈ s, (c ≠ '"' ∧ c ≠ '\\') ∧ breaks true c = false := fun c hc => by
    simpa using h c hc
  refine ⟨fun c hc => (hplain c hc).2, fun c _ hin => ?_, fun hin => ?_⟩
  · exact (hplain '\\' (hin.subset List.mem_cons_self)).1.2 rfl
  · exact (hplain '"' (hin.subset List.mem_cons_self)).1.1 rfl

end Literal

end ApiTools
