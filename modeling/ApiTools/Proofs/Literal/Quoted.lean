import ApiTools.Proofs.Literal.Text
import ApiTools.Proofs.Value.Printed
import Mathlib.Algebra.Group.Nat.Defs

/-!
# Quoted texts read back

Between its quotes a text has no character that could close or break the literal: the quotes and the
backslash are hidden by a backslash, and what is not printable is written by a letter or a code.
Each escape stands for the character that it was written for, so the whole is read as the text.

## Main results

* `Literal.hexEscape_hex` — a code in hexadecimal digits is read as its character.
* `Literal.readQuoted_quoted` — **a quoted text is read as the text.**
-/

namespace ApiTools

namespace Literal

open Text

/-! ### Hexadecimal digits -/

theorem filterMap_hexDigit? {ds : List Nat} (h : ∀ d ∈ ds, d < 16) :
    (ds.map Nat.digitChar).filterMap hexDigit? = ds := by
  have hdigit : ∀ d < 16, hexDigit? (Nat.digitChar d) = some d := by decide
  induction ds with
  | nil => rfl
  | cons d ds ih =>
    rw [List.forall_mem_cons] at h
    rw [List.map_cons, List.filterMap_cons_some (hdigit d h.1), ih h.2]

/-- A natural is written in hexadecimal digits. -/
theorem exists_digits (n : Nat) :
    ∃ ds : List Nat, Nat.toDigits 16 n = ds.map Nat.digitChar ∧ (∀ d ∈ ds, d < 16) ∧
      ds.foldl (fun n d => n * 16 + d) 0 = n := by
  induction n using Nat.strongRecOn with
  | ind n ih =>
    rcases Nat.lt_or_ge n 16 with hlt | hge
    · exact ⟨[n], Nat.toDigits_of_lt_base hlt, by simpa using hlt, by simp⟩
    · obtain ⟨ds, hds, hall, hvalue⟩ := ih (n / 16) (Nat.div_lt_self (by omega) (by decide))
      refine ⟨ds ++ [n % 16], ?_, ?_, ?_⟩
      · rw [Nat.toDigits_of_base_le (by decide) hge, hds, List.map_append, List.map_singleton]
      · rw [List.forall_mem_append, List.forall_mem_singleton]
        exact ⟨hall, Nat.mod_lt n (by decide)⟩
      · rw [List.foldl_append, hvalue, List.foldl_cons, List.foldl_nil]
        omega

/-- With zeros in front it has the given width. -/
theorem exists_hex {width n : Nat} (hwidth : 0 < width) (hn : n < 16 ^ width) :
    ∃ ds : List Nat, hex width n = ds.map Nat.digitChar ∧ (∀ d ∈ ds, d < 16) ∧
      ds.length = width ∧ ds.foldl (fun n d => n * 16 + d) 0 = n := by
  obtain ⟨ds, hds, hall, hvalue⟩ := exists_digits n
  have hlength : ds.length ≤ width := by
    have := (Nat.length_toDigits_le_iff (b := 16) (by decide) hwidth).mpr hn
    rwa [hds, List.length_map] at this
  have hzeros : ∀ k, (List.replicate k 0).foldl (fun n d => n * 16 + d) 0 = 0 := by
    intro k
    induction k with
    | zero => rfl
    | succ k ih => exact ih
  refine ⟨List.replicate (width - ds.length) 0 ++ ds, ?_, ?_, ?_, ?_⟩
  · rw [hex, hds, List.map_append, List.map_replicate, List.length_map]
    rfl
  · rw [List.forall_mem_append]
    exact ⟨fun d hd => by rw [List.eq_of_mem_replicate hd]; decide, hall⟩
  · rw [List.length_append, List.length_replicate]
    omega
  · rw [List.foldl_append, hzeros, hvalue]

/-- The code of a character or of a half is one of those that there are. -/
theorem code_lt {g : CodePoint} (hg : g ≠ .stray) : g.code < 0x110000 := by
  cases g with
  | char c =>
    have hvalid : c.toNat.isValidChar := c.valid
    rcases hvalid with h | ⟨-, h⟩ <;> simp only [CodePoint.code] <;> omega
  | half n =>
    simp only [CodePoint.code]
    omega
  | stray => exact absurd rfl hg

/-- A code point is that of its code. -/
theorem ofCode_code {g : CodePoint} (hg : g ≠ .stray) : CodePoint.ofCode g.code = g := by
  cases g with
  | char c =>
    have hvalid : c.toNat.isValidChar := c.valid
    have hchar : ¬(0xD800 ≤ c.toNat ∧ c.toNat < 0xE000) := by
      rcases hvalid with h | ⟨h, -⟩ <;> omega
    rw [CodePoint.code, CodePoint.ofCode, dif_neg hchar, Char.ofNat_toNat]
  | half n =>
    rw [CodePoint.code, CodePoint.ofCode, dif_pos ⟨by omega, by omega⟩]
    exact congrArg CodePoint.half (Fin.ext (Nat.add_sub_cancel_left ..))
  | stray => exact absurd rfl hg

/-- **A code in hexadecimal digits is read as its code point.** -/
theorem hexEscape_hex {width : Nat} {g : CodePoint} (hwidth : 0 < width) (hg : g ≠ .stray)
    (hcode : g.code < 16 ^ width) (s : List Char) :
    hexEscape width (hex width g.code ++ s) = some (g.spelled, width + 1) := by
  obtain ⟨ds, hhex, hall, hlength, hvalue⟩ := exists_hex hwidth hcode
  have htake : (ds.map Nat.digitChar ++ s).take width = ds.map Nat.digitChar :=
    List.take_left' (by rw [List.length_map, hlength])
  unfold hexEscape
  rw [hhex, htake, filterMap_hexDigit? hall]
  dsimp only
  rw [hvalue, if_pos ⟨hlength, code_lt hg⟩, ofCode_code hg]

/-! ### One code point -/

variable {names : String → Option Char} {quote : Char}

/-- How a code point is written between quotes: as it is, by itself or a letter after a backslash, or
by its code. -/
inductive Escaping (quote : Char) (g : CodePoint) : List Char → Prop where
  /-- The code point is a character that stands for itself. -/
  | itself (c : Char) (hg : g.spelled = [c]) (hquote : c ≠ quote) (hbackslash : c ≠ '\\')
    (hbreaks : breaks false c = false) : Escaping quote g [c]
  /-- A character after a backslash stands for it. -/
  | letter (c d : Char) (hg : g.spelled = [c]) (hd : letters.lookup d = some c)
    (hne : d ∉ '\n' :: octalDigits) (hmark : d ∉ ['x', 'u', 'U', 'N'])
    (hbreaks : breaks true d = false) : Escaping quote g ['\\', d]
  /-- Its code stands for it. -/
  | code (mark : Char) (width : Nat) (hmark : (mark, width) ∈ [('x', 2), ('u', 4), ('U', 8)])
    (hg : g ≠ .stray) (hcode : g.code < 16 ^ width) :
    Escaping quote g ('\\' :: mark :: hex width g.code)

theorem escaping_escaped (hquote : quote = '\'' ∨ quote = '"') (c : Char) :
    Escaping quote (.char c) (escaped quote c) := by
  have hchar : CodePoint.char c ≠ .stray := nofun
  unfold escaped
  split_ifs with hhidden hline hreturn htab hprintable hsmall hmiddle
  · rcases hhidden with rfl | rfl
    · rcases hquote with rfl | rfl <;>
        exact .letter _ _ rfl (by decide) (by decide) (by decide) (by decide)
    · exact .letter _ _ rfl (by decide) (by decide) (by decide) (by decide)
  · rw [hline]
    exact .letter _ _ rfl (by decide) (by decide) (by decide) (by decide)
  · rw [hreturn]
    exact .letter _ _ rfl (by decide) (by decide) (by decide) (by decide)
  · rw [htab]
    exact .letter _ _ rfl (by decide) (by decide) (by decide) (by decide)
  · rw [not_or] at hhidden
    refine .itself c (if_neg (isOrdinary_of_isPrintable hprintable).1) hhidden.1 hhidden.2 ?_
    have hnull : c ≠ '\x00' := by
      rintro rfl
      exact absurd hprintable (by decide)
    simp [breaks, hnull, hreturn, hline]
  · exact .code 'x' 2 (by decide) hchar hsmall
  · exact .code 'u' 4 (by decide) hchar hmiddle
  · exact .code 'U' 8 (by decide) hchar ((code_lt hchar).trans (by decide))

theorem escaping_escapedPoint (hquote : quote = '\'' ∨ quote = '"') (g : CodePoint) :
    Escaping quote g (escapedPoint quote g) := by
  cases g with
  | char c => exact escaping_escaped hquote c
  | half n =>
    refine .code 'u' 4 (by decide) nofun ?_
    simp only [CodePoint.code]
    omega
  | stray =>
    refine .itself CodePoint.sign rfl ?_ (by decide) (by decide)
    rcases hquote with rfl | rfl <;> decide

theorem width_pos {mark : Char} {width : Nat}
    (h : (mark, width) ∈ [('x', 2), ('u', 4), ('U', 8)]) : 0 < width := by
  simp only [List.mem_cons, Prod.mk.injEq, List.not_mem_nil, or_false] at h
  omega

/-- What stands after the backslash stands for the code point. -/
theorem escape_letter {c d : Char} (hd : letters.lookup d = some c) (hne : d ∉ '\n' :: octalDigits)
    (hmark : d ∉ ['x', 'u', 'U', 'N']) (s : List Char) : escape names (d :: s) = some ([c], 1) := by
  rw [List.mem_cons, not_or] at hne
  simp only [List.mem_cons, List.not_mem_nil, or_false, not_or] at hmark
  obtain ⟨hx, hu, hU, hN⟩ := hmark
  rw [escape, if_neg hne.1, if_neg hx, if_neg hu, if_neg hU, if_neg hN, if_neg hne.2, hd]

theorem escape_code {g : CodePoint} {mark : Char} {width : Nat}
    (hmark : (mark, width) ∈ [('x', 2), ('u', 4), ('U', 8)]) (hg : g ≠ .stray)
    (hcode : g.code < 16 ^ width) (s : List Char) :
    escape names (mark :: (hex width g.code ++ s)) = some (g.spelled, width + 1) := by
  simp only [List.mem_cons, Prod.mk.injEq, List.not_mem_nil, or_false] at hmark
  rcases hmark with ⟨rfl, rfl⟩ | ⟨rfl, rfl⟩ | ⟨rfl, rfl⟩
  · rw [escape, if_neg (by decide), if_pos rfl, hexEscape_hex (by decide) hg hcode]
  · rw [escape, if_neg (by decide), if_neg (by decide), if_pos rfl,
      hexEscape_hex (by decide) hg hcode]
  · rw [escape, if_neg (by decide), if_neg (by decide), if_neg (by decide), if_pos rfl,
      hexEscape_hex (by decide) hg hcode]

/-- **What is written for a code point is read as the code point.** -/
theorem Escaping.unescape {g : CodePoint} {written : List Char} (h : Escaping quote g written)
    (s : List Char) :
    Literal.unescape names (written ++ s) = (Literal.unescape names s).map (g.spelled ++ ·) := by
  have hread : ∀ {after : List Char} {size : Nat}, escape names after = some (g.spelled, size) →
      after.drop size = s →
      Literal.unescape names ('\\' :: after) =
        (Literal.unescape names s).map (g.spelled ++ ·) := by
    intro after size hafter hrest
    rw [Literal.unescape, if_pos rfl, hafter, Option.bind_eq_bind, Option.bind_some]
    dsimp only
    rw [hrest]
    cases Literal.unescape names s <;> rfl
  cases h with
  | itself c hg _ hbackslash _ =>
    rw [List.singleton_append, Literal.unescape, if_neg hbackslash, hg]
    rfl
  | letter c d hg hd hne hmark _ =>
    exact hread (hg ▸ escape_letter hd hne hmark s) rfl
  | code mark width hmark hg hcode =>
    obtain ⟨ds, hhex, -, hlength, -⟩ := exists_hex (width_pos hmark) hcode
    have hrest : (hex width g.code ++ s).drop width = s :=
      List.drop_left' (by rw [hhex, List.length_map, hlength])
    exact hread (escape_code hmark hg hcode s) hrest

/-- Characters that neither close nor break nor hide are passed over. -/
theorem scan_append {s : List Char}
    (hs : ∀ c ∈ s, c ≠ quote ∧ c ≠ '\\' ∧ breaks false c = false) (t : List Char) :
    scan [quote] false (s ++ t) =
      (scan [quote] false t).map fun found => (s ++ found.1, found.2) := by
  induction s with
  | nil => simp
  | cons c s ih =>
    rw [List.forall_mem_cons] at hs
    obtain ⟨⟨hquote, hbackslash, hbreaks⟩, hs⟩ := hs
    have hopen : [quote].isPrefixOf (c :: (s ++ t)) = false := by
      simpa [List.isPrefixOf] using Ne.symm hquote
    rw [List.cons_append, scan_cons hopen hbreaks hbackslash, ih hs, Option.map_map]
    rfl

/-- **The scan passes over what is written for a code point.** -/
theorem Escaping.scan {g : CodePoint} {written : List Char} (hquote : quote = '\'' ∨ quote = '"')
    (h : Escaping quote g written) (s : List Char) :
    Literal.scan [quote] false (written ++ s) =
      (Literal.scan [quote] false s).map fun found => (written ++ found.1, found.2) := by
  have hopen : ∀ s, [quote].isPrefixOf ('\\' :: s) = false := by
    intro s
    rcases hquote with rfl | rfl <;> rfl
  cases h with
  | itself c _ hclose hbackslash hbreaks =>
    exact scan_append (List.forall_mem_singleton.mpr ⟨hclose, hbackslash, hbreaks⟩) s
  | letter c d _ _ _ _ hbreaks =>
    rw [List.cons_append, List.singleton_append, scan_hidden (hopen _) hbreaks]
    rfl
  | code mark width hmark _ hcode =>
    obtain ⟨ds, hhex, hall, -, -⟩ := exists_hex (width_pos hmark) hcode
    have hdigits : ∀ d ∈ hex width g.code, d ≠ quote ∧ d ≠ '\\' ∧ breaks false d = false := by
      have hdigit : ∀ d < 16, Nat.digitChar d ≠ '\'' ∧ Nat.digitChar d ≠ '"' ∧
          Nat.digitChar d ≠ '\\' ∧ breaks false (Nat.digitChar d) = false := by decide
      rw [hhex, List.forall_mem_map]
      intro d hd
      obtain ⟨hsingle, hdouble, hbackslash, hbreaks⟩ := hdigit d (hall d hd)
      exact ⟨by rcases hquote with rfl | rfl <;> assumption, hbackslash, hbreaks⟩
    have hbreaks : breaks true mark = false := by
      simp only [List.mem_cons, Prod.mk.injEq, List.not_mem_nil, or_false] at hmark
      rcases hmark with ⟨rfl, -⟩ | ⟨rfl, -⟩ | ⟨rfl, -⟩ <;> rfl
    rw [List.cons_append, List.cons_append, scan_hidden (hopen _) hbreaks, scan_append hdigits,
      Option.map_map]
    rfl

/-! ### Texts -/

theorem unescape_flatMap_escapedPoint (hquote : quote = '\'' ∨ quote = '"')
    (points : List CodePoint) :
    unescape names (points.flatMap (escapedPoint quote)) =
      some (points.flatMap CodePoint.spelled) := by
  induction points with
  | nil => rw [List.flatMap_nil, unescape, List.flatMap_nil]
  | cons g points ih =>
    rw [List.flatMap_cons, (escaping_escapedPoint hquote g).unescape, ih]
    rfl

theorem scan_flatMap_escapedPoint (hquote : quote = '\'' ∨ quote = '"') (points : List CodePoint)
    (rest : List Char) :
    scan [quote] false (points.flatMap (escapedPoint quote) ++ quote :: rest) =
      some (points.flatMap (escapedPoint quote), rest) := by
  induction points with
  | nil => exact scan_close (List.cons_ne_nil quote []) rest
  | cons g points ih =>
    rw [List.flatMap_cons, List.append_assoc, (escaping_escapedPoint hquote g).scan hquote, ih]
    rfl

/-- A literal opens with one quote, unless it is empty and another quote follows. -/
theorem openingQuotes?_quoted (hquote : quote = '\'' ∨ quote = '"') {points : List CodePoint}
    {rest : List Char} (hrest : rest.head? ≠ some quote) :
    openingQuotes? (quote :: (points.flatMap (escapedPoint quote) ++ quote :: rest)) =
      some [quote] := by
  have hone :
      [quote, quote].isPrefixOf (points.flatMap (escapedPoint quote) ++ quote :: rest) = false := by
    cases points with
    | nil =>
      cases rest with
      | nil => simp [List.isPrefixOf]
      | cons d rest => simpa [List.isPrefixOf] using fun h : quote = d => hrest (h ▸ rfl)
    | cons g points =>
      have hescaping := escaping_escapedPoint hquote g
      rw [List.flatMap_cons, List.append_assoc]
      generalize escapedPoint quote g = written at hescaping ⊢
      cases hescaping with
      | itself c _ hclose => simp [List.isPrefixOf, Ne.symm hclose]
      | letter | code => rcases hquote with rfl | rfl <;> rfl
  rw [openingQuotes?, if_pos hquote, if_neg (by simp [hone])]

/-- **A quoted text is read as the text**, if no quote follows. -/
theorem readQuoted_quoted (s : List Char) {rest : List Char}
    (hrest : rest.head? ≠ some '\'' ∧ rest.head? ≠ some '"') :
    readQuoted names (quoted s ++ rest) = some (s, rest) := by
  have hquote := quoteFor_cases s
  have hnext : rest.head? ≠ some (quoteFor s) := by
    rcases hquote with h | h <;> rw [h]
    · exact hrest.1
    · exact hrest.2
  have hsource : quoted s ++ rest = quoteFor s ::
      ((codePoints s).flatMap (escapedPoint (quoteFor s)) ++ quoteFor s :: rest) := by
    simp [quoted]
  rw [hsource, readQuoted, openingQuotes?_quoted hquote hnext]
  simp [scan_flatMap_escapedPoint hquote, unescape_flatMap_escapedPoint hquote, flatMap_codePoints]

end Literal

end ApiTools
