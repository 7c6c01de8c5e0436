/-!
# Code points

The code points of a text are characters, or halves of pairs. A half is no character, and no text
with one can be encoded, but the escapes of a document can put it into a text. So that texts are
strings all the same, a half is spelled by two characters: a sign, and a character for the number of
the half. The sign itself is spelled by two characters, too, and every other character by itself,
so that no two lists of code points are spelled alike.

A document is read as it is in its file, without any spelling; what comes of it, and all other
texts of the program, are spelled.

## Main definitions

* `CodePoint` — a code point, which `CodePoint.spelled` spells.
* `Text.codePoints` — the code points of a text.
* `Text.spelled` — a text of characters, spelled.
* `Text.whole?` — the text of characters that has been spelled, if there is no half in it.
* `Text.joined` — a text with one character for each two halves of a pair.

## Main results

* `Text.flatMap_codePoints` — no text is lost in its code points.
* `Text.codePoints_flatMap` — code points are found again in what they are spelled by.
* `Text.codePoints_append` — the code points of a text are those of its parts.
-/

namespace ApiTools

/-! ### Pairs -/

/-- Whether a unit is the first half of a pair. -/
def isHighHalf (unit : Nat) : Bool := 0xD800 ≤ unit && unit < 0xDC00

/-- Whether a unit is the second half of a pair. -/
def isLowHalf (unit : Nat) : Bool := 0xDC00 ≤ unit && unit < 0xE000

/-- The character of the two halves of a pair. -/
def pairChar (high low : Nat) : Char :=
  Char.ofNat (0x10000 + (high - 0xD800) * 0x400 + (low - 0xDC00))

/-! ### Code points -/

/-- A code point of a text. -/
inductive CodePoint where
  /-- A character. -/
  | char (c : Char)
  /-- A half of a pair, by its number among the halves. -/
  | half (n : Fin 0x800)
  /-- A sign that spells nothing; it is in no text that has been spelled. -/
  | stray
  deriving DecidableEq

namespace CodePoint

instance : Coe Char CodePoint := ⟨char⟩

/-- The character that the spelling of a half begins with. -/
def sign : Char := Char.ofNat 0x10FFFF

/-- The character of a number behind the sign: the sign itself has the one after the halves. -/
def mark (n : Nat) : Char := Char.ofNat (0x100000 + n)

/-- The spelling of a code point. -/
def spelled : CodePoint → List Char
  | char c => if c = sign then [sign, mark 0x800] else [c]
  | half n => [sign, mark n]
  | stray => [sign]

/-- The code point that a character stands for behind the sign. -/
def ofMark? (c : Char) : Option CodePoint :=
  if c.toNat < 0x100000 then none
  else if h : c.toNat - 0x100000 < 0x800 then some (half ⟨c.toNat - 0x100000, h⟩)
  else if c.toNat = 0x100800 then some (char sign)
  else none

/-- The code point of a code, which has to be one. -/
def ofCode (code : Nat) : CodePoint :=
  if h : 0xD800 ≤ code ∧ code < 0xE000 then half ⟨code - 0xD800, by omega⟩
  else char (Char.ofNat code)

/-- The code of a code point; a stray sign has one of its own. -/
def code : CodePoint → Nat
  | char c => c.toNat
  | half n => 0xD800 + n
  | stray => 0x110000

/-- The character that a code point is, if it is no half. -/
def char? : CodePoint → Option Char
  | char c => some c
  | half _ => none
  | stray => some sign

/-- Whether two code points are the halves of a pair. -/
def isPair (g h : CodePoint) : Bool :=
  match g, h with
  | half _, half _ => isHighHalf g.code && isLowHalf h.code
  | _, _ => false

/-- Code points with one character for each two halves of a pair. -/
def joined : List CodePoint → List CodePoint
  | g :: h :: rest =>
    if isPair g h then char (pairChar g.code h.code) :: joined rest else g :: joined (h :: rest)
  | rest => rest

end CodePoint

namespace Text

open CodePoint

/-- The code points of a text. -/
def codePoints : List Char → List CodePoint
  | [] => []
  | [c] => [if c = sign then .stray else .char c]
  | c :: d :: s =>
    if c = sign then
      match ofMark? d with
      | some g => g :: codePoints s
      | none => .stray :: codePoints (d :: s)
    else .char c :: codePoints (d :: s)

/-- The text that code points are spelled by. -/
def ofPoints (points : List CodePoint) : String := String.ofList (points.flatMap CodePoint.spelled)

/-- A text of characters, spelled. -/
def spelled (text : String) : String := ofPoints (text.toList.map .char)

/-- Whether there is no half in a text. -/
def isWhole (text : String) : Bool := (codePoints text.toList).all (·.char?.isSome)

/-- The text of characters that has been spelled, if there is no half in it. -/
def whole? (text : String) : Option String :=
  ((codePoints text.toList).mapM CodePoint.char?).map String.ofList

/-- The bytes of a text in which there is no half. -/
def bytes? (text : String) : Option ByteArray := (whole? text).map String.toUTF8

/-- A text of characters with a sign for each half. -/
def softened (text : String) : String :=
  String.ofList ((codePoints text.toList).map fun g => g.char?.getD '\ufffd')

/-- A text with one character for each two halves of a pair. -/
def joined (text : String) : String := ofPoints (CodePoint.joined (codePoints text.toList))

/-- The codes of a text, by which texts are ordered. -/
def codes (text : String) : List Nat := (codePoints text.toList).map CodePoint.code

/-! ### Spelling and reading back -/

section

variable {c : Char} {g : CodePoint} {s t : List Char}

theorem ofMark?_sign : ofMark? sign = none := by decide

/-- A character behind the sign is the mark of the code point that it stands for. -/
theorem spelled_of_ofMark? (h : ofMark? c = some g) : g.spelled = [sign, c] := by
  unfold ofMark? at h
  split at h
  · cases h
  · split at h
    · next hlow hhalf =>
      obtain rfl := Option.some.inj h
      have hcode : 0x100000 + (c.toNat - 0x100000) = c.toNat := by omega
      rw [CodePoint.spelled, mark, hcode, Char.ofNat_toNat]
    · split at h
      · next hcode =>
        obtain rfl := Option.some.inj h
        have hmark : 0x100000 + 0x800 = c.toNat := by omega
        rw [CodePoint.spelled, if_pos rfl, mark, hmark, Char.ofNat_toNat]
      · cases h

/-- The mark of a half stands for it. -/
theorem ofMark?_mark (n : Fin 0x800) : ofMark? (mark n) = some (.half n) := by
  have hcode : (mark n).toNat = 0x100000 + n := by
    rw [mark, Char.ofNat, dif_pos (.inr ⟨by omega, by omega⟩)]
    rfl
  have hlow : ¬(mark n).toNat < 0x100000 := by omega
  have hhalf : (mark n).toNat - 0x100000 < 0x800 := by omega
  rw [ofMark?, if_neg hlow, dif_pos hhalf]
  simp only [hcode, Nat.add_sub_cancel_left]

/-- A character is spelled by a sign, and the mark that stands for it, or by itself. -/
theorem exists_mark_or (hg : g ≠ .stray) :
    (∃ d, g.spelled = [sign, d] ∧ ofMark? d = some g) ∨
      ∃ c, c ≠ sign ∧ g = .char c ∧ g.spelled = [c] := by
  cases g with
  | char c =>
    by_cases hc : c = sign
    · subst hc
      exact .inl ⟨mark 0x800, by decide, by decide⟩
    · exact .inr ⟨c, hc, rfl, if_neg hc⟩
  | half n => exact .inl ⟨mark n, rfl, ofMark?_mark n⟩
  | stray => exact absurd rfl hg

theorem codePoints_cons (hc : c ≠ sign) (s : List Char) :
    codePoints (c :: s) = .char c :: codePoints s := by
  cases s <;> simp [codePoints, hc]

theorem codePoints_mark (h : ofMark? c = some g) (s : List Char) :
    codePoints (sign :: c :: s) = g :: codePoints s := by
  simp [codePoints, h]

theorem codePoints_stray (h : ∀ d ∈ s.head?, ofMark? d = none) :
    codePoints (sign :: s) = .stray :: codePoints s := by
  cases s with
  | nil => rfl
  | cons d s => simp [codePoints, h d rfl]

/-- The spelling of the code points of a text is the text. -/
theorem flatMap_codePoints (s : List Char) : (codePoints s).flatMap CodePoint.spelled = s := by
  fun_induction codePoints s with
  | case1 => rfl
  | case2 c => by_cases hc : c = sign <;> simp [hc, CodePoint.spelled]
  | case3 d s g hg ih => simp [spelled_of_ofMark? hg, ih]
  | case4 d s hnone ih => simp [CodePoint.spelled, ih]
  | case5 c d s hc ih => simp [CodePoint.spelled, hc, ih]

/-- A code point is found again in front of what follows its spelling. -/
theorem codePoints_spelled_append (hg : g ≠ .stray) (s : List Char) :
    codePoints (g.spelled ++ s) = g :: codePoints s := by
  rcases exists_mark_or hg with ⟨d, hspelled, hmark⟩ | ⟨c, hc, rfl, hspelled⟩
  · rw [hspelled]
    exact codePoints_mark hmark s
  · rw [hspelled]
    exact codePoints_cons hc s

/-- Code points are found again in front of what follows their spelling. -/
theorem codePoints_flatMap_append {points : List CodePoint} (h : .stray ∉ points)
    (s : List Char) :
    codePoints (points.flatMap CodePoint.spelled ++ s) = points ++ codePoints s := by
  induction points with
  | nil => rfl
  | cons g points ih =>
    rw [List.mem_cons, not_or] at h
    rw [List.flatMap_cons, List.append_assoc, codePoints_spelled_append (Ne.symm h.1), ih h.2,
      List.cons_append]

/-- Code points are found again in what they are spelled by. -/
theorem codePoints_flatMap {points : List CodePoint} (h : .stray ∉ points) :
    codePoints (points.flatMap CodePoint.spelled) = points := by
  have hpoints := codePoints_flatMap_append h []
  rwa [List.append_nil, codePoints, List.append_nil] at hpoints

/-- The code points of a text are those of its parts, if the second one does not begin with a mark
that the sign may stand in front of. -/
theorem codePoints_append (s : List Char) (ht : ∀ d ∈ t.head?, ofMark? d = none) :
    codePoints (s ++ t) = codePoints s ++ codePoints t := by
  fun_induction codePoints s with
  | case1 => rfl
  | case2 c =>
    by_cases hc : c = sign
    · subst hc
      exact codePoints_stray ht
    · rw [if_neg hc]
      exact codePoints_cons hc t
  | case3 d s g hg ih =>
    rw [List.cons_append, List.cons_append, codePoints_mark hg, ih, List.cons_append]
  | case4 d s hnone ih =>
    rw [List.cons_append, codePoints_stray (by simpa using hnone), ih, List.cons_append]
  | case5 c d s hc ih => rw [List.cons_append, codePoints_cons hc, ih, List.cons_append]

end

end Text

end ApiTools
