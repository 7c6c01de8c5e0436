import ApiTools.Text.CodePoint
import ApiTools.Text.Printable
import Mathlib.Data.List.Basic
import Mathlib.Data.List.Chain

/-!
# Whole texts and joined texts

A text is whole when it has no half of a pair; only then are there bytes for it.  It is joined when
no half stands right in front of its other half, and then it is left as it is where halves are
joined.  Either is said of the code points one after another, and a character that is spelled by
itself keeps the code points on its two sides apart.  So what is put together with such characters
between its parts is whole, or joined, when its parts are.

## Main definitions

* `CodePoint.AreApart`, `Text.isJoined` — no two halves that follow each other are those of a pair.
* `Text.IsOrdinary`, `Text.AreOrdinary` — a character that is spelled by itself, wherever it stands,
  and a text of these.
* `Text.Sided` — a property that a text has when it is put together from texts that have it.
* `Text.IsUnmarked` — a text in which nothing stands for a half behind the sign.

## Main results

* `Text.exists_bytes?_iff` — **the whole texts are those with bytes.**
* `Text.joined_of_isJoined` — **a joined text is left as it is.**
* `Text.sided_isWhole`, `Text.sided_isJoined` — **a text with ordinary characters in its midst is
  whole, or joined, when its two sides are.**
-/

namespace ApiTools

namespace CodePoint

variable {g h : CodePoint} {c : Char} {points : List CodePoint}

@[simp] theorem isPair_char_left : isPair (.char c) h = false := rfl

@[simp] theorem isPair_char_right : isPair g (.char c) = false := by cases g <;> rfl

theorem isPair_of_isSome_left (hg : g.char?.isSome = true) : isPair g h = false := by
  cases g with
  | char | stray => rfl
  | half => cases hg

theorem isPair_of_isSome_right (hh : h.char?.isSome = true) : isPair g h = false := by
  cases h with
  | char | stray => cases g <;> rfl
  | half => cases hh

/-- Code points no two of which are the halves of a pair, one right in front of the other. -/
def AreApart (points : List CodePoint) : Prop := points.IsChain fun g h => isPair g h = false

instance (points : List CodePoint) : Decidable (AreApart points) :=
  inferInstanceAs (Decidable (List.IsChain _ points))

/-- **Joining leaves code points that are apart as they are.** -/
theorem joined_of_areApart (hpoints : AreApart points) : joined points = points := by
  fun_induction joined points with
  | case1 g h rest hpair =>
    rw [(List.isChain_cons_cons.mp hpoints).1] at hpair
    cases hpair
  | case2 g h rest hpair ih => rw [ih (List.isChain_cons_cons.mp hpoints).2]
  | case3 => rfl

/-- A character keeps what stands on its two sides apart. -/
theorem areApart_append_cons {s t : List CodePoint} :
    AreApart (s ++ .char c :: t) ↔ AreApart s ∧ AreApart t := by
  have hrest : AreApart (.char c :: t) ↔ AreApart t := by
    cases t with
    | nil => simp [AreApart]
    | cons h t => exact List.isChain_cons_cons.trans (and_iff_right isPair_char_left)
  rw [AreApart, List.isChain_append, ← AreApart, ← AreApart, hrest]
  refine and_congr_right fun _ => and_iff_left fun g _ h hh => ?_
  obtain rfl : .char c = h := Option.some.inj hh
  exact isPair_char_right

/-- Where characters stand, nothing comes together that was apart. -/
theorem areApart_chars_append {l : List Char} :
    AreApart (l.map .char ++ points) ↔ AreApart points := by
  induction l with
  | nil => rfl
  | cons c l ih =>
    exact (areApart_append_cons (s := [])).trans ((and_iff_right List.isChain_nil).trans ih)

/-- Code points with no half among them are apart. -/
theorem areApart_of_isSome (hpoints : ∀ g ∈ points, g.char?.isSome = true) : AreApart points := by
  induction points with
  | nil => exact List.isChain_nil
  | cons g points ih =>
    obtain ⟨hg, hpoints⟩ := List.forall_mem_cons.mp hpoints
    exact List.isChain_cons.mpr ⟨fun h _ => isPair_of_isSome_left hg, ih hpoints⟩

theorem spelled_ne_nil (g : CodePoint) : g.spelled ≠ [] := by
  cases g with
  | char c =>
    rw [CodePoint.spelled]
    split <;> exact List.cons_ne_nil _ _
  | half | stray => exact List.cons_ne_nil _ _

/-- Every mark stands for something. -/
theorem ne_stray_of_ofMark? (h : ofMark? c = some g) : g ≠ .stray := by
  rintro rfl
  unfold ofMark? at h
  split_ifs at h <;> cases h

end CodePoint

namespace Text

open CodePoint

variable {c : Char}

/-! ### Ordinary characters -/

/-- A character that is spelled by itself, wherever it stands. -/
def IsOrdinary (c : Char) : Prop := c ≠ sign ∧ ofMark? c = none

instance (c : Char) : Decidable (IsOrdinary c) := inferInstanceAs (Decidable (_ ∧ _))

/-- The characters below the marks are ordinary. -/
theorem isOrdinary_of_lt (hc : c.toNat < 0x100000) : IsOrdinary c := by
  refine ⟨?_, if_pos hc⟩
  rintro rfl
  exact absurd hc (by decide)

/-- So are all that are printable. -/
theorem isOrdinary_of_isPrintable (hc : isPrintable c = true) : IsOrdinary c := by
  apply isOrdinary_of_lt
  rw [← Nat.not_le]
  intro hhigh
  have hvalid : c.toNat.isValidChar := c.valid
  have hlast : (0xE01F0, 0x10FFFF) ∈ unprintableRanges := by decide +kernel
  have hin : inRanges unprintableRanges c.toNat = true := by
    refine List.any_eq_true.mpr ⟨_, hlast, ?_⟩
    simp only [Nat.isValidChar] at hvalid
    simp only [Bool.and_eq_true, decide_eq_true_eq]
    omega
  rw [isPrintable, if_neg (by omega), hin] at hc
  cases hc

/-- An ordinary character keeps the code points on its two sides apart. -/
theorem codePoints_append_cons (hc : IsOrdinary c) (s t : List Char) :
    codePoints (s ++ c :: t) = codePoints s ++ .char c :: codePoints t := by
  rw [codePoints_append s (by simpa using hc.2), codePoints_cons hc.1]

/-- Every character is ordinary. -/
def AreOrdinary (s : List Char) : Prop := ∀ c ∈ s, IsOrdinary c

instance (s : List Char) : Decidable (AreOrdinary s) := List.decidableBAll IsOrdinary s

theorem codePoints_ordinary_append (h : AreOrdinary s) (t : List Char) :
    codePoints (s ++ t) = s.map .char ++ codePoints t := by
  induction s with
  | nil => rfl
  | cons c s ih =>
    obtain ⟨hc, hs⟩ := List.forall_mem_cons.mp h
    rw [List.cons_append, codePoints_cons hc.1, ih hs, List.map_cons, List.cons_append]

/-- A text that is put between others to keep them apart. -/
def IsSeparator (sep : String) : Prop := sep.toList ≠ [] ∧ AreOrdinary sep.toList

instance (sep : String) : Decidable (IsSeparator sep) := inferInstanceAs (Decidable (_ ∧ _))

/-- A property that a text with a separator in its midst has when its two sides have it. -/
structure Sided (p : String → Bool) : Prop where
  /-- The empty text has it. -/
  empty : p "" = true
  /-- A text with a separator in its midst has it when its two sides have it. -/
  between : ∀ {s sep t : String}, IsSeparator sep →
    (p (s ++ sep ++ t) = true ↔ p s = true ∧ p t = true)

/-- What is said of code points, and of those on the two sides of a character when it is said of
all, is such a property. -/
theorem sided_of_append_cons {P : List CodePoint → Prop} (hnil : P [])
    (hP : ∀ {s t c}, P (s ++ .char c :: t) ↔ P s ∧ P t) {p : String → Bool}
    (hp : ∀ s, p s = true ↔ P (codePoints s.toList)) : Sided p where
  empty := (hp "").mpr hnil
  between {s sep t} hsep := by
    rw [hp, hp, hp, String.toList_append, String.toList_append, List.append_assoc]
    obtain ⟨hne, hall⟩ := hsep
    generalize sep.toList = cs at hne hall
    generalize s.toList = front
    induction cs generalizing front with
    | nil => exact absurd rfl hne
    | cons c cs ih =>
      obtain ⟨hc, hcs⟩ := List.forall_mem_cons.mp hall
      rw [List.cons_append, codePoints_append_cons hc, hP]
      refine and_congr_right fun _ => ?_
      cases cs with
      | nil => rfl
      | cons d ds => exact (ih (List.cons_ne_nil d ds) hcs []).trans (and_iff_right hnil)

namespace Sided

variable {p : String → Bool} (hp : Sided p) {s sep opening closing : String}

include hp

theorem append_iff_left (hsep : IsSeparator sep) : p (sep ++ s) = true ↔ p s = true := by
  have hbetween := hp.between (s := "") (t := s) hsep
  rwa [String.empty_append, and_iff_right hp.empty] at hbetween

/-- What stands between brackets has it when the whole does. -/
theorem bracketed_iff (hopening : IsSeparator opening) (hclosing : IsSeparator closing) :
    p (opening ++ s ++ closing) = true ↔ p s = true := by
  have hbetween := hp.between (s := opening ++ s) (t := "") hclosing
  rw [String.append_empty, and_iff_left hp.empty] at hbetween
  exact hbetween.trans (hp.append_iff_left hopening)

/-- Parts with separators between them have it when each of them has. -/
theorem intercalate_iff (hsep : IsSeparator sep) {parts : List String} :
    p (sep.intercalate parts) = true ↔ ∀ part ∈ parts, p part = true := by
  induction parts with
  | nil => exact iff_of_true hp.empty nofun
  | cons part parts ih =>
    rw [List.forall_mem_cons, ← ih]
    cases parts with
    | nil => exact iff_of_eq (by simp [hp.empty])
    | cons next parts =>
      rw [String.intercalate_cons_cons]
      exact hp.between hsep

end Sided

/-! ### Whole texts -/

variable {s sep t : String}

/-- **The whole texts are those with bytes.** -/
theorem exists_bytes?_iff : (∃ content, bytes? s = some content) ↔ isWhole s = true := by
  unfold bytes? whole? isWhole
  generalize codePoints s.toList = points
  simp only [← Option.isSome_iff_exists, Option.isSome_map]
  induction points with
  | nil => rfl
  | cons g points ih =>
    rw [List.mapM_cons, List.all_cons, Bool.and_eq_true, ← ih]
    cases g.char? <;> cases points.mapM CodePoint.char? <;> simp

/-- A text with a separator in its midst is whole when its two sides are. -/
theorem sided_isWhole : Sided isWhole :=
  sided_of_append_cons (P := fun points => points.all (·.char?.isSome) = true) rfl
    (by simp [CodePoint.char?]) fun _ => Iff.rfl

/-! ### Joined texts -/

/-- Whether no two halves that follow each other are those of a pair. -/
def isJoined (s : String) : Bool := decide (AreApart (codePoints s.toList))

theorem isJoined_iff : isJoined s = true ↔ AreApart (codePoints s.toList) := decide_eq_true_iff

/-- **A joined text is left as it is.** -/
theorem joined_of_isJoined (h : isJoined s = true) : joined s = s := by
  rw [joined, joined_of_areApart (isJoined_iff.mp h), ofPoints, flatMap_codePoints,
    String.ofList_toList]

/-- Only the empty text is joined to the empty text. -/
theorem joined_eq_empty_iff : joined s = "" ↔ s = "" := by
  constructor
  · intro h
    have hnil : (CodePoint.joined (codePoints s.toList)).flatMap CodePoint.spelled = [] :=
      String.ofList_eq_empty_iff.mp h
    rw [List.flatMap_eq_nil_iff] at hnil
    cases hpoints : codePoints s.toList with
    | nil =>
      have hs := flatMap_codePoints s.toList
      rw [hpoints] at hs
      exact String.toList_eq_nil_iff.mp hs.symm
    | cons g points =>
      obtain ⟨first, hfirst⟩ : ∃ first, first ∈ CodePoint.joined (g :: points) := by
        cases points with
        | nil => exact ⟨g, List.mem_singleton_self g⟩
        | cons h points =>
          rw [CodePoint.joined]
          split <;> exact ⟨_, List.mem_cons_self⟩
      exact absurd (hnil first (hpoints ▸ hfirst)) (spelled_ne_nil first)
  · rintro rfl
    rfl

/-- A text with a separator in its midst is joined when its two sides are. -/
theorem sided_isJoined : Sided isJoined :=
  sided_of_append_cons (P := AreApart) List.isChain_nil areApart_append_cons fun _ => isJoined_iff

/-- Code points that are apart spell a joined text. -/
theorem isJoined_ofPoints {points : List CodePoint} (hproper : .stray ∉ points)
    (hapart : AreApart points) : isJoined (ofPoints points) = true := by
  rw [isJoined_iff, ofPoints, String.toList_ofList, codePoints_flatMap hproper]
  exact hapart

/-- One code point is joined. -/
theorem isJoined_ofPoints_singleton (g : CodePoint) : isJoined (ofPoints [g]) = true := by
  cases g with
  | stray => decide
  | char | half =>
    exact isJoined_ofPoints (by simp) (List.isChain_singleton _)

theorem isJoined_of_isWhole (h : isWhole s = true) : isJoined s = true :=
  isJoined_iff.mpr (areApart_of_isSome (List.all_eq_true.mp h))

/-! ### Texts without marks -/

/-- A text in which nothing stands for a half behind the sign. -/
def IsUnmarked (s : List Char) : Prop := ∀ c ∈ s, ofMark? c = none

instance (s : List Char) : Decidable (IsUnmarked s) :=
  List.decidableBAll (ofMark? · = none) s

/-- Such a text is whole. -/
theorem isWhole_of_isUnmarked (h : IsUnmarked s.toList) : isWhole s = true := by
  rw [isWhole, List.all_eq_true]
  generalize s.toList = cs at h
  fun_induction codePoints cs with
  | case1 => exact List.forall_mem_nil _
  | case2 c => by_cases hc : c = sign <;> simp [hc, CodePoint.char?]
  | case3 d cs g hg ih =>
    rw [h d (List.mem_cons_of_mem _ List.mem_cons_self)] at hg
    cases hg
  | case4 d cs hnone ih | case5 c d cs hc ih =>
    exact List.forall_mem_cons.mpr ⟨rfl, ih fun c hc => h c (List.mem_cons_of_mem _ hc)⟩

end Text

end ApiTools
