import ApiTools.Proofs.Double.Shortest
import ApiTools.Proofs.Json.Reader
import ApiTools.Proofs.Value.Exact

/-!
# Numbers read back from their texts

The reader of JSON takes the digits of a number apart and rounds the decimal that they make.  The
text of a binary number is a spelling of its shortest decimal, wherever the point stands, so the
number is read back from it.  The text of an integer is read back when it is not too long.

## Main definitions

* `Json.EndsNumber` — what can stand right after a number.
* `Json.ReadsAs` — a text is read as a decimal of some value.

## Main results

* `Json.readsAs_layout` — each layout of digits is read as their decimal.
* `Json.readNumber_magnitudeText` — **a normal number is read back from its text.**
* `Json.readNumber_natText` — **so is an integer that is not too long.**
* `Json.isWritable_of_parse` — a document can be written.
* `Json.isRead_of_parse` — **a document has only such numbers, as far as they are finite.**
-/

namespace ApiTools

namespace Json

/-- What can stand right after a number: nothing that would make the number longer. -/
def EndsNumber (rest : List Char) : Prop :=
  ∀ c, rest.head? = some c → c.isDigit = false ∧ c ∉ ['.', 'e', 'E']

/-- Digits only. -/
def AllDigits (s : List Char) : Prop := ∀ c ∈ s, c.isDigit = true

variable {s digits whole places rest : List Char} {negative : Bool}

/-! ### Runs of digits -/

theorem spanDigits_append (hdigits : AllDigits digits)
    (hrest : ∀ c, rest.head? = some c → c.isDigit = false) :
    spanDigits (digits ++ rest) = (digits, rest) := by
  have hnone : rest.takeWhile Char.isDigit = [] ∧ rest.dropWhile Char.isDigit = rest := by
    cases rest with
    | nil => exact ⟨rfl, rfl⟩
    | cons c rest => simp [hrest c rfl]
  rw [spanDigits, List.span_eq_takeWhile_dropWhile, List.takeWhile_append_of_pos hdigits,
    List.dropWhile_append_of_pos hdigits, hnone.1, hnone.2, List.append_nil]

/-- Digits that do not start with a zero, or a zero alone, are a whole part. -/
theorem readWhole_append (hdigits : AllDigits whole) (hne : whole ≠ [])
    (hzero : whole.head? = some '0' → whole = ['0'])
    (hrest : ∀ c, rest.head? = some c → c.isDigit = false) :
    readWhole (whole ++ rest) = some (whole, rest) := by
  obtain ⟨c, more, rfl⟩ := List.exists_cons_of_ne_nil hne
  by_cases hc : c = '0'
  · subst hc
    rw [List.cons.inj (hzero rfl) |>.2]
    rfl
  · have hspan := spanDigits_append hdigits hrest
    rw [List.cons_append] at hspan ⊢
    rw [readWhole.eq_2 _ (fun s heq => hc (List.cons.inj heq).1), hspan]

theorem readFraction_point (hdigits : AllDigits places) (hne : places ≠ [])
    (hrest : ∀ c, rest.head? = some c → c.isDigit = false) :
    readFraction ('.' :: (places ++ rest)) = (some places, rest) := by
  obtain ⟨c, more, rfl⟩ := List.exists_cons_of_ne_nil hne
  rw [readFraction, spanDigits_append hdigits hrest]

theorem readFraction_none (h : s.head? ≠ some '.') : readFraction s = (none, s) := by
  unfold readFraction
  split
  · exact absurd rfl h
  · rfl

theorem readExponent_none (h : ∀ c, s.head? = some c → c ≠ 'e' ∧ c ≠ 'E') :
    readExponent s = (none, s) := by
  cases s with
  | nil => rfl
  | cons c s =>
    obtain ⟨he, hE⟩ := h c rfl
    simp [readExponent, he, hE]

theorem readExponentDigits_append (hdigits : AllDigits digits) (hne : digits ≠ [])
    (hrest : ∀ c, rest.head? = some c → c.isDigit = false) (below : Bool) :
    readExponentDigits below (digits ++ rest) =
      some (if below then -(digitsValue 0 digits : Int) else digitsValue 0 digits, rest) := by
  obtain ⟨c, more, rfl⟩ := List.exists_cons_of_ne_nil hne
  rw [readExponentDigits, spanDigits_append hdigits hrest]

theorem readExponent_signed (hdigits : AllDigits digits) (hne : digits ≠ [])
    (hrest : ∀ c, rest.head? = some c → c.isDigit = false) (below : Bool) :
    readExponent ('e' :: (if below then '-' else '+') :: (digits ++ rest)) =
      (some (if below then -(digitsValue 0 digits : Int) else digitsValue 0 digits), rest) := by
  cases below <;> simp [readExponent, readExponentDigits_append hdigits hne hrest]

/-! ### The values of digits -/

theorem digitsValue_eq (start : Nat) (digits : List Char) :
    digitsValue start digits = Nat.ofDigitChars 10 digits start := by
  unfold digitsValue Nat.ofDigitChars
  congr 1
  funext n c
  rw [Nat.mul_comm]
  rfl

theorem digitsValue_append (start : Nat) (s t : List Char) :
    digitsValue start (s ++ t) = digitsValue (digitsValue start s) t := List.foldl_append

theorem digitsValue_zeros (start k : Nat) :
    digitsValue start (List.replicate k '0') = start * 10 ^ k := by
  induction k generalizing start with
  | zero => simp [digitsValue]
  | succ k ih =>
    rw [List.replicate_succ, digitsValue, List.foldl_cons, ← digitsValue, ih, pow_succ]
    simp
    ring

theorem allDigits_zeros (k : Nat) : AllDigits (List.replicate k '0') := fun c hc => by
  rw [List.eq_of_mem_replicate hc]
  rfl

theorem allDigits_zero : AllDigits ['0'] := allDigits_zeros 1

/-! ### The digits of naturals -/

theorem toList_toString (n : Nat) : (toString n).toList = Nat.toDigits 10 n := by
  rw [Nat.toString_eq_repr, Nat.repr_eq_ofList_toDigits, String.toList_ofList]

theorem allDigits_toDigits (n : Nat) : AllDigits (Nat.toDigits 10 n) :=
  fun _ hc => Nat.isDigit_of_mem_toDigits (by decide) (by decide) hc

theorem toDigits_ne_nil (n : Nat) : Nat.toDigits 10 n ≠ [] :=
  List.ne_nil_of_length_pos Nat.length_toDigits_pos

theorem digitsValue_toDigits (n : Nat) : digitsValue 0 (Nat.toDigits 10 n) = n := by
  rw [digitsValue_eq, Nat.ofDigitChars_toDigits (by decide) (by decide)]

/-- The digits of a natural start with a zero for zero only. -/
theorem head?_toDigits_ne {n : Nat} (hn : n ≠ 0) : (Nat.toDigits 10 n).head? ≠ some '0' := by
  have hdigit : ∀ d < 10, d ≠ 0 → Nat.digitChar d ≠ '0' := by decide
  induction n using Nat.strongRecOn with
  | ind n ih =>
    rcases Nat.lt_or_ge n 10 with hlt | hge
    · rw [Nat.toDigits_of_lt_base hlt]
      simpa using hdigit n hlt hn
    · rw [Nat.toDigits_of_base_le (by decide) hge,
        List.head?_append_of_ne_nil _ (toDigits_ne_nil _)]
      exact ih (n / 10) (Nat.div_lt_self (by omega) (by decide)) (by omega)

/-! ### Numbers with a point or an exponent -/

theorem readNumber_point (negative : Bool) (hwhole : AllDigits whole) (hne : whole ≠ [])
    (hzero : whole.head? = some '0' → whole = ['0']) (hplaces : AllDigits places)
    (hplacesNe : places ≠ []) (hrest : EndsNumber rest) :
    readNumber negative (whole ++ '.' :: (places ++ rest)) =
      .ok (.double (.ofDecimal negative (digitsValue 0 (whole ++ places)) (-places.length)),
        rest) := by
  have hexponent : readExponent rest = (none, rest) := by
    refine readExponent_none fun c hc => ?_
    have := (hrest c hc).2
    simp only [List.mem_cons, not_or] at this
    exact this.2.imp_right And.left
  rw [readNumber, readWhole_append hwhole hne hzero (by simp)]
  dsimp only
  rw [readFraction_point hplaces hplacesNe fun c hc => (hrest c hc).1]
  dsimp only
  rw [hexponent]
  simp

theorem readNumber_exponent (negative : Bool) {c : Char} (hc : c.isDigit = true)
    (hplaces : AllDigits places) (hdigits : AllDigits digits) (hne : digits ≠ [])
    (hrest : EndsNumber rest) (below : Bool) :
    readNumber negative (c :: ((if places.isEmpty then [] else '.' :: places) ++
        'e' :: (if below then '-' else '+') :: (digits ++ rest))) =
      .ok (.double (.ofDecimal negative (digitsValue 0 (c :: places))
        ((if below then -(digitsValue 0 digits : Int) else digitsValue 0 digits) - places.length)),
        rest) := by
  have hexponent := readExponent_signed hdigits hne (fun d hd => (hrest d hd).1) below
  have hwhole : ∀ {s : List Char}, (∀ d, s.head? = some d → d.isDigit = false) →
      readWhole (c :: s) = some ([c], s) :=
    readWhole_append (fun d hd => List.mem_singleton.mp hd ▸ hc) (by simp) (by simp)
  rw [readNumber]
  cases places with
  | nil =>
    rw [List.isEmpty_nil, if_pos rfl, List.nil_append, hwhole (by simp)]
    dsimp only
    rw [readFraction_none (by simp)]
    dsimp only
    rw [hexponent]
    simp
  | cons d places =>
    rw [List.isEmpty_cons, if_neg (by simp), List.cons_append, hwhole (by simp)]
    dsimp only
    rw [readFraction_point hplaces (by simp) (by simp)]
    dsimp only
    rw [hexponent]
    rfl

/-! ### Layouts -/

/-- The digits of an exponent are two at least. -/
def exponentDigits (n : Nat) : List Char :=
  if (toString n).length < 2 then '0' :: Nat.toDigits 10 n else Nat.toDigits 10 n

theorem toList_exponentDigits (n : Nat) :
    (if (toString n).length < 2 then "0" ++ toString n else toString n).toList =
      exponentDigits n := by
  unfold exponentDigits
  split
  · rw [String.toList_append, toList_toString]
    rfl
  · exact toList_toString n

theorem exponentDigits_spec (n : Nat) :
    AllDigits (exponentDigits n) ∧ exponentDigits n ≠ [] ∧
      digitsValue 0 (exponentDigits n) = n := by
  unfold exponentDigits
  split
  · refine ⟨List.forall_mem_cons.mpr ⟨rfl, allDigits_toDigits n⟩, by simp, ?_⟩
    rw [← List.singleton_append, digitsValue_append]
    exact digitsValue_toDigits n
  · exact ⟨allDigits_toDigits n, toDigits_ne_nil n, digitsValue_toDigits n⟩

theorem toList_point : ".".toList = ['.'] := rfl

variable {c : Char} {point : Int}

/-- A text is read as a decimal of the value of another one, before all that can stand after a
number. -/
def ReadsAs (negative : Bool) (text : String) (d : Decimal) : Prop :=
  ∀ rest, EndsNumber rest → ∃ found : Decimal,
    readNumber negative (text.toList ++ rest) =
      .ok (.double (.ofDecimal negative found.digits found.exponent), rest) ∧
    found.value = d.value

/-- A text of one digit, a fraction and an exponent. -/
theorem readNumber_scientific (hdigits : AllDigits (c :: places)) (hrest : EndsNumber rest) :
    readNumber negative ((String.ofList [c]
        ++ (if places.isEmpty then "" else "." ++ String.ofList places)
        ++ (if point - 1 < 0 then "e-" else "e+")
        ++ (if (toString (point - 1).natAbs).length < 2 then "0" ++ toString (point - 1).natAbs
            else toString (point - 1).natAbs)).toList ++ rest) =
      .ok (.double (.ofDecimal negative (digitsValue 0 (c :: places)) (point - 1 - places.length)),
        rest) := by
  obtain ⟨hall, hne, hvalue⟩ := exponentDigits_spec (point - 1).natAbs
  have hfraction : (if places.isEmpty then "" else "." ++ String.ofList places).toList =
      if places.isEmpty then [] else '.' :: places := by
    split
    · rfl
    · simp only [String.toList_append, String.toList_ofList, toList_point, List.singleton_append]
  have hmark : (if point - 1 < 0 then "e-" else "e+").toList =
      ['e', if decide (point - 1 < 0) = true then '-' else '+'] := by
    simp only [decide_eq_true_eq]
    split <;> rfl
  have hexponent : (if decide (point - 1 < 0) = true then
      -(digitsValue 0 (exponentDigits (point - 1).natAbs) : Int)
      else digitsValue 0 (exponentDigits (point - 1).natAbs)) = point - 1 := by
    rw [hvalue]
    simp only [decide_eq_true_eq]
    split <;> omega
  have hread := readNumber_exponent negative (hdigits c List.mem_cons_self)
    (fun d hd => hdigits d (List.mem_cons_of_mem c hd)) hall hne hrest (decide (point - 1 < 0))
  rw [hexponent] at hread
  rw [← hread]
  congr 1
  rw [String.toList_append, String.toList_append, String.toList_append, String.toList_ofList,
    hfraction, hmark, toList_exponentDigits]
  simp only [List.append_assoc, List.cons_append, List.nil_append]

theorem toList_zeros (n : Nat) : (Double.zeros n).toList = List.replicate n '0' :=
  String.toList_ofList

/-- All digits stand behind the point, after some zeros. -/
theorem readsAs_padded (negative : Bool) (hdigits : AllDigits digits) (hne : digits ≠ [])
    (hpoint : point ≤ 0) :
    ReadsAs negative ("0." ++ Double.zeros (-point).toNat ++ String.ofList digits)
      ⟨digitsValue 0 digits, point - digits.length⟩ := by
  intro rest hrest
  have hplaces : AllDigits (List.replicate (-point).toNat '0' ++ digits) :=
    List.forall_mem_append.mpr ⟨allDigits_zeros _, hdigits⟩
  have hread := readNumber_point negative allDigits_zero (by simp) (fun _ => rfl) hplaces
    (by simp [hne]) hrest
  refine ⟨⟨digitsValue 0 (['0'] ++ (List.replicate (-point).toNat '0' ++ digits)),
    -(List.replicate (-point).toNat '0' ++ digits).length⟩, Eq.trans ?_ hread, ?_⟩
  · have hstart : "0.".toList = ['0', '.'] := rfl
    simp only [String.toList_append, String.toList_ofList, toList_zeros, hstart,
      List.append_assoc, List.cons_append, List.nil_append]
  · -- Zeros in front count for nothing, and each is one more place.
    have hvalue : digitsValue 0 ['0'] = 0 := rfl
    rw [digitsValue_append, digitsValue_append, hvalue, digitsValue_zeros, Nat.zero_mul,
      List.length_append, List.length_replicate]
    congr 2
    push_cast
    omega

/-- All digits stand before the point, and some zeros. -/
theorem readsAs_extended (negative : Bool) (hdigits : AllDigits digits) (hne : digits ≠ [])
    (hzero : digits.head? ≠ some '0') (hpoint : (digits.length : Int) ≤ point) :
    ReadsAs negative (String.ofList digits ++ Double.zeros (point - digits.length).toNat ++ ".0")
      ⟨digitsValue 0 digits, point - digits.length⟩ := by
  intro rest hrest
  have hwhole : AllDigits (digits ++ List.replicate (point - digits.length).toNat '0') :=
    List.forall_mem_append.mpr ⟨hdigits, allDigits_zeros _⟩
  have hread := readNumber_point negative hwhole (by simp [hne])
    (fun h => absurd h (by rwa [List.head?_append_of_ne_nil _ hne])) allDigits_zero
    (by simp) hrest
  refine ⟨⟨digitsValue 0 (digits ++ List.replicate (point - digits.length).toNat '0' ++ ['0']),
    -1⟩, Eq.trans ?_ hread, ?_⟩
  · have hend : ".0".toList = ['.', '0'] := rfl
    simp only [String.toList_append, String.toList_ofList, toList_zeros, hend, List.append_assoc,
      List.cons_append, List.nil_append]
  · -- The decimal that is read has other digits: only its value is the same.
    obtain ⟨k, hk⟩ : ∃ k : Nat, point - digits.length = k :=
      ⟨(point - digits.length).toNat, by omega⟩
    have hlast : ∀ n, digitsValue n ['0'] = n * 10 := fun n => rfl
    rw [digitsValue_append, digitsValue_append, digitsValue_zeros, hlast, hk, Int.toNat_natCast,
      Decimal.value, Decimal.value, zpow_natCast]
    push_cast
    field_simp

/-- The point stands among the digits. -/
theorem readsAs_parted (negative : Bool) (hdigits : AllDigits digits) (hne : digits ≠ [])
    (hzero : digits.head? ≠ some '0') (hpos : 0 < point) (hpoint : point < digits.length) :
    ReadsAs negative
      (String.ofList (digits.take point.toNat) ++ "." ++ String.ofList (digits.drop point.toNat))
      ⟨digitsValue 0 digits, point - digits.length⟩ := by
  intro rest hrest
  have htake : digits.take point.toNat ≠ [] := by
    rw [Ne, List.take_eq_nil_iff, not_or]
    exact ⟨by omega, hne⟩
  have hdrop : digits.drop point.toNat ≠ [] := by
    rw [Ne, List.drop_eq_nil_iff]
    omega
  have hhead : (digits.take point.toNat).head? ≠ some '0' := by
    rwa [List.head?_take, if_neg (by omega)]
  have hwhole : AllDigits (digits.take point.toNat) :=
    fun c hc => hdigits c (List.mem_of_mem_take hc)
  have hplaces : AllDigits (digits.drop point.toNat) :=
    fun c hc => hdigits c (List.mem_of_mem_drop hc)
  have hread := readNumber_point negative hwhole htake (fun h => absurd h hhead) hplaces hdrop
    hrest
  rw [List.take_append_drop] at hread
  refine ⟨⟨digitsValue 0 digits, -(digits.drop point.toNat).length⟩, Eq.trans ?_ hread, ?_⟩
  · simp only [String.toList_append, String.toList_ofList, toList_point, List.append_assoc,
      List.cons_append, List.nil_append]
  · rw [List.length_drop]
    congr 2
    omega

/-- **Each layout of digits is read as the decimal that they make.** -/
theorem readsAs_layout (negative : Bool) (hdigits : AllDigits digits) (hne : digits ≠ [])
    (hzero : digits.head? ≠ some '0') (point : Int) :
    ReadsAs negative (Double.layout digits point)
      ⟨digitsValue 0 digits, point - digits.length⟩ := by
  unfold Double.layout
  dsimp only
  by_cases hfar : 16 < point ∨ point < -3
  · -- One digit, the others behind the point, and an exponent.
    obtain ⟨c, places, rfl⟩ := List.exists_cons_of_ne_nil hne
    intro rest hrest
    refine ⟨⟨digitsValue 0 (c :: places), point - 1 - places.length⟩, ?_, ?_⟩
    · rw [if_pos hfar, List.take_succ_cons, List.take_zero, List.drop_succ_cons, List.drop_zero]
      exact readNumber_scientific hdigits hrest
    · rw [List.length_cons]
      congr 2
      push_cast
      ring
  rw [if_neg hfar]
  by_cases hsmall : point ≤ 0
  · rw [if_pos hsmall]
    exact readsAs_padded negative hdigits hne hsmall
  rw [if_neg hsmall]
  by_cases hlarge : (digits.length : Int) ≤ point
  · rw [if_pos hlarge]
    exact readsAs_extended negative hdigits hne hzero hlarge
  · rw [if_neg hlarge]
    exact readsAs_parted negative hdigits hne hzero (Int.not_le.mp hsmall) (Int.not_le.mp hlarge)

/-! ### Numbers -/

/-- **A normal number is read back from its text.** -/
theorem readNumber_magnitudeText {m : Nat} {e : Int} (h : Double.Normal m e)
    (hrest : EndsNumber rest) :
    readNumber negative ((Double.magnitudeText m e).toList ++ rest) =
      .ok (.double (.finite negative m e), rest) := by
  unfold Double.magnitudeText
  split_ifs with hm
  · have hexponent : e = Double.leastExponent := by
      refine h.full.resolve_left fun hfull => ?_
      rw [hm] at hfull
      exact absurd hfull (by decide)
    have hread := readNumber_point negative allDigits_zero (by simp) (fun _ => rfl)
      allDigits_zero (by simp) hrest
    rw [hm, hexponent]
    exact hread
  · have hvalue := Decimal.roundsTo_shortest hm e
    generalize Decimal.shortest m e = d at hvalue
    have hdigits : d.digits ≠ 0 := by
      intro hzero
      have hpos := hvalue.pos hm
      rw [Decimal.value, hzero] at hpos
      simp at hpos
    dsimp only
    rw [toList_toString]
    obtain ⟨found, hread, hfound⟩ := readsAs_layout negative
      (allDigits_toDigits d.digits) (toDigits_ne_nil _) (head?_toDigits_ne hdigits)
      ((Nat.toDigits 10 d.digits).length + d.exponent) rest hrest
    rw [digitsValue_toDigits, add_sub_cancel_left] at hfound
    have hrounds : Double.RoundsTo m e found.value := hfound ▸ hvalue
    rw [hread, Double.ofDecimal_eq negative h hm hrounds]

/-- **So is an integer that is not too long.** -/
theorem readNumber_natText {n : Nat} (hn : n < Double.tenTo Text.maxDigits)
    (hrest : EndsNumber rest) :
    readNumber negative ((toString n).toList ++ rest) =
      .ok (.int (if negative then -n else n), rest) := by
  have hzero : (Nat.toDigits 10 n).head? = some '0' → Nat.toDigits 10 n = ['0'] := by
    intro hhead
    by_cases h : n = 0
    · rw [h]
      rfl
    · exact absurd hhead (head?_toDigits_ne h)
  have hlength : (Nat.toDigits 10 n).length ≤ Text.maxDigits := by
    have hpos : 0 < Text.maxDigits := by decide
    generalize Text.maxDigits = most at hn hpos ⊢
    exact (Nat.length_toDigits_le_iff (by decide) hpos).mpr hn
  have hmarks : ∀ c, rest.head? = some c → c ≠ '.' ∧ c ≠ 'e' ∧ c ≠ 'E' := fun c hc => by
    simpa using (hrest c hc).2
  rw [toList_toString, readNumber, readWhole_append (allDigits_toDigits n) (toDigits_ne_nil n) hzero
    fun c hc => (hrest c hc).1]
  dsimp only
  rw [readFraction_none fun hc => (hmarks _ hc).1 rfl]
  dsimp only
  rw [readExponent_none fun c hc => (hmarks c hc).2]
  dsimp only
  rw [if_neg (Nat.not_lt.mpr hlength), digitsValue_toDigits]

/-! ### Numbers that are read -/

theorem digitsValue_lt (hdigits : AllDigits digits) (start : Nat) :
    digitsValue start digits < (start + 1) * 10 ^ digits.length := by
  have hdigit : ∀ c : Char, c.isDigit = true → c.toNat - 48 < 10 := by
    intro c hc
    have : c.toNat ≤ 57 := (Char.isDigit_iff_toNat.mp hc).2
    omega
  induction digits generalizing start with
  | nil => simp [digitsValue]
  | cons c digits ih =>
    obtain ⟨hc, hdigits⟩ := List.forall_mem_cons.mp hdigits
    have hstep := ih hdigits (start * 10 + (c.toNat - 48))
    have hle : start * 10 + (c.toNat - 48) + 1 ≤ (start + 1) * 10 := by
      have := hdigit c hc
      omega
    calc digitsValue start (c :: digits)
        = digitsValue (start * 10 + (c.toNat - 48)) digits := rfl
      _ < (start * 10 + (c.toNat - 48) + 1) * 10 ^ digits.length := hstep
      _ ≤ (start + 1) * 10 * 10 ^ digits.length := Nat.mul_le_mul_right _ hle
      _ = (start + 1) * 10 ^ (c :: digits).length := by
        rw [List.length_cons, pow_succ]
        ring

theorem allDigits_of_readWhole (h : readWhole s = some (whole, rest)) : AllDigits whole := by
  unfold readWhole at h
  split at h
  · cases h
    simp [AllDigits]
  · have hspan : spanDigits s = (s.takeWhile Char.isDigit, s.dropWhile Char.isDigit) :=
      List.span_eq_takeWhile_dropWhile _ _
    rw [hspan] at h
    split at h
    · cases h
    · obtain rfl := congrArg Prod.fst (Option.some.inj h)
      exact List.all_eq_true.mp List.all_takeWhile

/-- An integer that is read is not too long. -/
theorem fits_of_readNumber {v : Value} (h : readNumber negative s = .ok (v, rest)) :
    v.fits = true := by
  unfold readNumber at h
  split at h
  · cases h
  · next whole rest' hwhole =>
    dsimp only at h
    split at h
    · split at h
      · cases h
      · next hlength =>
        cases h
        have hlt := digitsValue_lt (allDigits_of_readWhole hwhole) 0
        have hpow : 10 ^ whole.length ≤ Double.tenTo Text.maxDigits := by
          generalize Text.maxDigits = most at hlength ⊢
          exact Nat.pow_le_pow_right (by decide) (Nat.not_lt.mp hlength)
        rw [Value.fits, Value.scalarFits, decide_eq_true_eq]
        split <;> omega
    · cases h
      rfl

/-- An integer that is read is not too long, and another number is normal, if it is finite. -/
theorem isRead_of_readNumber {v : Value} (h : readNumber negative s = .ok (v, rest)) :
    v.IsRead := by
  have hfits := fits_of_readNumber h
  unfold readNumber at h
  split at h
  · cases h
  · dsimp only at h
    split at h
    · split at h <;> cases h
      exact Value.isRead_scalar rfl fun _ => hfits
    · cases h
      refine Value.isRead_scalar rfl fun hfinite => ?_
      rw [Scalar.IsExact]
      revert hfinite
      generalize hd : Double.ofDecimal _ _ _ = d
      intro hfinite
      cases d with
      | nan | infinite => cases hfinite
      | finite t m e => exact Double.normal_ofDecimal hd

/-- **A document read from JSON can be written.** -/
theorem isWritable_of_parse {text : String} {v : Value} (h : parse text = .ok v) : v.IsWritable := by
  refine ⟨isJson_parse h, of_parse (P := fun v => v.fits = true) ?_ h⟩
  exact
    { name := by
        intro s v rest h
        have hmem := mem_of_readName h
        simp only [List.mem_cons, List.not_mem_nil, or_false] at hmem
        rcases hmem with rfl | rfl | rfl | rfl | rfl | rfl <;> rfl
      number := fits_of_readNumber
      text := fun _ => rfl
      list := Value.fits_list.mpr
      map := fun _ htexts => (Value.fits_map_of_texts htexts).mpr }

/-- **A document read from JSON is exact as far as its numbers are finite.** -/
theorem isRead_of_parse {text : String} {v : Value} (h : parse text = .ok v) : v.IsRead := by
  refine of_parse (P := Value.IsRead) ?_ h
  exact
    { name := by
        intro s v rest h
        have hmem := mem_of_readName h
        simp only [List.mem_cons, List.not_mem_nil, or_false] at hmem
        rcases hmem with rfl | rfl | rfl | rfl | rfl | rfl
        all_goals first | exact Value.isRead_scalar rfl fun _ => trivial
                        | exact Value.isRead_scalar rfl nofun
      number := isRead_of_readNumber
      text := Value.recordable_isRead.text
      list := Value.isRead_list.mpr
      map := fun hdistinct htexts hvalues => Value.isRead_map.mpr ⟨hdistinct, htexts, hvalues⟩ }

/-- **A document read from JSON is exact**, if its numbers are finite. -/
theorem isExact_of_parse {text : String} {v : Value} (h : parse text = .ok v)
    (hfinite : isFinite v = true) : v.IsExact :=
  (isRead_of_parse h).isExact_iff.mpr hfinite

end Json

end ApiTools
