import ApiTools.Double.Basic
import Mathlib.Algebra.Order.Field.Power
import Mathlib.Algebra.Order.Field.Rat
import Mathlib.Tactic.FieldSimp
import Mathlib.Tactic.Linarith
import Mathlib.Tactic.NormNum
import Mathlib.Tactic.Positivity
import Mathlib.Tactic.Ring

/-!
# Rounding to binary numbers

A positive rational is rounded to `m * 2 ^ e` when it lies in an interval around that number: half
a unit of the mantissa to either side, but only a quarter below a power of two, where the numbers
stand closer.  The ends belong to the interval when the mantissa is even.

## Main definitions

* `Double.Normal` — the mantissa and the exponent of a finite number in the one form it has.
* `Between` — a number lies between two bounds, which may count.
* `Double.RoundsTo` — a rational lies in the interval of a number.

## Main results

* `Double.floorLog_spec` — the power of two below a quotient.
* `Double.ofRatio_eq` — **a quotient in the interval of a normal number is rounded to that number.**
* `Double.normal_ofRatio` — what is rounded to a finite number is rounded to a normal one.
* `Double.ofDecimal_eq` — **so is a decimal**, also where its size is judged by its digits first.
-/

namespace ApiTools

/-- A number lies between two bounds, or is one of them where these count. -/
def Between (closed : Prop) (low high x : ℚ) : Prop :=
  (low < x ∨ low = x ∧ closed) ∧ (x < high ∨ x = high ∧ closed)

theorem Between.le {closed : Prop} {low high x : ℚ} (h : Between closed low high x) :
    low ≤ x ∧ x ≤ high :=
  ⟨h.1.elim le_of_lt fun h => h.1.le, h.2.elim le_of_lt fun h => h.1.le⟩

/-- Bounds and number can be scaled. -/
theorem between_mul_iff {closed : Prop} {low high x c : ℚ} (hc : 0 < c) :
    Between closed (low * c) (high * c) (x * c) ↔ Between closed low high x := by
  simp only [Between, mul_lt_mul_iff_left₀ hc, mul_left_inj' hc.ne']

namespace Double

/-! ### Powers -/

theorem cast_twoTo (n : Nat) : (twoTo n : ℚ) = 2 ^ n := by
  rw [twoTo, Nat.pow_eq]
  norm_cast

theorem cast_tenTo (n : Nat) : (tenTo n : ℚ) = 10 ^ n := by
  rw [tenTo, Nat.pow_eq]
  norm_cast

theorem twoTo_pos (n : Nat) : 0 < twoTo n := Nat.pow_pos (by decide)

theorem tenTo_pos (n : Nat) : 0 < tenTo n := Nat.pow_pos (by decide)

/-- A power with a whole exponent is a quotient of two with natural ones. -/
theorem pow_toNat_div {b : ℚ} (hb : b ≠ 0) (e : Int) :
    b ^ e.toNat / b ^ (-e).toNat = b ^ e := by
  rw [← zpow_natCast, ← zpow_natCast, ← zpow_sub₀ hb]
  congr 1
  omega

theorem twoTo_div (e : Int) : (twoTo e.toNat : ℚ) / twoTo (-e).toNat = 2 ^ e := by
  rw [cast_twoTo, cast_twoTo, pow_toNat_div (by norm_num)]

theorem tenTo_div (e : Int) : (tenTo e.toNat : ℚ) / tenTo (-e).toNat = 10 ^ e := by
  rw [cast_tenTo, cast_tenTo, pow_toNat_div (by norm_num)]

theorem two_zpow_pos (e : Int) : (0 : ℚ) < 2 ^ e := by positivity

theorem two_zpow_le {a b : Int} (h : a ≤ b) : (2 : ℚ) ^ a ≤ 2 ^ b :=
  zpow_le_zpow_right₀ (by norm_num) h

theorem lt_of_two_zpow_lt {a b : Int} (h : (2 : ℚ) ^ a < 2 ^ b) : a < b :=
  (zpow_lt_zpow_iff_right₀ (by norm_num)).mp h

/-! ### Normal numbers and their intervals -/

/-- The mantissa and the exponent of a finite number: the mantissa is full, or the exponent is the
least. -/
structure Normal (m : Nat) (e : Int) : Prop where
  /-- The exponent is not too small. -/
  least : leastExponent ≤ e
  /-- The exponent is not too great. -/
  greatest : e ≤ greatestExponent
  /-- The mantissa has no more than 53 bits. -/
  bits : m < twoTo 53
  /-- It has no fewer, but where the exponent is the least. -/
  full : twoTo 52 ≤ m ∨ e = leastExponent

/-- A finite number in the one form that it has. -/
def IsNormal : Double → Prop
  | .finite _ m e => Normal m e
  | .nan | .infinite _ => False

/-- Whether the numbers below stand closer than those above. -/
def isNarrow (m : Nat) (e : Int) : Bool := m == twoTo 52 && leastExponent < e

/-- How far the interval of a number reaches down, in units of its mantissa. -/
def reach (m : Nat) (e : Int) : ℚ := if isNarrow m e then 1 / 4 else 1 / 2

/-- A rational lies in the interval of the number `m * 2 ^ e`. -/
def RoundsTo (m : Nat) (e : Int) (x : ℚ) : Prop :=
  Between (m % 2 = 0) (m - reach m e) (m + 1 / 2) (x / 2 ^ e)

variable {m : Nat} {e : Int} {x : ℚ}

theorem reach_pos : 0 < reach m e := by
  unfold reach
  split <;> norm_num

theorem reach_le : reach m e ≤ 1 / 2 := by
  unfold reach
  split <;> norm_num

/-- A number is in its own interval. -/
theorem roundsTo_self (m : Nat) (e : Int) : RoundsTo m e (m * 2 ^ e) := by
  have hreach : 0 < reach m e := reach_pos
  rw [RoundsTo, mul_div_cancel_right₀ _ (two_zpow_pos e).ne']
  exact ⟨.inl (by linarith), .inl (by linarith)⟩

/-- The interval reaches half a unit to either side, at most. -/
theorem RoundsTo.bounds (h : RoundsTo m e x) :
    (m - 1 / 2) * 2 ^ e ≤ x ∧ x ≤ (m + 1 / 2) * 2 ^ e := by
  have hunit := two_zpow_pos e
  have hreach : reach m e ≤ 1 / 2 := reach_le
  obtain ⟨hlow, hhigh⟩ := Between.le h
  exact ⟨(le_div_iff₀ hunit).mp (by linarith), (div_le_iff₀ hunit).mp hhigh⟩

theorem RoundsTo.pos (h : RoundsTo m e x) (hm : m ≠ 0) : 0 < x := by
  have hone : (1 : ℚ) ≤ m := by exact_mod_cast Nat.one_le_iff_ne_zero.mpr hm
  exact (mul_pos (by linarith) (two_zpow_pos e)).trans_le h.bounds.1

/-! ### The nearest integer -/

variable {num den n : Nat}

/-- The nearest integer is the quotient, where the remainder is at most half, or the next one. -/
theorem roundDiv_eq_of_remainder {q r : Nat} (hr : r < den)
    (hlow : 2 * n * den ≤ 2 * (den * q + r) + den)
    (hlowTie : 2 * n * den = 2 * (den * q + r) + den → n % 2 = 0)
    (hhigh : 2 * (den * q + r) ≤ 2 * n * den + den)
    (hhighTie : 2 * (den * q + r) = 2 * n * den + den → n % 2 = 0) :
    roundDiv (den * q + r) den = n := by
  have hq : (den * q + r) / den = q := by
    rw [Nat.mul_add_div (Nat.zero_lt_of_lt hr), Nat.div_eq_of_lt hr, Nat.add_zero]
  have hmod : (den * q + r) % den = r := by rw [Nat.mul_add_mod, Nat.mod_eq_of_lt hr]
  have hn : n = q ∨ n = q + 1 := by
    rcases Nat.lt_or_ge n q with hlt | hge
    · have : den * (n + 1) ≤ den * q := Nat.mul_le_mul_left den hlt
      nlinarith
    · rcases Nat.lt_or_ge (q + 1) n with hlt | hle
      · have : den * (q + 2) ≤ den * n := Nat.mul_le_mul_left den hlt
        nlinarith
      · omega
  unfold roundDiv
  rw [hq, hmod]
  have hcomm : q * den = den * q := Nat.mul_comm q den
  rcases hn with rfl | rfl
  · rcases Nat.lt_trichotomy (2 * r) den with hlt | heq | hgt
    · rw [Nat.compare_eq_lt.mpr hlt]
    · rw [Nat.compare_eq_eq.mpr heq]
      dsimp only
      rw [if_pos (hhighTie (by linarith))]
    · nlinarith
  · rcases Nat.lt_trichotomy (2 * r) den with hlt | heq | hgt
    · nlinarith
    · have heven : (q + 1) % 2 = 0 := hlowTie (by linarith)
      rw [Nat.compare_eq_eq.mpr heq]
      dsimp only
      rw [if_neg (by omega)]
    · rw [Nat.compare_eq_gt.mpr hgt]

/-- A quotient halfway around an integer, or at an end if this is even, is rounded to it. -/
theorem roundDiv_eq (hden : 0 < den)
    (h : Between (n % 2 = 0) (n - 1 / 2) (n + 1 / 2) (num / den)) : roundDiv num den = n := by
  have hpos : (0 : ℚ) < den := by exact_mod_cast hden
  have hscaled := (between_mul_iff (mul_pos two_pos hpos)).mpr h
  have hnum : (num / den : ℚ) * (2 * den) = 2 * num := by field_simp
  have hlow : (n - 1 / 2 : ℚ) * (2 * den) = 2 * n * den - den := by ring
  have hhigh : (n + 1 / 2 : ℚ) * (2 * den) = 2 * n * den + den := by ring
  rw [hnum, hlow, hhigh] at hscaled
  obtain ⟨hlower, hupper⟩ := Between.le hscaled
  obtain ⟨hlowTie, hhighTie⟩ := hscaled
  rw [← Nat.div_add_mod num den] at hlower hupper hlowTie hhighTie ⊢
  refine roundDiv_eq_of_remainder (Nat.mod_lt num hden) ?_ (fun heq => ?_) ?_ fun heq => ?_
  · have : (2 * n * den : ℚ) ≤ 2 * (den * (num / den : ℕ) + (num % den : ℕ)) + den := by
      push_cast at hlower
      linarith
    exact_mod_cast this
  · have : (2 * n * den : ℚ) = 2 * (den * (num / den : ℕ) + (num % den : ℕ)) + den := by
      exact_mod_cast heq
    rcases hlowTie with hlt | ⟨-, heven⟩
    · push_cast at hlt
      linarith
    · exact heven
  · have : (2 * (den * (num / den : ℕ) + (num % den : ℕ)) : ℚ) ≤ 2 * n * den + den := by
      push_cast at hupper
      linarith
    exact_mod_cast this
  · have : (2 * (den * (num / den : ℕ) + (num % den : ℕ)) : ℚ) = 2 * n * den + den := by
      exact_mod_cast heq
    rcases hhighTie with hlt | ⟨-, heven⟩
    · push_cast at hlt
      linarith
    · exact heven

theorem roundDiv_cases (num den : Nat) :
    roundDiv num den = num / den ∨ roundDiv num den = num / den + 1 := by
  unfold roundDiv
  dsimp only
  split
  · exact .inl rfl
  · exact .inr rfl
  · split
    · exact .inl rfl
    · exact .inr rfl

/-- An integer at most the quotient is at most the nearest one. -/
theorem le_roundDiv (hden : 0 < den) (h : n * den ≤ num) : n ≤ roundDiv num den := by
  have hle : n ≤ num / den := (Nat.le_div_iff_mul_le hden).mpr h
  rcases roundDiv_cases num den with heq | heq <;> omega

/-- An integer above the quotient is at least the nearest one. -/
theorem roundDiv_le (hden : 0 < den) (h : num < n * den) : roundDiv num den ≤ n := by
  have hlt : num / den < n := (Nat.div_lt_iff_lt_mul hden).mpr h
  rcases roundDiv_cases num den with heq | heq <;> omega

/-! ### The power below a quotient -/

theorem log2_bounds (h : num ≠ 0) :
    (2 : ℚ) ^ (num.log2 : Int) ≤ num ∧ (num : ℚ) < 2 ^ (num.log2 + 1 : Int) := by
  constructor
  · exact_mod_cast Nat.log2_self_le h
  · exact_mod_cast Nat.lt_log2_self

/-- A power of two is compared with a quotient in natural numbers. -/
theorem two_zpow_le_div_iff (hden : 0 < den) (g : Int) :
    (2 : ℚ) ^ g ≤ num / den ↔ den * twoTo g.toNat ≤ num * twoTo (-g).toNat := by
  have hpos : (0 : ℚ) < den := by exact_mod_cast hden
  have hscale : (0 : ℚ) < twoTo (-g).toNat := by exact_mod_cast twoTo_pos _
  rw [← twoTo_div, div_le_div_iff₀ hscale hpos]
  norm_cast
  rw [Nat.mul_comm den]

/-- **The power of two is at most the quotient, and the next one is not.** -/
theorem floorLog_spec (hnum : num ≠ 0) (hden : 0 < den) :
    (2 : ℚ) ^ floorLog num den ≤ num / den ∧ (num / den : ℚ) < 2 ^ (floorLog num den + 1) := by
  have hpos : (0 : ℚ) < den := by exact_mod_cast hden
  obtain ⟨hnumLow, hnumHigh⟩ := log2_bounds hnum
  obtain ⟨hdenLow, hdenHigh⟩ := log2_bounds hden.ne'
  -- The difference of the logarithms is the power, or it is one too much.
  unfold floorLog
  dsimp only
  split
  · next hle =>
    refine ⟨(two_zpow_le_div_iff hden _).mpr hle, (div_lt_iff₀ hpos).mpr ?_⟩
    calc (num : ℚ) < 2 ^ (num.log2 + 1 : Int) := hnumHigh
      _ = 2 ^ ((num.log2 : Int) - den.log2 + 1) * 2 ^ (den.log2 : Int) := by
        rw [← zpow_add₀ (by norm_num)]
        congr 1
        ring
      _ ≤ 2 ^ ((num.log2 : Int) - den.log2 + 1) * den :=
        mul_le_mul_of_nonneg_left hdenLow (two_zpow_pos _).le
  · next hgt =>
    rw [← two_zpow_le_div_iff hden, not_le] at hgt
    refine ⟨(le_div_iff₀ hpos).mpr ?_, by rwa [sub_add_cancel]⟩
    calc (2 : ℚ) ^ ((num.log2 : Int) - den.log2 - 1) * den
        ≤ 2 ^ ((num.log2 : Int) - den.log2 - 1) * 2 ^ (den.log2 + 1 : Int) :=
          mul_le_mul_of_nonneg_left hdenHigh.le (two_zpow_pos _).le
      _ = 2 ^ (num.log2 : Int) := by
        rw [← zpow_add₀ (by norm_num)]
        congr 1
        ring
      _ ≤ num := hnumLow

theorem le_floorLog (hnum : num ≠ 0) (hden : 0 < den) {k : Int} (h : (2 : ℚ) ^ k ≤ num / den) :
    k ≤ floorLog num den :=
  Int.lt_add_one_iff.mp (lt_of_two_zpow_lt (h.trans_lt (floorLog_spec hnum hden).2))

theorem floorLog_lt (hnum : num ≠ 0) (hden : 0 < den) {k : Int} (h : (num / den : ℚ) < 2 ^ k) :
    floorLog num den < k :=
  lt_of_two_zpow_lt ((floorLog_spec hnum hden).1.trans_lt h)

/-! ### Quotients -/

/-- A quotient in units of a power of two, as the rounding takes it. -/
theorem scaled_div (num den : Nat) (e : Int) :
    ((num * twoTo (-e).toNat : Nat) : ℚ) / (den * twoTo e.toNat : Nat) = num / den / 2 ^ e := by
  rw [← twoTo_div]
  push_cast
  rw [div_div_div_eq]

/-- What a quotient is rounded to, when the exponent is known. -/
theorem ofRatio_of_exponent (negative : Bool) (hnum : num ≠ 0) {k : Int}
    (hk : max (floorLog num den - 52) leastExponent = k) :
    ofRatio negative num den =
      let mantissa := roundDiv (num * twoTo (-k).toNat) (den * twoTo k.toNat)
      if mantissa = twoTo 53 then
        if greatestExponent < k + 1 then .infinite negative
        else .finite negative (twoTo 52) (k + 1)
      else if greatestExponent < k then .infinite negative
      else .finite negative mantissa k := by
  unfold ofRatio
  rw [if_neg hnum, hk]
  dsimp only
  split <;> rfl

theorem two_zpow_add_natCast (n : Nat) (e : Int) : (2 : ℚ) ^ (n + e) = twoTo n * 2 ^ e := by
  rw [zpow_add₀ (by norm_num), zpow_natCast, cast_twoTo]

/-- Where the numbers below stand no closer, the exponent of a normal number is found. -/
theorem exponent_eq (hnormal : Normal m e) (hnum : num ≠ 0) (hden : 0 < den)
    (h : RoundsTo m e (num / den)) (hclose : isNarrow m e = true → m * 2 ^ e ≤ (num / den : ℚ)) :
    max (floorLog num den - 52) leastExponent = e := by
  have hunit := two_zpow_pos e
  obtain ⟨hlow, hhigh⟩ := h.bounds
  have hbits : (m + 1 : ℚ) ≤ twoTo 53 := by exact_mod_cast hnormal.bits
  have hupper : floorLog num den < (53 : Nat) + e := by
    refine floorLog_lt hnum hden (hhigh.trans_lt ?_)
    rw [two_zpow_add_natCast]
    exact mul_lt_mul_of_pos_right (by linarith) hunit
  rcases eq_or_ne e leastExponent with rfl | hleast
  · rw [max_eq_right (by omega)]
  · have hfull : twoTo 52 ≤ m := hnormal.full.resolve_right hleast
    have hlower : (52 : Nat) + e ≤ floorLog num den := by
      refine le_floorLog hnum hden ?_
      rw [two_zpow_add_natCast]
      rcases hfull.eq_or_lt with heq | hlt
      · have hnarrow : isNarrow m e = true := by
          have := hnormal.least
          simp only [isNarrow, Bool.and_eq_true, beq_iff_eq, decide_eq_true_eq]
          exact ⟨heq.symm, by omega⟩
        rw [heq]
        exact hclose hnarrow
      · have hnext : (twoTo 52 + 1 : ℚ) ≤ m := by exact_mod_cast hlt
        exact le_trans (mul_le_mul_of_nonneg_right (by linarith) hunit.le) hlow
    have := hnormal.least
    rw [max_eq_left (by omega)]
    omega

/-- Below a power of two the exponent is found one less, and the rounding carries. -/
theorem ofRatio_of_carry (negative : Bool) (hleast : leastExponent < e)
    (hgreatest : e ≤ greatestExponent) (hnum : num ≠ 0) (hden : 0 < den)
    (hlow : (twoTo 52 - 1 / 4 : ℚ) ≤ num / den / 2 ^ e)
    (hhigh : (num / den / 2 ^ e : ℚ) < twoTo 52) :
    ofRatio negative num den = .finite negative (twoTo 52) e := by
  have hunit := two_zpow_pos e
  have hbits : (twoTo 53 : ℚ) = 2 * twoTo 52 := by norm_num [cast_twoTo]
  have hhalf : (twoTo 52 : ℚ) = 2 * twoTo 51 := by norm_num [cast_twoTo]
  have hone : (1 : ℚ) ≤ twoTo 51 := by exact_mod_cast twoTo_pos 51
  have hexponent : max (floorLog num den - 52) leastExponent = e - 1 := by
    have hlower : (51 : Nat) + e ≤ floorLog num den := by
      refine le_floorLog hnum hden ?_
      rw [two_zpow_add_natCast]
      exact (le_div_iff₀ hunit).mp (by linarith)
    have hupper : floorLog num den < (52 : Nat) + e := by
      refine floorLog_lt hnum hden ?_
      rw [two_zpow_add_natCast]
      exact (div_lt_iff₀ hunit).mp hhigh
    rw [max_eq_left (by omega)]
    omega
  have hround : roundDiv (num * twoTo (-(e - 1)).toNat) (den * twoTo (e - 1).toNat) = twoTo 53 := by
    refine roundDiv_eq (Nat.mul_pos hden (twoTo_pos _)) ?_
    have hdouble : (num / den / 2 ^ (e - 1) : ℚ) = 2 * (num / den / 2 ^ e) := by
      rw [zpow_sub_one₀ (by norm_num)]
      field_simp
    rw [scaled_div, hdouble]
    refine ⟨?_, .inl (by linarith)⟩
    rcases hlow.eq_or_lt with heq | hlt
    · exact .inr ⟨by linarith, by decide⟩
    · exact .inl (by linarith)
  rw [ofRatio_of_exponent negative hnum hexponent, hround]
  dsimp only
  rw [if_pos rfl, sub_add_cancel, if_neg (not_lt.mpr hgreatest)]

/-- **A quotient in the interval of a normal number is rounded to that number.** -/
theorem ofRatio_eq (negative : Bool) (hnormal : Normal m e) (hm : m ≠ 0) (hden : 0 < den)
    (h : RoundsTo m e (num / den)) : ofRatio negative num den = .finite negative m e := by
  have hnum : num ≠ 0 := by
    rintro rfl
    have := h.pos hm
    simp at this
  have hlow := h.1
  by_cases hclose : isNarrow m e = true → m * 2 ^ e ≤ (num / den : ℚ)
  · have hround : roundDiv (num * twoTo (-e).toNat) (den * twoTo e.toNat) = m := by
      refine roundDiv_eq (Nat.mul_pos hden (twoTo_pos _)) ?_
      rw [scaled_div]
      refine ⟨?_, h.2⟩
      by_cases hnarrow : isNarrow m e = true
      · have : (m : ℚ) ≤ num / den / 2 ^ e := (le_div_iff₀ (two_zpow_pos e)).mpr (hclose hnarrow)
        exact .inl (by linarith)
      · rwa [reach, if_neg hnarrow] at hlow
    rw [ofRatio_of_exponent negative hnum (exponent_eq hnormal hnum hden h hclose), hround]
    dsimp only
    rw [if_neg hnormal.bits.ne, if_neg (not_lt.mpr hnormal.greatest)]
  · obtain ⟨hnarrow, hbelow⟩ := Classical.not_imp.mp hclose
    rw [reach, if_pos hnarrow] at hlow
    simp only [isNarrow, Bool.and_eq_true, beq_iff_eq, decide_eq_true_eq] at hnarrow
    obtain ⟨rfl, hleast⟩ := hnarrow
    exact ofRatio_of_carry negative hleast hnormal.greatest hnum hden
      (hlow.elim le_of_lt fun h => h.1.le) ((div_lt_iff₀ (two_zpow_pos e)).mpr (not_le.mp hbelow))

/-- The mantissa has no more bits than there are, or it is the next power of two. -/
theorem mantissa_le (hnum : num ≠ 0) (hden : 0 < den) {k : Int}
    (hk : floorLog num den - 52 ≤ k) :
    roundDiv (num * twoTo (-k).toNat) (den * twoTo k.toNat) ≤ twoTo 53 := by
  have hscale : 0 < den * twoTo k.toNat := Nat.mul_pos hden (twoTo_pos _)
  have hcast : (0 : ℚ) < (den * twoTo k.toNat : Nat) := by exact_mod_cast hscale
  have hx : (num / den / 2 ^ k : ℚ) < twoTo 53 := by
    rw [div_lt_iff₀ (two_zpow_pos k), ← two_zpow_add_natCast]
    exact (floorLog_spec hnum hden).2.trans_le (two_zpow_le (by omega))
  rw [← scaled_div, div_lt_iff₀ hcast] at hx
  exact roundDiv_le hscale (by exact_mod_cast hx)

/-- It has no fewer, if the exponent is not raised to the least one. -/
theorem le_mantissa (hnum : num ≠ 0) (hden : 0 < den) {k : Int}
    (hk : k ≤ floorLog num den - 52) :
    twoTo 52 ≤ roundDiv (num * twoTo (-k).toNat) (den * twoTo k.toNat) := by
  have hscale : 0 < den * twoTo k.toNat := Nat.mul_pos hden (twoTo_pos _)
  have hcast : (0 : ℚ) < (den * twoTo k.toNat : Nat) := by exact_mod_cast hscale
  have hx : (twoTo 52 : ℚ) ≤ num / den / 2 ^ k := by
    rw [le_div_iff₀ (two_zpow_pos k), ← two_zpow_add_natCast]
    exact (two_zpow_le (by omega)).trans (floorLog_spec hnum hden).1
  rw [← scaled_div, le_div_iff₀ hcast] at hx
  exact le_roundDiv hscale (by exact_mod_cast hx)

/-- **What is rounded to a finite number is rounded to a normal one.** -/
theorem normal_ofRatio {negative s : Bool} (hden : 0 < den)
    (h : ofRatio negative num den = .finite s m e) : Normal m e := by
  by_cases hnum : num = 0
  · rw [ofRatio, if_pos hnum] at h
    cases h
    exact ⟨le_refl _, by decide, twoTo_pos 53, .inr rfl⟩
  · generalize hk : max (floorLog num den - 52) leastExponent = k
    rw [ofRatio_of_exponent negative hnum hk] at h
    have hbits := mantissa_le hnum hden (hk ▸ le_max_left _ _)
    have hfull : twoTo 52 ≤ roundDiv (num * twoTo (-k).toNat) (den * twoTo k.toNat) ∨
        k = leastExponent := by
      rcases le_or_gt (floorLog num den - 52) leastExponent with hle | hgt
      · exact .inr (by rw [← hk, max_eq_right hle])
      · rw [max_eq_left hgt.le] at hk
        exact .inl (le_mantissa hnum hden hk.ge)
    have hleast : leastExponent ≤ k := hk ▸ le_max_right _ _
    dsimp only at h
    split_ifs at h with hcarry hlarge hlarge
    · -- The next power of two is a full mantissa with the next exponent.
      cases h
      exact ⟨by omega, not_lt.mp hlarge, by decide, .inl (le_refl _)⟩
    · cases h
      exact ⟨hleast, not_lt.mp hlarge, lt_of_le_of_ne hbits hcarry, hfull⟩

/-! ### Decimals -/

/-- A bound that is checked for the remainders holds for all numbers of bits. -/
theorem two_pow_le_ten_pow (n : Nat) : 2 ^ (n + 1) ≤ 10 ^ (n * 31 / 100 + 2) := by
  have hsmall : ∀ r < 100, 2 ^ (r + 1) ≤ 10 ^ (r * 31 / 100 + 2) := by decide
  have hdiv : n * 31 / 100 = 31 * (n / 100) + n % 100 * 31 / 100 := by omega
  calc 2 ^ (n + 1) = (2 ^ 100) ^ (n / 100) * 2 ^ (n % 100 + 1) := by
        rw [← pow_mul, ← pow_add]
        congr 1
        omega
    _ ≤ (10 ^ 31) ^ (n / 100) * 10 ^ (n % 100 * 31 / 100 + 2) :=
        Nat.mul_le_mul (Nat.pow_le_pow_left (by norm_num) _) (hsmall _ (Nat.mod_lt _ (by norm_num)))
    _ = 10 ^ (n * 31 / 100 + 2) := by
        rw [← pow_mul, ← pow_add, hdiv]
        congr 1

theorem ten_pow_le_two_pow (n : Nat) : 10 ^ (n * 3 / 10) ≤ 2 ^ n := by
  have hsmall : ∀ r < 10, 10 ^ (r * 3 / 10) ≤ 2 ^ r := by decide
  have hdiv : n * 3 / 10 = 3 * (n / 10) + n % 10 * 3 / 10 := by omega
  calc 10 ^ (n * 3 / 10) = (10 ^ 3) ^ (n / 10) * 10 ^ (n % 10 * 3 / 10) := by
        rw [← pow_mul, ← pow_add, hdiv]
    _ ≤ (2 ^ 10) ^ (n / 10) * 2 ^ (n % 10) :=
        Nat.mul_le_mul (Nat.pow_le_pow_left (by norm_num) _) (hsmall _ (Nat.mod_lt _ (by norm_num)))
    _ = 2 ^ n := by
        rw [← pow_mul, ← pow_add]
        congr 1
        omega

/-- Half of the least number is not too small. -/
theorem ten_zpow_le_least : (10 : ℚ) ^ (-330 : Int) ≤ 1 / 2 * 2 ^ leastExponent := by
  have hpow : (2 : ℚ) ^ 1075 ≤ 10 ^ 330 := by
    calc (2 : ℚ) ^ 1075 = (2 ^ 43) ^ 25 := by rw [← pow_mul]
      _ ≤ (10 ^ 13) ^ 25 := pow_le_pow_left₀ (by positivity) (by norm_num) 25
      _ = 10 ^ 325 := by rw [← pow_mul]
      _ ≤ 10 ^ 330 := pow_le_pow_right₀ (by norm_num) (by norm_num)
  calc (10 : ℚ) ^ (-330 : Int) = (10 ^ 330)⁻¹ := zpow_neg 10 330
    _ ≤ (2 ^ 1075)⁻¹ := inv_anti₀ (by positivity) hpow
    _ = 1 / 2 * (2 ^ 1074)⁻¹ := by rw [pow_succ, mul_inv, mul_comm, one_div]
    _ = 1 / 2 * 2 ^ leastExponent := by rw [leastExponent, ← zpow_natCast, ← zpow_neg]; rfl

/-- What is above the greatest number is not too large. -/
theorem greatest_lt_ten_zpow : (twoTo 53 * 2 ^ greatestExponent : ℚ) < 10 ^ (311 : Int) := by
  have hpow : (twoTo 53 * 2 ^ 971 : ℚ) < 10 ^ 311 := by
    calc (twoTo 53 * 2 ^ 971 : ℚ) = 2 * (2 ^ 93) ^ 11 := by
          rw [cast_twoTo, ← pow_add, ← pow_mul, ← pow_succ']
      _ ≤ 2 * (10 ^ 28) ^ 11 := by gcongr; norm_num
      _ < 10 ^ 3 * (10 ^ 28) ^ 11 := by gcongr; norm_num
      _ = 10 ^ 311 := by rw [← pow_mul, ← pow_add]
  exact hpow

/-- What is rounded to a normal number is neither too small nor too large. -/
theorem RoundsTo.range (h : RoundsTo m e x) (hnormal : Normal m e) (hm : m ≠ 0) :
    (10 : ℚ) ^ (-330 : Int) ≤ x ∧ x < 10 ^ (311 : Int) := by
  obtain ⟨hlow, hhigh⟩ := h.bounds
  have hone : (1 : ℚ) ≤ m := by exact_mod_cast Nat.one_le_iff_ne_zero.mpr hm
  have hbits : (m + 1 : ℚ) ≤ twoTo 53 := by exact_mod_cast hnormal.bits
  constructor
  · calc (10 : ℚ) ^ (-330 : Int) ≤ 1 / 2 * 2 ^ leastExponent := ten_zpow_le_least
      _ ≤ (m - 1 / 2) * 2 ^ e :=
          mul_le_mul (by linarith) (two_zpow_le hnormal.least) (two_zpow_pos _).le (by linarith)
      _ ≤ x := hlow
  · calc x ≤ (m + 1 / 2) * 2 ^ e := hhigh
      _ ≤ twoTo 53 * 2 ^ greatestExponent :=
          mul_le_mul (by linarith) (two_zpow_le hnormal.greatest) (two_zpow_pos _).le
            (by exact_mod_cast (twoTo_pos 53).le)
      _ < 10 ^ (311 : Int) := greatest_lt_ten_zpow

variable {digits : Nat} {exponent : Int}

theorem ten_zpow_pos (k : Int) : (0 : ℚ) < 10 ^ k := by positivity

theorem lt_of_ten_zpow_lt {a b : Int} (h : (10 : ℚ) ^ a < 10 ^ b) : a < b :=
  (zpow_lt_zpow_iff_right₀ (by norm_num)).mp h

/-- A decimal lies between the powers of ten that the number of its bits gives. -/
theorem decimal_bounds (hdigits : digits ≠ 0) (exponent : Int) :
    (10 : ℚ) ^ (exponent + (digits.log2 * 3 / 10 : Nat)) ≤ digits * 10 ^ exponent ∧
      (digits * 10 ^ exponent : ℚ) < 10 ^ (exponent + (digits.log2 * 31 / 100 + 2 : Nat)) := by
  have hunit := ten_zpow_pos exponent
  have hlow : 10 ^ (digits.log2 * 3 / 10) ≤ digits :=
    (ten_pow_le_two_pow _).trans (Nat.log2_self_le hdigits)
  have hhigh : digits < 10 ^ (digits.log2 * 31 / 100 + 2) :=
    Nat.lt_log2_self.trans_le (two_pow_le_ten_pow _)
  rw [zpow_add₀ (by norm_num), zpow_add₀ (by norm_num), zpow_natCast, zpow_natCast,
    mul_comm (digits : ℚ)]
  constructor
  · exact mul_le_mul_of_nonneg_left (by exact_mod_cast hlow) hunit.le
  · exact mul_lt_mul_of_pos_left (by exact_mod_cast hhigh) hunit

/-- **A decimal in the interval of a normal number is rounded to that number.** -/
theorem ofDecimal_eq (negative : Bool) (hnormal : Normal m e) (hm : m ≠ 0)
    (h : RoundsTo m e (digits * 10 ^ exponent)) :
    ofDecimal negative digits exponent = .finite negative m e := by
  have hdigits : digits ≠ 0 := by
    rintro rfl
    have := h.pos hm
    simp at this
  obtain ⟨hsmall, hlarge⟩ := h.range hnormal hm
  obtain ⟨hlow, hhigh⟩ := decimal_bounds hdigits exponent
  have hnotSmall := lt_of_ten_zpow_lt (hsmall.trans_lt hhigh)
  have hnotLarge := lt_of_ten_zpow_lt (hlow.trans_lt hlarge)
  have hvalue : ((digits * tenTo exponent.toNat : Nat) : ℚ) / (tenTo (-exponent).toNat : Nat) =
      digits * 10 ^ exponent := by
    rw [← tenTo_div]
    push_cast
    ring
  unfold ofDecimal
  rw [if_neg (by omega), if_neg (by omega)]
  refine ofRatio_eq negative hnormal hm (tenTo_pos _) ?_
  rwa [hvalue]

/-- A decimal is rounded to a normal number, if to a finite one. -/
theorem normal_ofDecimal {negative s : Bool}
    (h : ofDecimal negative digits exponent = .finite s m e) : Normal m e := by
  unfold ofDecimal at h
  split_ifs at h
  · cases h
    exact ⟨le_refl _, by decide, twoTo_pos 53, .inr rfl⟩
  · exact normal_ofRatio (tenTo_pos _) h

end Double

end ApiTools
