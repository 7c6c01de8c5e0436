import ApiTools.Double.Notation
import ApiTools.Proofs.Double.Rounding

/-!
# The shortest decimal reads back

Each decimal that the search considers is tested by exact comparison with the ends of the interval,
so what it finds lies in it, and so does the exact value that it falls back to.  Trailing zeros can
go without a change of the value.

## Main definitions

* `Decimal.value` — the rational that a decimal is.

## Main results

* `Decimal.readsBack_iff` — the test says what it should.
* `Decimal.roundsTo_shortest` — **the shortest decimal lies in the interval of its number.**
-/

namespace ApiTools

namespace Decimal

open Double

/-- The rational that a decimal is. -/
def value (d : Decimal) : ℚ := d.digits * 10 ^ d.exponent

/-- The comparison is that of the rationals. -/
theorem compareScaled_iff (a : Nat) (i : Int) (n : Nat) (j : Int) :
    (compareScaled a i n j = .lt ↔ (a * 10 ^ i : ℚ) < n * 2 ^ j) ∧
      (compareScaled a i n j = .eq ↔ (a * 10 ^ i : ℚ) = n * 2 ^ j) ∧
      (compareScaled a i n j = .gt ↔ (n * 2 ^ j : ℚ) < a * 10 ^ i) := by
  have hten : (0 : ℚ) < tenTo (-i).toNat := by exact_mod_cast tenTo_pos _
  have htwo : (0 : ℚ) < twoTo (-j).toNat := by exact_mod_cast twoTo_pos _
  have hleft : (a * 10 ^ i : ℚ) = (a * tenTo i.toNat) / tenTo (-i).toNat := by
    rw [← tenTo_div, mul_div_assoc]
  have hright : (n * 2 ^ j : ℚ) = (n * twoTo j.toNat) / twoTo (-j).toNat := by
    rw [← twoTo_div, mul_div_assoc]
  rw [hleft, hright, div_lt_div_iff₀ hten htwo, div_eq_div_iff hten.ne' htwo.ne',
    div_lt_div_iff₀ htwo hten]
  unfold compareScaled
  rw [Nat.compare_eq_lt, Nat.compare_eq_eq, Nat.compare_eq_gt]
  norm_cast

theorem quarter (e : Int) : (2 : ℚ) ^ e = 4 * 2 ^ (e - 2) := by
  rw [zpow_sub₀ (by norm_num)]
  field_simp
  norm_num

variable {m : Nat} {e : Int} {d : Decimal}

/-- **A decimal reads back when it lies in the interval.** -/
theorem readsBack_iff (hm : m ≠ 0) : readsBack m e d = true ↔ RoundsTo m e d.value := by
  have hlow : ((if isNarrow m e then 4 * m - 1 else 4 * m - 2 : Nat) * 2 ^ (e - 2) : ℚ) =
      (m - reach m e) * 2 ^ e := by
    rw [quarter e]
    unfold reach
    split <;> push_cast [Nat.cast_sub (show 1 ≤ 4 * m by omega),
      Nat.cast_sub (show 2 ≤ 4 * m by omega)] <;> ring
  have hhigh : ((4 * m + 2 : Nat) * 2 ^ (e - 2) : ℚ) = (m + 1 / 2) * 2 ^ e := by
    rw [quarter e]
    push_cast
    ring
  have hx : d.value = d.value / 2 ^ e * 2 ^ e := by
    field_simp
  rw [RoundsTo, ← between_mul_iff (two_zpow_pos e), ← hx, ← hlow, ← hhigh]
  obtain ⟨-, hlowEq, hlowGt⟩ := compareScaled_iff d.digits d.exponent
    (if isNarrow m e then 4 * m - 1 else 4 * m - 2) (e - 2)
  obtain ⟨hhighLt, hhighEq, -⟩ := compareScaled_iff d.digits d.exponent (4 * m + 2) (e - 2)
  unfold readsBack
  dsimp only
  rw [show (m == twoTo 52 && decide (leastExponent < e)) = isNarrow m e from rfl, Bool.and_eq_true,
    Bool.or_eq_true, Bool.or_eq_true, Bool.and_eq_true, Bool.and_eq_true]
  simp only [beq_iff_eq]
  rw [hlowEq, hlowGt, hhighLt, hhighEq, Between, eq_comm (a := _ * (2 : ℚ) ^ (e - 2))]
  rfl

/-- A grid point that is found reads back. -/
theorem readsBack_of_gridPoint {g : Int} (h : gridPoint? m e g = some d) :
    readsBack m e d = true := by
  unfold gridPoint? at h
  dsimp only at h
  split at h
  · next hbelow _ => exact Option.some.inj h ▸ hbelow
  · next _ habove => exact Option.some.inj h ▸ habove
  · cases h
  · next hbelow habove =>
    obtain rfl := Option.some.inj h
    rcases roundDiv_cases (m * twoTo e.toNat * tenTo (-g).toNat)
      (twoTo (-e).toNat * tenTo g.toNat) with heq | heq <;> rw [heq]
    · exact hbelow
    · exact habove

/-- Trailing zeros do not change the value. -/
theorem value_strip (fuel : Nat) (d : Decimal) : (strip fuel d).value = d.value := by
  fun_induction strip fuel d with
  | case1 d => rfl
  | case2 fuel d hzero ih =>
    rw [ih, value, value, zpow_add_one₀ (by norm_num)]
    have hdigits : (d.digits : ℚ) = (d.digits / 10 : Nat) * 10 := by
      exact_mod_cast (Nat.div_mul_cancel (Nat.dvd_of_mod_eq_zero hzero.1)).symm
    rw [hdigits]
    ring
  | case3 fuel d _ => rfl

/-- The decimal that the search falls back to is the number itself. -/
theorem value_exact (m : Nat) (e : Int) :
    (⟨m * twoTo e.toNat * Nat.pow 5 (-e).toNat, min e 0⟩ : Decimal).value = m * 2 ^ e := by
  rw [value]
  rcases le_total 0 e with hnonneg | hneg
  · rw [min_eq_right hnonneg, show (-e).toNat = 0 by omega]
    push_cast [cast_twoTo]
    rw [← zpow_natCast, Int.toNat_of_nonneg hnonneg]
    simp
  · rw [min_eq_left hneg, show e.toNat = 0 by omega]
    obtain ⟨k, rfl⟩ : ∃ k : Nat, e = -k := ⟨(-e).toNat, by omega⟩
    rw [neg_neg, Int.toNat_natCast, zpow_neg, zpow_neg, zpow_natCast, zpow_natCast]
    have hten : (10 : ℚ) ^ k = 5 ^ k * 2 ^ k := by rw [← mul_pow]; norm_num
    rw [hten]
    push_cast [cast_twoTo]
    field_simp
    simp

/-- **The shortest decimal lies in the interval of its number.** -/
theorem roundsTo_shortest (hm : m ≠ 0) (e : Int) : RoundsTo m e (shortest m e).value := by
  unfold shortest
  dsimp only
  rw [value_strip]
  cases hfound : (List.range 17).findSome? fun n : Nat => gridPoint? m e (scale m e - 1 - n) with
  | none =>
    rw [Option.getD_none, value_exact]
    exact roundsTo_self m e
  | some found =>
    obtain ⟨n, -, hpoint⟩ := List.exists_of_findSome?_eq_some hfound
    exact (readsBack_iff hm).mp (readsBack_of_gridPoint hpoint)

end Decimal

end ApiTools
