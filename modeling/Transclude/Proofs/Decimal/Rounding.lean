import Mathlib
import Transclude.Decimal.Binary64

namespace Transclude.Decimal

/-- The difference of the logarithms is at most one off. -/
theorem log2_sub_spec {num den : Nat} (top : num ≠ 0) (bottom : den ≠ 0) :
    (2 : ℚ) ^ ((num.log2 : ℤ) - den.log2 - 1) ≤ num / den ∧
      (num / den : ℚ) < 2 ^ ((num.log2 : ℤ) - den.log2 + 1) := by
  have positive : (0 : ℚ) < den := by positivity
  have numLow : (2 : ℚ) ^ (num.log2 : ℤ) ≤ num := by exact_mod_cast Nat.log2_self_le top
  have numHigh : (num : ℚ) < 2 ^ (num.log2 + 1 : ℤ) := by exact_mod_cast Nat.lt_log2_self (n := num)
  have denLow : (2 : ℚ) ^ (den.log2 : ℤ) ≤ den := by exact_mod_cast Nat.log2_self_le bottom
  have denHigh : (den : ℚ) < 2 ^ (den.log2 + 1 : ℤ) := by exact_mod_cast Nat.lt_log2_self (n := den)
  constructor
  · rw [le_div_iff₀ positive]
    calc (2 : ℚ) ^ ((num.log2 : ℤ) - den.log2 - 1) * den
        ≤ 2 ^ ((num.log2 : ℤ) - den.log2 - 1) * 2 ^ (den.log2 + 1 : ℤ) := by gcongr
      _ = 2 ^ (num.log2 : ℤ) := by rw [← zpow_add₀ two_ne_zero]; congr 1; omega
      _ ≤ num := numLow
  · rw [div_lt_iff₀ positive]
    calc (num : ℚ) < 2 ^ (num.log2 + 1 : ℤ) := numHigh
      _ = 2 ^ ((num.log2 : ℤ) - den.log2 + 1) * 2 ^ (den.log2 : ℤ) := by
        rw [← zpow_add₀ two_ne_zero]; congr 1; omega
      _ ≤ 2 ^ ((num.log2 : ℤ) - den.log2 + 1) * den := by gcongr

/-- A fraction is compared with a power of two in whole numbers. -/
theorem two_zpow_le_div_iff {num den : Nat} (bottom : den ≠ 0) (exponent : ℤ) :
    (2 : ℚ) ^ exponent ≤ num / den ↔
      if 0 ≤ exponent then den * Nat.pow 2 exponent.toNat ≤ num
      else den ≤ num * Nat.pow 2 (-exponent).toNat := by
  have positive : (0 : ℚ) < den := by positivity
  rw [le_div_iff₀ positive]
  split
  · next whole =>
    obtain ⟨n, rfl⟩ := Int.eq_ofNat_of_zero_le whole
    rw [mul_comm]
    exact_mod_cast Iff.rfl
  · next proper =>
    obtain ⟨n, rfl⟩ : ∃ n : ℕ, exponent = -n := ⟨(-exponent).toNat, by omega⟩
    rw [zpow_neg, inv_mul_le_iff₀ (by positivity), mul_comm]
    simp only [neg_neg, Int.toNat_natCast, zpow_natCast]
    exact_mod_cast Iff.rfl

/-- The exponent of the greatest power of two that is not above a fraction. -/
theorem log2Floor_spec {num den : Nat} (top : num ≠ 0) (bottom : den ≠ 0) :
    (2 : ℚ) ^ log2Floor num den ≤ num / den ∧ (num / den : ℚ) < 2 ^ (log2Floor num den + 1) := by
  obtain ⟨below, above⟩ := log2_sub_spec top bottom
  have reached := @two_zpow_le_div_iff num den bottom
  unfold log2Floor
  dsimp only
  generalize (num.log2 : ℤ) - den.log2 = guess at above below ⊢
  by_cases found : (2 : ℚ) ^ guess ≤ num / den
  · rw [if_pos ((reached guess).1 found)]
    exact ⟨found, above⟩
  · rw [if_neg (mt (reached guess).2 found), sub_add_cancel]
    exact ⟨below, not_le.1 found⟩

/-- The whole number that is nearest to a fraction; of two equally near ones it is the even one. -/
theorem roundDiv_spec (num : Nat) {den : Nat} (bottom : den ≠ 0) :
    |(num / den : ℚ) - roundDiv num den| ≤ 1 / 2 ∧
      (|(num / den : ℚ) - roundDiv num den| = 1 / 2 → roundDiv num den % 2 = 0) := by
  have positive : (0 : ℚ) < den := by positivity
  have split : (num / den : ℚ) = (num / den : ℕ) + (num % den : ℕ) / den := by
    field_simp
    exact_mod_cast (Nat.div_add_mod num den).symm
  have nonneg : 0 ≤ ((num % den : ℕ) / den : ℚ) := by positivity
  have proper : ((num % den : ℕ) / den : ℚ) < 1 := by
    rw [div_lt_one positive]
    exact_mod_cast Nat.mod_lt num (Nat.pos_of_ne_zero bottom)
  have low : 2 * (num % den) < den ↔ ((num % den : ℕ) / den : ℚ) < 1 / 2 := by
    rw [div_lt_div_iff₀ positive two_pos, one_mul, mul_comm]
    exact_mod_cast Iff.rfl
  have high : den < 2 * (num % den) ↔ 1 / 2 < ((num % den : ℕ) / den : ℚ) := by
    rw [div_lt_div_iff₀ two_pos positive, one_mul, mul_comm]
    exact_mod_cast Iff.rfl
  rw [split, roundDiv]
  simp only [low, high]
  generalize ((num % den : ℕ) / den : ℚ) = rest at *
  by_cases less : rest < 1 / 2
  · rw [if_pos less, add_sub_cancel_left, abs_of_nonneg nonneg]
    exact ⟨less.le, fun half => absurd half less.ne⟩
  · by_cases more : 1 / 2 < rest
    · have distance : ((num / den : ℕ) + rest - (num / den + 1 : ℕ) : ℚ) = -(1 - rest) := by
        push_cast; ring
      rw [if_neg less, if_pos more, distance, abs_neg, abs_of_nonneg (by linarith)]
      exact ⟨by linarith, fun half => absurd half (by linarith)⟩
    · obtain rfl : rest = 1 / 2 := le_antisymm (not_lt.1 more) (not_lt.1 less)
      rw [if_neg less, if_neg more]
      rcases Nat.mod_two_eq_zero_or_one (num / den) with even | odd
      · simp [even]
      · rw [odd]
        have distance : ((num / den : ℕ) + 1 / 2 - (num / den + 1 : ℕ) : ℚ) = -(1 / 2) := by
          push_cast; ring
        rw [distance, abs_neg, abs_of_nonneg (by norm_num)]
        exact ⟨le_rfl, fun _ => by omega⟩

/-- A multiple of a power of two that is nearest to a number, on the grid of the floats around it. The grid
is the coarsest one on which the number has 53 binary digits, unless that is finer than any float. -/
structure Grid (q : ℚ) (exponent : ℤ) (significand : ℕ) : Prop where
  lowest : -1074 ≤ exponent
  near : |q - significand * 2 ^ exponent| ≤ 1 / 2 * 2 ^ exponent
  even : |q - significand * 2 ^ exponent| = 1 / 2 * 2 ^ exponent → significand % 2 = 0
  below : q < 2 ^ (exponent + 53)
  least : exponent = -1074 ∨ (2 : ℚ) ^ (exponent + 52) ≤ q

theorem grid_of_scaled {q : ℚ} {num den : ℕ} {exponent : ℤ} (bottom : den ≠ 0)
    (scaled : q = num / den * 2 ^ exponent) (lowest : -1074 ≤ exponent)
    (below : q < 2 ^ (exponent + 53)) (least : exponent = -1074 ∨ (2 : ℚ) ^ (exponent + 52) ≤ q) :
    Grid q exponent (roundDiv num den) := by
  obtain ⟨near, even⟩ := roundDiv_spec num bottom
  have unit : (0 : ℚ) < 2 ^ exponent := by positivity
  have distance : |q - roundDiv num den * 2 ^ exponent| =
      |(num / den : ℚ) - roundDiv num den| * 2 ^ exponent := by
    rw [scaled, ← sub_mul, abs_mul, abs_of_pos unit]
  refine ⟨lowest, ?_, ?_, below, least⟩
  · rw [distance]
    gcongr
  · rw [distance]
    exact fun tie => even (mul_right_cancel₀ unit.ne' tie)

/-- The bits of the float nearest to a fraction are those of the significand on its grid, or those of
infinity if it is too great. -/
theorem exists_grid (num : ℕ) {den : ℕ} (bottom : den ≠ 0) :
    ∃ exponent significand, Grid (num / den) exponent significand ∧
      nearestBits num den =
        min ((exponent + 1074).toNat * 2 ^ 52 + significand) (2047 * 2 ^ 52) := by
  by_cases top : num = 0
  · subst top
    refine ⟨-1074, 0, ?_, by simp [nearestBits]⟩
    exact @grid_of_scaled _ 0 _ _ one_ne_zero (by simp) le_rfl (by norm_num) (.inl rfl)
  obtain ⟨low, high⟩ := log2Floor_spec top bottom
  rw [nearestBits, if_neg top]
  generalize log2Floor num den = log at low high ⊢
  obtain ⟨exponent, chosen⟩ : ∃ exponent, max (log - 52) (-1074) = exponent := ⟨_, rfl⟩
  have below : (num / den : ℚ) < 2 ^ (exponent + 53) := by
    refine high.trans_le (zpow_le_zpow_right₀ one_le_two ?_)
    omega
  have least : exponent = -1074 ∨ (2 : ℚ) ^ (exponent + 52) ≤ num / den := by
    by_cases fine : exponent = -1074
    · exact .inl fine
    · refine .inr (le_trans (zpow_le_zpow_right₀ one_le_two ?_) low)
      omega
  simp only [chosen]
  by_cases whole : 0 ≤ exponent
  · obtain ⟨n, rfl⟩ := Int.eq_ofNat_of_zero_le whole
    refine ⟨n, roundDiv num (den * 2 ^ n), grid_of_scaled (by positivity) ?_ (by omega) below least, ?_⟩
    · push_cast
      rw [zpow_natCast]
      field_simp
    · rw [if_pos whole]
      simp only [Int.toNat_natCast, Nat.pow_eq]
  · obtain ⟨n, rfl⟩ : ∃ n : ℕ, exponent = -n := ⟨(-exponent).toNat, by omega⟩
    refine ⟨-n, roundDiv (num * 2 ^ n) den, grid_of_scaled bottom ?_ (by omega) below least, ?_⟩
    · push_cast
      rw [zpow_neg, zpow_natCast]
      field_simp
    · rw [if_neg whole, neg_neg]
      simp only [Int.toNat_natCast, Nat.pow_eq]

namespace Grid

variable {q : ℚ} {exponent : ℤ} {significand : ℕ} (grid : Grid q exponent significand)
include grid

theorem bounds : (significand - 1 / 2) * 2 ^ exponent ≤ q ∧ q ≤ (significand + 1 / 2) * 2 ^ exponent := by
  obtain ⟨low, high⟩ := abs_le.1 grid.near
  constructor <;> linarith

theorem significand_le : significand ≤ 2 ^ 53 := by
  have unit : (0 : ℚ) < 2 ^ exponent := by positivity
  have above := grid.bounds.1.trans_lt grid.below
  rw [zpow_add₀ two_ne_zero, mul_comm (2 ^ exponent)] at above
  have less : (significand : ℚ) - 1 / 2 < 2 ^ (53 : ℤ) := lt_of_mul_lt_mul_right above unit.le
  have whole : (significand : ℚ) < 2 ^ 53 + 1 := by
    norm_num at less
    linarith
  exact Nat.lt_succ_iff.1 (by exact_mod_cast whole)

theorem le_significand (coarse : exponent ≠ -1074) : 2 ^ 52 ≤ significand := by
  have unit : (0 : ℚ) < 2 ^ exponent := by positivity
  have above := (grid.least.resolve_left coarse).trans grid.bounds.2
  rw [zpow_add₀ two_ne_zero, mul_comm (2 ^ exponent)] at above
  have less : (2 : ℚ) ^ (52 : ℤ) ≤ significand + 1 / 2 := le_of_mul_le_mul_right above unit
  have whole : (2 ^ 52 : ℚ) < significand + 1 := by
    norm_num at less
    linarith
  exact Nat.lt_succ_iff.1 (by exact_mod_cast whole)

/-- Another multiple of the unit is farther away, or as far away and then the nearest one is even. -/
theorem nearest_multiple (k : ℤ) :
    |q - significand * 2 ^ exponent| < |q - k * 2 ^ exponent| ∨
      |q - significand * 2 ^ exponent| = |q - k * 2 ^ exponent| ∧
        ((k : ℚ) = significand ∨ significand % 2 = 0) := by
  have unit : (0 : ℚ) < 2 ^ exponent := by positivity
  by_cases same : k = significand
  · exact .inr (by simp [same])
  · have apart : (1 : ℚ) ≤ |(significand : ℚ) - k| := by
      exact_mod_cast Int.one_le_abs (sub_ne_zero.2 (Ne.symm same))
    have unitApart : 2 ^ exponent ≤ |(significand : ℚ) - k| * 2 ^ exponent :=
      le_mul_of_one_le_left unit.le apart
    have triangle : |(significand : ℚ) - k| * 2 ^ exponent ≤
        |q - significand * 2 ^ exponent| + |q - k * 2 ^ exponent| := by
      rw [← abs_of_pos unit, ← abs_mul, abs_of_pos unit]
      calc |((significand : ℚ) - k) * 2 ^ exponent|
          = |(q - k * 2 ^ exponent) - (q - significand * 2 ^ exponent)| := by congr 1; ring
        _ ≤ |q - significand * 2 ^ exponent| + |q - k * 2 ^ exponent| := by
          rw [add_comm]; exact abs_sub _ _
    have near := grid.near
    rcases lt_or_eq_of_le near with less | tie
    · exact .inl (by linarith)
    · rcases lt_or_eq_of_le (show |q - significand * 2 ^ exponent| ≤ |q - k * 2 ^ exponent| by linarith)
        with less | equal
      · exact .inl less
      · exact .inr ⟨equal, .inr (grid.even tie)⟩

/-- No float is nearer. One on a finer grid is below the number, and so is a multiple of the unit that is
nearer than it. -/
theorem nearest_float {m : ℕ} {e : ℤ} (digits : m < 2 ^ 53) (lowest : -1074 ≤ e) :
    |q - significand * 2 ^ exponent| < |q - m * 2 ^ e| ∨
      |q - significand * 2 ^ exponent| = |q - m * 2 ^ e| ∧
        ((m * 2 ^ e : ℚ) = significand * 2 ^ exponent ∨ significand % 2 = 0) := by
  by_cases coarse : exponent ≤ e
  · obtain ⟨n, rfl⟩ : ∃ n : ℕ, e = exponent + n := ⟨(e - exponent).toNat, by omega⟩
    have multiple : (m * 2 ^ (exponent + n) : ℚ) = ((m * 2 ^ n : ℕ) : ℤ) * 2 ^ exponent := by
      rw [zpow_add₀ two_ne_zero, zpow_natCast]; push_cast; ring
    rw [multiple]
    refine (grid.nearest_multiple _).imp_right fun ⟨equal, same⟩ => ⟨equal, same.imp_left fun same => ?_⟩
    rw [same]
  · have first : (2 : ℚ) ^ (exponent + 52) ≤ q := grid.least.resolve_left (by omega)
    have smaller : (m * 2 ^ e : ℚ) < 2 ^ (exponent + 52) := by
      have bound : (m : ℚ) < 2 ^ (53 : ℤ) := by exact_mod_cast digits
      calc (m * 2 ^ e : ℚ) < 2 ^ (53 : ℤ) * 2 ^ e := by gcongr
        _ = 2 ^ (53 + e) := by rw [zpow_add₀ two_ne_zero]
        _ ≤ 2 ^ (exponent + 52) := zpow_le_zpow_right₀ one_le_two (by omega)
    have multiple : (((2 ^ 52 : ℕ) : ℤ) : ℚ) * 2 ^ exponent = 2 ^ (exponent + 52) := by
      rw [zpow_add₀ two_ne_zero, mul_comm]; norm_num
    have near : |q - significand * 2 ^ exponent| ≤ |q - 2 ^ (exponent + 52)| := by
      rw [← multiple]
      exact (grid.nearest_multiple _).elim le_of_lt fun equal => equal.1.le
    rw [abs_of_nonneg (sub_nonneg.2 first)] at near
    rw [abs_of_nonneg (sub_nonneg.2 (smaller.le.trans first))]
    exact .inl (by linarith)

end Grid

end Transclude.Decimal
