import Mathlib
import Transclude.Proofs.Decimal.Rounding

namespace Transclude.Decimal

/-- The bits of every number, infinity included, are kept. -/
theorem toBits_ofBits {u : UInt64} (number : u.toNat % 2 ^ 63 ≤ 2047 * 2 ^ 52) :
    (Float.ofBits u).toBits = u := by
  have plain : @Float.Model.UnpackedFloat.isNaNBits .binary64 u.toBitVec = false := by
    rw [Float.Model.UnpackedFloat.isNaNBits, decide_eq_false_iff_not]
    rintro ⟨full, payload⟩
    rw [Float.Model.UnpackedFloat.unpackExponent_def] at full
    rw [Float.Model.UnpackedFloat.unpackMantissa_def] at payload
    have field := congrArg BitVec.toNat full
    simp [Float.Model.Format.binary64, Nat.shiftRight_eq_div_pow] at field
    have fraction : u.toNat % 2 ^ 52 ≠ 0 := by
      intro zero
      refine payload (BitVec.eq_of_toNat_eq ?_)
      simpa [Float.Model.Format.binary64] using zero
    omega
  have packed := @Float.Model.UnpackedFloat.pack_unpack .binary64 u.toBitVec
  rw [plain] at packed
  exact congrArg UInt64.ofBitVec packed

/-- The float with a sign and the bits of a magnitude. -/
def ofMagnitude (negative : Bool) (bits : ℕ) : Float :=
  Float.ofBits (UInt64.ofNat ((if negative then 2 ^ 63 else 0) + bits))

theorem toNat_toBits_ofMagnitude (negative : Bool) {bits : ℕ} (number : bits ≤ 2047 * 2 ^ 52) :
    (ofMagnitude negative bits).toBits.toNat = (if negative then 2 ^ 63 else 0) + bits := by
  have fits : (UInt64.ofNat ((if negative then 2 ^ 63 else 0) + bits)).toNat =
      (if negative then 2 ^ 63 else 0) + bits := by
    rw [UInt64.toNat_ofNat']
    cases negative <;> simp <;> omega
  rw [ofMagnitude, toBits_ofBits, fits]
  rw [fits]
  cases negative <;> simp <;> omega

theorem decode_infinite (negative : Bool) :
    decode (ofMagnitude negative (2047 * 2 ^ 52)) = .infinite negative := by
  unfold decode
  simp only [toNat_toBits_ofMagnitude negative le_rfl]
  cases negative <;> rfl

/-- A significand is stored without its leading one, unless it is too small to have one. -/
theorem decode_finite (negative : Bool) {field significand : ℕ} (digits : significand < 2 ^ 53)
    (leading : 2 ^ 52 ≤ significand ∨ field = 0) (range : field ≤ 2045) :
    decode (ofMagnitude negative (field * 2 ^ 52 + significand)) =
      .finite negative significand (field - 1074) := by
  have number : field * 2 ^ 52 + significand ≤ 2047 * 2 ^ 52 := by omega
  obtain ⟨sign, low, signed⟩ : ∃ sign, (sign = 0 ∨ sign = 1) ∧
      (if negative then 2 ^ 63 else 0) = sign * 2 ^ 63 ∧ (sign == 1) = negative := by
    cases negative
    · exact ⟨0, .inl rfl, rfl, rfl⟩
    · exact ⟨1, .inr rfl, rfl, rfl⟩
  unfold decode
  simp only [toNat_toBits_ofMagnitude negative number, Nat.pow_eq, signed.1]
  rw [show (sign * 2 ^ 63 + (field * 2 ^ 52 + significand)) / 2 ^ 63 = sign by omega, signed.2]
  rcases Nat.lt_or_ge significand (2 ^ 52) with small | large
  · obtain rfl := leading.resolve_left (by omega)
    rw [if_neg (by omega), if_pos (by omega)]
    congr 1
    omega
  · rw [if_neg (by omega), if_neg (by omega)]
    congr 1 <;> omega

theorem sign_toBits (y : Float) :
    (if y.toBits.toNat / 2 ^ 63 == 1 then 2 ^ 63 else 0) = y.toBits.toNat / 2 ^ 63 * 2 ^ 63 := by
  have bound : y.toBits.toNat < 2 ^ 64 := y.toBits.toNat_lt
  rcases (by omega : y.toBits.toNat / 2 ^ 63 = 0 ∨ y.toBits.toNat / 2 ^ 63 = 1) with zero | one
  · rw [zero]; rfl
  · rw [one]; rfl

theorem toBits_of_infinite {y : Float} {negative : Bool} (infinite : decode y = .infinite negative) :
    y.toBits.toNat = (if negative then 2 ^ 63 else 0) + 2047 * 2 ^ 52 := by
  have bound : y.toBits.toNat < 2 ^ 64 := y.toBits.toNat_lt
  unfold decode at infinite
  simp only [Nat.pow_eq] at infinite
  split at infinite
  · split at infinite
    · cases infinite
      rw [sign_toBits]
      omega
    · cases infinite
  · split at infinite <;> cases infinite

theorem toBits_of_decode {y : Float} {negative : Bool} {m : ℕ} {e : ℤ}
    (finite : decode y = .finite negative m e) :
    m < 2 ^ 53 ∧ ∃ field : ℕ, e = field - 1074 ∧ (2 ^ 52 ≤ m ∨ field = 0) ∧ field ≤ 2045 ∧
      y.toBits.toNat = (if negative then 2 ^ 63 else 0) + (field * 2 ^ 52 + m) := by
  have bound : y.toBits.toNat < 2 ^ 64 := y.toBits.toNat_lt
  unfold decode at finite
  simp only [Nat.pow_eq] at finite
  split at finite
  · split at finite <;> cases finite
  · split at finite
    · cases finite
      refine ⟨by omega, 0, rfl, .inr rfl, by omega, ?_⟩
      rw [sign_toBits]
      omega
    · cases finite
      refine ⟨by omega, y.toBits.toNat / 2 ^ 52 % 2 ^ 11 - 1, by omega, .inl (by omega), by omega, ?_⟩
      rw [sign_toBits]
      omega

/-- The numbers from here on are no nearer to the greatest float than to the next power of two. -/
def overflow : ℚ :=
  (2 ^ 54 - 1) * 2 ^ (970 : ℤ)

theorem overflow_eq (unit : ℤ) (n : ℕ) (shift : 970 + n = unit) :
    overflow = (2 ^ 54 - 1) / 2 ^ n * 2 ^ unit := by
  rw [overflow, ← shift, zpow_add₀ two_ne_zero, zpow_natCast]
  field_simp

theorem overflow_le : overflow ≤ 2 ^ (1024 : ℤ) := by
  rw [overflow_eq 1024 54 rfl]
  exact mul_le_of_le_one_left (by positivity) (by norm_num)

theorem le_overflow : 2 ^ (1023 : ℤ) ≤ overflow := by
  rw [overflow_eq 1023 53 rfl]
  exact le_mul_of_one_le_left (by positivity) (by norm_num)

/-- What a number of a sign is rounded to: no finite float is nearer, and of two equally near ones it is
the even one. A number that is too great is rounded to infinity. -/
inductive Rounds (negative : Bool) (q : ℚ) : Decoded → Prop where
  | finite {m : ℕ} {e : ℤ} (less : q < overflow)
      (nearest : ∀ (y : Float) negative' m' e', decode y = .finite negative' m' e' →
        |q - m * 2 ^ e| < |q - m' * 2 ^ e'| ∨
          |q - m * 2 ^ e| = |q - m' * 2 ^ e'| ∧ ((m' * 2 ^ e' : ℚ) = m * 2 ^ e ∨ m % 2 = 0)) :
      Rounds negative q (.finite negative m e)
  | infinite (overflow : overflow ≤ q) : Rounds negative q (.infinite negative)

namespace Grid

variable {q : ℚ} {exponent : ℤ} {significand : ℕ} (grid : Grid q exponent significand)
include grid

/-- On the coarsest grid of the finite floats a number is less than the threshold exactly if its significand
is not rounded up to the next power of two. -/
theorem lt_overflow_iff_of_coarsest (coarsest : exponent = 971) :
    q < overflow ↔ significand < 2 ^ 53 := by
  subst coarsest
  have unit : (0 : ℚ) < 2 ^ (971 : ℤ) := by positivity
  have threshold : overflow = (2 ^ 53 - 1 / 2) * 2 ^ (971 : ℤ) := by
    rw [overflow_eq 971 1 rfl]
    norm_num
  constructor
  · intro less
    refine Nat.lt_of_le_of_ne grid.significand_le ?_
    rintro rfl
    have above := grid.bounds.1
    rw [Nat.cast_pow, Nat.cast_two, ← threshold] at above
    exact absurd less (not_lt.2 above)
  · intro fits
    have whole : (significand : ℚ) + 1 ≤ 2 ^ 53 := by exact_mod_cast fits
    have most : ((significand : ℚ) + 1 / 2) * 2 ^ (971 : ℤ) ≤ overflow := by
      rw [threshold]
      exact mul_le_mul_of_nonneg_right (by linarith) unit.le
    refine lt_of_le_of_ne (grid.bounds.2.trans most) fun equal => ?_
    -- At the threshold the last float is odd, so that it is not the one chosen.
    have last : (significand : ℚ) + 1 / 2 = 2 ^ 53 - 1 / 2 := by
      refine mul_right_cancel₀ unit.ne' (le_antisymm (most.trans threshold.le) ?_)
      rw [← threshold, ← equal]
      exact grid.bounds.2
    have tie : |q - significand * 2 ^ (971 : ℤ)| = 1 / 2 * 2 ^ (971 : ℤ) := by
      rw [equal, threshold, ← last, ← sub_mul, add_sub_cancel_left, abs_of_pos (by positivity)]
    have even := grid.even tie
    have odd : significand + 1 = 2 ^ 53 := by
      have : (significand : ℚ) + 1 = 2 ^ 53 := by linarith
      exact_mod_cast this
    omega

/-- A number is less than the threshold exactly if its significand fits the finite floats. -/
theorem lt_overflow_iff :
    q < overflow ↔ exponent ≤ 970 ∨ exponent = 971 ∧ significand < 2 ^ 53 := by
  rcases lt_trichotomy exponent 971 with less | coarsest | more
  · refine iff_of_true ?_ (.inl (by omega))
    calc q < 2 ^ (exponent + 53) := grid.below
      _ ≤ 2 ^ (1023 : ℤ) := zpow_le_zpow_right₀ one_le_two (by omega)
      _ ≤ overflow := le_overflow
  · rw [grid.lt_overflow_iff_of_coarsest coarsest]
    omega
  · refine iff_of_false (not_lt.2 ?_) (by omega)
    calc overflow ≤ 2 ^ (1024 : ℤ) := overflow_le
      _ ≤ 2 ^ (exponent + 52) := zpow_le_zpow_right₀ one_le_two (by omega)
      _ ≤ q := grid.least.resolve_left (by omega)

end Grid

/-- A fraction is rounded to the nearest float. -/
theorem rounds_nearest (negative : Bool) (num : ℕ) {den : ℕ} (bottom : den ≠ 0) :
    Rounds negative (num / den) (decode (nearest negative num den)) := by
  obtain ⟨exponent, significand, grid, bits⟩ := exists_grid num bottom
  have most := grid.significand_le
  have lowest := grid.lowest
  have leading : exponent ≠ -1074 → 2 ^ 52 ≤ significand := grid.le_significand
  obtain ⟨field, place⟩ : ∃ field : ℕ, exponent = field - 1074 := ⟨(exponent + 1074).toNat, by omega⟩
  have stored : nearest negative num den =
      ofMagnitude negative (min (field * 2 ^ 52 + significand) (2047 * 2 ^ 52)) := by
    rw [nearest, ofMagnitude, bits, place, show (field - 1074 + 1074 : ℤ).toNat = field by omega]
    rfl
  have small := grid.lt_overflow_iff
  rw [stored]
  by_cases less : (num / den : ℚ) < overflow
  · have fits := small.1 less
    have nearest := fun y negative' m' e' (finite : decode y = .finite negative' m' e') =>
      have ⟨digits, _, floor, _⟩ := toBits_of_decode finite
      grid.nearest_float digits (by omega : -1074 ≤ e')
    rw [min_eq_left (by omega)]
    by_cases full : significand = 2 ^ 53
    · -- The significand is rounded up to a power of two, which is carried into the exponent.
      have carried : field * 2 ^ 52 + significand = (field + 1) * 2 ^ 52 + 2 ^ 52 := by omega
      rw [carried, decode_finite negative (by omega) (.inl le_rfl) (by omega)]
      have value : (((2 ^ 52 : ℕ) : ℚ) * 2 ^ (((field + 1 : ℕ) : ℤ) - 1074)) =
          significand * 2 ^ exponent := by
        rw [full, place, Nat.cast_succ, add_sub_right_comm, zpow_add_one₀ two_ne_zero]
        push_cast
        ring
      refine .finite less fun y negative' m' e' finite => ?_
      rw [value]
      exact (nearest y negative' m' e' finite).imp_right fun ⟨equal, same⟩ =>
        ⟨equal, same.imp_right fun _ => by norm_num⟩
    · rw [decode_finite negative (by omega) (by omega) (by omega)]
      exact .finite less fun y negative' m' e' finite => place ▸ nearest y negative' m' e' finite
  · have fits := mt small.2 less
    rw [min_eq_right (by omega), decode_infinite]
    exact .infinite (not_lt.1 less)

/-- A greater exponent makes a greater number, whatever the significands are. -/
theorem lt_of_field_lt {m m' field field' : ℕ} (digits : m < 2 ^ 53) (leading : 2 ^ 52 ≤ m')
    (less : field < field') :
    (m * 2 ^ (field - 1074 : ℤ) : ℚ) < m' * 2 ^ (field' - 1074 : ℤ) := by
  have small : (m : ℚ) < 2 ^ 53 := by exact_mod_cast digits
  have large : (2 ^ 52 : ℚ) ≤ m' := by exact_mod_cast leading
  have next : (2 : ℚ) ^ (field - 1074 + 1 : ℤ) ≤ 2 ^ (field' - 1074 : ℤ) :=
    zpow_le_zpow_right₀ one_le_two (by omega)
  calc (m * 2 ^ (field - 1074 : ℤ) : ℚ) < 2 ^ 53 * 2 ^ (field - 1074 : ℤ) := by gcongr
    _ = 2 ^ 52 * 2 ^ (field - 1074 + 1 : ℤ) := by rw [zpow_add_one₀ two_ne_zero]; ring
    _ ≤ m' * 2 ^ (field' - 1074 : ℤ) := by gcongr

/-- Between two floats with even significands there is a third one. -/
theorem exists_between {x y : Float} {negative negative' : Bool} {m m' : ℕ} {e e' : ℤ}
    (first : decode x = .finite negative m e) (second : decode y = .finite negative' m' e')
    (even : m % 2 = 0) (even' : m' % 2 = 0) (less : (m * 2 ^ e : ℚ) < m' * 2 ^ e') :
    ∃ z k f, decode z = .finite negative k f ∧ (m * 2 ^ e : ℚ) < k * 2 ^ f ∧
      (k * 2 ^ f : ℚ) < m' * 2 ^ e' := by
  obtain ⟨digits, field, rfl, leading, range, -⟩ := toBits_of_decode first
  obtain ⟨digits', field', rfl, -, -, -⟩ := toBits_of_decode second
  have unit : (0 : ℚ) < 2 ^ (field - 1074 : ℤ) := by positivity
  refine ⟨_, m + 1, _, decode_finite negative (by omega) (by omega) range, ?_, ?_⟩
  · gcongr
    exact_mod_cast Nat.lt_succ_self m
  · rcases le_or_gt field field' with fine | coarse
    · obtain ⟨n, rfl⟩ := Nat.exists_eq_add_of_le fine
      have multiple : (m' * 2 ^ ((field + n : ℕ) - 1074 : ℤ) : ℚ) =
          (m' * 2 ^ n : ℕ) * 2 ^ (field - 1074 : ℤ) := by
        rw [show ((field + n : ℕ) - 1074 : ℤ) = (field - 1074) + n by push_cast; ring,
          zpow_add₀ two_ne_zero, zpow_natCast]
        push_cast
        ring
      rw [multiple] at less ⊢
      have steps : m < m' * 2 ^ n := by exact_mod_cast lt_of_mul_lt_mul_right less unit.le
      have odd : m + 1 ≠ m' * 2 ^ n := by
        intro equal
        have := Nat.mul_mod m' (2 ^ n) 2
        rw [even', Nat.zero_mul] at this
        omega
      refine mul_lt_mul_of_pos_right ?_ unit
      exact_mod_cast Nat.lt_of_le_of_ne steps odd
    · exact absurd less (lt_of_field_lt digits' (leading.resolve_right (by omega)) coarse).asymm

theorem abs_lt_of_between {q a b c : ℚ} (same : |q - a| = |q - c|) (low : a < b) (high : b < c) :
    |q - b| < |q - a| := by
  have middle : q - a = -(q - c) :=
    (abs_eq_abs.1 same).resolve_left fun equal => by linarith
  rw [abs_of_nonneg (by linarith : 0 ≤ q - a), abs_lt]
  constructor <;> linarith

/-- A finite float is told by its sign and value. -/
theorem eq_of_value {x y : Float} {negative : Bool} {m m' : ℕ} {e e' : ℤ}
    (first : decode x = .finite negative m e) (second : decode y = .finite negative m' e')
    (same : (m * 2 ^ e : ℚ) = m' * 2 ^ e') : x = y := by
  obtain ⟨digits, field, rfl, leading, -, bits⟩ := toBits_of_decode first
  obtain ⟨digits', field', rfl, leading', -, bits'⟩ := toBits_of_decode second
  rcases lt_trichotomy field field' with less | rfl | less
  · exact absurd same (lt_of_field_lt digits (leading'.resolve_right (by omega)) less).ne
  · have unit : (0 : ℚ) < 2 ^ (field - 1074 : ℤ) := by positivity
    obtain rfl : m = m' := by exact_mod_cast mul_right_cancel₀ unit.ne' same
    exact Float.toBits_inj.1 (UInt64.toNat_inj.1 (bits.trans bits'.symm))
  · exact absurd same (lt_of_field_lt digits' (leading.resolve_right (by omega)) less).ne'

theorem eq_of_rounds_finite {negative : Bool} {q : ℚ} {x y : Float} {m m' : ℕ} {e e' : ℤ}
    (found : decode x = .finite negative m e) (found' : decode y = .finite negative m' e')
    (first : Rounds negative q (.finite negative m e))
    (second : Rounds negative q (.finite negative m' e')) : x = y := by
  obtain ⟨-, nearest⟩ | - := first
  obtain ⟨-, nearest'⟩ | - := second
  have near := nearest y _ _ _ found'
  have near' := nearest' x _ _ _ found
  have distance : |q - m * 2 ^ e| = |q - m' * 2 ^ e'| :=
    le_antisymm (near.elim le_of_lt fun equal => equal.1.le) (near'.elim le_of_lt fun equal => equal.1.le)
  refine eq_of_value found found' ?_
  by_contra apart
  have even := (near.resolve_left distance.not_lt).2.resolve_left (Ne.symm apart)
  have even' := (near'.resolve_left distance.symm.not_lt).2.resolve_left apart
  rcases lt_or_gt_of_ne apart with less | less
  · obtain ⟨z, k, f, between, low, high⟩ := exists_between found found' even even' less
    have nearer := abs_lt_of_between distance low high
    exact (nearest z _ _ _ between).elim nearer.asymm fun equal => nearer.ne equal.1.symm
  · obtain ⟨z, k, f, between, low, high⟩ := exists_between found' found even' even less
    have nearer := abs_lt_of_between distance.symm low high
    exact (nearest' z _ _ _ between).elim nearer.asymm fun equal => nearer.ne equal.1.symm

theorem Rounds.exists_eq_finite {negative : Bool} {q : ℚ} {decoded : Decoded}
    (rounds : Rounds negative q decoded) (less : q < overflow) :
    ∃ m e, decoded = .finite negative m e := by
  cases rounds with
  | finite => exact ⟨_, _, rfl⟩
  | infinite high => exact absurd less (not_lt.2 high)

theorem Rounds.eq_infinite {negative : Bool} {q : ℚ} {decoded : Decoded}
    (rounds : Rounds negative q decoded) (high : overflow ≤ q) : decoded = .infinite negative := by
  cases rounds with
  | finite less => exact absurd less (not_lt.2 high)
  | infinite => rfl

/-- There is one float that a number is rounded to. -/
theorem eq_of_rounds {negative : Bool} {q : ℚ} {x y : Float} (first : Rounds negative q (decode x))
    (second : Rounds negative q (decode y)) : x = y := by
  rcases lt_or_ge q overflow with less | high
  · obtain ⟨m, e, found⟩ := first.exists_eq_finite less
    obtain ⟨m', e', found'⟩ := second.exists_eq_finite less
    exact eq_of_rounds_finite found found' (found ▸ first) (found' ▸ second)
  · have bits := toBits_of_infinite (first.eq_infinite high)
    rw [← toBits_of_infinite (second.eq_infinite high)] at bits
    exact Float.toBits_inj.1 (UInt64.toNat_inj.1 bits)

end Transclude.Decimal
