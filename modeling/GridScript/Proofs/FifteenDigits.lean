import GridScript.Proofs.Rounding
import Mathlib.Tactic.NormNum

/-!
# Fifteen significant digits

Scripts show fifteen digits of a double.  Which digits these are is told by
distances: a rational has the digits of a decimal that is at most half a unit
of the last place away.  Right below a power of ten the unit is ten times
smaller than right above it.
-/

namespace GridScript

/-- Fifteen digits, the first of them at the place of the exponent. -/
def decimal (digits : Nat) (exponent : Int) : ℚ :=
  digits * 10 ^ (exponent - 14)

/-- A positive rational rounded to fifteen significant digits.  Below a power
of ten it may be rounded up to this power. -/
inductive HasDigits (q : ℚ) : Nat → Int → Prop
  | within {digits : Nat} {exponent : Int} (low : 10 ^ 14 ≤ digits)
      (high : digits < 10 ^ 15) (above : 10 ^ exponent ≤ q)
      (rounds : RoundsTo (q * 10 ^ (-(exponent - 14))) digits) :
      HasDigits q digits exponent
  | carried {exponent : Int} (below : q < 10 ^ exponent)
      (rounds : RoundsTo (q * 10 ^ (-(exponent - 15))) (10 ^ 15)) :
      HasDigits q (10 ^ 14) exponent

namespace HasDigits

variable {q : ℚ} {digits : Nat} {exponent : Int}

theorem low (has : HasDigits q digits exponent) : 10 ^ 14 ≤ digits := by
  cases has with
  | within low high above rounds => exact low
  | carried below rounds => exact le_rfl

theorem high (has : HasDigits q digits exponent) : digits < 10 ^ 15 := by
  cases has with
  | within low high above rounds => exact high
  | carried below rounds => norm_num

/-- The power of ten is the least decimal at its exponent, and the first one
behind those at the exponent before. -/
private theorem powers (exponent : Int) :
    (10 : ℚ) ^ exponent = 10 ^ 14 * 10 ^ (exponent - 14) ∧
      (10 : ℚ) ^ (exponent - 14) = 10 * 10 ^ (exponent - 15) ∧
      (0 : ℚ) < 10 ^ (exponent - 15) := by
  refine ⟨?_, ?_, zpow_pos (by norm_num) _⟩
  · rw [← zpow_natCast, ← zpow_add₀ (by norm_num)]
    congr 1
    omega
  · rw [← zpow_one_add₀ (by norm_num)]
    congr 1
    omega

theorem decimal_first (exponent : Int) :
    decimal (10 ^ 14) exponent = 10 ^ exponent := by
  rw [decimal, (powers exponent).1]
  push_cast
  rfl

theorem decimal_carried (exponent : Int) :
    decimal (10 ^ 14) exponent = (10 ^ 15 : Nat) * 10 ^ (exponent - 15) := by
  obtain ⟨_, finer, _⟩ := powers exponent
  rw [decimal, finer]
  push_cast
  ring

/-- Half a unit of the last place. -/
theorem near (has : HasDigits q digits exponent) :
    2 * |q - decimal digits exponent| ≤ 10 ^ (exponent - 14) := by
  obtain ⟨_, finer, pos⟩ := powers exponent
  cases has with
  | within low high above rounds =>
      exact rounds.two_mul_abs_sub_le (by norm_num)
  | carried below rounds =>
      have near := rounds.two_mul_abs_sub_le (by norm_num)
      rw [decimal_carried]
      linarith

/-- The error in proportion. -/
theorem two_mul_abs_sub_le (has : HasDigits q digits exponent) :
    2 * |q - decimal digits exponent| ≤ 10 ^ (-14 : Int) * q := by
  obtain ⟨coarse, finer, pos⟩ := powers exponent
  cases has with
  | within low high above rounds =>
      have near := rounds.two_mul_abs_sub_le (by norm_num)
      rw [coarse] at above
      norm_num at above ⊢
      change 2 * |q - digits * 10 ^ (exponent - 14)| ≤ _
      linarith
  | carried below rounds =>
      have near := rounds.two_mul_abs_sub_le (by norm_num)
      rw [decimal_carried]
      have low := neg_abs_le (q - (10 ^ 15 : Nat) * 10 ^ (exponent - 15))
      norm_num at near low ⊢
      linarith

theorem atLeast (has : HasDigits q digits exponent) :
    (10 ^ 15 - 1 / 2) * 10 ^ (exponent - 15) ≤ q := by
  obtain ⟨coarse, finer, pos⟩ := powers exponent
  cases has with
  | within low high above rounds =>
      rw [coarse, finer] at above
      linarith
  | carried below rounds =>
      have near := rounds.two_mul_abs_sub_le (by norm_num)
      have low := neg_abs_le (q - (10 ^ 15 : Nat) * 10 ^ (exponent - 15))
      norm_num at near low ⊢
      linarith

theorem lt_next (has : HasDigits q digits exponent) :
    q < 10 ^ (exponent + 1) := by
  obtain ⟨coarse, finer, pos⟩ := powers exponent
  rw [zpow_add_one₀ (by norm_num), coarse, finer]
  cases has with
  | within low high above rounds =>
      have near := rounds.two_mul_abs_sub_le (by norm_num)
      have upper := le_abs_self (q - digits * 10 ^ (exponent - 14))
      have high : (digits : ℚ) + 1 ≤ 10 ^ 15 := by exact_mod_cast high
      have scaled := mul_le_mul_of_nonneg_right high pos.le
      rw [finer] at near upper
      linarith
  | carried below rounds =>
      rw [coarse, finer] at below
      linarith

theorem pos (has : HasDigits q digits exponent) : 0 < q :=
  lt_of_lt_of_le (mul_pos (by norm_num) (powers exponent).2.2) has.atLeast

/-- Both the digits and the exponent are determined. -/
theorem eq {otherDigits : Nat} {otherExponent : Int}
    (has : HasDigits q digits exponent)
    (alsoHas : HasDigits q otherDigits otherExponent) :
    digits = otherDigits ∧ exponent = otherExponent := by
  -- The logarithm tells the two exponents and whether there is a carry.
  have log : ∀ {digits exponent}, HasDigits q digits exponent →
      (10 ^ exponent ≤ q → Int.log 10 q = exponent) ∧
      (q < 10 ^ exponent → Int.log 10 q = exponent - 1) := by
    intro digits exponent has
    obtain ⟨coarse, finer, pos⟩ := powers exponent
    refine ⟨fun above => log_eq_of_between (by decide) above has.lt_next,
      fun below => log_eq_of_between (by decide) ?_ ?_⟩
    · have atLeast := has.atLeast
      rw [Nat.cast_ofNat, zpow_sub_one₀ (by norm_num), coarse, finer]
      linarith
    · rw [Int.sub_add_cancel]
      exact below
  have first := log has
  have second := log alsoHas
  cases has with
  | within low high above rounds =>
      have first := first.1 above
      cases alsoHas with
      | within _ _ otherAbove otherRounds =>
          obtain rfl : exponent = otherExponent :=
            first.symm.trans (second.1 otherAbove)
          exact ⟨rounds.eq otherRounds, rfl⟩
      | carried otherBelow otherRounds =>
          have second := second.2 otherBelow
          have same : exponent - 14 = otherExponent - 15 := by omega
          rw [same] at rounds
          exact absurd (rounds.eq otherRounds) high.ne
  | carried below rounds =>
      have first := first.2 below
      cases alsoHas with
      | within _ otherHigh otherAbove otherRounds =>
          have second := second.1 otherAbove
          have same : otherExponent - 14 = exponent - 15 := by omega
          rw [same] at otherRounds
          exact absurd (otherRounds.eq rounds) otherHigh.ne
      | carried otherBelow otherRounds =>
          have second := second.2 otherBelow
          exact ⟨rfl, by omega⟩

/-- What is nearer to the decimal has the same digits.  Only where it comes to
lie on the other side of a power of ten, right below it, it has to be nearer by
a factor of ten. -/
theorem of_nearer {nearer : ℚ} (has : HasDigits q digits exponent)
    (le : |nearer - decimal digits exponent| ≤ |q - decimal digits exponent|)
    (across : digits = 10 ^ 14 → nearer < 10 ^ exponent → 10 ^ exponent ≤ q →
      2 * |nearer - decimal digits exponent| ≤ 10 ^ (exponent - 15)) :
    HasDigits nearer digits exponent := by
  obtain ⟨coarse, finer, pos⟩ := powers exponent
  have near : 2 * |nearer - decimal digits exponent| ≤ 10 ^ (exponent - 14) :=
    le_trans (mul_le_mul_of_nonneg_left le two_pos.le) has.near
  by_cases above : 10 ^ exponent ≤ nearer
  · refine .within has.low has.high above ?_
    cases has with
    | within low high _ rounds => exact rounds.of_nearer (by norm_num) le
    | carried below rounds =>
        exact (roundsTo_zpow_iff (by norm_num)).mpr ⟨near, fun _ => by decide⟩
  · have below : nearer < 10 ^ exponent := not_le.mp above
    have first : digits = 10 ^ 14 := by
      by_contra different
      have low : 10 ^ 14 + 1 ≤ digits := by
        have := has.low
        omega
      have low : (10 : ℚ) ^ 14 + 1 ≤ digits := by exact_mod_cast low
      have scaled := mul_le_mul_of_nonneg_right low pos.le
      have lower := neg_abs_le (nearer - decimal digits exponent)
      rw [coarse, finer] at below
      rw [decimal, finer] at near lower
      linarith
    subst first
    refine .carried below ?_
    cases has with
    | within low high above rounds =>
        have across := across rfl below above
        rw [decimal_carried] at across
        exact (roundsTo_zpow_iff (by norm_num)).mpr ⟨across, fun _ => by decide⟩
    | carried _ rounds =>
        rw [decimal_carried] at le
        exact rounds.of_nearer (by norm_num) le

end HasDigits

theorem length_decimalDigits {digits : Nat} (low : 10 ^ 14 ≤ digits)
    (high : digits < 10 ^ 15) : (decimalDigits digits).length = 15 := by
  have atMost := (Nat.length_toDigits_le_iff (by decide : 1 < 10)
    (by decide : 0 < 15)).mpr high
  have more := mt (Nat.length_toDigits_le_iff (by decide : 1 < 10)
    (by decide : 0 < 14)).mp (not_lt.mpr low)
  exact le_antisymm atMost (not_le.mp more)

/-- A quotient is rounded to its fifteen digits. -/
theorem hasDigits_roundSignificant {num den : Nat} (posNum : 0 < num)
    (posDen : 0 < den) :
    HasDigits ((num : ℚ) / den)
      (Binary64.roundSignificant Binary64.scriptPlaces num den).1
      (Binary64.roundSignificant Binary64.scriptPlaces num den).2 := by
  have posQuotient : (0 : ℚ) < (num : ℚ) / den :=
    div_pos (by exact_mod_cast posNum) (by exact_mod_cast posDen)
  have exponent := decimalExponent_eq_log posNum posDen
  have above := Int.zpow_log_le_self (by decide : 1 < 10) posQuotient
  have below := Int.lt_zpow_succ_log_self (by decide : 1 < 10) ((num : ℚ) / den)
  rw [← exponent] at above below
  have rounds := roundsTo_scaleRatio num
    (Binary64.scriptPlaces - decimalExponent num den) (by decide : 1 < 10)
    posDen
  have scaled : (Binary64.scriptPlaces : Int) - decimalExponent num den =
      -(decimalExponent num den - 14) := by
    simp only [Binary64.scriptPlaces]
    omega
  rw [scaled] at rounds
  unfold Binary64.roundSignificant
  dsimp only
  rw [scaled]
  generalize roundHalfEven _ _ = digits at rounds ⊢
  generalize decimalExponent num den = exponent at rounds above below ⊢
  obtain ⟨coarse, finer, pos⟩ := HasDigits.powers exponent
  rw [Nat.cast_ofNat] at above below rounds
  have low : 10 ^ 14 ≤ digits := by
    apply rounds.ge_of_ge
    rw [le_mul_zpow_neg_iff (by norm_num)]
    rw [coarse] at above
    exact_mod_cast above
  have upTo : digits ≤ 10 ^ 15 := by
    apply rounds.le_of_le
    rw [mul_zpow_neg_le_iff (by norm_num)]
    rw [zpow_add_one₀ (by norm_num), coarse] at below
    push_cast
    linarith
  split
  · rename_i carry
    obtain rfl : digits = 10 ^ 15 := carry
    have shifted : exponent - 14 = exponent + 1 - 15 := by omega
    rw [shifted] at rounds
    exact .carried below rounds
  · rename_i noCarry
    exact .within low (lt_of_le_of_ne upTo noCarry) above rounds

/-- The digits of a rational, once they are known, are those that are computed
for it. -/
theorem HasDigits.roundSignificant_eq {num den digits : Nat} {exponent : Int}
    (posNum : 0 < num) (posDen : 0 < den)
    (has : HasDigits ((num : ℚ) / den) digits exponent) :
    Binary64.roundSignificant Binary64.scriptPlaces num den =
      (digits, exponent) := by
  obtain ⟨sameDigits, sameExponent⟩ :=
    (hasDigits_roundSignificant posNum posDen).eq has
  exact Prod.ext sameDigits sameExponent

/-! ### The greatest of them -/

/-- The greatest decimal of fifteen digits that is not above all doubles. -/
theorem greatestDecimal_eq :
    (1.79769313486231e308 : ℚ) = 179769313486231 * 10 ^ (294 : Int) := by
  have power :
      (10 : ℚ) ^ (147 + 147 : Int) = 10 ^ (147 : Int) * 10 ^ (147 : Int) :=
    zpow_add₀ (by norm_num) _ _
  rw [show (294 : Int) = 147 + 147 from rfl, power]
  norm_num

theorem HasDigits.decimal_le {q : ℚ} {digits : Nat} {exponent : Int}
    (has : HasDigits q digits exponent) (small : q ≤ 1.79769313486231e308) :
    exponent ≤ 308 ∧ decimal digits exponent ≤ 1.79769313486231e308 := by
  rw [greatestDecimal_eq] at small ⊢
  have posPower : (0 : ℚ) < 10 ^ (294 : Int) := zpow_pos (by norm_num) _
  have upTo : exponent ≤ 308 := by
    by_contra beyond
    have power : (10 : ℚ) ^ (294 : Int) ≤ 10 ^ (exponent - 15) :=
      zpow_le_zpow_right₀ (by norm_num) (by omega)
    have atLeast := has.atLeast
    generalize (10 : ℚ) ^ (294 : Int) = bound at *
    linarith
  refine ⟨upTo, ?_⟩
  by_cases last : exponent = 308
  · subst last
    have digitsLe : digits ≤ 179769313486231 := by
      cases has with
      | within low high above rounds =>
          apply rounds.le_of_le
          rw [show (308 - 14 : Int) = 294 from rfl,
            mul_zpow_neg_le_iff (by norm_num)]
          exact_mod_cast small
      | carried below rounds => norm_num
    exact mul_le_mul_of_nonneg_right (by exact_mod_cast digitsLe) posPower.le
  · have power : (10 : ℚ) ^ (exponent - 14) ≤ 10 ^ (293 : Int) :=
      zpow_le_zpow_right₀ (by norm_num) (by omega)
    have digitsLt : (digits : ℚ) ≤ 10 ^ 15 := by exact_mod_cast has.high.le
    calc decimal digits exponent ≤ 10 ^ 15 * 10 ^ (293 : Int) :=
          mul_le_mul digitsLt power (zpow_nonneg (by norm_num) _) (by norm_num)
      _ ≤ 179769313486231 * (10 ^ (293 : Int) * 10) := by
          have pos : (0 : ℚ) < 10 ^ (293 : Int) := zpow_pos (by norm_num) _
          generalize (10 : ℚ) ^ (293 : Int) = bound at pos ⊢
          linarith
      _ = 179769313486231 * 10 ^ (293 + 1 : Int) := by
          rw [zpow_add_one₀ (by norm_num)]

end GridScript
