import GridScript.Number.Format
import Mathlib.Algebra.Order.Field.Basic
import Mathlib.Data.Int.Log
import Mathlib.Data.Rat.Floor
import Mathlib.Tactic.FieldSimp
import Mathlib.Tactic.Linarith
import Mathlib.Tactic.Ring

/-!
# Rounding over the rationals

Doubles are rounded with natural numbers only: a quotient is a numerator and a
denominator, and a power is multiplied to one of the two.  Read over the
rationals, rounding gives the nearest natural number, and the exponents that
are guessed from the lengths of numerator and denominator are logarithms.
-/

namespace GridScript

/-! ### The nearest natural number -/

/-- The natural number nearest to the rational; of two that are equally near,
the even one. -/
structure RoundsTo (q : ℚ) (n : Nat) : Prop where
  near : |q - n| ≤ 1 / 2
  even : |q - n| = 1 / 2 → Even n

namespace RoundsTo

variable {q : ℚ} {n bound : Nat}

/-- Natural numbers are one apart, so no other is nearer than a half. -/
theorem half_le_abs_sub {other : Nat} (rounds : RoundsTo q n)
    (different : other ≠ n) : 1 / 2 ≤ |q - other| := by
  obtain ⟨low, high⟩ := abs_le.mp rounds.near
  rw [le_abs]
  rcases Nat.lt_or_gt_of_ne different with less | greater
  · left
    have step : (other : ℚ) + 1 ≤ n := by exact_mod_cast less
    linarith
  · right
    have step : (n : ℚ) + 1 ≤ other := by exact_mod_cast greater
    linarith

theorem nearest (rounds : RoundsTo q n) (other : Nat) :
    |q - n| ≤ |q - other| := by
  by_cases same : other = n
  · rw [same]
  · exact rounds.near.trans (rounds.half_le_abs_sub same)

theorem le_of_le (rounds : RoundsTo q n) (below : q ≤ bound) : n ≤ bound := by
  have low := (abs_le.mp rounds.near).1
  have less : (n : ℚ) < bound + 1 := by linarith
  exact Nat.lt_succ_iff.mp (by exact_mod_cast less)

theorem ge_of_ge (rounds : RoundsTo q n) (above : bound ≤ q) : bound ≤ n := by
  have high := (abs_le.mp rounds.near).2
  have less : (bound : ℚ) < n + 1 := by linarith
  exact Nat.lt_succ_iff.mp (by exact_mod_cast less)

theorem eq {other : Nat} (rounds : RoundsTo q n)
    (alsoRounds : RoundsTo q other) : n = other := by
  by_contra different
  -- Both are half away, so both are even, but they are neighbours.
  have even := rounds.even
    (le_antisymm rounds.near (alsoRounds.half_le_abs_sub different))
  have alsoEven := alsoRounds.even
    (le_antisymm alsoRounds.near (rounds.half_le_abs_sub (Ne.symm different)))
  obtain ⟨low, high⟩ := abs_le.mp rounds.near
  obtain ⟨alsoLow, alsoHigh⟩ := abs_le.mp alsoRounds.near
  have close : n ≤ other + 1 ∧ other ≤ n + 1 := by
    constructor
    · have : (n : ℚ) ≤ other + 1 := by linarith
      exact_mod_cast this
    · have : (other : ℚ) ≤ n + 1 := by linarith
      exact_mod_cast this
  obtain ⟨half, rfl⟩ := even
  obtain ⟨otherHalf, rfl⟩ := alsoEven
  omega

/-- The law without fractions. -/
theorem of_twice {num den : Nat} (pos : 0 < den)
    (low : 2 * (n * den) ≤ 2 * num + den) (high : 2 * num ≤ 2 * (n * den) + den)
    (even : 2 * num = 2 * (n * den) + den ∨ 2 * (n * den) = 2 * num + den →
      Even n) :
    RoundsTo ((num : ℚ) / den) n := by
  have posRat : (0 : ℚ) < 2 * den := by exact_mod_cast (by omega : 0 < 2 * den)
  have distance :
      (num : ℚ) / den - n = (2 * num - 2 * (n * den)) / (2 * den) := by
    field_simp
  constructor
  · rw [distance, abs_le, le_div_iff₀ posRat, div_le_iff₀ posRat]
    have low : (2 * (n * den) : ℚ) ≤ 2 * num + den := by exact_mod_cast low
    have high : (2 * num : ℚ) ≤ 2 * (n * den) + den := by exact_mod_cast high
    constructor <;> linarith
  · intro half
    apply even
    rw [distance] at half
    rcases (abs_eq (by norm_num)).mp half with up | down
    · left
      have up := (div_eq_iff posRat.ne').mp up
      have up : (2 * num : ℚ) = 2 * (n * den) + den := by linarith
      exact_mod_cast up
    · right
      have down := (div_eq_iff posRat.ne').mp down
      have down : (2 * (n * den) : ℚ) = 2 * num + den := by linarith
      exact_mod_cast down

end RoundsTo

theorem roundsTo_roundHalfEven (num : Nat) {den : Nat} (pos : 0 < den) :
    RoundsTo ((num : ℚ) / den) (roundHalfEven num den) := by
  have split : num / den * den + num % den = num := Nat.div_add_mod' num den
  have smaller : num % den < den := Nat.mod_lt num pos
  have next : (num / den + 1) * den = num / den * den + den := Nat.succ_mul _ _
  unfold roundHalfEven
  dsimp only
  split
  · rename_i up
    simp only [Bool.or_eq_true, decide_eq_true_eq, Bool.and_eq_true, beq_iff_eq]
      at up
    apply RoundsTo.of_twice pos
    · omega
    · omega
    · intro _
      rw [Nat.even_iff]
      omega
  · rename_i down
    simp only [Bool.or_eq_true, decide_eq_true_eq, Bool.and_eq_true, beq_iff_eq]
      at down
    apply RoundsTo.of_twice pos
    · omega
    · omega
    · intro _
      rw [Nat.even_iff]
      omega

/-! ### Rounding to multiples of a power -/

section Multiples

variable {base q bound : ℚ} {unit : Int} {n : Nat} (pos : 0 < base)

include pos in
theorem le_mul_zpow_neg_iff :
    bound ≤ q * base ^ (-unit) ↔ bound * base ^ unit ≤ q := by
  rw [zpow_neg, ← div_eq_mul_inv, le_div_iff₀ (zpow_pos pos unit)]

include pos in
theorem mul_zpow_neg_le_iff :
    q * base ^ (-unit) ≤ bound ↔ q ≤ bound * base ^ unit := by
  rw [zpow_neg, ← div_eq_mul_inv, div_le_iff₀ (zpow_pos pos unit)]

include pos in
/-- Distances in units. -/
theorem abs_sub_mul_zpow (q : ℚ) (unit : Int) (n : ℚ) :
    |q - n * base ^ unit| = |q * base ^ (-unit) - n| * base ^ unit := by
  have scaled :
      q - n * base ^ unit = (q * base ^ (-unit) - n) * base ^ unit := by
    rw [sub_mul, mul_assoc, ← zpow_add₀ pos.ne', neg_add_cancel, zpow_zero,
      mul_one]
  rw [scaled, abs_mul, abs_of_pos (zpow_pos pos unit)]

include pos in
/-- The rational is at most half a unit away from the multiple that it is
rounded to. -/
theorem roundsTo_zpow_iff :
    RoundsTo (q * base ^ (-unit)) n ↔
      2 * |q - n * base ^ unit| ≤ base ^ unit ∧
        (2 * |q - n * base ^ unit| = base ^ unit → Even n) := by
  have posUnit : 0 < base ^ unit := zpow_pos pos unit
  have near : 2 * |q - n * base ^ unit| ≤ base ^ unit ↔
      |q * base ^ (-unit) - n| ≤ 1 / 2 := by
    rw [abs_sub_mul_zpow pos, ← mul_assoc, mul_le_iff_le_one_left posUnit,
      mul_comm, le_div_iff₀ two_pos]
  have half : 2 * |q - n * base ^ unit| = base ^ unit ↔
      |q * base ^ (-unit) - n| = 1 / 2 := by
    rw [abs_sub_mul_zpow pos, ← mul_assoc, mul_eq_right₀ posUnit.ne', mul_comm,
      eq_div_iff two_ne_zero]
  rw [near, half]
  exact ⟨fun rounds => ⟨rounds.near, rounds.even⟩,
    fun rounds => ⟨rounds.1, rounds.2⟩⟩

include pos in
theorem RoundsTo.two_mul_abs_sub_le (rounds : RoundsTo (q * base ^ (-unit)) n) :
    2 * |q - n * base ^ unit| ≤ base ^ unit :=
  ((roundsTo_zpow_iff pos).mp rounds).1

include pos in
/-- What is nearer to the multiple is rounded to it as well. -/
theorem RoundsTo.of_nearer {nearer : ℚ}
    (rounds : RoundsTo (q * base ^ (-unit)) n)
    (le : |nearer - n * base ^ unit| ≤ |q - n * base ^ unit|) :
    RoundsTo (nearer * base ^ (-unit)) n := by
  rw [roundsTo_zpow_iff pos] at rounds ⊢
  refine ⟨by linarith [rounds.1], fun half => rounds.2 ?_⟩
  linarith [rounds.1]

end Multiples

/-! ### Scaled quotients -/

section Scaling

variable {base : Nat} (num den : Nat) (exponent : Int)

theorem scaleRatio_den_pos (one_lt : 1 < base) {den : Nat} (pos : 0 < den) :
    0 < (scaleRatio base num den exponent).2 :=
  Nat.mul_pos pos (Nat.pow_pos (by omega))

theorem scaleRatio_quotient (one_lt : 1 < base) :
    ((scaleRatio base num den exponent).1 : ℚ) /
      (scaleRatio base num den exponent).2 =
      (num : ℚ) / den * (base : ℚ) ^ exponent := by
  have some : (base : ℚ) ≠ 0 := by exact_mod_cast (by omega : base ≠ 0)
  cases exponent with
  | ofNat n => simp [scaleRatio, div_mul_eq_mul_div]
  | negSucc n =>
      have negative : (Int.negSucc n).toNat = 0 := rfl
      have positive : (-Int.negSucc n).toNat = n + 1 := rfl
      simp only [scaleRatio, negative, positive, Nat.pow_eq, pow_zero, mul_one,
        Nat.cast_mul, Nat.cast_pow, zpow_negSucc, div_mul_eq_div_div,
        ← div_eq_mul_inv]

/-- Comparing the scaled numerator with the scaled denominator compares the
quotient with a power. -/
theorem scaleRatio_lt_iff (one_lt : 1 < base) {den : Nat} (pos : 0 < den)
    (factor : Nat) :
    (scaleRatio base num den exponent).1 <
        (scaleRatio base num den exponent).2 * factor ↔
      (num : ℚ) / den < factor * (base : ℚ) ^ (-exponent) := by
  have posScaled : (0 : ℚ) < (scaleRatio base num den exponent).2 := by
    exact_mod_cast scaleRatio_den_pos num exponent one_lt pos
  have posPower : (0 : ℚ) < (base : ℚ) ^ exponent :=
    zpow_pos (by exact_mod_cast (by omega : 0 < base)) _
  rw [zpow_neg, ← div_eq_mul_inv, lt_div_iff₀ posPower,
    ← scaleRatio_quotient num den exponent one_lt, div_lt_iff₀ posScaled,
    mul_comm (factor : ℚ)]
  exact_mod_cast Iff.rfl

/-- Rounding a scaled quotient. -/
theorem roundsTo_scaleRatio (one_lt : 1 < base) {den : Nat} (pos : 0 < den) :
    RoundsTo ((num : ℚ) / den * (base : ℚ) ^ exponent)
      (roundHalfEven (scaleRatio base num den exponent).1
        (scaleRatio base num den exponent).2) := by
  rw [← scaleRatio_quotient num den exponent one_lt]
  exact roundsTo_roundHalfEven _ (scaleRatio_den_pos num exponent one_lt pos)

end Scaling

/-! ### Exponents -/

/-- The logarithm is the exponent of the power at or below the rational. -/
theorem log_eq_of_between {base : Nat} (one_lt : 1 < base) {q : ℚ} {e : Int}
    (low : (base : ℚ) ^ e ≤ q) (high : q < (base : ℚ) ^ (e + 1)) :
    Int.log base q = e := by
  have pos : 0 < q :=
    lt_of_lt_of_le (zpow_pos (by exact_mod_cast (by omega : 0 < base)) _) low
  have atLeast := (Int.zpow_le_iff_le_log one_lt pos).mp low
  have atMost := (Int.lt_zpow_iff_log_lt one_lt pos).mp high
  omega

/-- A guess that is at most one too large is put right by one comparison. -/
theorem ite_eq_log {base : Nat} (one_lt : 1 < base) {q : ℚ} {guess : Int}
    (low : (base : ℚ) ^ (guess - 1) ≤ q) (high : q < (base : ℚ) ^ (guess + 1)) :
    (if q < (base : ℚ) ^ guess then guess - 1 else guess) = Int.log base q := by
  split
  · rename_i less
    rw [log_eq_of_between one_lt low (by rwa [Int.sub_add_cancel])]
  · rename_i atLeast
    rw [log_eq_of_between one_lt (not_lt.mp atLeast) high]

/-- The quotient of two numbers of known size lies between two powers. -/
theorem quotient_between {base num den i j : Nat} (one_lt : 1 < base)
    (numLow : base ^ i ≤ num) (numHigh : num < base ^ (i + 1))
    (denLow : base ^ j ≤ den) (denHigh : den < base ^ (j + 1)) :
    (base : ℚ) ^ ((i : Int) - j - 1) ≤ (num : ℚ) / den ∧
      (num : ℚ) / den < (base : ℚ) ^ ((i : Int) - j + 1) := by
  have posBase : (0 : ℚ) < base := by exact_mod_cast (by omega : 0 < base)
  have posDen : (0 : ℚ) < den := by
    exact_mod_cast Nat.lt_of_lt_of_le (Nat.pow_pos (by omega)) denLow
  have numLow : (base : ℚ) ^ i ≤ num := by exact_mod_cast numLow
  have numHigh : (num : ℚ) < (base : ℚ) ^ (i + 1) := by exact_mod_cast numHigh
  have denLow : (base : ℚ) ^ j ≤ den := by exact_mod_cast denLow
  have denHigh : (den : ℚ) < (base : ℚ) ^ (j + 1) := by exact_mod_cast denHigh
  rw [le_div_iff₀ posDen, div_lt_iff₀ posDen]
  constructor
  · calc (base : ℚ) ^ ((i : Int) - j - 1) * den
        ≤ (base : ℚ) ^ ((i : Int) - j - 1) * (base : ℚ) ^ (j + 1) :=
          mul_le_mul_of_nonneg_left denHigh.le (zpow_pos posBase _).le
      _ = (base : ℚ) ^ i := by
          rw [← zpow_natCast, ← zpow_natCast, ← zpow_add₀ posBase.ne']
          congr 1
          push_cast
          ring
      _ ≤ num := numLow
  · calc (num : ℚ) < (base : ℚ) ^ (i + 1) := numHigh
      _ = (base : ℚ) ^ ((i : Int) - j + 1) * (base : ℚ) ^ j := by
          rw [← zpow_natCast, ← zpow_natCast, ← zpow_add₀ posBase.ne']
          congr 1
          push_cast
          ring
      _ ≤ (base : ℚ) ^ ((i : Int) - j + 1) * den :=
          mul_le_mul_of_nonneg_left denLow (zpow_pos posBase _).le

section Exponents

variable {num den : Nat} (posNum : 0 < num) (posDen : 0 < den)

/-- A positive number has one more decimal digit than its logarithm. -/
theorem pow_length_decimalDigits (pos : 0 < num) :
    10 ^ ((decimalDigits num).length - 1) ≤ num ∧
      num < 10 ^ (decimalDigits num).length := by
  have someDigits : 0 < (decimalDigits num).length := Nat.length_toDigits_pos
  constructor
  · by_contra less
    have less := not_le.mp less
    by_cases single : (decimalDigits num).length = 1
    · rw [single] at less
      omega
    · have shorter := (Nat.length_toDigits_le_iff (by decide : 1 < 10)
        (by omega : 0 < (decimalDigits num).length - 1)).mpr less
      change (decimalDigits num).length ≤ _ at shorter
      omega
  · exact (Nat.length_toDigits_le_iff (by decide) someDigits).mp le_rfl

include posNum posDen in
theorem decimalExponent_eq_log :
    decimalExponent num den = Int.log 10 ((num : ℚ) / den) := by
  have numDigits : 0 < (decimalDigits num).length := Nat.length_toDigits_pos
  have denDigits : 0 < (decimalDigits den).length := Nat.length_toDigits_pos
  obtain ⟨numLow, numHigh⟩ := pow_length_decimalDigits posNum
  obtain ⟨denLow, denHigh⟩ := pow_length_decimalDigits posDen
  obtain ⟨low, high⟩ := quotient_between (by decide : 1 < 10) numLow
    (by rwa [Nat.sub_add_cancel numDigits]) denLow
    (by rwa [Nat.sub_add_cancel denDigits])
  have guess : (((decimalDigits num).length - 1 : Nat) : Int) -
      ((decimalDigits den).length - 1 : Nat) =
      ((decimalDigits num).length : Int) - (decimalDigits den).length := by
    omega
  rw [guess] at low high
  rw [← ite_eq_log (by decide) low high]
  have compared := scaleRatio_lt_iff num
    (-(((decimalDigits num).length : Int) - (decimalDigits den).length))
    (by decide : 1 < 10) posDen 1
  rw [mul_one, Nat.cast_one, one_mul, neg_neg] at compared
  simp only [decimalExponent, compared]

include posNum posDen in
theorem unitExponent_eq_log :
    Binary64.unitExponent num den =
      max (Int.log 2 ((num : ℚ) / den) - 52) (-1074) := by
  obtain ⟨low, high⟩ := quotient_between (by decide : 1 < 2)
    (Nat.log2_self_le posNum.ne') Nat.lt_log2_self
    (Nat.log2_self_le posDen.ne') Nat.lt_log2_self
  rw [← ite_eq_log (by decide) low high]
  have compared := scaleRatio_lt_iff num
    (-((Nat.log2 num : Int) - Nat.log2 den - 52)) (by decide : 1 < 2) posDen
    Binary64.leadingBit
  have shifted : (Binary64.leadingBit : ℚ) *
      ((2 : Nat) : ℚ) ^ (-(-((Nat.log2 num : Int) - Nat.log2 den - 52))) =
      ((2 : Nat) : ℚ) ^ ((Nat.log2 num : Int) - Nat.log2 den) := by
    have leading :
        (Binary64.leadingBit : ℚ) = ((2 : Nat) : ℚ) ^ (52 : Int) := by
      norm_num [Binary64.leadingBit]
    rw [leading, ← zpow_add₀ (by norm_num)]
    congr 1
    omega
  rw [shifted] at compared
  simp only [Binary64.unitExponent, compared]
  congr 1
  split <;> omega

end Exponents

end GridScript
