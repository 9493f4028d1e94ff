import GridScript.Proofs.Numerals
import GridScript.Proofs.Rounding
import Mathlib.Tactic.NormNum

/-!
# The values of doubles

A finite double stands for a rational number.  The double that is chosen for a
decimal is at least as near to it as every other finite double, and its distance
is bounded by the spacing of the doubles at that place.
-/

namespace GridScript

namespace Binary64

/-- What a finite double is without its sign. -/
def magnitude (d : Binary64) : ℚ :=
  d.significand * 2 ^ d.exponent

/-- The number that a finite double stands for. -/
def toRat (d : Binary64) : ℚ :=
  if d.isNegative then -d.magnitude else d.magnitude

/-- The greatest finite double. -/
def greatest : ℚ :=
  (2 ^ 53 - 1) * 2 ^ (971 : Int)

/-- The distance between zero and the least positive double. -/
def least : ℚ :=
  2 ^ (-1074 : Int)

theorem least_pos : 0 < least :=
  zpow_pos (by norm_num) _

theorem magnitude_nonneg (d : Binary64) : 0 ≤ d.magnitude :=
  mul_nonneg (Nat.cast_nonneg _) (zpow_nonneg (by norm_num) _)

theorem abs_toRat (d : Binary64) : |d.toRat| = d.magnitude := by
  unfold toRat
  split
  · rw [abs_neg, abs_of_nonneg d.magnitude_nonneg]
  · rw [abs_of_nonneg d.magnitude_nonneg]

/-- Between doubles of one sign, the distance is that of the magnitudes. -/
theorem abs_toRat_sub_toRat {d other : Binary64}
    (same : d.isNegative = other.isNegative) :
    |d.toRat - other.toRat| = |d.magnitude - other.magnitude| := by
  unfold toRat
  rw [same]
  split
  · rw [neg_sub_neg, abs_sub_comm]
  · rfl

/-! ### Sign and magnitude -/

theorem magnitudeBits_lt (d : Binary64) : d.magnitudeBits < signBit :=
  Nat.mod_lt _ (by decide)

section Parts

variable {negative : Bool} {bits : Nat} (fits : bits < signBit)

include fits in
private theorem toNat_ofParts : (ofParts negative bits).bits.toNat =
    bits + if negative then signBit else 0 := by
  unfold ofParts
  rw [Nat.mod_eq_of_lt fits]
  apply UInt64.toNat_ofNat_of_lt'
  unfold signBit at fits ⊢
  simp only [UInt64.size]
  split <;> omega

include fits in
theorem magnitudeBits_ofParts :
    (ofParts negative bits).magnitudeBits = bits := by
  rw [magnitudeBits, toNat_ofParts fits]
  split
  · rw [Nat.add_mod_right, Nat.mod_eq_of_lt fits]
  · exact Nat.mod_eq_of_lt fits

include fits in
theorem isNegative_ofParts :
    (ofParts negative bits).isNegative = negative := by
  rw [isNegative, toNat_ofParts fits]
  cases negative with
  | false => simpa using fits
  | true => simp

end Parts

theorem ofParts_isNegative_magnitudeBits (d : Binary64) :
    ofParts d.isNegative d.magnitudeBits = d := by
  obtain ⟨bits⟩ := d
  have below := bits.toNat_lt
  simp only [ofParts, Binary64.mk.injEq, ← UInt64.toNat_inj]
  rw [Nat.mod_eq_of_lt (magnitudeBits_lt _)]
  have parts :
      (magnitudeBits ⟨bits⟩ + if isNegative ⟨bits⟩ then signBit else 0) =
        bits.toNat := by
    split
    · rename_i negative
      have above : signBit ≤ bits.toNat := of_decide_eq_true negative
      simp only [magnitudeBits, signBit] at above ⊢
      omega
    · rename_i positive
      have below : ¬ signBit ≤ bits.toNat :=
        of_decide_eq_false (Bool.not_eq_true _ ▸ positive)
      exact Nat.mod_eq_of_lt (not_le.mp below)
  rw [parts, UInt64.ofNat_toNat]

theorem isFinite_iff (d : Binary64) :
    d.isFinite = true ↔ d.magnitudeBits < infinityBits := by
  simp only [isFinite, isNaN, isInfinite, Bool.and_eq_true, Bool.not_eq_true',
    decide_eq_false_iff_not, beq_eq_false_iff_ne, ne_eq]
  omega

/-! ### Significand and exponent -/

theorem significand_lt (d : Binary64) : d.significand < 2 ^ 53 := by
  have smaller : d.magnitudeBits % leadingBit < leadingBit :=
    Nat.mod_lt _ (by decide)
  unfold significand
  dsimp only
  split
  · exact Nat.lt_trans smaller (by decide)
  · simp only [leadingBit] at smaller ⊢
    omega

theorem le_exponent (d : Binary64) : -1074 ≤ d.exponent := by
  unfold exponent
  split
  · exact le_rfl
  · rename_i normal
    simp only [leadingBit] at normal ⊢
    omega

/-- All finite doubles are multiples of the least. -/
theorem exists_magnitude_eq (d : Binary64) :
    ∃ n : Nat, d.magnitude = n * least := by
  refine ⟨d.significand * 2 ^ (d.exponent + 1074).toNat, ?_⟩
  have exponent := d.le_exponent
  have power :
      (2 : ℚ) ^ (d.exponent + 1074).toNat * least = 2 ^ d.exponent := by
    rw [least, ← zpow_natCast, ← zpow_add₀ (by norm_num)]
    congr 1
    omega
  rw [magnitude, Nat.cast_mul, Nat.cast_pow, mul_assoc, Nat.cast_ofNat, power]

theorem magnitude_eq_zero_iff {d : Binary64} :
    d.magnitude = 0 ↔ d.isZero = true := by
  have power : (2 : ℚ) ^ d.exponent ≠ 0 := zpow_ne_zero _ (by norm_num)
  simp only [magnitude, mul_eq_zero, power, or_false, Nat.cast_eq_zero, isZero,
    beq_iff_eq, significand]
  split
  · rename_i subnormal
    rw [Nat.mod_eq_of_lt subnormal]
  · simp only [leadingBit] at *
    omega

theorem least_le_magnitude {d : Binary64} (some : d.isZero = false) :
    least ≤ d.magnitude := by
  obtain ⟨n, same⟩ := d.exists_magnitude_eq
  have pos : n ≠ 0 := by
    rintro rfl
    rw [Nat.cast_zero, zero_mul] at same
    rw [magnitude_eq_zero_iff.mp same] at some
    cases some
  have atLeast : (1 : ℚ) ≤ n := by exact_mod_cast Nat.one_le_iff_ne_zero.mpr pos
  rw [same]
  exact le_mul_of_one_le_left least_pos.le atLeast

/-- The quotient that stands for the magnitude. -/
theorem magnitudeRatio_quotient (d : Binary64) :
    (d.magnitudeRatio.1 : ℚ) / d.magnitudeRatio.2 = d.magnitude := by
  have quotient := scaleRatio_quotient d.significand 1 d.exponent
    (by decide : 1 < 2)
  simpa [magnitudeRatio, magnitude] using quotient

theorem magnitudeRatio_den_pos (d : Binary64) : 0 < d.magnitudeRatio.2 :=
  scaleRatio_den_pos d.significand d.exponent (by decide) Nat.one_pos

/-- A significand that is rounded up to the next power of two carries into the
exponent. -/
theorem magnitude_ofParts {negative : Bool} {carried digits : Nat}
    (fits : carried * leadingBit + digits < infinityBits)
    (full : carried = 0 ∨ leadingBit ≤ digits) (upTo : digits ≤ 2 ^ 53) :
    (ofParts negative (carried * leadingBit + digits)).magnitude =
      digits * 2 ^ ((carried : Int) - 1074) := by
  have inside : carried * leadingBit + digits < signBit :=
    Nat.lt_trans fits (by decide)
  unfold magnitude significand exponent
  rw [magnitudeBits_ofParts inside]
  by_cases subnormal : carried * leadingBit + digits < leadingBit
  · rw [if_pos subnormal, if_pos subnormal]
    simp only [leadingBit] at *
    obtain rfl : carried = 0 := by omega
    have fraction :
        (0 * 4503599627370496 + digits) % 4503599627370496 = digits := by
      omega
    rw [fraction]
    rfl
  · rw [if_neg subnormal, if_neg subnormal]
    simp only [leadingBit] at *
    by_cases carries : digits = 2 ^ 53
    · subst carries
      have quotient : (carried * 4503599627370496 + 2 ^ 53) / 4503599627370496 =
          carried + 2 := by
        omega
      have fraction :
          (carried * 4503599627370496 + 2 ^ 53) % 4503599627370496 = 0 := by
        omega
      have exponent : ((carried + 2 : Nat) : Int) - 1075 =
          ((carried : Int) - 1074) + 1 := by
        omega
      rw [quotient, fraction, exponent, zpow_add_one₀ (by norm_num)]
      norm_num
      ring
    · have quotient : (carried * 4503599627370496 + digits) / 4503599627370496 =
          carried + 1 := by
        omega
      have fraction : (carried * 4503599627370496 + digits) % 4503599627370496 =
          digits - 4503599627370496 := by
        omega
      have exponent :
          ((carried + 1 : Nat) : Int) - 1075 = (carried : Int) - 1074 := by
        omega
      rw [quotient, fraction, exponent, Nat.sub_add_cancel (by omega)]

/-! ### The nearest double -/

/-- The rational is rounded to a number of units: so many that they fill
fifty-three bits, or units of the least double, which cannot be halved. -/
structure Keeps (q : ℚ) (unit : Int) (digits : Nat) : Prop where
  le_unit : -1074 ≤ unit
  rounds : RoundsTo (q * 2 ^ (-unit)) digits
  below : q * 2 ^ (-unit) < 2 ^ 53
  full : unit = -1074 ∨ 2 ^ 52 ≤ q * 2 ^ (-unit)

namespace Keeps

variable {q : ℚ} {unit : Int} {digits : Nat}

theorem digits_le (keeps : Keeps q unit digits) : digits ≤ 2 ^ 53 :=
  keeps.rounds.le_of_le (by exact_mod_cast keeps.below.le)

theorem le_digits (keeps : Keeps q unit digits) :
    unit = -1074 ∨ leadingBit ≤ digits := by
  refine keeps.full.imp_right fun full => keeps.rounds.ge_of_ge ?_
  norm_num [leadingBit] at full ⊢
  exact full

/-- No double is nearer: one with a unit as large is a number of these units
itself, and one with a smaller unit does not reach fifty-three bits of them. -/
theorem nearest (keeps : Keeps q unit digits) {significand : Nat}
    {exponent : Int} (below : significand < 2 ^ 53)
    (le_exponent : -1074 ≤ exponent) :
    |q - digits * 2 ^ unit| ≤ |q - significand * 2 ^ exponent| := by
  have pos : (0 : ℚ) < 2 ^ unit := zpow_pos (by norm_num) _
  have nearestNumber : ∀ other : Nat,
      |q - digits * 2 ^ unit| ≤ |q - other * 2 ^ unit| := by
    intro other
    rw [abs_sub_mul_zpow two_pos, abs_sub_mul_zpow two_pos]
    exact mul_le_mul_of_nonneg_right (keeps.rounds.nearest other) pos.le
  by_cases large : unit ≤ exponent
  · have multiple : (significand : ℚ) * 2 ^ exponent =
        (significand * 2 ^ (exponent - unit).toNat : Nat) * 2 ^ unit := by
      push_cast
      rw [mul_assoc, ← zpow_natCast, ← zpow_add₀ (by norm_num)]
      congr 2
      omega
    rw [multiple]
    exact nearestNumber _
  · rcases keeps.full with least | full
    · omega
    · have reached :
          (significand : ℚ) * 2 ^ exponent ≤ (2 ^ 52 : Nat) * 2 ^ unit := by
        have smaller : (significand : ℚ) ≤ 2 ^ 53 := by exact_mod_cast below.le
        calc (significand : ℚ) * 2 ^ exponent
            ≤ 2 ^ 53 * 2 ^ (unit - 1) :=
              mul_le_mul smaller (zpow_le_zpow_right₀ (by norm_num) (by omega))
                (zpow_nonneg (by norm_num) _) (by norm_num)
          _ = (2 ^ 52 : Nat) * 2 ^ unit := by
              rw [zpow_sub_one₀ (by norm_num)]
              push_cast
              ring
      have atLeast : ((2 ^ 52 : Nat) : ℚ) * 2 ^ unit ≤ q := by
        rw [le_mul_zpow_neg_iff two_pos] at full
        exact_mod_cast full
      calc |q - digits * 2 ^ unit| ≤ |q - (2 ^ 52 : Nat) * 2 ^ unit| :=
            nearestNumber _
        _ ≤ |q - significand * 2 ^ exponent| := by
            rw [abs_of_nonneg (by linarith), abs_of_nonneg (by linarith)]
            linarith

/-- The distance is at most half a unit. -/
theorem abs_sub_le (keeps : Keeps q unit digits) :
    |q - digits * 2 ^ unit| ≤ max (q * 2 ^ (-53 : Int)) (least / 2) := by
  have half : |q - digits * 2 ^ unit| ≤ 2 ^ unit / 2 := by
    have rounds := keeps.rounds.two_mul_abs_sub_le two_pos
    linarith
  rw [le_max_iff]
  rcases keeps.full with rfl | full
  · exact .inr half
  · left
    rw [le_mul_zpow_neg_iff two_pos] at full
    have small : (2 : ℚ) ^ unit / 2 ≤ q * 2 ^ (-53 : Int) := by
      norm_num at full ⊢
      linarith
    exact half.trans small

/-- A rational that is not above the greatest double is not rounded above it. -/
theorem bits_lt (keeps : Keeps q unit digits) (small : q ≤ greatest) :
    (unit + 1074).toNat * leadingBit + digits < infinityBits := by
  have le_unit := keeps.le_unit
  have digits_le := keeps.digits_le
  have unit_le : unit ≤ 971 := by
    rcases keeps.full with least | full
    · omega
    · by_contra large
      rw [le_mul_zpow_neg_iff two_pos] at full
      have beyond : greatest < 2 ^ 52 * 2 ^ unit := by
        have unitAt : (0 : ℚ) < 2 ^ (971 : Int) := zpow_pos (by norm_num) _
        calc greatest < 2 ^ 52 * (2 ^ (971 : Int) * 2) := by
              rw [greatest]
              generalize (2 : ℚ) ^ (971 : Int) = power at unitAt ⊢
              linarith
          _ = 2 ^ 52 * 2 ^ (971 + 1 : Int) := by
              rw [zpow_add_one₀ (by norm_num)]
          _ ≤ 2 ^ 52 * 2 ^ unit :=
              mul_le_mul_of_nonneg_left
                (zpow_le_zpow_right₀ (by norm_num) (by omega)) (by norm_num)
      exact absurd (full.trans small) (not_le.mpr beyond)
  by_cases last : unit = 971
  · subst last
    have digits_le : digits ≤ 2 ^ 53 - 1 := by
      apply keeps.rounds.le_of_le
      rw [mul_zpow_neg_le_iff two_pos]
      norm_num [greatest] at small ⊢
      exact small
    simp only [leadingBit, infinityBits]
    omega
  · simp only [leadingBit, infinityBits]
    omega

end Keeps

section Nearest

variable {num den : Nat} (posNum : 0 < num) (posDen : 0 < den)

include posNum posDen in
private theorem exists_keeps :
    ∃ unit digits, Keeps ((num : ℚ) / den) unit digits ∧
      nearestBits num den =
        min infinityBits ((unit + 1074).toNat * leadingBit + digits) := by
  have posQuotient : (0 : ℚ) < (num : ℚ) / den :=
    div_pos (by exact_mod_cast posNum) (by exact_mod_cast posDen)
  have unit := unitExponent_eq_log posNum posDen
  refine ⟨unitExponent num den,
    roundHalfEven (scaleRatio 2 num den (-unitExponent num den)).1
      (scaleRatio 2 num den (-unitExponent num den)).2,
    ⟨by omega, ?_, ?_, ?_⟩, ?_⟩
  · exact roundsTo_scaleRatio num (-unitExponent num den) (by decide) posDen
  · rw [zpow_neg, ← div_eq_mul_inv, div_lt_iff₀ (zpow_pos (by norm_num) _),
      ← zpow_natCast, ← zpow_add₀ (by norm_num)]
    apply (Int.lt_zpow_iff_log_lt (by decide : 1 < 2) posQuotient).mpr
    omega
  · by_cases least : unitExponent num den = -1074
    · exact .inl least
    · right
      rw [le_mul_zpow_neg_iff two_pos, ← zpow_natCast,
        ← zpow_add₀ (by norm_num)]
      apply (Int.zpow_le_iff_le_log (by decide : 1 < 2) posQuotient).mpr
      omega
  · rw [nearestBits, if_neg posNum.ne']

/-- A finite double that is as near to the rational as any other, and near
enough. -/
structure IsNearest (q : ℚ) (d : Binary64) : Prop where
  isFinite : d.isFinite = true
  nearest : ∀ other : Binary64, |q - d.magnitude| ≤ |q - other.magnitude|
  near : |q - d.magnitude| ≤ max (q * 2 ^ (-53 : Int)) (least / 2)

include posNum posDen in
theorem isNearest_nearestBits (negative : Bool)
    (small : (num : ℚ) / den ≤ greatest) :
    IsNearest ((num : ℚ) / den) (ofParts negative (nearestBits num den)) ∧
      (ofParts negative (nearestBits num den)).isNegative = negative := by
  obtain ⟨unit, digits, keeps, bits⟩ := exists_keeps posNum posDen
  have fits := keeps.bits_lt small
  have inside : (unit + 1074).toNat * leadingBit + digits < signBit :=
    Nat.lt_trans fits (by decide)
  have le_unit := keeps.le_unit
  have full : (unit + 1074).toNat = 0 ∨ leadingBit ≤ digits :=
    keeps.le_digits.imp_left (by omega)
  have magnitude : (ofParts negative _).magnitude = _ :=
    magnitude_ofParts fits full keeps.digits_le
  have exponent : (((unit + 1074).toNat : Nat) : Int) - 1074 = unit := by omega
  rw [exponent] at magnitude
  rw [bits, min_eq_right fits.le]
  refine ⟨⟨?_, ?_, ?_⟩, isNegative_ofParts inside⟩
  · rw [isFinite_iff, magnitudeBits_ofParts inside]
    exact fits
  · intro other
    rw [magnitude]
    exact keeps.nearest other.significand_lt other.le_exponent
  · rw [magnitude]
    exact keeps.abs_sub_le

end Nearest

end Binary64

end GridScript
