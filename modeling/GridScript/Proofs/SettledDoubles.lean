import GridScript.Proofs.Doubles
import GridScript.Proofs.FifteenDigits
import GridScript.Proofs.ValueText
import Mathlib.Tactic.Positivity

/-!
# Doubles that have been written once

Fifteen digits do not determine a double, so a double that is written and read
back may change.  It changes by little, and only once: the double nearest to
the fifteen digits is at least as near to them as the one that was written, so
it is written with the same digits.  Right below a power of ten this is not
enough, for the last of the digits counts less there.  There the doubles lie
closer together than the decimals, except among the least of them, where it
comes down to a single power of ten.
-/

namespace GridScript

namespace Binary64

/-! ### The least double and powers of ten -/

private theorem zpow_neg_lt_iff (multiple digits bits places : Nat) :
    (multiple : ℚ) * 2 ^ (-(bits : Int)) < digits * 10 ^ (-(places : Int)) ↔
      multiple * 10 ^ places < digits * 2 ^ bits := by
  rw [zpow_neg, zpow_neg, zpow_natCast, zpow_natCast, ← div_eq_mul_inv,
    ← div_eq_mul_inv, div_lt_div_iff₀ (by positivity) (by positivity)]
  exact_mod_cast Iff.rfl

/-- Multiples of the least double and decimals are compared as numbers. -/
theorem mul_least_lt_iff (multiple digits places : Nat) :
    (multiple : ℚ) * least < digits * 10 ^ (-(places : Int)) ↔
      multiple * 10 ^ places < digits * 2 ^ 1074 :=
  zpow_neg_lt_iff multiple digits 1074 places

private theorem least_le : least ≤ 10 ^ (-323 : Int) := by
  have compared := ((mul_least_lt_iff 1 1 323).mpr (by decide +kernel)).le
  rw [Nat.cast_one, one_mul, one_mul] at compared
  exact compared

private theorem lt_least : 10 ^ (-324 : Int) < least := by
  have compared :=
    not_lt.mp (mt (mul_least_lt_iff 1 2 324).mp (by decide +kernel))
  rw [Nat.cast_one, one_mul] at compared
  exact lt_of_lt_of_le (lt_mul_of_one_lt_left (zpow_pos (by norm_num) _)
    (by norm_num)) compared

/-- The power of ten that is rounded to a greater multiple of the least double
than itself. -/
private theorem abs_sub_gt {multiple : Nat}
    (below : multiple * least < 10 ^ (-309 : Int)) :
    least / 2 < |10 ^ (-309 : Int) - multiple * least| := by
  have upTo : multiple ≤ 202402253307310 := by
    by_contra beyond
    have compared := (mul_least_lt_iff multiple 1 309).mp (by
      rw [Nat.cast_one, one_mul]
      exact below)
    have more : 202402253307311 * 10 ^ 309 ≤ multiple * 10 ^ 309 :=
      Nat.mul_le_mul_right _ (by omega)
    exact absurd (Nat.lt_of_le_of_lt more compared) (by decide +kernel)
  have halfway : (404804506614621 : ℚ) * least < 2 * 10 ^ (-309 : Int) := by
    have compared :=
      (mul_least_lt_iff 404804506614621 2 309).mpr (by decide +kernel)
    exact_mod_cast compared
  have upTo : (multiple : ℚ) ≤ 202402253307310 := by exact_mod_cast upTo
  have scaled := mul_le_mul_of_nonneg_right upTo least_pos.le
  rw [lt_abs]
  left
  linarith

/-! ### The double nearest to the digits of a double -/

section Nearest

variable {d reread : Binary64} {digits : Nat} {exponent : Int}

/-- Right below a power of ten. -/
private theorem near_across (has : HasDigits d.magnitude (10 ^ 14) exponent)
    (isNearest : IsNearest (decimal (10 ^ 14) exponent) reread)
    (below : reread.magnitude < 10 ^ exponent)
    (above : 10 ^ exponent ≤ d.magnitude) :
    2 * |reread.magnitude - decimal (10 ^ 14) exponent| ≤
      10 ^ (exponent - 15) := by
  have close := has.near
  have nearer := isNearest.nearest d
  have spacing := isNearest.near
  rw [HasDigits.decimal_first] at close nearer spacing ⊢
  rw [abs_sub_comm]
  rcases le_max_iff.mp spacing with normal | subnormal
  · have pos : (0 : ℚ) < 10 ^ (exponent - 15) := zpow_pos (by norm_num) _
    have power : (10 : ℚ) ^ exponent = 10 ^ 15 * 10 ^ (exponent - 15) := by
      rw [← zpow_natCast, ← zpow_add₀ (by norm_num)]
      congr 1
      omega
    generalize |10 ^ exponent - reread.magnitude| = distance at normal ⊢
    rw [power] at normal
    norm_num at normal
    linarith
  · obtain ⟨multiple, same⟩ := reread.exists_magnitude_eq
    by_cases large : -308 ≤ exponent
    · have power : (10 : ℚ) ^ (-323 : Int) ≤ 10 ^ (exponent - 15) :=
        zpow_le_zpow_right₀ (by norm_num) (by omega)
      linarith [least_le]
    · by_cases turning : exponent = -309
      · subst turning
        rw [same] at below subnormal
        exact absurd (abs_sub_gt below) (not_lt.mpr subnormal)
      · -- Here the decimals lie closer together than the doubles.
        exfalso
        obtain ⟨more, sameMore⟩ := d.exists_magnitude_eq
        have apart : reread.magnitude + least ≤ d.magnitude := by
          have less := lt_of_lt_of_le below above
          rw [same, sameMore, mul_lt_mul_iff_left₀ least_pos] at less
          have step : (multiple : ℚ) + 1 ≤ more := by exact_mod_cast less
          rw [same, sameMore, ← add_one_mul]
          exact mul_le_mul_of_nonneg_right step least_pos.le
        have power : (10 : ℚ) ^ (exponent - 14) ≤ 10 ^ (-324 : Int) :=
          zpow_le_zpow_right₀ (by norm_num) (by omega)
        have lower := le_abs_self (10 ^ exponent - reread.magnitude)
        have upper := le_abs_self (d.magnitude - 10 ^ exponent)
        rw [abs_sub_comm (10 ^ exponent) d.magnitude] at nearer
        linarith [lt_least]

/-- The double nearest to the digits of a double has the same digits. -/
theorem hasDigits_of_isNearest (has : HasDigits d.magnitude digits exponent)
    (isNearest : IsNearest (decimal digits exponent) reread) :
    HasDigits reread.magnitude digits exponent := by
  apply has.of_nearer
  · have nearer := isNearest.nearest d
    rwa [abs_sub_comm, abs_sub_comm (decimal digits exponent)] at nearer
  · rintro rfl below above
    exact near_across has isNearest below above

/-- It is off by twice as much as the digits are, at most. -/
theorem abs_sub_le_of_isNearest (has : HasDigits d.magnitude digits exponent)
    (isNearest : IsNearest (decimal digits exponent) reread) :
    |reread.magnitude - d.magnitude| ≤ 10 ^ (-14 : Int) * d.magnitude := by
  have nearer := isNearest.nearest d
  have close := has.two_mul_abs_sub_le
  calc |reread.magnitude - d.magnitude|
      ≤ |reread.magnitude - decimal digits exponent| +
          |decimal digits exponent - d.magnitude| := abs_sub_le _ _ _
    _ ≤ 2 * |d.magnitude - decimal digits exponent| := by
        rw [abs_sub_comm reread.magnitude, abs_sub_comm d.magnitude]
        linarith
    _ ≤ 10 ^ (-14 : Int) * d.magnitude := close

end Nearest

/-! ### Reading decimals -/

/-- A decimal that is not above the greatest double is read as a double that is
nearest to it. -/
theorem isNearest_ofDecimal {digits : Nat} {exponent : Int} (negative : Bool)
    (low : 10 ^ 14 ≤ digits) (high : digits < 10 ^ 15) (least : -400 < exponent)
    (most : exponent < 400) (small : decimal digits exponent ≤ greatest) :
    IsNearest (decimal digits exponent)
        (ofDecimal negative digits (exponent - 14)) ∧
      (ofDecimal negative digits (exponent - 14)).isNegative = negative := by
  have length := length_decimalDigits low high
  have some : digits ≠ 0 := by omega
  have notTiny : ¬ ((15 : Nat) : Int) + (exponent - 14) < -400 := by omega
  have notHuge : ¬ 400 < ((15 : Nat) : Int) + (exponent - 14) := by omega
  have quotient :=
    scaleRatio_quotient digits 1 (exponent - 14) (by decide : 1 < 10)
  rw [Nat.cast_one, div_one] at quotient
  unfold ofDecimal
  simp only [length, some, notTiny, notHuge, decide_false, Bool.or_false,
    Bool.false_eq_true, if_false]
  have posNum : 0 < (scaleRatio 10 digits 1 (exponent - 14)).1 :=
    Nat.mul_pos (by omega) (Nat.pow_pos (by decide))
  have posDen := scaleRatio_den_pos digits (exponent - 14) (by decide : 1 < 10)
    Nat.one_pos
  have nearest := isNearest_nearestBits posNum posDen negative
    (by rw [quotient]; exact small)
  rw [quotient] at nearest
  exact nearest

private theorem mul_zpow_le {left right tens twos : Nat}
    (le : left * 10 ^ tens ≤ right * 2 ^ twos) :
    (left : ℚ) * 10 ^ (tens : Int) ≤ right * 2 ^ (twos : Int) := by
  rw [zpow_natCast, zpow_natCast]
  exact_mod_cast le

theorem greatestDecimal_le : 1.79769313486231e308 ≤ greatest := by
  have compared : ((179769313486231 : Nat) : ℚ) * 10 ^ ((294 : Nat) : Int) ≤
      (2 ^ 53 - 1 : Nat) * 2 ^ ((971 : Nat) : Int) :=
    mul_zpow_le (by decide +kernel)
  have significand : ((2 ^ 53 - 1 : Nat) : ℚ) = 2 ^ 53 - 1 := by norm_num
  rw [significand] at compared
  rw [greatestDecimal_eq]
  exact compared

/-! ### Writing and reading back -/

/-- The digits of a double are those that are computed for its magnitude. -/
theorem hasDigits_iff {d : Binary64} (some : d.isZero = false) {digits : Nat}
    {exponent : Int} :
    HasDigits d.magnitude digits exponent ↔
      roundSignificant scriptPlaces d.magnitudeRatio.1 d.magnitudeRatio.2 =
        (digits, exponent) := by
  have quotient := d.magnitudeRatio_quotient
  have posNum : 0 < d.magnitudeRatio.1 := by
    apply Nat.pos_of_ne_zero
    intro zero
    rw [zero, Nat.cast_zero, zero_div] at quotient
    rw [magnitude_eq_zero_iff.mp quotient.symm] at some
    cases some
  rw [← quotient]
  constructor
  · intro has
    exact has.roundSignificant_eq posNum d.magnitudeRatio_den_pos
  · intro same
    have has := hasDigits_roundSignificant posNum d.magnitudeRatio_den_pos
    rwa [same] at has

/-- Only the sign and the fifteen digits of a double are written. -/
theorem scientific_eq {d other : Binary64} {digits : Nat} {exponent : Int}
    (finite : d.isFinite = true) (otherFinite : other.isFinite = true)
    (sameSign : other.isNegative = d.isNegative)
    (has : HasDigits d.magnitude digits exponent)
    (otherHas : HasDigits other.magnitude digits exponent) :
    other.scientific = d.scientific := by
  have some : ∀ {one : Binary64}, HasDigits one.magnitude digits exponent →
      one.isZero = false := by
    intro one has
    rw [← Bool.not_eq_true, ← magnitude_eq_zero_iff]
    exact has.pos.ne'
  have rounded := (hasDigits_iff (some has)).mp has
  have otherRounded := (hasDigits_iff (some otherHas)).mp otherHas
  simp only [isFinite, Bool.and_eq_true, Bool.not_eq_true']
    at finite otherFinite
  unfold scientific withSign
  simp only [finite.1, finite.2, otherFinite.1, otherFinite.2, sameSign,
    some has, some otherHas, rounded, otherRounded]

theorem toRat_of_isZero {d : Binary64} (zero : d.isZero = true) :
    d.toRat = 0 := by
  rw [← abs_eq_zero, abs_toRat, magnitude_eq_zero_iff]
  exact zero

/-- What a finite double is written as denotes a double close to it that is
written alike. -/
theorem exists_numeral_settled {d : Binary64} (finite : d.isFinite = true)
    (small : |d.toRat| ≤ 1.79769313486231e308) :
    ∃ n : Numeral, n.WellFormed ∧ n.text = d.scientific.toList ∧
      n.toBinary64.isFinite = true ∧
      |n.toBinary64.toRat - d.toRat| ≤ 10 ^ (-14 : Int) * |d.toRat| ∧
      n.toBinary64.scientific = d.scientific := by
  obtain ⟨n, wellFormed, text, denoted⟩ := exists_numeral_scientific finite
  refine ⟨n, wellFormed, text, ?_⟩
  by_cases zero : d.isZero = true
  · -- Zero keeps its sign.
    have same : n.toBinary64 = d := by
      rw [denoted, if_pos zero]
      have parts := d.ofParts_isNegative_magnitudeBits
      rwa [beq_iff_eq.mp zero] at parts
    rw [same]
    refine ⟨finite, ?_, rfl⟩
    rw [toRat_of_isZero zero]
    norm_num
  · have some := Bool.eq_false_iff.mpr zero
    rw [if_neg zero] at denoted
    dsimp only at denoted
    generalize rounded : roundSignificant scriptPlaces d.magnitudeRatio.1
      d.magnitudeRatio.2 = decimalParts at denoted
    obtain ⟨digits, exponent⟩ := decimalParts
    have has := (hasDigits_iff some).mpr rounded
    rw [abs_toRat] at small
    obtain ⟨upTo, decimalSmall⟩ := has.decimal_le small
    have above : (10 : ℚ) ^ (-324 : Int) < 10 ^ (exponent + 1) :=
      (lt_least.trans_le (least_le_magnitude some)).trans has.lt_next
    have atLeast := (zpow_lt_zpow_iff_right₀ (by norm_num)).mp above
    obtain ⟨nearest, sign⟩ := isNearest_ofDecimal d.isNegative has.low has.high
      (by omega) (by omega) (decimalSmall.trans greatestDecimal_le)
    rw [length_decimalDigits has.low has.high] at denoted
    change n.toBinary64 = ofDecimal d.isNegative digits (exponent - 14)
      at denoted
    rw [← denoted] at nearest sign
    refine ⟨nearest.isFinite, ?_, ?_⟩
    · rw [abs_toRat_sub_toRat sign, abs_toRat]
      exact abs_sub_le_of_isNearest has nearest
    · exact scientific_eq finite nearest.isFinite sign has
        (hasDigits_of_isNearest has nearest)

end Binary64

namespace Cursor

open Binary64

/-- A finite double that fifteen digits do not carry beyond the doubles is read
back from its text, which is consumed without a problem, as a finite double.
It may be another one, but it differs by no more than a unit in the fifteenth
digit, and it is written like the first, so that it changes no more. -/
theorem readDouble_settles {c : Cursor} {d : Binary64} {rest : List Char}
    (finite : d.isFinite = true) (small : |d.toRat| ≤ 1.79769313486231e308)
    (ends : EndsToken rest)
    (unread : c.rest = (Value.double d).encodeChars ++ rest) :
    ∃ settled : Binary64, settled.isFinite = true ∧
      c.readDouble =
        (some settled, c.behind (Value.double d).encodeChars rest) ∧
      |settled.toRat - d.toRat| ≤ 10 ^ (-14 : Int) * |d.toRat| ∧
      (Value.double settled).encode = (Value.double d).encode := by
  obtain ⟨n, wellFormed, text, settledFinite, close, written⟩ :=
    exists_numeral_settled finite small
  rw [Value.encodeChars, ← text] at unread ⊢
  refine ⟨n.toBinary64, settledFinite, ?_, close, ?_⟩
  · rw [readDouble, readNumeral_text wellFormed ends unread]
  · rw [Value.encode, Value.encode, Value.encodeChars, Value.encodeChars,
      written]

/-- The double above the one nearest to three tenths comes back as the
latter. -/
theorem readDouble_settles_above_three_tenths :
    (readDouble (.ofText "3.00000000000000e-1, 1")).1 =
        some ⟨0x3FD3333333333333⟩ ∧
      ∃ settled : Binary64, settled.isFinite = true ∧
        readDouble (.ofText "3.00000000000000e-1, 1") =
          (some settled, behind (.ofText "3.00000000000000e-1, 1")
            (Value.double ⟨0x3FD3333333333334⟩).encodeChars ", 1".toList) ∧
        |settled.toRat - toRat ⟨0x3FD3333333333334⟩| ≤
          10 ^ (-14 : Int) * |toRat ⟨0x3FD3333333333334⟩| ∧
        (Value.double settled).encode =
          (Value.double ⟨0x3FD3333333333334⟩).encode := by
  refine ⟨by decide +kernel, readDouble_settles (by decide +kernel) ?_ ?_
    (by decide +kernel)⟩
  · have significand : significand ⟨0x3FD3333333333334⟩ = 5404319552844596 := by
      decide +kernel
    have exponent : exponent ⟨0x3FD3333333333334⟩ = -54 := by decide +kernel
    rw [abs_toRat, magnitude, significand, exponent]
    norm_num
  · intro c found
    cases found
    decide

end Cursor

end GridScript
