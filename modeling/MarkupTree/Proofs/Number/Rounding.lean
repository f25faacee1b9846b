import MarkupTree.Number.Decimal
import Mathlib.Tactic.Ring

/-! # Rounding does what its name says

Rounding a quotient of units depends on the quotient alone and not on how it is written
(`Format.nearestRank_congr`), and it leaves a magnitude as it is (`Format.nearestRank_units`).
For decimals this means that the shortcut for huge and for tiny decimals does not show
(`Number.ofDecimal_eq`).
-/

namespace MarkupTree

private theorem roundQuotient_mul (numerator denominator : Nat) {factor : Nat}
    (positive : 0 < factor) :
    roundQuotient (numerator * factor) (denominator * factor) =
      roundQuotient numerator denominator := by
  have quotient : numerator * factor / (denominator * factor) = numerator / denominator :=
    Nat.mul_div_mul_right numerator denominator positive
  have remainder : numerator * factor % (denominator * factor) =
      numerator % denominator * factor := Nat.mul_mod_mul_right factor numerator denominator
  have low : 2 * (numerator % denominator * factor) < denominator * factor ↔
      2 * (numerator % denominator) < denominator := by
    rw [← Nat.mul_assoc]
    exact Nat.mul_lt_mul_right positive
  have high : denominator * factor < 2 * (numerator % denominator * factor) ↔
      denominator < 2 * (numerator % denominator) := by
    rw [← Nat.mul_assoc]
    exact Nat.mul_lt_mul_right positive
  simp only [roundQuotient, quotient, remainder, low, high]

private theorem roundQuotient_mul_self (whole : Nat) {denominator : Nat}
    (positive : 0 < denominator) :
    roundQuotient (whole * denominator) denominator = whole := by
  unfold roundQuotient
  rw [Nat.mul_mod_left, Nat.mul_div_left whole positive]
  simp [positive]

private theorem roundQuotient_of_small {numerator denominator : Nat}
    (small : 2 * numerator < denominator) : roundQuotient numerator denominator = 0 := by
  have below : numerator < denominator := by omega
  unfold roundQuotient
  rw [Nat.mod_eq_of_lt below, Nat.div_eq_of_lt below]
  simp [small]

namespace Format

variable (format : Format)

/-- The nearest rank does not change when the quotient is expanded. -/
theorem nearestRank_mul (numerator denominator : Nat) {factor : Nat} (positive : 0 < factor) :
    format.nearestRank (numerator * factor) (denominator * factor) =
      format.nearestRank numerator denominator := by
  have scaled (power : Nat) : denominator * factor * power = denominator * power * factor := by
    ring
  simp only [nearestRank, Nat.mul_div_mul_right numerator denominator positive, scaled,
    roundQuotient_mul _ _ positive]

/-- Two ways to write one quotient are rounded to the same rank. -/
theorem nearestRank_congr {first firstBelow second secondBelow : Nat}
    (firstPositive : 0 < firstBelow) (secondPositive : 0 < secondBelow)
    (same : first * secondBelow = second * firstBelow) :
    format.nearestRank first firstBelow = format.nearestRank second secondBelow := by
  calc format.nearestRank first firstBelow
      = format.nearestRank (first * secondBelow) (firstBelow * secondBelow) :=
        (format.nearestRank_mul first firstBelow secondPositive).symm
    _ = format.nearestRank (second * firstBelow) (secondBelow * firstBelow) := by
        rw [same, Nat.mul_comm firstBelow secondBelow]
    _ = format.nearestRank second secondBelow :=
        format.nearestRank_mul second secondBelow firstPositive

/-- The binary digits of a magnitude are counted by its binade. -/
theorem log2_units {rank : Nat} (normal : format.binade ≤ rank) :
    Nat.log2 (format.units rank) = format.precision - 1 + (rank / format.binade - 1) := by
  have binadePositive : 0 < format.binade := Nat.two_pow_pos _
  have inside : rank % format.binade < format.binade := Nat.mod_lt rank binadePositive
  have scalePositive : 0 < 2 ^ (rank / format.binade - 1) := Nat.two_pow_pos _
  have units : format.units rank =
      (format.binade + rank % format.binade) * 2 ^ (rank / format.binade - 1) := by
    simp only [Format.units, Nat.not_lt.mpr normal, ↓reduceIte]
    rfl
  have power : 2 ^ (format.precision - 1) = format.binade := rfl
  have nonzero : format.units rank ≠ 0 := by
    rw [units]
    exact (Nat.mul_pos (by omega) scalePositive).ne'
  rw [Nat.log2_eq_iff nonzero, units, Nat.pow_succ, Nat.pow_add, power]
  constructor
  · exact Nat.mul_le_mul_right _ (Nat.le_add_right _ _)
  · rw [Nat.mul_right_comm]
    exact Nat.mul_lt_mul_of_pos_right (by omega) scalePositive

/-- Every magnitude is the one nearest to itself. -/
theorem nearestRank_units (precise : 0 < format.precision) (rank : Nat) :
    format.nearestRank (format.units rank) 1 = rank := by
  have binadePositive : 0 < format.binade := Nat.two_pow_pos _
  by_cases subnormal : rank < format.binade
  · have units : format.units rank = rank := by simp only [Format.units, subnormal, ↓reduceIte]
    have few : Nat.log2 rank + 1 - format.precision = 0 := by
      by_cases zero : rank = 0
      · subst zero
        simp only [Nat.log2_zero]
        omega
      · have bounded : Nat.log2 rank < format.precision - 1 := (Nat.log2_lt zero).mpr subnormal
        omega
    have whole := roundQuotient_mul_self rank Nat.one_pos
    rw [Nat.mul_one] at whole
    simp only [nearestRank, units, Nat.div_one, few]
    simpa using whole
  · have normal : format.binade ≤ rank := Nat.le_of_not_lt subnormal
    have counted : 1 ≤ rank / format.binade := (Nat.one_le_div_iff binadePositive).mpr normal
    have doublings : Nat.log2 (format.units rank) + 1 - format.precision =
        rank / format.binade - 1 := by
      rw [format.log2_units normal]
      omega
    have scalePositive : 0 < Nat.pow 2 (rank / format.binade - 1) := Nat.two_pow_pos _
    simp only [nearestRank, Nat.div_one, doublings, Nat.one_mul]
    simp only [Format.units, subnormal, ↓reduceIte, roundQuotient_mul_self _ scalePositive]
    -- The binades before this one, and the place in it.
    have split := Nat.div_add_mod rank format.binade
    have binades : (rank / format.binade - 1) * format.binade + format.binade =
        format.binade * (rank / format.binade) := by
      rw [← Nat.succ_mul, Nat.succ_eq_add_one, Nat.sub_add_cancel counted, Nat.mul_comm]
    omega

/-- A quotient of less than half a unit is rounded to zero. -/
theorem nearestRank_of_small {numerator denominator : Nat}
    (precise : 0 < format.precision) (small : 2 * numerator < denominator) :
    format.nearestRank numerator denominator = 0 := by
  have below : numerator / denominator = 0 := Nat.div_eq_of_lt (by omega)
  have few : 0 + 1 - format.precision = 0 := by omega
  simp only [nearestRank, below, Nat.log2_zero, few, Nat.zero_mul, Nat.zero_add]
  exact roundQuotient_of_small (by simpa using small)

/-- A quotient with many binary digits is rounded to a high rank. -/
theorem le_nearestRank {numerator denominator digits : Nat}
    (large : 2 ^ digits ≤ numerator / denominator) :
    (digits + 1 - format.precision) * format.binade ≤
      format.nearestRank numerator denominator := by
  have nonzero : numerator / denominator ≠ 0 := by
    have := Nat.two_pow_pos digits
    omega
  have many : digits ≤ Nat.log2 (numerator / denominator) := (Nat.le_log2 nonzero).mpr large
  refine Nat.le_trans (Nat.mul_le_mul_right _ ?_) (Nat.le_add_right _ _)
  omega

end Format

namespace Decimal

/-- The quotient of a decimal, with both powers of ten written out. -/
theorem inUnits_eq (format : Format) (decimal : Decimal) :
    decimal.inUnits format =
      (decimal.digits * 10 ^ decimal.exponent.toNat * 2 ^ format.unitShift,
        10 ^ (-decimal.exponent).toNat) := by
  obtain ⟨digits, exponent⟩ := decimal
  cases exponent with
  | ofNat exponent => simp [inUnits]
  | negSucc exponent => simp [inUnits, Int.neg_negSucc]

/-- The quotient of a decimal has a denominator. -/
theorem inUnits_positive (format : Format) (decimal : Decimal) :
    0 < (decimal.inUnits format).2 := by
  rw [inUnits_eq]
  exact Nat.pow_pos (by decide)

/-- Without digits a decimal is zero, whatever its exponent. -/
theorem inUnits_of_zero (format : Format) {decimal : Decimal} (zero : decimal.digits = 0) :
    (decimal.inUnits format).1 = 0 := by
  rw [inUnits_eq, zero, Nat.zero_mul, Nat.zero_mul]

/-- A whole decimal grows with its exponent, by three binary digits at least each time. -/
theorem le_inUnits_of_whole {decimal : Decimal} (nonzero : decimal.digits ≠ 0)
    (whole : 0 ≤ decimal.exponent) :
    2 ^ (3 * decimal.exponent.toNat + Format.binary64.unitShift) ≤
      (decimal.inUnits Format.binary64).1 / (decimal.inUnits Format.binary64).2 := by
  have below : (-decimal.exponent).toNat = 0 := by omega
  rw [inUnits_eq, below, Nat.pow_zero, Nat.div_one]
  calc 2 ^ (3 * decimal.exponent.toNat + Format.binary64.unitShift)
      = 8 ^ decimal.exponent.toNat * 2 ^ Format.binary64.unitShift := by
        rw [Nat.pow_add, Nat.pow_mul]
    _ ≤ 10 ^ decimal.exponent.toNat * 2 ^ Format.binary64.unitShift :=
        Nat.mul_le_mul_right _ (Nat.pow_le_pow_left (by decide) _)
    _ ≤ decimal.digits * 10 ^ decimal.exponent.toNat * 2 ^ Format.binary64.unitShift := by
        rw [Nat.mul_assoc]
        exact Nat.le_mul_of_pos_left _ (Nat.pos_of_ne_zero nonzero)

/-- A tiny decimal is less than half a unit. -/
theorem inUnits_lt_of_low {decimal : Decimal}
    (low : Nat.log2 decimal.digits + 1101 ≤ 3 * (-decimal.exponent).toNat) :
    2 * (decimal.inUnits Format.binary64).1 < (decimal.inUnits Format.binary64).2 := by
  have whole : decimal.exponent.toNat = 0 := by omega
  have shift : Format.binary64.unitShift = 1074 := rfl
  rw [inUnits_eq, whole, Nat.pow_zero, Nat.mul_one]
  calc 2 * (decimal.digits * 2 ^ Format.binary64.unitShift)
      < 2 * (2 ^ (Nat.log2 decimal.digits + 1) * 2 ^ Format.binary64.unitShift) := by
        refine Nat.mul_lt_mul_of_pos_left ?_ (by decide)
        exact Nat.mul_lt_mul_of_pos_right Nat.lt_log2_self (Nat.two_pow_pos _)
    _ = 2 ^ (1 + (Nat.log2 decimal.digits + 1 + Format.binary64.unitShift)) := by
        rw [← Nat.pow_add, Nat.pow_add 2 1, Nat.pow_one]
    _ ≤ 2 ^ (3 * (-decimal.exponent).toNat) := Nat.pow_le_pow_right (by decide) (by omega)
    _ = 8 ^ (-decimal.exponent).toNat := Nat.pow_mul 2 3 _
    _ ≤ 10 ^ (-decimal.exponent).toNat := Nat.pow_le_pow_left (by decide) _

end Decimal

namespace Number

/-- A quotient is rounded to a number by its nearest rank alone. -/
theorem ofUnits_congr (negative : Bool) {first firstBelow second secondBelow : Nat}
    (same : Format.binary64.nearestRank first firstBelow =
      Format.binary64.nearestRank second secondBelow) :
    ofUnits negative first firstBelow = ofUnits negative second secondBelow := by
  simp only [ofUnits, same]

/-- A quotient is rounded to the magnitude of its nearest rank. -/
theorem ofUnits_of_rank (negative : Bool) {numerator denominator : Nat} {magnitude : Magnitude}
    (nearest : Format.binary64.nearestRank numerator denominator = magnitude.rank) :
    ofUnits negative numerator denominator = .finite negative magnitude := by
  simp only [ofUnits, nearest, magnitude.rank_lt, ↓reduceDIte]

/-- A huge quotient is rounded to an infinity. -/
theorem ofUnits_of_large (negative : Bool) {numerator denominator digits : Nat}
    (many : 2100 ≤ digits) (large : 2 ^ digits ≤ numerator / denominator) :
    ofUnits negative numerator denominator = .infinite negative := by
  have high := Format.binary64.le_nearestRank large
  have beyond : Format.binary64.limit ≤ (digits + 1 - Format.binary64.precision) *
      Format.binary64.binade := by
    refine Nat.le_trans (m := 2048 * Format.binary64.binade) (by decide) ?_
    refine Nat.mul_le_mul_right _ ?_
    have precision : Format.binary64.precision = 53 := rfl
    omega
  have above : ¬ Format.binary64.nearestRank numerator denominator < Format.binary64.limit :=
    Nat.not_lt.mpr (Nat.le_trans beyond high)
  simp only [ofUnits, above, ↓reduceDIte]

/-- A decimal is read as the number nearest to its value, however large or small it is. -/
theorem ofDecimal_eq (negative : Bool) (decimal : Decimal) :
    ofDecimal negative decimal =
      ofUnits negative (decimal.inUnits Format.binary64).1
        (decimal.inUnits Format.binary64).2 := by
  have shift : Format.binary64.unitShift = 1074 := rfl
  have nothing (tiny : Decimal)
      (small : 2 * (tiny.inUnits Format.binary64).1 < (tiny.inUnits Format.binary64).2) :
      ofUnits negative (tiny.inUnits Format.binary64).1 (tiny.inUnits Format.binary64).2 =
        .finite negative .zero :=
    ofUnits_of_rank negative (Format.nearestRank_of_small _ (by decide) small)
  have without (zero : Decimal) (digits : zero.digits = 0) :
      2 * (zero.inUnits Format.binary64).1 < (zero.inUnits Format.binary64).2 := by
    rw [Decimal.inUnits_of_zero _ digits]
    exact Decimal.inUnits_positive _ _
  have everything (huge : Decimal) (digits : huge.digits ≠ 0) (high : 400 ≤ huge.exponent) :
      ofUnits negative (huge.inUnits Format.binary64).1 (huge.inUnits Format.binary64).2 =
        .infinite negative :=
    ofUnits_of_large negative (by rw [shift]; omega)
      (Decimal.le_inUnits_of_whole digits (Int.le_trans (by decide) high))
  unfold ofDecimal Decimal.bounded
  dsimp only
  split
  · next high =>
    by_cases zero : decimal.digits = 0
    · exact (nothing ⟨_, 400⟩ (without _ zero)).trans (nothing decimal (without _ zero)).symm
    · exact (everything ⟨_, 400⟩ zero le_rfl).trans
        (everything decimal zero (Int.le_of_lt high)).symm
  · split
    · next low =>
      exact (nothing ⟨0, 0⟩ (without _ rfl)).trans
        (nothing decimal (Decimal.inUnits_lt_of_low low)).symm
    · rfl

end Number

end MarkupTree
