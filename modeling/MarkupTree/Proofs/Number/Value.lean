import MarkupTree.Proofs.Number.Rounding
import Mathlib.Algebra.Order.Field.Rat
import Mathlib.Tactic.FieldSimp
import Mathlib.Tactic.NormNum

/-! # The value of a decimal

A decimal denotes a rational number (`Decimal.value`), and reading it sees no more than that:
decimals of the same value have the same nearest number (`Number.ofDecimal_congr`). So a zero
may move from the digits into the exponent (`Number.ofDecimal_shift`).
-/

namespace MarkupTree

namespace Decimal

/-- The rational number that a decimal denotes. -/
def value (decimal : Decimal) : ℚ := decimal.digits * 10 ^ decimal.exponent

/-- Zeros at the end of the digits may as well be counted by the exponent. -/
theorem value_shift (digits zeros : Nat) (exponent : Int) :
    value ⟨digits * 10 ^ zeros, exponent - zeros⟩ = value ⟨digits, exponent⟩ := by
  have ten : (10 : ℚ) ≠ 0 := by norm_num
  have zeros_ne : (10 : ℚ) ^ zeros ≠ 0 := pow_ne_zero zeros ten
  calc value ⟨digits * 10 ^ zeros, exponent - zeros⟩
      = digits * 10 ^ zeros * (10 ^ exponent / 10 ^ zeros) := by
        simp only [value, Nat.cast_mul, Nat.cast_pow, Nat.cast_ofNat, zpow_sub₀ ten, zpow_natCast]
    _ = value ⟨digits, exponent⟩ := by
        rw [value, mul_assoc, mul_div_cancel₀ _ zeros_ne]

/-- The quotient of units that a decimal is read as is its value, times the units in one. -/
theorem inUnits_value (format : Format) (decimal : Decimal) :
    ((decimal.inUnits format).1 : ℚ) / (decimal.inUnits format).2 =
      decimal.value * 2 ^ format.unitShift := by
  obtain ⟨digits, exponent⟩ := decimal
  cases exponent with
  | ofNat exponent => simp [inUnits, value]
  | negSucc exponent =>
      simp only [inUnits, value, zpow_negSucc, Nat.pow_eq, Nat.cast_mul, Nat.cast_pow,
        Nat.cast_ofNat]
      ring

end Decimal

namespace Number

/-- **A decimal is read by its value alone**, however its digits and its exponent share it. -/
theorem ofDecimal_congr (negative : Bool) {first second : Decimal}
    (same : first.value = second.value) :
    ofDecimal negative first = ofDecimal negative second := by
  have positive (decimal : Decimal) : 0 < (decimal.inUnits Format.binary64).2 :=
    Decimal.inUnits_positive _ _
  have below (decimal : Decimal) : ((decimal.inUnits Format.binary64).2 : ℚ) ≠ 0 :=
    Nat.cast_ne_zero.mpr (positive decimal).ne'
  have quotients : ((first.inUnits Format.binary64).1 : ℚ) / (first.inUnits Format.binary64).2 =
      (second.inUnits Format.binary64).1 / (second.inUnits Format.binary64).2 := by
    rw [Decimal.inUnits_value, Decimal.inUnits_value, same]
  rw [div_eq_div_iff (below first) (below second)] at quotients
  rw [ofDecimal_eq, ofDecimal_eq]
  apply ofUnits_congr
  apply Format.nearestRank_congr _ (positive first) (positive second)
  exact_mod_cast quotients

/-- Zeros behind the digits may be traded for powers of ten. -/
theorem ofDecimal_shift (negative : Bool) (digits zeros : Nat) (exponent : Int) :
    ofDecimal negative ⟨digits * 10 ^ zeros, exponent - zeros⟩ =
      ofDecimal negative ⟨digits, exponent⟩ :=
  ofDecimal_congr negative (Decimal.value_shift digits zeros exponent)

/-- Zeros at the end of the digits do not change what is read. -/
theorem ofDecimal_strip (negative : Bool) (decimal : Decimal) :
    ofDecimal negative decimal.strip = ofDecimal negative decimal := by
  fun_induction Decimal.strip decimal with
  | case1 decimal ends ih =>
      rw [ih]
      have shifted := ofDecimal_shift negative (decimal.digits / 10) 1 (decimal.exponent + 1)
      have digits : decimal.digits / 10 * 10 ^ 1 = decimal.digits := by omega
      have exponent : decimal.exponent + 1 - (1 : Nat) = decimal.exponent := by omega
      rw [digits, exponent] at shifted
      exact shifted.symm
  | case2 decimal _ => rfl

end Number

end MarkupTree
