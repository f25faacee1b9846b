import MarkupTree.Number.Layout
import MarkupTree.Proofs.Number.Value

/-! # The digits of a number are read back as that number

Whether a magnitude is written with all its digits or with the fewest that tell it from its
neighbours, reading gives the magnitude again (`Number.ofDecimal_shortest`). A whole
number that JSON writes as an integer comes back too (`Number.ofDecimal_safeInteger`), but
for the sign of zero: an integer has no negative zero (`Number.unsignZero`).
-/

namespace MarkupTree

/-- Every magnitude is the one nearest to it. -/
theorem Magnitude.nearestRank_units (magnitude : Magnitude) :
    Format.binary64.nearestRank magnitude.units 1 = magnitude.rank :=
  Format.nearestRank_units _ (by decide) magnitude.rank

/-- All digits of a magnitude are read as the magnitude. -/
theorem Number.ofDecimal_toDecimal (negative : Bool) (magnitude : Magnitude) :
    ofDecimal negative magnitude.toDecimal = .finite negative magnitude := by
  rw [ofDecimal_eq]
  apply ofUnits_of_rank
  unfold Magnitude.toDecimal
  rw [Decimal.inUnits_eq]
  generalize Format.binary64.unitShift = shift
  have whole : (-(shift : Int)).toNat = 0 := by omega
  have places : (-(-(shift : Int))).toNat = shift := by omega
  have tens : 10 ^ shift = Nat.pow 5 shift * 2 ^ shift := Nat.mul_pow 5 2 shift
  rw [whole, places, Nat.pow_zero, Nat.mul_one, Nat.mul_assoc, ← tens]
  calc Format.binary64.nearestRank (magnitude.units * 10 ^ shift) (10 ^ shift)
      = Format.binary64.nearestRank (magnitude.units * 10 ^ shift) (1 * 10 ^ shift) := by
        rw [Nat.one_mul]
    _ = Format.binary64.nearestRank magnitude.units 1 :=
        Format.nearestRank_mul _ _ _ (Nat.pow_pos (by decide))
    _ = magnitude.rank := magnitude.nearestRank_units

/-- A decimal that stands for a magnitude is read as it. -/
theorem Number.ofDecimal_of_isReadFrom (negative : Bool) {magnitude : Magnitude}
    {decimal : Decimal} (read : magnitude.isReadFrom decimal = true) :
    ofDecimal negative decimal = .finite negative magnitude := by
  have rank : decimal.nearestRank Format.binary64 = magnitude.rank := beq_iff_eq.mp read
  exact ofUnits_of_rank negative rank

/-- **Shortest digits lose nothing.** The fewest digits of a magnitude are read as that
magnitude, however ties are broken. -/
theorem Number.ofDecimal_shortest (negative : Bool) (tie : Tie) (magnitude : Magnitude) :
    ofDecimal negative (magnitude.shortest tie) = .finite negative magnitude := by
  unfold Magnitude.shortest
  dsimp only
  rw [ofDecimal_strip]
  generalize search : (List.range magnitude.toDecimal.digitCount).findSome? _ = found
  cases found with
  | none => exact ofDecimal_toDecimal negative magnitude
  | some decimal =>
      obtain ⟨before, kept, after, -, chosen, -⟩ := List.findSome?_eq_some_iff.mp search
      exact ofDecimal_of_isReadFrom negative (List.find?_some chosen)

namespace Number

/-- A decimal without digits is read as zero. -/
theorem ofDecimal_of_zero (negative : Bool) {decimal : Decimal} (zero : decimal.digits = 0) :
    ofDecimal negative decimal = .finite negative .zero := by
  rw [ofDecimal_eq]
  apply ofUnits_of_rank
  apply Format.nearestRank_of_small _ (by decide)
  rw [Decimal.inUnits_of_zero _ zero]
  exact Decimal.inUnits_positive _ _

/-- A magnitude other than zero is written with a digit other than zero. -/
theorem digits_shortest_ne_zero (tie : Tie) {magnitude : Magnitude} (nonzero : magnitude.rank ≠ 0) :
    (magnitude.shortest tie).digits ≠ 0 := by
  intro zero
  have read := ofDecimal_shortest false tie magnitude
  rw [ofDecimal_of_zero false zero] at read
  exact nonzero (congrArg Magnitude.rank (Number.finite.inj read).2).symm

/-- The number without the sign of a zero. -/
def unsignZero : Number → Number
  | .finite negative magnitude => if magnitude.rank = 0 then .zero else .finite negative magnitude
  | other => other

end Number

namespace Magnitude

/-- The lowest rank is that of zero. -/
theorem eq_zero_of_rank {magnitude : Magnitude} (zero : magnitude.rank = 0) :
    magnitude = .zero := by
  obtain ⟨rank, rank_lt⟩ := magnitude
  subst zero
  rfl

private theorem rank_of_units {magnitude : Magnitude} (nothing : magnitude.units = 0) :
    magnitude.rank = 0 := by
  have nearest := magnitude.nearestRank_units
  rw [nothing] at nearest
  exact nearest.symm

private theorem units_of_whole {magnitude : Magnitude} {whole : Nat}
    (integral : magnitude.whole? = some whole) :
    magnitude.units = whole * 2 ^ Format.binary64.unitShift := by
  simp only [whole?] at integral
  generalize Format.binary64.unitShift = shift at integral ⊢
  split at integral
  · next divides =>
    obtain rfl := Option.some.inj integral
    exact (Nat.div_mul_cancel (Nat.dvd_of_mod_eq_zero divides)).symm
  · cases integral

end Magnitude

namespace Number

/-- Whether a number is finite does not depend on the sign of a zero. -/
@[simp] theorem isFinite_unsignZero (value : Number) :
    value.unsignZero.isFinite = value.isFinite := by
  cases value with
  | nan => rfl
  | infinite negative => rfl
  | finite negative magnitude =>
      by_cases zero : magnitude.rank = 0 <;> simp [unsignZero, zero, isFinite, Number.zero]

/-- A finite number is a number. -/
theorem isNan_of_isFinite {value : Number} (finite : value.isFinite = true) :
    value.isNan = false := by
  cases value with
  | nan => cases finite
  | infinite negative => cases finite
  | finite negative magnitude => rfl

/-- What is not a number is the only thing that is not the same as itself. -/
theorem same_self_iff {value : Number} : value.same value = true ↔ value.isNan = false := by
  cases value with
  | nan => exact ⟨nofun, nofun⟩
  | infinite negative => exact iff_of_true (beq_self_eq_true negative) rfl
  | finite negative magnitude => simp [same, isNan]

/-- The sign of a zero does not count in a comparison. -/
@[simp] theorem same_unsignZero_left (value other : Number) :
    value.unsignZero.same other = value.same other := by
  cases value with
  | nan => rfl
  | infinite negative => rfl
  | finite negative magnitude =>
      by_cases zero : magnitude.rank = 0
      · obtain rfl := Magnitude.eq_zero_of_rank zero
        cases other <;> simp [unsignZero, zero, same, Number.zero]
      · simp only [unsignZero, zero, ↓reduceIte]

/-- Losing the sign of a zero is losing nothing that numeric equality sees. -/
theorem same_unsignZero {value : Number} (known : value.isNan = false) :
    value.unsignZero.same value = true := by
  rw [same_unsignZero_left, same_self_iff.mpr known]

/-- Numbers that are told apart by no more than the sign of a zero are the same. -/
theorem same_of_unsignZero {first second : Number} (known : second.isNan = false)
    (equal : first.unsignZero = second.unsignZero) : first.same second = true := by
  rw [← same_unsignZero_left, equal, same_unsignZero known]

private theorem ofDecimal_of_whole (negative : Bool) {magnitude : Magnitude} {whole : Nat}
    (integral : magnitude.whole? = some whole) :
    ofDecimal negative ⟨whole, 0⟩ = .finite negative magnitude := by
  rw [ofDecimal_eq]
  apply ofUnits_of_rank
  have units := Magnitude.units_of_whole integral
  have quotient : Decimal.inUnits Format.binary64 ⟨whole, 0⟩ = (magnitude.units, 1) := by
    rw [Decimal.inUnits_eq, units]
    simp only [Int.toNat_zero, Int.neg_zero, Nat.pow_zero, Nat.mul_one]
  rw [quotient]
  exact magnitude.nearestRank_units

/-- What JSON writes as an integer is read back as the number, but for the sign of a zero. -/
theorem ofDecimal_safeInteger {value : Number} {whole : Int}
    (safe : value.safeInteger? = some whole) :
    ofDecimal (decide (whole < 0)) ⟨whole.natAbs, 0⟩ = value.unsignZero := by
  cases value with
  | nan => cases safe
  | infinite negative => cases safe
  | finite negative magnitude =>
      dsimp only [safeInteger?] at safe
      split at safe
      · next size integral =>
        split at safe
        · obtain rfl := Option.some.inj safe
          have absolute : (if negative then -(size : Int) else size).natAbs = size := by
            split <;> simp
          rw [absolute, ofDecimal_of_whole _ integral]
          by_cases zero : magnitude.rank = 0
          · obtain rfl := Magnitude.eq_zero_of_rank zero
            have nothing : 0 = size * 2 ^ Format.binary64.unitShift :=
              Magnitude.units_of_whole integral
            obtain rfl : size = 0 :=
              (Nat.mul_eq_zero.mp nothing.symm).resolve_right (Nat.two_pow_pos _).ne'
            cases negative <;> rfl
          · have something : size ≠ 0 := by
              rintro rfl
              have units := Magnitude.units_of_whole integral
              rw [Nat.zero_mul] at units
              exact zero (Magnitude.rank_of_units units)
            have sign : decide ((if negative then -(size : Int) else size) < 0) = negative := by
              cases negative with
              | false => simp
              | true => simpa using Nat.pos_of_ne_zero something
            rw [sign]
            simp only [unsignZero, zero, ↓reduceIte]
        · cases safe
      · cases safe

end Number

end MarkupTree
