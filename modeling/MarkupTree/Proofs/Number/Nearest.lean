import MarkupTree.Proofs.Number.Value
import Mathlib.Algebra.Order.Ring.Abs
import Mathlib.Tactic.Linarith
import Mathlib.Tactic.Positivity

/-! # A decimal is read as the nearest number

Between two magnitudes the one on the side of a quantity is the nearer one, and the side is told
by the midpoint. Magnitudes grow with their ranks (`Format.units_strictMono`), so a rank is
nearest to a quantity of units if it is nearer than its two neighbours; rounding finds it, and
of two equally near ones the even one (`Format.isNearestRank_nearestRank`).

What it is to be the number nearest to a value is said without ranks that stand for no magnitude
(`Number.IsNearest`): a value is too large for the finite magnitudes from the midpoint on
between the largest of them and the next power of two. There is no more than one such number
(`Number.IsNearest.unique`), and a decimal is read as the one nearest to its value
(`Number.isNearest_ofDecimal`).
-/

namespace MarkupTree

section Midpoints

variable {low high quantity : ℚ}

theorem abs_high_le_iff (apart : low < high) :
    |high - quantity| ≤ |low - quantity| ↔ low + high ≤ 2 * quantity := by
  rw [← sq_le_sq]
  constructor
  · intro nearer
    nlinarith
  · intro side
    nlinarith

theorem abs_low_le_iff (apart : low < high) :
    |low - quantity| ≤ |high - quantity| ↔ 2 * quantity ≤ low + high := by
  rw [← sq_le_sq]
  constructor
  · intro nearer
    nlinarith
  · intro side
    nlinarith

/-- Two numbers that are equally near have the quantity as their midpoint. -/
theorem abs_eq_iff_midpoint (apart : low < high) :
    |low - quantity| = |high - quantity| ↔ 2 * quantity = low + high := by
  rw [le_antisymm_iff, abs_low_le_iff apart, abs_high_le_iff apart, ← le_antisymm_iff]

end Midpoints

/-- A rounded quotient is within a half of the quotient, and even if it is a half away. -/
theorem roundQuotient_bounds (numerator : Nat) {denominator : Nat} (positive : 0 < denominator) :
    let rounded := roundQuotient numerator denominator
    2 * numerator ≤ (2 * rounded + 1) * denominator ∧
      2 * rounded * denominator ≤ 2 * numerator + denominator ∧
      (2 * numerator = (2 * rounded + 1) * denominator ∨
        2 * rounded * denominator = 2 * numerator + denominator → rounded % 2 = 0) := by
  have split := Nat.div_add_mod numerator denominator
  have small := Nat.mod_lt numerator positive
  unfold roundQuotient
  dsimp only
  generalize numerator / denominator = quotient at split ⊢
  generalize numerator % denominator = remainder at split small ⊢
  subst split
  have whole : (2 * quotient + 1) * denominator = 2 * (denominator * quotient) + denominator := by
    ring
  have whole' : 2 * quotient * denominator = 2 * (denominator * quotient) := by ring
  have next : (2 * (quotient + 1) + 1) * denominator =
      2 * (denominator * quotient) + 3 * denominator := by ring
  have next' : 2 * (quotient + 1) * denominator =
      2 * (denominator * quotient) + 2 * denominator := by ring
  split
  · omega
  · split
    · omega
    · rcases Nat.mod_two_eq_zero_or_one quotient with even | odd
      · simp only [even, Nat.add_zero]
        exact ⟨by omega, by omega, fun _ => trivial⟩
      · simp only [odd]
        exact ⟨by omega, by omega, fun _ => by omega⟩

namespace Format

variable (format : Format)

theorem binade_pos : 0 < format.binade := Nat.two_pow_pos _

/-- In a stretch of one binade, or of the two binades from zero on, magnitudes have the same
distance. The end of the stretch is the beginning of the next one. -/
theorem units_of_stretch {doublings place : Nat} (low : doublings = 0 ∨ format.binade ≤ place)
    (high : place ≤ 2 * format.binade) :
    format.units (doublings * format.binade + place) = place * 2 ^ doublings := by
  have positive := format.binade_pos
  unfold Format.units
  rw [Nat.pow_eq]
  rcases Nat.lt_or_ge place format.binade with first | normal
  · -- Below the first binade ranks count units.
    obtain rfl : doublings = 0 := low.resolve_right (Nat.not_le.mpr first)
    simp only [Nat.zero_mul, Nat.zero_add, first, ↓reduceIte, Nat.pow_zero, Nat.mul_one]
  · have large : ¬ doublings * format.binade + place < format.binade := by omega
    rw [if_neg large, Nat.add_comm (doublings * _) place, Nat.add_mul_div_right _ _ positive,
      Nat.add_mul_mod_self_right]
    rcases Nat.lt_or_ge place (2 * format.binade) with inside | behind
    · obtain ⟨rest, rfl⟩ := Nat.exists_eq_add_of_le normal
      have small : rest < format.binade := by omega
      rw [Nat.add_div_left _ positive, Nat.div_eq_of_lt small, Nat.add_mod_left,
        Nat.mod_eq_of_lt small, Nat.zero_add, Nat.add_sub_cancel_left]
    · obtain rfl : place = 2 * format.binade := Nat.le_antisymm high behind
      rw [Nat.mul_div_cancel _ positive, Nat.mul_mod_left, Nat.add_zero]
      have power : 2 + doublings - 1 = doublings + 1 := by omega
      rw [power, Nat.pow_succ]
      ring

/-- Every rank is in a stretch, and not at its end. -/
theorem exists_stretch (rank : Nat) :
    ∃ doublings place, rank = doublings * format.binade + place ∧
      (doublings = 0 ∨ format.binade ≤ place) ∧ place < 2 * format.binade := by
  have positive := format.binade_pos
  have split := Nat.div_add_mod' rank format.binade
  have inside := Nat.mod_lt rank positive
  by_cases first : rank / format.binade = 0
  · refine ⟨0, rank, by omega, .inl rfl, ?_⟩
    rw [first] at split
    omega
  · refine ⟨rank / format.binade - 1, format.binade + rank % format.binade, ?_, ?_, ?_⟩
    · have counted : (rank / format.binade - 1 + 1) * format.binade =
          rank / format.binade * format.binade := by
        rw [Nat.sub_add_cancel (Nat.one_le_iff_ne_zero.mpr first)]
      rw [Nat.succ_mul] at counted
      omega
    · exact .inr (Nat.le_add_right _ _)
    · omega

theorem units_strictMono : StrictMono format.units := by
  apply strictMono_nat_of_lt_succ
  intro rank
  obtain ⟨doublings, place, rfl, low, high⟩ := format.exists_stretch rank
  have next : doublings = 0 ∨ format.binade ≤ place + 1 := low.imp_right fun low => by omega
  rw [Nat.add_assoc, format.units_of_stretch low high.le, format.units_of_stretch next high]
  exact Nat.mul_lt_mul_of_pos_right (Nat.lt_succ_self place) (Nat.two_pow_pos _)

/-- A rank is nearest to a quantity of units if the magnitude of no other rank is nearer. Of two
that are equally near it is the even one. -/
structure IsNearestRank (quantity : ℚ) (rank : Nat) : Prop where
  least : ∀ other,
    |(format.units rank : ℚ) - quantity| ≤ |(format.units other : ℚ) - quantity|
  even : ∀ other ≠ rank,
    |(format.units other : ℚ) - quantity| = |(format.units rank : ℚ) - quantity| → rank % 2 = 0

section Midpoints

variable {format} {numerator denominator rank : Nat}

/-- A rank is nearest if the quotient is on its side of all midpoints, and a midpoint itself
only if the rank is even. -/
theorem isNearestRank_of_midpoints (positive : 0 < denominator)
    (above : ∀ upper, rank < upper →
      2 * numerator ≤ (format.units rank + format.units upper) * denominator ∧
        (2 * numerator = (format.units rank + format.units upper) * denominator → rank % 2 = 0))
    (below : ∀ lower, lower < rank →
      (format.units lower + format.units rank) * denominator ≤ 2 * numerator ∧
        ((format.units lower + format.units rank) * denominator = 2 * numerator →
          rank % 2 = 0)) :
    format.IsNearestRank (numerator / denominator) rank := by
  have divisor : (0 : ℚ) < denominator := Nat.cast_pos.mpr positive
  have apart {lower upper : Nat} (less : lower < upper) :
      (format.units lower : ℚ) < format.units upper :=
    Nat.cast_lt.mpr (format.units_strictMono less)
  have low (total : Nat) : 2 * ((numerator : ℚ) / denominator) ≤ total ↔
      2 * numerator ≤ total * denominator := by
    rw [← mul_div_assoc, div_le_iff₀ divisor]
    exact_mod_cast Iff.rfl
  have high (total : Nat) : (total : ℚ) ≤ 2 * ((numerator : ℚ) / denominator) ↔
      total * denominator ≤ 2 * numerator := by
    rw [← mul_div_assoc, le_div_iff₀ divisor]
    exact_mod_cast Iff.rfl
  have equal (total : Nat) : 2 * ((numerator : ℚ) / denominator) = total ↔
      2 * numerator = total * denominator := by
    rw [le_antisymm_iff, low, high, ← le_antisymm_iff]
  constructor
  · intro other
    rcases lt_trichotomy other rank with lower | rfl | upper
    · rw [abs_high_le_iff (apart lower), ← Nat.cast_add, high]
      exact (below other lower).1
    · exact le_rfl
    · rw [abs_low_le_iff (apart upper), ← Nat.cast_add, low]
      exact (above other upper).1
  · intro other different same
    rcases lt_or_gt_of_ne different with lower | upper
    · rw [abs_eq_iff_midpoint (apart lower), ← Nat.cast_add, equal] at same
      exact (below other lower).2 same.symm
    · rw [eq_comm, abs_eq_iff_midpoint (apart upper), ← Nat.cast_add, equal] at same
      exact (above other upper).2 same

end Midpoints

section Stretches

variable {format} {numerator denominator doublings place : Nat}

/-- What lies above a place of a stretch lies above its next place, too. -/
theorem le_units_above (low : doublings = 0 ∨ format.binade ≤ place)
    (high : place ≤ 2 * format.binade) {upper : Nat}
    (greater : doublings * format.binade + place < upper) :
    (place + 1) * 2 ^ doublings ≤ format.units upper := by
  have positive := format.binade_pos
  have mono := format.units_strictMono.monotone (Nat.succ_le_of_lt greater)
  refine Nat.le_trans ?_ mono
  rcases Nat.lt_or_ge place (2 * format.binade) with inside | behind
  · have next : doublings = 0 ∨ format.binade ≤ place + 1 := low.imp_right fun low => by omega
    rw [Nat.succ_eq_add_one, Nat.add_assoc, format.units_of_stretch next inside]
  · -- Behind the end of the stretch the distance is twice as large.
    obtain rfl : place = 2 * format.binade := Nat.le_antisymm high behind
    have rank : (doublings * format.binade + 2 * format.binade).succ =
        (doublings + 1) * format.binade + (format.binade + 1) := by
      rw [Nat.succ_eq_add_one]
      ring
    rw [rank, format.units_of_stretch (.inr (Nat.le_add_right _ _)) (by omega), Nat.pow_succ]
    calc (2 * format.binade + 1) * 2 ^ doublings
        ≤ (2 * format.binade + 2) * 2 ^ doublings := Nat.mul_le_mul_right _ (by omega)
      _ = (format.binade + 1) * (2 ^ doublings * 2) := by ring

/-- What lies below a place of a stretch that is not its beginning lies below the place before,
too. -/
theorem units_below_le (low : doublings = 0 ∨ format.binade ≤ place)
    (high : place + 1 ≤ 2 * format.binade) {lower : Nat}
    (less : lower < doublings * format.binade + (place + 1)) :
    format.units lower ≤ place * 2 ^ doublings := by
  have mono := format.units_strictMono.monotone (Nat.le_of_lt_succ less)
  rw [Nat.add_eq, format.units_of_stretch low (by omega)] at mono
  exact mono

/-- The midpoint to a magnitude above lies half a distance above at least. -/
theorem midpoint_above (denominator : Nat) (low : doublings = 0 ∨ format.binade ≤ place)
    (high : place ≤ 2 * format.binade) {upper : Nat}
    (greater : doublings * format.binade + place < upper) :
    (2 * place + 1) * (denominator * 2 ^ doublings) ≤
      (format.units (doublings * format.binade + place) + format.units upper) * denominator := by
  rw [format.units_of_stretch low high]
  calc (2 * place + 1) * (denominator * 2 ^ doublings)
      = (place * 2 ^ doublings + (place + 1) * 2 ^ doublings) * denominator := by ring
    _ ≤ _ := Nat.mul_le_mul_right _ (Nat.add_le_add_left (le_units_above low high greater) _)

/-- The midpoint to a magnitude below lies half a distance below at least, if the place is not the
beginning of the stretch. -/
theorem midpoint_below (denominator : Nat) (low : doublings = 0 ∨ format.binade ≤ place)
    (high : place + 1 ≤ 2 * format.binade) {lower : Nat}
    (less : lower < doublings * format.binade + (place + 1)) :
    (format.units lower + format.units (doublings * format.binade + (place + 1))) * denominator +
        denominator * 2 ^ doublings ≤ 2 * (place + 1) * (denominator * 2 ^ doublings) := by
  rw [format.units_of_stretch (low.imp_right fun low => Nat.le_succ_of_le low) high]
  calc (format.units lower + (place + 1) * 2 ^ doublings) * denominator +
        denominator * 2 ^ doublings
      ≤ (place * 2 ^ doublings + (place + 1) * 2 ^ doublings) * denominator +
          denominator * 2 ^ doublings :=
        Nat.add_le_add_right (Nat.mul_le_mul_right _
          (Nat.add_le_add_right (units_below_le low high less) _)) _
    _ = 2 * (place + 1) * (denominator * 2 ^ doublings) := by ring

/-- The midpoint to a magnitude below lies below the beginning of the stretch. -/
theorem midpoint_below_beginning (positive : 0 < denominator) {lower : Nat}
    (less : lower < doublings * format.binade + format.binade) :
    (format.units lower + format.units (doublings * format.binade + format.binade)) *
      denominator < 2 * (format.binade * (denominator * 2 ^ doublings)) := by
  have smaller := format.units_strictMono less
  have units : format.units (doublings * format.binade + format.binade) =
      format.binade * 2 ^ doublings :=
    format.units_of_stretch (.inr le_rfl) (Nat.le_mul_of_pos_left format.binade two_pos)
  calc (format.units lower + format.units (doublings * format.binade + format.binade)) *
        denominator
      < 2 * format.units (doublings * format.binade + format.binade) * denominator :=
        Nat.mul_lt_mul_of_pos_right (by omega) positive
    _ = 2 * (format.binade * (denominator * 2 ^ doublings)) := by
        rw [units]
        ring

/-- Ranks in a stretch have the parity of their places. -/
theorem stretch_mod_two (precise : 2 ≤ format.precision) (doublings place : Nat) :
    (doublings * format.binade + place) % 2 = place % 2 := by
  obtain ⟨places, counted⟩ := Nat.exists_eq_add_of_le' precise
  have binade : format.binade = 2 ^ places * 2 := by
    rw [Format.binade, Nat.pow_eq, counted, ← Nat.pow_succ]
    rfl
  rw [binade, ← Nat.mul_assoc, Nat.add_comm, Nat.add_mul_mod_self_right]

/-- The place in a stretch that is nearest among whole places is nearest to a quotient of the
stretch. -/
theorem isNearestRank_of_stretch (precise : 2 ≤ format.precision) (positive : 0 < denominator)
    (low : doublings = 0 ∨ format.binade ≤ place) (high : place ≤ 2 * format.binade)
    (reached : doublings = 0 ∨ format.binade * (denominator * 2 ^ doublings) ≤ numerator)
    (upper : 2 * numerator ≤ (2 * place + 1) * (denominator * 2 ^ doublings))
    (lower : 2 * place * (denominator * 2 ^ doublings) ≤
      2 * numerator + denominator * 2 ^ doublings)
    (even : 2 * numerator = (2 * place + 1) * (denominator * 2 ^ doublings) ∨
      2 * place * (denominator * 2 ^ doublings) = 2 * numerator + denominator * 2 ^ doublings →
        place % 2 = 0) :
    format.IsNearestRank (numerator / denominator) (doublings * format.binade + place) := by
  apply isNearestRank_of_midpoints positive
  · intro other greater
    have midpoint := midpoint_above denominator low high greater
    refine ⟨upper.trans midpoint, fun equal => ?_⟩
    rw [stretch_mod_two precise]
    exact even (.inl (le_antisymm upper (equal ▸ midpoint)))
  · intro other less
    by_cases beginning : doublings ≠ 0 ∧ place = format.binade
    · -- At the beginning of a stretch the quotient is not below the magnitude itself.
      obtain ⟨doubled, rfl⟩ := beginning
      have strict := Nat.lt_of_lt_of_le (midpoint_below_beginning positive less)
        (Nat.mul_le_mul_left 2 (reached.resolve_left doubled))
      exact ⟨strict.le, fun equal => absurd equal strict.ne⟩
    · have present : place ≠ 0 := by
        rintro rfl
        have none : doublings = 0 := low.resolve_right (Nat.not_le.mpr format.binade_pos)
        rw [none, Nat.zero_mul] at less
        exact Nat.not_lt_zero _ less
      obtain ⟨before, rfl⟩ := Nat.exists_eq_add_one_of_ne_zero present
      have lowBefore : doublings = 0 ∨ format.binade ≤ before := by
        by_cases none : doublings = 0
        · exact .inl none
        · have inside : before + 1 ≠ format.binade := fun same => beginning ⟨none, same⟩
          have reached : format.binade ≤ before + 1 := low.resolve_left none
          exact .inr (by omega)
      have midpoint := midpoint_below denominator lowBefore high less
      refine ⟨by omega, fun equal => ?_⟩
      rw [stretch_mod_two precise]
      exact even (.inr (by omega))

end Stretches

/-- The doublings that rounding counts bring a quotient into their stretch. -/
theorem quotient_in_stretch (precise : 0 < format.precision) (numerator : Nat) {denominator : Nat}
    (positive : 0 < denominator) :
    let doublings := Nat.log2 (numerator / denominator) + 1 - format.precision
    numerator < 2 * format.binade * (denominator * 2 ^ doublings) ∧
      (doublings = 0 ∨ format.binade * (denominator * 2 ^ doublings) ≤ numerator) := by
  intro doublings
  have binades : 2 * format.binade = 2 ^ format.precision := by
    rw [binade, Nat.pow_eq, ← Nat.pow_succ', Nat.succ_eq_add_one, Nat.sub_add_cancel precise]
  constructor
  · have digits : numerator / denominator < 2 ^ (format.precision + doublings) :=
      Nat.lt_of_lt_of_le Nat.lt_log2_self (Nat.pow_le_pow_right (by decide) (by omega))
    rw [Nat.div_lt_iff_lt_mul positive, Nat.pow_add] at digits
    rw [binades]
    calc numerator < 2 ^ format.precision * 2 ^ doublings * denominator := digits
      _ = 2 ^ format.precision * (denominator * 2 ^ doublings) := by ring
  · by_cases none : doublings = 0
    · exact .inl none
    · right
      have nonzero : numerator / denominator ≠ 0 := by
        intro zero
        have few : doublings = 0 := by
          simp only [doublings, zero, Nat.log2_zero]
          omega
        exact none few
      have digits : 2 ^ (format.precision - 1 + doublings) ≤ numerator / denominator :=
        (Nat.le_log2 nonzero).mp (by omega)
      rw [Nat.le_div_iff_mul_le positive, Nat.pow_add] at digits
      calc format.binade * (denominator * 2 ^ doublings)
          = 2 ^ (format.precision - 1) * 2 ^ doublings * denominator := by
            rw [binade, Nat.pow_eq]
            ring
        _ ≤ numerator := digits

/-- **Rounding finds the nearest rank**, and the even one of two that are equally near. -/
theorem isNearestRank_nearestRank (precise : 2 ≤ format.precision) (numerator : Nat)
    {denominator : Nat} (positive : 0 < denominator) :
    format.IsNearestRank (numerator / denominator) (format.nearestRank numerator denominator) := by
  obtain ⟨below, above⟩ := format.quotient_in_stretch (by omega) numerator positive
  unfold nearestRank
  dsimp only
  generalize Nat.log2 (numerator / denominator) + 1 - format.precision = doublings at below above ⊢
  have scale : 0 < denominator * 2 ^ doublings := Nat.mul_pos positive (Nat.two_pow_pos _)
  obtain ⟨upper, lower, even⟩ := roundQuotient_bounds numerator scale
  rw [Nat.pow_eq]
  generalize roundQuotient numerator (denominator * 2 ^ doublings) = place at upper lower even ⊢
  have low : doublings = 0 ∨ format.binade ≤ place := by
    refine above.imp_right fun above => ?_
    have bound : 2 * format.binade * (denominator * 2 ^ doublings) ≤
        (2 * place + 1) * (denominator * 2 ^ doublings) := by
      rw [Nat.mul_assoc]
      exact (Nat.mul_le_mul_left 2 above).trans upper
    have places := Nat.le_of_mul_le_mul_right bound scale
    omega
  have high : place ≤ 2 * format.binade := by
    have bound : 2 * place * (denominator * 2 ^ doublings) <
        (4 * format.binade + 1) * (denominator * 2 ^ doublings) := by
      calc 2 * place * (denominator * 2 ^ doublings)
          ≤ 2 * numerator + denominator * 2 ^ doublings := lower
        _ < 2 * (2 * format.binade * (denominator * 2 ^ doublings)) +
              denominator * 2 ^ doublings := by omega
        _ = (4 * format.binade + 1) * (denominator * 2 ^ doublings) := by ring
    have places := Nat.lt_of_mul_lt_mul_right bound
    omega
  exact isNearestRank_of_stretch precise positive low high above upper lower even

end Format

namespace Magnitude

theorem eq_of_rank {first second : Magnitude} (same : first.rank = second.rank) :
    first = second := by
  obtain ⟨rank, rank_lt⟩ := first
  subst same
  rfl

/-- The rational number that a magnitude is. -/
def value (magnitude : Magnitude) : ℚ := magnitude.units / 2 ^ Format.binary64.unitShift

/-- Distances between values are distances in units, but for the scale. -/
theorem abs_value_sub (magnitude : Magnitude) (quantity : ℚ) :
    |magnitude.value - quantity| =
      |magnitude.units - quantity * 2 ^ Format.binary64.unitShift| /
        2 ^ Format.binary64.unitShift := by
  have positive : (0 : ℚ) < 2 ^ Format.binary64.unitShift := by positivity
  rw [eq_div_iff positive.ne', ← abs_of_pos positive, ← abs_mul, abs_of_pos positive, sub_mul,
    value, div_mul_cancel₀ _ positive.ne']

theorem value_lt_of_rank_lt {first second : Magnitude} (less : first.rank < second.rank) :
    first.value < second.value := by
  have positive : (0 : ℚ) < 2 ^ Format.binary64.unitShift := by positivity
  exact div_lt_div_of_pos_right (Nat.cast_lt.mpr (Format.binary64.units_strictMono less)) positive

end Magnitude

namespace Number

/-- The least value that is too large for a finite number: the midpoint between the largest
finite magnitude and two to the power of 1024. -/
def overflow : ℚ := 2 ^ 1024 - 2 ^ 970

/-- A number is nearest to a value with a sign if it has the sign and no magnitude is nearer to
the value than its own. Of two that are equally near it is the one of even rank, that is, whose
last binary digit is zero. A value that is too large is nearest to infinity. -/
inductive IsNearest (negative : Bool) (value : ℚ) : Number → Prop where
  | finite {magnitude : Magnitude} (fits : value < overflow)
    (least : ∀ other : Magnitude, |magnitude.value - value| ≤ |other.value - value|)
    (even : ∀ other : Magnitude, other ≠ magnitude →
      |other.value - value| = |magnitude.value - value| → magnitude.rank % 2 = 0) :
    IsNearest negative value (.finite negative magnitude)
  | infinite (beyond : overflow ≤ value) : IsNearest negative value (.infinite negative)

/-- The midpoint behind the largest finite magnitude, in units. -/
theorem overflow_in_units :
    2 * (overflow * 2 ^ Format.binary64.unitShift) =
      (Format.binary64.units (Format.binary64.limit - 1) +
        Format.binary64.units Format.binary64.limit : ℕ) := by
  have units : Format.binary64.units (Format.binary64.limit - 1) +
      Format.binary64.units Format.binary64.limit = (2 ^ 54 - 1) * 2 ^ 2045 := by
    decide +kernel
  have shift : Format.binary64.unitShift = 1074 := rfl
  have first : (2 : ℚ) ^ 1024 = 2 ^ 54 * 2 ^ 970 := (pow_add 2 54 970)
  have second : (2 : ℚ) ^ 2045 = 2 * (2 ^ 970 * 2 ^ 1074) := by rw [← pow_add, ← pow_succ']
  have digits : ((2 ^ 54 - 1 : ℕ) : ℚ) = 2 ^ 54 - 1 := by norm_num
  rw [units, shift, overflow, first, Nat.cast_mul, Nat.cast_pow, Nat.cast_ofNat, second, digits]
  generalize (2 : ℚ) ^ 970 = scale
  generalize (2 : ℚ) ^ 1074 = shift
  ring

/-- The nearest rank stands for a finite magnitude if the value does not overflow. -/
theorem rank_lt_limit_iff {value : ℚ} {rank : Nat}
    (nearest : Format.binary64.IsNearestRank (value * 2 ^ Format.binary64.unitShift) rank) :
    rank < Format.binary64.limit ↔ value < overflow := by
  have positive : (0 : ℚ) < 2 ^ Format.binary64.unitShift := by positivity
  have inUnits : value < overflow ↔
      2 * (value * 2 ^ Format.binary64.unitShift) <
        (Format.binary64.units (Format.binary64.limit - 1) +
          Format.binary64.units Format.binary64.limit : ℕ) := by
    rw [← overflow_in_units, mul_lt_mul_iff_right₀ two_pos, mul_lt_mul_iff_left₀ positive]
  have mono := Format.binary64.units_strictMono
  have apart {lower upper : Nat} (less : lower < upper) :
      (Format.binary64.units lower : ℚ) < Format.binary64.units upper :=
    Nat.cast_lt.mpr (mono less)
  have odd : (Format.binary64.limit - 1) % 2 ≠ 0 := by decide
  rw [inUnits, Nat.cast_add]
  constructor
  · intro fits
    have side := (abs_low_le_iff (apart fits)).mp (nearest.least Format.binary64.limit)
    rcases Nat.lt_or_eq_of_le (Nat.le_sub_one_of_lt fits) with lower | rfl
    · have smaller := apart lower
      linarith
    · -- The largest magnitude is odd, so it gives way at the midpoint.
      refine lt_of_le_of_ne side fun equal => odd ?_
      have same := (abs_eq_iff_midpoint (apart fits)).mpr equal
      exact nearest.even Format.binary64.limit fits.ne' same.symm
  · intro below
    by_contra large
    have high : Format.binary64.limit ≤ rank := not_lt.mp large
    have less : Format.binary64.limit - 1 < rank :=
      Nat.lt_of_lt_of_le (by decide) high
    have side := (abs_high_le_iff (apart less)).mp (nearest.least (Format.binary64.limit - 1))
    have larger : (Format.binary64.units Format.binary64.limit : ℚ) ≤ Format.binary64.units rank :=
      Nat.cast_le.mpr (mono.monotone high)
    linarith

/-- **A decimal is read as the number nearest to its value.** -/
theorem isNearest_ofDecimal (negative : Bool) (decimal : Decimal) :
    (ofDecimal negative decimal).IsNearest negative decimal.value := by
  have positive : (0 : ℚ) < 2 ^ Format.binary64.unitShift := by positivity
  have nearest := Format.binary64.isNearestRank_nearestRank (by decide)
    (decimal.inUnits Format.binary64).1 (decimal.inUnits_positive Format.binary64)
  rw [Decimal.inUnits_value] at nearest
  rw [ofDecimal_eq]
  unfold ofUnits
  dsimp only
  split
  · next fits =>
    refine .finite ((rank_lt_limit_iff nearest).mp fits) (fun other => ?_) ?_
    · rw [Magnitude.abs_value_sub, Magnitude.abs_value_sub]
      exact div_le_div_of_nonneg_right (nearest.least other.rank) positive.le
    · intro other different equal
      rw [Magnitude.abs_value_sub, Magnitude.abs_value_sub, div_left_inj' positive.ne'] at equal
      exact nearest.even other.rank (fun same => different (Magnitude.eq_of_rank same)) equal
  · next beyond => exact .infinite (not_lt.mp (mt (rank_lt_limit_iff nearest).mpr beyond))

/-- Between two magnitudes of even rank there is one that is nearer to their midpoint. -/
theorem IsNearest.rank_le {negative : Bool} {value : ℚ} {first second : Magnitude}
    (firstNearest : (Number.finite negative first).IsNearest negative value)
    (secondNearest : (Number.finite negative second).IsNearest negative value) :
    second.rank ≤ first.rank := by
  cases firstNearest with
  | finite _ firstLeast firstEven =>
  cases secondNearest with
  | finite _ secondLeast secondEven =>
  by_contra larger
  have less : first.rank < second.rank := not_le.mp larger
  have different : first ≠ second := fun same => less.ne (congrArg Magnitude.rank same)
  have equal : |first.value - value| = |second.value - value| :=
    le_antisymm (firstLeast second) (secondLeast first)
  have midpoint := (abs_eq_iff_midpoint (Magnitude.value_lt_of_rank_lt less)).mp equal
  have low := firstEven second different.symm equal.symm
  have high := secondEven first different equal
  have between : first.rank + 1 < second.rank := by omega
  obtain ⟨middle, rank⟩ : ∃ middle : Magnitude, middle.rank = first.rank + 1 :=
    ⟨⟨first.rank + 1, between.trans second.rank_lt⟩, rfl⟩
  have above : first.value < middle.value :=
    Magnitude.value_lt_of_rank_lt (rank ▸ Nat.lt_succ_self _)
  have below : middle.value < second.value := Magnitude.value_lt_of_rank_lt (rank ▸ between)
  have side := (abs_low_le_iff above).mp (firstLeast middle)
  linarith

/-- **There is one nearest number at most.** -/
theorem IsNearest.unique {negative : Bool} {value : ℚ} {first second : Number}
    (firstNearest : first.IsNearest negative value)
    (secondNearest : second.IsNearest negative value) : first = second := by
  have firstGiven := firstNearest
  have secondGiven := secondNearest
  cases firstNearest with
  | infinite beyond =>
      cases secondNearest with
      | infinite _ => rfl
      | finite fits _ _ => exact absurd fits (not_lt.mpr beyond)
  | @finite firstMagnitude fits _ _ =>
      cases secondNearest with
      | infinite beyond => exact absurd fits (not_lt.mpr beyond)
      | @finite secondMagnitude _ _ _ =>
          have rank := le_antisymm (secondGiven.rank_le firstGiven)
            (firstGiven.rank_le secondGiven)
          rw [Magnitude.eq_of_rank rank]

end Number

end MarkupTree
