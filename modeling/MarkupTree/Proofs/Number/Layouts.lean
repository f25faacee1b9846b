import MarkupTree.Proofs.Json.Numeral
import MarkupTree.Proofs.Number.ReadBack

/-! # However a number is laid out, its text is a numeral

A layout writes the digits of a decimal plainly, with a point within or in front of them or
with zeros behind them, or it writes an exponent. In each case the text is a numeral of
exactly the value of the decimal (`Layout.exists_numeral`); layouts differ only in the sign of
a positive exponent.
-/

namespace MarkupTree

open Json (Numeral)

/-- A numeral spells a decimal: it stands for the same number whatever the sign. -/
def Json.Numeral.Spells (numeral : Numeral) (decimal : Decimal) : Prop :=
  ∀ negative, Number.ofDecimal negative numeral.decimal = Number.ofDecimal negative decimal

/-- A numeral of the same value spells the decimal. -/
theorem Json.Numeral.spells_of_value {numeral : Numeral} {decimal : Decimal}
    (exact : numeral.decimal.value = decimal.value) : numeral.Spells decimal :=
  fun negative => Number.ofDecimal_congr negative exact

namespace Layout

variable (layout : Layout) {decimal : Decimal}

private theorem exists_numeral_of_whole (nonzero : decimal.digits ≠ 0)
    (whole : 0 ≤ decimal.exponent) :
    ∃ numeral : Numeral, numeral.decimal.value = decimal.value ∧
      layout.plain (Nat.toDigits 10 decimal.digits) decimal.exponent =
        numeral.charsWith layout.plus := by
  obtain ⟨first, rest, digits, proper⟩ := head_toDigits nonzero
  have leading : ∃ first rest, Nat.toDigits 10 decimal.digits ++
      List.replicate decimal.exponent.toNat '0' = first :: rest ∧ first ≠ '0' := by
    rw [digits, List.cons_append]
    exact ⟨first, _, rfl, proper⟩
  -- A layout with a point adds one more zero, behind the point.
  generalize added : (if layout.point then 1 else 0) = count
  refine ⟨⟨_, List.replicate count '0', none, ?_, .inr leading⟩, ?_, ?_⟩
  · simp only [List.mem_append, List.mem_replicate]
    rintro char ((digit | ⟨_, rfl⟩) | ⟨_, rfl⟩)
    · exact isDigit_of_mem_toDigits digit
    · rfl
    · rfl
  · have zeros : Nat.toDigits 10 decimal.digits ++ List.replicate decimal.exponent.toNat '0' ++
        List.replicate count '0' = Nat.toDigits 10 decimal.digits ++
          List.replicate (decimal.exponent.toNat + count) '0' := by
      rw [List.append_assoc, List.replicate_append_replicate]
    have exponent : (0 : Int) - count =
        decimal.exponent - (decimal.exponent.toNat + count : Nat) := by omega
    simp only [Numeral.decimal, Decimal.ofParts, zeros, Nat.ofDigitChars_append,
      Nat.ofDigitChars_ten_toDigits, Nat.ofDigitChars_replicate_zero, Option.getD_none,
      List.length_replicate, exponent]
    rw [Nat.mul_comm]
    exact Decimal.value_shift decimal.digits _ decimal.exponent
  · subst added
    cases pointed : layout.point <;>
      simp [plain, whole, pointed, Numeral.charsWith, Numeral.fractionChars,
        Numeral.exponentCharsWith]

private theorem exists_numeral_of_mixed (nonzero : decimal.digits ≠ 0)
    (places : decimal.exponent < 0)
    (ahead : 0 < (Nat.toDigits 10 decimal.digits).length + decimal.exponent) :
    ∃ numeral : Numeral, numeral.decimal.value = decimal.value ∧
      layout.plain (Nat.toDigits 10 decimal.digits) decimal.exponent =
        numeral.charsWith layout.plus := by
  obtain ⟨first, rest, digits, proper⟩ := head_toDigits nonzero
  generalize count : ((Nat.toDigits 10 decimal.digits).length + decimal.exponent).toNat = taken
  obtain ⟨more, rfl⟩ : ∃ more, taken = more + 1 := ⟨taken - 1, by omega⟩
  have length : (Nat.toDigits 10 decimal.digits).length - (more + 1) =
      (-decimal.exponent).toNat := by omega
  have split := List.take_append_drop (more + 1) (Nat.toDigits 10 decimal.digits)
  have leading : ∃ first rest, (Nat.toDigits 10 decimal.digits).take (more + 1) =
      first :: rest ∧ first ≠ '0' := by
    rw [digits, List.take_succ_cons]
    exact ⟨first, _, rfl, proper⟩
  refine ⟨⟨_, (Nat.toDigits 10 decimal.digits).drop (more + 1), none, ?_, .inr leading⟩, ?_, ?_⟩
  · rw [split]
    exact fun char => isDigit_of_mem_toDigits
  · have exponent : (0 : Int) - (-decimal.exponent).toNat = decimal.exponent := by omega
    simp only [Numeral.decimal, Decimal.ofParts, split, Nat.ofDigitChars_ten_toDigits,
      Option.getD_none, List.length_drop, length, exponent]
  · have fractional : ¬ 0 ≤ decimal.exponent := by omega
    have present : (Nat.toDigits 10 decimal.digits).drop (more + 1) ≠ [] := by
      intro empty
      have none := congrArg List.length empty
      rw [List.length_drop, length, List.length_nil] at none
      omega
    simp [plain, fractional, ahead, count, Numeral.charsWith, Numeral.fractionChars,
      Numeral.exponentCharsWith, present]

private theorem exists_numeral_of_fraction (places : decimal.exponent < 0)
    (ahead : (Nat.toDigits 10 decimal.digits).length + decimal.exponent ≤ 0) :
    ∃ numeral : Numeral, numeral.decimal.value = decimal.value ∧
      layout.plain (Nat.toDigits 10 decimal.digits) decimal.exponent =
        numeral.charsWith layout.plus := by
  generalize zeros : List.replicate
    (-((Nat.toDigits 10 decimal.digits).length + decimal.exponent)).toNat '0' = front
  refine ⟨⟨['0'], front ++ Nat.toDigits 10 decimal.digits, none, ?_, .inl rfl⟩, ?_, ?_⟩
  · subst zeros
    simp only [List.mem_append, List.mem_replicate, List.mem_singleton]
    rintro char (rfl | ⟨_, rfl⟩ | digit)
    · rfl
    · rfl
    · exact isDigit_of_mem_toDigits digit
  · subst zeros
    have exponent : (0 : Int) -
        (((-((Nat.toDigits 10 decimal.digits).length + decimal.exponent)).toNat +
          (Nat.toDigits 10 decimal.digits).length : Nat) : Int) = decimal.exponent := by omega
    have zero : Nat.ofDigitChars 10 ['0'] 0 = 0 := rfl
    simp only [Numeral.decimal, Decimal.ofParts, Nat.ofDigitChars_append, zero,
      Nat.ofDigitChars_replicate_zero, Nat.mul_zero, Nat.ofDigitChars_ten_toDigits,
      Option.getD_none, List.length_append, List.length_replicate, exponent]
  · have fractional : ¬ 0 ≤ decimal.exponent := by omega
    have behind : ¬ 0 < (Nat.toDigits 10 decimal.digits).length + decimal.exponent := by omega
    simp only [plain, fractional, behind, ↓reduceIte, zeros]
    simp [Numeral.charsWith, Numeral.fractionChars, Numeral.exponentCharsWith, Nat.toDigits_ne_nil]

/-- One digit before the point, and an exponent. -/
theorem exists_numeral_of_scientific (nonzero : decimal.digits ≠ 0) :
    ∃ numeral : Numeral, numeral.decimal.value = decimal.value ∧
      layout.scientific (Nat.toDigits 10 decimal.digits)
        ((Nat.toDigits 10 decimal.digits).length - 1 + decimal.exponent) =
          numeral.charsWith layout.plus := by
  obtain ⟨first, rest, digits, proper⟩ := head_toDigits nonzero
  generalize power : ((Nat.toDigits 10 decimal.digits).length : Int) - 1 + decimal.exponent =
    exponent
  refine ⟨⟨[first], rest, some exponent, ?_, .inr ⟨first, [], rfl, proper⟩⟩, ?_, ?_⟩
  · intro char member
    have digit : char ∈ Nat.toDigits 10 decimal.digits := by
      rw [digits]
      exact member
    exact isDigit_of_mem_toDigits digit
  · have value := Nat.ofDigitChars_ten_toDigits (n := decimal.digits)
    rw [digits] at value power
    have last : exponent - rest.length = decimal.exponent := by
      rw [List.length_cons] at power
      omega
    simp only [Numeral.decimal, Decimal.ofParts, List.singleton_append, value, Option.getD_some,
      last]
  · have text : layout.scientific (Nat.toDigits 10 decimal.digits) exponent =
        layout.scientific (first :: rest) exponent := by rw [digits]
    rw [text]
    cases rest <;>
      simp [scientific, Numeral.charsWith, Numeral.fractionChars, Numeral.exponentCharsWith]

/-- However a decimal is laid out, its text is a numeral of the same value. -/
theorem exists_numeral (nonzero : decimal.digits ≠ 0) :
    ∃ numeral : Numeral, numeral.decimal.value = decimal.value ∧
      layout.write decimal = numeral.charsWith layout.plus := by
  unfold write
  dsimp only
  split
  · by_cases whole : 0 ≤ decimal.exponent
    · exact layout.exists_numeral_of_whole nonzero whole
    · by_cases ahead : 0 < (Nat.toDigits 10 decimal.digits).length + decimal.exponent
      · exact layout.exists_numeral_of_mixed nonzero (Int.not_le.mp whole) ahead
      · exact layout.exists_numeral_of_fraction (Int.not_le.mp whole) (Int.not_lt.mp ahead)
  · exact layout.exists_numeral_of_scientific nonzero

end Layout

end MarkupTree
