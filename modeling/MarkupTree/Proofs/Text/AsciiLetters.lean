/-! # ASCII letters

The case of a character is that of ASCII letters here: there are 26 capitals and 26 small letters,
and casing leaves all other characters as they are. What casing does to letters is therefore
checked letter by letter.
-/

namespace MarkupTree.Ascii

/-- What holds of the 26 capitals holds of every ASCII capital. -/
theorem forall_isUpper {holds : Char → Prop}
    (capitals : ∀ letter : Fin 26, holds (Char.ofNat (65 + letter))) {char : Char}
    (upper : char.isUpper = true) : holds char := by
  have between := of_decide_eq_true upper
  have first : 65 ≤ char.toNat := UInt32.le_iff_toNat_le.mp between.1
  have last : char.toNat ≤ 90 := UInt32.le_iff_toNat_le.mp between.2
  have numbered := capitals ⟨char.toNat - 65, by omega⟩
  rwa [Nat.add_sub_cancel' first, Char.ofNat_toNat] at numbered

/-- What holds of the 26 small letters holds of every ASCII small letter. -/
theorem forall_isLower {holds : Char → Prop}
    (letters : ∀ letter : Fin 26, holds (Char.ofNat (97 + letter))) {char : Char}
    (lower : char.isLower = true) : holds char := by
  have between := Bool.and_eq_true_iff.mp lower
  have first : 97 ≤ char.toNat := UInt32.le_iff_toNat_le.mp (of_decide_eq_true between.1)
  have last : char.toNat ≤ 122 := UInt32.le_iff_toNat_le.mp (of_decide_eq_true between.2)
  have numbered := letters ⟨char.toNat - 97, by omega⟩
  rwa [Nat.add_sub_cancel' first, Char.ofNat_toNat] at numbered

variable {char : Char}

/-- Lower-casing changes capitals only. -/
theorem toLower_of_not_isUpper (small : ¬ char.isUpper = true) : char.toLower = char :=
  dif_neg fun between => small (decide_eq_true between)

/-- Upper-casing changes small letters only. -/
theorem toUpper_of_not_isLower (capital : ¬ char.isLower = true) : char.toUpper = char :=
  dif_neg fun between => capital
    (Bool.and_eq_true_iff.mpr ⟨decide_eq_true between.1, decide_eq_true between.2⟩)

/-- A small letter is no capital. -/
theorem not_isUpper_of_isLower (lower : char.isLower = true) : ¬ char.isUpper = true := by
  apply forall_isLower _ lower
  decide

/-- The capital of a small letter is one. -/
theorem isUpper_toUpper (lower : char.isLower = true) : char.toUpper.isUpper = true := by
  apply forall_isLower _ lower
  decide

/-- A small letter comes back from its capital. -/
theorem toLower_toUpper (lower : char.isLower = true) : char.toUpper.toLower = char := by
  apply forall_isLower _ lower
  decide

/-- The small letter of a capital is one. -/
theorem isLower_toLower (upper : char.isUpper = true) : char.toLower.isLower = true := by
  apply forall_isUpper _ upper
  decide

/-- A capital comes back from its small letter. -/
theorem toUpper_toLower_of_isUpper (upper : char.isUpper = true) : char.toLower.toUpper = char := by
  apply forall_isUpper _ upper
  decide

variable (char)

/-- Upper-casing does not see whether a character was lower-cased. -/
theorem toUpper_toLower : char.toLower.toUpper = char.toUpper := by
  by_cases upper : char.isUpper = true
  · apply forall_isUpper _ upper
    decide
  · rw [toLower_of_not_isUpper upper]

/-- Lower-casing again changes nothing. -/
theorem toLower_toLower : char.toLower.toLower = char.toLower := by
  by_cases upper : char.isUpper = true
  · apply forall_isUpper _ upper
    decide
  · rw [toLower_of_not_isUpper upper, toLower_of_not_isUpper upper]

/-- There is no small letter after upper-casing. -/
theorem isLower_toUpper : char.toUpper.isLower = false := by
  by_cases lower : char.isLower = true
  · apply forall_isLower _ lower
    decide
  · rw [toUpper_of_not_isLower lower, Bool.eq_false_iff]
    exact lower

/-- Letters are capitals or small. -/
theorem isAlpha_eq : char.isAlpha = (char.isUpper || char.isLower) := rfl

variable (text : String)

/-- A text is lower-cased character by character. -/
theorem toList_toLower : text.toLower.toList = text.toList.map Char.toLower := String.toList_map

/-- Lower-casing a text keeps its length. -/
theorem length_toLower : text.toLower.length = text.length := String.length_map

variable {text}

/-- A text is the lower case of another if each character is. -/
theorem toLower_eq_iff {other : String} :
    text.toLower = other ↔ text.toList.map Char.toLower = other.toList := by
  rw [← String.toList_inj, toList_toLower]

end MarkupTree.Ascii
