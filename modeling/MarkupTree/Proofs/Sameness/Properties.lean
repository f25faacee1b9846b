import MarkupTree.Proofs.Number.ReadBack
import MarkupTree.Proofs.Properties.NanFree
import MarkupTree.Proofs.Sameness.Collections

/-! # Comparing properties

Numbers are compared numerically: the zeros are the same, and what is not a number is the same as
nothing, not even as itself (`Number.same_self_iff`). Values and properties inherit both from the
numbers that they hold (`Properties.same_self_iff`). Otherwise the comparison is an equivalence,
provided that no key occurs twice, and it does not see the order of properties
(`Properties.same_perm`).
-/

namespace MarkupTree

namespace Number

/-- Finite numbers are the same if their magnitudes and signs are, or if both are zeros. -/
theorem same_finite_iff {firstNegative secondNegative : Bool} {first second : Magnitude} :
    (finite firstNegative first).same (finite secondNegative second) = true ↔
      first = second ∧ (firstNegative = secondNegative ∨ first.rank = 0) := by
  simp [same]

private theorem same_infinite_iff {firstNegative secondNegative : Bool} :
    (infinite firstNegative).same (infinite secondNegative) = true ↔
      firstNegative = secondNegative := by
  simp [same]

variable {first second third : Number}

/-- The comparison of numbers is symmetric. -/
theorem same_symm (equal : first.same second = true) : second.same first = true := by
  cases first with
  | nan => cases equal
  | infinite firstNegative =>
      cases second with
      | infinite secondNegative => exact same_infinite_iff.mpr (same_infinite_iff.mp equal).symm
      | _ => cases equal
  | finite firstNegative magnitude =>
      cases second with
      | finite secondNegative other =>
          obtain ⟨rfl, signs⟩ := same_finite_iff.mp equal
          exact same_finite_iff.mpr ⟨rfl, signs.imp_left Eq.symm⟩
      | _ => cases equal

/-- The comparison of numbers is transitive: a zero in the middle has the magnitude of the others.
-/
theorem same_trans (equal : first.same second = true) (equalNext : second.same third = true) :
    first.same third = true := by
  cases first with
  | nan => cases equal
  | infinite firstNegative =>
      cases second with
      | infinite secondNegative =>
          obtain rfl := same_infinite_iff.mp equal
          exact equalNext
      | _ => cases equal
  | finite firstNegative magnitude =>
      cases second with
      | finite secondNegative middle =>
          cases third with
          | finite thirdNegative other =>
              obtain ⟨rfl, signs⟩ := same_finite_iff.mp equal
              obtain ⟨rfl, signsNext⟩ := same_finite_iff.mp equalNext
              refine same_finite_iff.mpr ⟨rfl, ?_⟩
              rcases signs with rfl | zero
              · exact signsNext
              · exact .inr zero
          | _ => cases equalNext
      | _ => cases equal

end Number

namespace ListItem

variable {first second third : ListItem}

/-- The comparison of items is symmetric. -/
theorem same_symm (equal : first.same second = true) : second.same first = true := by
  cases first with
  | number value =>
      cases second with
      | number other => exact Number.same_symm equal
      | string text => cases equal
  | string text =>
      cases second with
      | number other => cases equal
      | string other => exact beq_iff_eq.mpr (beq_iff_eq.mp equal).symm

/-- The comparison of items is transitive. -/
theorem same_trans (equal : first.same second = true) (equalNext : second.same third = true) :
    first.same third = true := by
  cases first with
  | number value =>
      cases second with
      | string text => cases equal
      | number middle =>
          cases third with
          | number other => exact Number.same_trans equal equalNext
          | string text => cases equalNext
  | string text =>
      cases second with
      | number middle => cases equal
      | string middle =>
          obtain rfl := beq_iff_eq.mp equal
          exact equalNext

/-- An item is the same as itself unless it is not a number where it should be one. -/
theorem same_self_iff {item : ListItem} :
    item.same item = true ↔ ∀ value, item = .number value → value.isNan = false := by
  cases item with
  | number value => simpa [ListItem.same] using Number.same_self_iff
  | string text => exact iff_of_true (beq_self_eq_true text) nofun

end ListItem

namespace PropertyValue

variable {first second third : PropertyValue}

/-- The comparison of values is symmetric. -/
theorem same_symm (equal : first.same second = true) : second.same first = true := by
  cases first with
  | boolean value =>
      cases second with
      | boolean other => exact beq_iff_eq.mpr (beq_iff_eq.mp equal).symm
      | _ => cases equal
  | number value =>
      cases second with
      | number other => exact Number.same_symm equal
      | _ => cases equal
  | string text =>
      cases second with
      | string other => exact beq_iff_eq.mpr (beq_iff_eq.mp equal).symm
      | _ => cases equal
  | list items =>
      cases second with
      | list others => exact isEqv_symm (fun _ _ _ => ListItem.same_symm) equal
      | _ => cases equal

/-- The comparison of values is transitive. -/
theorem same_trans (equal : first.same second = true) (equalNext : second.same third = true) :
    first.same third = true := by
  cases first with
  | boolean value =>
      cases second with
      | boolean middle =>
          obtain rfl := beq_iff_eq.mp equal
          exact equalNext
      | _ => cases equal
  | number value =>
      cases second with
      | number middle =>
          cases third with
          | number other => exact Number.same_trans equal equalNext
          | _ => cases equalNext
      | _ => cases equal
  | string text =>
      cases second with
      | string middle =>
          obtain rfl := beq_iff_eq.mp equal
          exact equalNext
      | _ => cases equal
  | list items =>
      cases second with
      | list middle =>
          cases third with
          | list others => exact isEqv_trans (fun _ _ _ _ => ListItem.same_trans) equal equalNext
          | _ => cases equalNext
      | _ => cases equal

/-- A value is the same as itself if every number that it holds is one. -/
theorem same_self_iff {value : PropertyValue} : value.same value = true ↔ value.NanFree := by
  cases value with
  | boolean value => exact iff_of_true (beq_self_eq_true value) (nanFree_boolean value)
  | number value => exact Number.same_self_iff.trans (nanFree_number_iff value).symm
  | string text => exact iff_of_true (beq_self_eq_true text) (nanFree_string text)
  | list items =>
      rw [nanFree_list_iff, PropertyValue.same, isEqv_self_iff]
      simp only [ListItem.same_self_iff]
      exact ⟨fun each value member => each _ member value rfl,
        fun each item member value number => each value (number ▸ member)⟩

end PropertyValue

namespace Properties

variable {first second third : Properties}

/-- The comparison of properties is symmetric, provided that no key occurs twice in the first ones.
-/
theorem same_symm (distinct : first.Distinct) (equal : first.same second = true) :
    second.same first = true :=
  OrderedMap.equalBy_symm distinct (fun _ _ _ => PropertyValue.same_symm) equal

/-- The comparison of properties is transitive. -/
theorem same_trans (equal : first.same second = true) (equalNext : second.same third = true) :
    first.same third = true :=
  OrderedMap.equalBy_trans (fun _ _ _ _ => PropertyValue.same_trans) equal equalNext

/-- **Properties are the same as themselves** if every number that they hold is one, and otherwise
not. -/
theorem same_self_iff {properties : Properties} (distinct : properties.Distinct) :
    properties.same properties = true ↔ properties.NanFree := by
  rw [Properties.same, OrderedMap.equalBy_self_iff distinct, nanFree_iff]
  simp only [PropertyValue.same_self_iff]

/-- The order of properties does not count. -/
theorem same_perm {entries others : List (String × PropertyValue)}
    (perm : entries.Perm others) (third : Properties) :
    Properties.same ⟨others⟩ third = Properties.same ⟨entries⟩ third :=
  OrderedMap.equalBy_perm perm

end Properties

end MarkupTree
