import MarkupTree.Proofs.Number.ReadBack
import MarkupTree.Proofs.Sameness.Collections
import MarkupTree.Proofs.Tree.MappedNumbers

/-! # Trees without negative zeros

A tree may lose the signs of the zeros among its numbers and still be the same tree
(`Node.same_unsignZeros`): numeric equality does not see the sign.
-/

namespace MarkupTree

/-- The tree without the signs of zeros. -/
def Node.unsignZeros (node : Node) : Node := node.mapNumbers Number.unsignZero

/-- All numbers of the properties are finite. -/
def Properties.Finite (properties : Properties) : Prop :=
  ∀ value ∈ properties.numbers, value.isFinite = true

instance (properties : Properties) : Decidable properties.Finite :=
  inferInstanceAs (Decidable (∀ value ∈ properties.numbers, value.isFinite = true))

/-- The numbers of each value of the properties are finite. -/
theorem Properties.Finite.of_mem {properties : Properties} (finite : properties.Finite)
    {entry : String × PropertyValue} (member : entry ∈ properties.entries) {value : Number}
    (held : value ∈ entry.2.numbers) : value.isFinite = true :=
  finite value (List.mem_flatMap.mpr ⟨entry, member, held⟩)

private theorem PropertyValue.same_unsignZeros {value : PropertyValue}
    (finite : ∀ held ∈ value.numbers, held.isFinite = true) :
    (value.mapNumbers Number.unsignZero).same value = true := by
  cases value with
  | boolean value => exact beq_self_eq_true value
  | number value =>
      exact Number.same_unsignZero (Number.isNan_of_isFinite (finite value (by simp)))
  | string value => exact beq_self_eq_true value
  | list items =>
      have each : ∀ item ∈ items,
          (item.mapNumber Number.unsignZero).same (id item) = true := by
        intro item member
        cases item with
        | number value =>
            exact Number.same_unsignZero
              (Number.isNan_of_isFinite (finite value ((mem_numbers_list items value).mpr member)))
        | string value => exact beq_self_eq_true value
      have same := same_list_map each
      rw [List.map_id] at same
      exact same

/-- Properties without the signs of zeros are the same. -/
theorem Properties.same_unsignZeros {properties : Properties} (finite : properties.Finite)
    (distinct : properties.Distinct) :
    (properties.mapNumbers Number.unsignZero).same properties = true := by
  refine OrderedMap.equalBy_eq_true_iff.mpr ⟨List.length_map _, ?_⟩
  simp only [Properties.mapNumbers, OrderedMap.mapValues, List.forall_mem_map]
  intro entry member
  exact ⟨entry.2, distinct.get?_of_mem member,
    PropertyValue.same_unsignZeros fun held => finite.of_mem member⟩

namespace Node

mutual

/-- **A tree without the signs of its zeros is the same tree.** -/
theorem same_unsignZeros (node : Node)
    (finite : node.Everywhere fun part => part.properties.Finite)
    (distinct : node.Everywhere fun part => part.properties.Distinct) :
    node.unsignZeros.same node = true := by
  cases node with
  | text value => exact beq_self_eq_true value
  | root children =>
      rw [unsignZeros, mapNumbers, same]
      exact sameAll_unsignZeros children finite.children distinct.children
  | element tagName properties children content =>
      have sameProperties : (properties.mapNumbers Number.unsignZero).same properties = true :=
        Properties.same_unsignZeros finite.here distinct.here
      have sameChildren := sameAll_unsignZeros children finite.children distinct.children
      cases content with
      | none =>
          simp only [unsignZeros, mapNumbers, same, beq_self_eq_true, sameProperties, sameChildren,
            sameContent, Bool.and_self]
      | some content =>
          have sameContents := sameAll_unsignZeros content (finite.content rfl)
            (distinct.content rfl)
          simp only [unsignZeros, mapNumbers, same, beq_self_eq_true, sameProperties, sameChildren,
            sameContent, sameContents, Bool.and_self]

private theorem sameAll_unsignZeros (nodes : List Node)
    (finite : ∀ node ∈ nodes, node.Everywhere fun part => part.properties.Finite)
    (distinct : ∀ node ∈ nodes, node.Everywhere fun part => part.properties.Distinct) :
    sameAll (mapNumbersAll Number.unsignZero nodes) nodes = true := by
  cases nodes with
  | nil => rfl
  | cons node rest =>
      rw [mapNumbersAll, sameAll, Bool.and_eq_true]
      constructor
      · exact same_unsignZeros node (finite node List.mem_cons_self)
          (distinct node List.mem_cons_self)
      · exact sameAll_unsignZeros rest
          (fun lower member => finite lower (List.mem_cons_of_mem _ member))
          (fun lower member => distinct lower (List.mem_cons_of_mem _ member))

end

end Node

end MarkupTree
