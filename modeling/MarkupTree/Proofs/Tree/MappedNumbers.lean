import MarkupTree.Proofs.Tree.Parts

/-! # Trees with other numbers

The numbers of a tree may be replaced one by one (`Node.mapNumbers`). Everything but the numbers
stays where it is (`Node.frame_mapNumbers`), and what becomes of the tree depends on what becomes
of the numbers that it holds (`Node.mapNumbers_congr`).
-/

namespace MarkupTree

/-- The item with another number, if it is one. -/
def ListItem.mapNumber (change : Number → Number) : ListItem → ListItem
  | .number value => .number (change value)
  | .string value => .string value

/-- The value with other numbers. -/
def PropertyValue.mapNumbers (change : Number → Number) : PropertyValue → PropertyValue
  | .number value => .number (change value)
  | .list items => .list (items.map (ListItem.mapNumber change))
  | value => value

/-- The properties with other numbers. -/
def Properties.mapNumbers (change : Number → Number) (properties : Properties) : Properties :=
  properties.mapValues (PropertyValue.mapNumbers change)

namespace Node

section Definitions

variable (change : Number → Number)

mutual

/-- The tree with other numbers. -/
def mapNumbers : Node → Node
  | .text value => .text value
  | .root children => .root (mapNumbersAll children)
  | .element tagName properties children none =>
    .element tagName (properties.mapNumbers change) (mapNumbersAll children) none
  | .element tagName properties children (some content) =>
    .element tagName (properties.mapNumbers change) (mapNumbersAll children)
      (some (mapNumbersAll content))

/-- Several trees with other numbers. -/
def mapNumbersAll : List Node → List Node
  | [] => []
  | node :: rest => mapNumbers node :: mapNumbersAll rest

end

end Definitions

/-- What a part of a tree is apart from its values: its kind, the keys of its properties in
their order and whether it has content. -/
def frame (part : Node) : String × List String × Bool :=
  (part.typeName, part.properties.keys, part.content?.isSome)

variable (change : Number → Number)

/-- Numbers are no part of the frame. -/
theorem frame_mapNumbers (node : Node) : (node.mapNumbers change).frame = node.frame := by
  cases node with
  | text value => rfl
  | root children => rfl
  | element tagName properties children content =>
      cases content with
      | none => simp [mapNumbers, frame, Node.properties, Properties.mapNumbers, typeName, content?]
      | some content =>
          simp [mapNumbers, frame, Node.properties, Properties.mapNumbers, typeName, content?]

/-- The properties are those of the tree with other numbers. -/
theorem properties_mapNumbers (node : Node) :
    (node.mapNumbers change).properties = node.properties.mapNumbers change := by
  cases node with
  | text value => rfl
  | root children => rfl
  | element tagName properties children content => cases content <;> rfl

mutual

/-- The parts of the tree with other numbers are the parts of the tree, with other numbers. -/
theorem parts_mapNumbers (node : Node) :
    (node.mapNumbers change).parts = node.parts.map (mapNumbers change) := by
  cases node with
  | text value => rfl
  | root children => simp [mapNumbers, parts, partsAll_mapNumbersAll children]
  | element tagName properties children content =>
      cases content with
      | none => simp [mapNumbers, parts, partsAll_mapNumbersAll children]
      | some content =>
          simp [mapNumbers, parts, partsAll_mapNumbersAll children, partsAll_mapNumbersAll content]

private theorem partsAll_mapNumbersAll (nodes : List Node) :
    partsAll (mapNumbersAll change nodes) = (partsAll nodes).map (mapNumbers change) := by
  cases nodes with
  | nil => rfl
  | cons node rest =>
      rw [mapNumbersAll, partsAll, partsAll, List.map_append, parts_mapNumbers node,
        partsAll_mapNumbersAll rest]

end

/-- The frames of all parts stay, in their order. -/
theorem frames_mapNumbers (node : Node) :
    (node.mapNumbers change).parts.map frame = node.parts.map frame := by
  rw [parts_mapNumbers, List.map_map]
  exact List.map_congr_left fun part _ => frame_mapNumbers change part

variable {change}

/-- No key is given twice where none was. -/
theorem Everywhere.distinct_mapNumbers {node : Node}
    (distinct : node.Everywhere fun part => part.properties.Distinct) :
    (node.mapNumbers change).Everywhere fun part => part.properties.Distinct := by
  intro part member
  rw [parts_mapNumbers, List.mem_map] at member
  obtain ⟨before, present, rfl⟩ := member
  rw [properties_mapNumbers]
  exact (distinct before present).mapValues _

end Node

section Congruence

variable {change other : Number → Number}

private theorem PropertyValue.mapNumbers_congr {value : PropertyValue}
    (same : ∀ held ∈ value.numbers, change held = other held) :
    value.mapNumbers change = value.mapNumbers other := by
  cases value with
  | boolean value => rfl
  | number value => exact congrArg PropertyValue.number (same value (by simp))
  | string value => rfl
  | list items =>
      refine congrArg PropertyValue.list (List.map_congr_left fun item member => ?_)
      cases item with
      | number value =>
          exact congrArg ListItem.number (same value ((mem_numbers_list items value).mpr member))
      | string value => rfl

private theorem Properties.mapNumbers_congr {properties : Properties}
    (same : ∀ value ∈ properties.numbers, change value = other value) :
    properties.mapNumbers change = properties.mapNumbers other := by
  refine congrArg OrderedMap.mk (List.map_congr_left fun entry member => ?_)
  refine congrArg (Prod.mk entry.1) (PropertyValue.mapNumbers_congr fun held number => ?_)
  exact same held (List.mem_flatMap.mpr ⟨entry, member, number⟩)

namespace Node

mutual

/-- **The numbers that a tree holds determine what becomes of it.** -/
theorem mapNumbers_congr (node : Node)
    (same : node.Everywhere fun part =>
      ∀ value ∈ part.properties.numbers, change value = other value) :
    node.mapNumbers change = node.mapNumbers other := by
  cases node with
  | text value => rfl
  | root children => rw [mapNumbers, mapNumbers, mapNumbersAll_congr children same.children]
  | element tagName properties children content =>
      have here : properties.mapNumbers change = properties.mapNumbers other :=
        Properties.mapNumbers_congr same.here
      have below := mapNumbersAll_congr children same.children
      cases content with
      | none => rw [mapNumbers, mapNumbers, here, below]
      | some content =>
          have inside := mapNumbersAll_congr content (same.content rfl)
          rw [mapNumbers, mapNumbers, here, below, inside]

private theorem mapNumbersAll_congr (nodes : List Node)
    (same : ∀ node ∈ nodes, node.Everywhere fun part =>
      ∀ value ∈ part.properties.numbers, change value = other value) :
    mapNumbersAll change nodes = mapNumbersAll other nodes := by
  cases nodes with
  | nil => rfl
  | cons node rest =>
      rw [List.forall_mem_cons] at same
      rw [mapNumbersAll, mapNumbersAll, mapNumbers_congr node same.1,
        mapNumbersAll_congr rest same.2]

end

end Node

end Congruence

end MarkupTree
