import MarkupTree.Tree.Node

/-! # The parts of a tree

The parts of a node are the node itself and the parts of every node directly below it, be
it a child or part of the content of an element. What is claimed of a whole tree, at any
depth, is claimed of each part (`Node.Everywhere`), where it can be said without recursion.
-/

namespace MarkupTree

/-- What holds of all parts of a thing holds of the thing and of all parts of what is directly
below it. -/
theorem forall_mem_parts_iff {α : Type} {parts : α → List α} {whole : α} {below : List α}
    (mem_parts : ∀ part, part ∈ parts whole ↔ part = whole ∨ ∃ lower ∈ below, part ∈ parts lower)
    {holds : α → Prop} :
    (∀ part ∈ parts whole, holds part) ↔
      holds whole ∧ ∀ lower ∈ below, ∀ part ∈ parts lower, holds part := by
  constructor
  · intro everywhere
    refine ⟨everywhere whole ((mem_parts whole).mpr (.inl rfl)), ?_⟩
    intro lower directly part member
    exact everywhere part ((mem_parts part).mpr (.inr ⟨lower, directly, member⟩))
  · rintro ⟨here, further⟩ part member
    rcases (mem_parts part).mp member with rfl | ⟨lower, directly, inside⟩
    · exact here
    · exact further lower directly part inside

namespace PropertyValue

/-- The numbers that a value holds: itself, or the numbers among its items. -/
def numbers : PropertyValue → List Number
  | .number value => [value]
  | .list items =>
    items.filterMap fun item =>
      match item with
      | .number value => some value
      | .string _ => none
  | _ => []

/-- A boolean holds no numbers. -/
@[simp] theorem numbers_boolean (value : Bool) : (PropertyValue.boolean value).numbers = [] := rfl

/-- A number holds itself. -/
@[simp] theorem numbers_number (value : Number) :
    (PropertyValue.number value).numbers = [value] := rfl

/-- A text holds no numbers. -/
@[simp] theorem numbers_string (value : String) :
    (PropertyValue.string value).numbers = [] := rfl

/-- A list holds the numbers among its items. -/
@[simp] theorem mem_numbers_list (items : List ListItem) (value : Number) :
    value ∈ (PropertyValue.list items).numbers ↔ ListItem.number value ∈ items := by
  simp only [numbers, List.mem_filterMap]
  constructor
  · rintro ⟨item, member, kept⟩
    cases item with
    | number found => exact Option.some.inj kept ▸ member
    | string text => cases kept
  · intro member
    exact ⟨_, member, rfl⟩

end PropertyValue

/-- The numbers that properties hold. -/
def Properties.numbers (properties : Properties) : List Number :=
  properties.entries.flatMap fun entry => entry.2.numbers

namespace Node

/-- The content of an element, if it has any. -/
def content? : Node → Option (List Node)
  | .element _ _ _ content => content
  | _ => none

/-- The properties of an element; no other node has any. -/
def properties : Node → Properties
  | .element _ properties _ _ => properties
  | _ => .empty

/-- The nodes directly below a node: its children and, behind them, its content. -/
def directlyBelow (node : Node) : List Node := node.children ++ node.content?.getD []

/-- The children of a root are directly below it. -/
@[simp] theorem directlyBelow_root (children : List Node) :
    (root children).directlyBelow = children :=
  List.append_nil children

/-- Without content, the children of an element are directly below it. -/
@[simp] theorem directlyBelow_element_none (tagName : String) (properties : Properties)
    (children : List Node) : (element tagName properties children none).directlyBelow = children :=
  List.append_nil children

/-- A node is larger than those directly below it. -/
theorem sizeOf_lt_of_mem_directlyBelow {node lower : Node}
    (directly : lower ∈ node.directlyBelow) : sizeOf lower < sizeOf node := by
  cases node with
  | text value => cases directly
  | root nodes =>
      rw [directlyBelow_root] at directly
      have smaller := List.sizeOf_lt_of_mem directly
      rw [root.sizeOf_spec]
      omega
  | element tagName properties nodes content =>
      rw [element.sizeOf_spec]
      rcases List.mem_append.mp directly with child | inContent
      · have smaller : sizeOf lower < sizeOf nodes := List.sizeOf_lt_of_mem child
        omega
      · cases content with
        | none => cases inContent
        | some content =>
            have smaller : sizeOf lower < sizeOf content := List.sizeOf_lt_of_mem inContent
            rw [Option.some.sizeOf_spec]
            omega

/-- What holds of a node if it holds of all nodes directly below it holds of every node. -/
@[elab_as_elim]
theorem induction_below {motive : Node → Prop}
    (step : ∀ node, (∀ lower ∈ node.directlyBelow, motive lower) → motive node)
    (node : Node) : motive node :=
  step node fun lower directly =>
    have : sizeOf lower < sizeOf node := sizeOf_lt_of_mem_directlyBelow directly
    induction_below step lower
termination_by node

mutual

/-- A node and everything below it, in order. The content of an element follows its
children. -/
def parts : Node → List Node
  | .text value => [.text value]
  | .root children => .root children :: partsAll children
  | .element tagName properties children none =>
    .element tagName properties children none :: partsAll children
  | .element tagName properties children (some content) =>
    .element tagName properties children (some content) :: (partsAll children ++ partsAll content)

/-- The parts of several nodes, one after the other. -/
def partsAll : List Node → List Node
  | [] => []
  | node :: rest => parts node ++ partsAll rest

end

/-- The parts of several nodes are those of each. -/
theorem mem_partsAll (nodes : List Node) (part : Node) :
    part ∈ partsAll nodes ↔ ∃ node ∈ nodes, part ∈ node.parts := by
  induction nodes with
  | nil => simp only [partsAll, List.not_mem_nil, false_and, exists_false]
  | cons node rest ih =>
      simp only [partsAll, List.mem_append, ih, List.mem_cons, exists_eq_or_imp]

/-- The parts of a node are the node and the parts of what is directly below it. -/
theorem mem_parts (node part : Node) :
    part ∈ node.parts ↔ part = node ∨ ∃ lower ∈ node.directlyBelow, part ∈ lower.parts := by
  cases node with
  | text value => simp [parts, directlyBelow, children, content?]
  | root nodes => simp [parts, directlyBelow, children, content?, mem_partsAll]
  | element tagName properties nodes content =>
      cases content with
      | none => simp [parts, directlyBelow, children, content?, mem_partsAll]
      | some content =>
          simp [parts, directlyBelow, children, content?, mem_partsAll, or_and_right, exists_or]

/-- A node is one of its parts. -/
theorem self_mem_parts (node : Node) : node ∈ node.parts := (mem_parts node node).mpr (.inl rfl)

/-- Something holds of a node and of everything below it. -/
def Everywhere (holds : Node → Prop) (node : Node) : Prop := ∀ part ∈ node.parts, holds part

instance (holds : Node → Prop) [DecidablePred holds] (node : Node) :
    Decidable (node.Everywhere holds) :=
  inferInstanceAs (Decidable (∀ part ∈ node.parts, holds part))

variable {holds : Node → Prop}

/-- What holds everywhere in a tree holds of its top and everywhere directly below it. -/
theorem everywhere_iff (node : Node) :
    node.Everywhere holds ↔
      holds node ∧ ∀ lower ∈ node.directlyBelow, lower.Everywhere holds :=
  forall_mem_parts_iff (mem_parts node)

/-- What holds everywhere in a tree holds at its top. -/
theorem Everywhere.here {node : Node} (everywhere : node.Everywhere holds) : holds node :=
  everywhere node node.self_mem_parts

/-- What holds everywhere in a tree holds everywhere below its top. -/
theorem Everywhere.below {node lower : Node} (everywhere : node.Everywhere holds)
    (directly : lower ∈ node.directlyBelow) : lower.Everywhere holds :=
  ((everywhere_iff node).mp everywhere).2 lower directly

/-- What holds everywhere in a tree holds everywhere in its children. -/
theorem Everywhere.children {node : Node} (everywhere : node.Everywhere holds) :
    ∀ child ∈ node.children, child.Everywhere holds := by
  intro child member
  apply everywhere.below
  exact List.mem_append_left _ member

/-- What holds everywhere in a tree holds everywhere in its content. -/
theorem Everywhere.content {node : Node} (everywhere : node.Everywhere holds)
    {content : List Node} (held : node.content? = some content) :
    ∀ lower ∈ content, lower.Everywhere holds := by
  intro lower member
  apply everywhere.below
  rw [directlyBelow, held]
  exact List.mem_append_right _ member

end Node

end MarkupTree
