import MarkupTree.Proofs.Appending

/-! # A root among children is opened once

A root that is given as a child stands for its children, and so does a root that an object
describes. It is opened once and not again: a root directly in it is appended as it is. So the
roots that values append are those directly in the trees that the values offer
(`Value.offeredAll`), and no root is appended exactly if no offered tree has a root directly in
it (`addChildren_openedOnce`). Then all that is appended is opened at every depth
(`Node.openedAll`).
-/

namespace MarkupTree

namespace Node

/-- The roots directly in a root. -/
def nestedRoots : Node → List Node
  | .root children => children.filter isRoot
  | _ => []

mutual

/-- The nodes that a node stands for when roots are opened at any depth. -/
def opened : Node → List Node
  | .root children => openedAll children
  | node => [node]

def openedAll : List Node → List Node
  | [] => []
  | node :: rest => opened node ++ openedAll rest

end

/-- The roots that are left when a tree is unwrapped are those directly in it. -/
theorem filter_isRoot_unwrapped (tree : Node) :
    tree.unwrapped.filter isRoot = tree.nestedRoots := by
  cases tree <;> rfl

private theorem opened_of_isRoot {node : Node} (other : node.isRoot = false) :
    node.opened = [node] := by
  cases node with
  | root children => cases other
  | _ => rw [opened]; nofun

mutual

/-- No root is left when roots are opened at any depth. -/
theorem isRoot_of_mem_opened {tree node : Node} (member : node ∈ tree.opened) :
    node.isRoot = false := by
  cases tree with
  | root children =>
      rw [opened] at member
      exact isRoot_of_mem_openedAll member
  | text value =>
      obtain rfl := List.mem_singleton.mp member
      rfl
  | element tagName properties children content =>
      obtain rfl := List.mem_singleton.mp member
      rfl

/-- No root is left when all are opened. -/
theorem isRoot_of_mem_openedAll {trees : List Node} {node : Node}
    (member : node ∈ openedAll trees) : node.isRoot = false := by
  cases trees with
  | nil => cases member
  | cons tree rest =>
      rw [openedAll] at member
      rcases List.mem_append.mp member with first | later
      · exact isRoot_of_mem_opened first
      · exact isRoot_of_mem_openedAll later

end

/-- Nodes are opened at every depth exactly if none of them is a root. -/
theorem openedAll_eq_self_iff (nodes : List Node) :
    openedAll nodes = nodes ↔ ∀ node ∈ nodes, node.isRoot = false := by
  constructor
  · intro same node member
    rw [← same] at member
    exact isRoot_of_mem_openedAll member
  · intro flat
    induction nodes with
    | nil => rfl
    | cons node rest ih =>
        rw [openedAll, opened_of_isRoot (flat node List.mem_cons_self),
          ih fun other later => flat other (List.mem_cons_of_mem _ later), List.singleton_append]

end Node

namespace Value

mutual

/-- The trees that a value offers as children: a node itself, and what the items of a list and
the children of an object of type root offer. -/
def offered : Value → List Node
  | .node tree => [tree]
  | .array items => offeredAll items
  | .object ⟨entries⟩ =>
    if Object.nodeType? ⟨entries⟩ = some "root" then offeredField entries else []
  | _ => []

def offeredAll : List Value → List Node
  | [] => []
  | value :: rest => offered value ++ offeredAll rest

/-- The trees that the `children` field of an object offers. -/
def offeredField : List (String × Value) → List Node
  | [] => []
  | (name, value) :: rest => if name = "children" then offered value else offeredField rest

end

mutual

/-- The roots that a value contributes are those directly in the trees that it offers. -/
theorem filter_isRoot_flatten {value : Value} (success : value.flatten.error = none) :
    value.flatten.nodes.filter Node.isRoot = value.offered.flatMap Node.nestedRoots := by
  cases value with
  | null => rfl
  | boolean value => rfl
  | number value => rfl
  | string value => rfl
  | array items => exact filter_isRoot_flattenAll success
  | node tree => simp [flatten, offered, Flattening.ofNodes, Node.filter_isRoot_unwrapped]
  | object fields =>
      obtain ⟨entries⟩ := fields
      simp only [flatten, offered] at success ⊢
      split at success
      · split at success
        · next shaped _ node described =>
          simp only [shaped, ↓reduceIte]
          rcases Object.describedNode_cases described with
            ⟨text, value, -, rfl⟩ | ⟨element, tagName, given, rfl⟩ | ⟨root, flattened, rfl⟩
          · rw [if_neg (by simp [text])]
            rfl
          · rw [if_neg (by simp [element])]
            rfl
          · rw [if_pos root]
            exact filter_isRoot_flattenField (congrArg Flattening.error flattened)
        · cases success
      · cases success

/-- The roots that are appended stand directly in the trees that are offered. -/
theorem filter_isRoot_flattenAll {values : List Value}
    (success : (flattenAll values).error = none) :
    (flattenAll values).nodes.filter Node.isRoot =
      (offeredAll values).flatMap Node.nestedRoots := by
  cases values with
  | nil => rfl
  | cons value rest =>
      simp only [flattenAll, offeredAll, Flattening.andThen] at success ⊢
      cases stopped : value.flatten.error with
      | some error =>
          simp only [stopped] at success
          cases success
      | none =>
          simp only [stopped] at success ⊢
          rw [List.filter_append, List.flatMap_append, filter_isRoot_flatten stopped,
            filter_isRoot_flattenAll success]

private theorem filter_isRoot_flattenField {entries : List (String × Value)}
    (success : (flattenField entries).error = none) :
    (flattenField entries).nodes.filter Node.isRoot =
      (offeredField entries).flatMap Node.nestedRoots := by
  cases entries with
  | nil => rfl
  | cons entry rest =>
      obtain ⟨name, value⟩ := entry
      simp only [flattenField, offeredField] at success ⊢
      by_cases children : name = "children"
      · simp only [children, ↓reduceIte] at success ⊢
        exact filter_isRoot_flatten success
      · simp only [children, ↓reduceIte] at success ⊢
        exact filter_isRoot_flattenField success

end

end Value

namespace Node

/-- Of the nodes that are appended for offered trees, the roots are those directly in the trees.
So there is none exactly if no tree has any, and then the nodes are opened at every depth. -/
structure OpenedOnce (offered added : List Node) : Prop where
  roots : added.filter isRoot = offered.flatMap nestedRoots
  flat_iff : (∀ node ∈ added, node.isRoot = false) ↔ ∀ tree ∈ offered, tree.nestedRoots = []
  opened_iff : openedAll added = added ↔ ∀ tree ∈ offered, tree.nestedRoots = []

/-- Roots that stand directly in offered trees have been opened once. -/
theorem OpenedOnce.of_roots {offered added : List Node}
    (roots : added.filter isRoot = offered.flatMap nestedRoots) : OpenedOnce offered added := by
  have flat : (∀ node ∈ added, node.isRoot = false) ↔
      ∀ tree ∈ offered, tree.nestedRoots = [] := by
    rw [← List.flatMap_eq_nil_iff, ← roots, List.filter_eq_nil_iff]
    simp only [Bool.not_eq_true]
  exact ⟨roots, flat, (openedAll_eq_self_iff added).trans flat⟩

end Node

open Node (OpenedOnce)

/-- **A root that is given as a child is opened once.** When values are appended, the roots among
the appended nodes are those that stand directly in an offered tree. -/
theorem addChildren_openedOnce {nodes added : List Node} :
    (∀ value, addChild nodes value = .ofNodes (nodes ++ added) →
      OpenedOnce value.offered added) ∧
      ∀ values, addChildren nodes values = .ofNodes (nodes ++ added) →
        OpenedOnce (Value.offeredAll values) added := by
  constructor
  · intro value success
    rw [addChild_eq, Flattening.ofNodes, Flattening.mk.injEq] at success
    obtain ⟨same, none⟩ := success
    obtain rfl := List.append_cancel_left same
    exact .of_roots (Value.filter_isRoot_flatten none)
  · intro values success
    rw [addChildren_eq, Flattening.ofNodes, Flattening.mk.injEq] at success
    obtain ⟨same, none⟩ := success
    obtain rfl := List.append_cancel_left same
    exact .of_roots (Value.filter_isRoot_flattenAll none)

/-- A root in a list, and one that an object describes around a root, next to a text. -/
def offeredRoots : List Value :=
  [.array [.node (.root [.text "a"])],
    .object ⟨[("type", .string "root"), ("children", .node (.root [.root [.text "b"]]))]⟩,
    .string "c"]

/-- A root among the children of an offered one is appended as it is. -/
theorem addChildren_openedOnce_offeredRoots :
    addChildren [.text "z"] offeredRoots =
        .ofNodes ([.text "z"] ++ [.text "a", .root [.text "b"], .text "c"]) ∧
      OpenedOnce (Value.offeredAll offeredRoots) [.text "a", .root [.text "b"], .text "c"] ∧
      addChild [.text "z"] (.node (.root [.text "a"])) = .ofNodes ([.text "z"] ++ [.text "a"]) ∧
      OpenedOnce [.root [.text "a"]] [.text "a"] := by
  have list : addChildren [.text "z"] offeredRoots =
      .ofNodes ([.text "z"] ++ [.text "a", .root [.text "b"], .text "c"]) := rfl
  have single : addChild [.text "z"] (.node (.root [.text "a"])) =
      .ofNodes ([.text "z"] ++ [.text "a"]) := rfl
  exact ⟨list, addChildren_openedOnce.2 _ list, single, addChildren_openedOnce.1 _ single⟩

/-- A root directly in a root is appended, although opening it at every depth leaves a text. -/
theorem not_flat_rootInRoot :
    addChildren [] [.node (.root [.root [.text "x"]])] =
        .ofNodes ([] ++ [.root [.text "x"]]) ∧
      addChild [] (.node (.root [.root [.text "x"]])) = .ofNodes ([] ++ [.root [.text "x"]]) ∧
      (Node.root [.root [.text "x"]]).opened = [.text "x"] ∧
      ¬ ∀ (values : List Value) (nodes added : List Node),
        addChildren nodes values = .ofNodes (nodes ++ added) →
        ∀ node ∈ added, node.isRoot = false := by
  refine ⟨rfl, rfl, rfl, fun flat => ?_⟩
  have text : (Node.root [.text "x"]).isRoot = false :=
    flat [.node (.root [.root [.text "x"]])] [] [.root [.text "x"]] rfl _ List.mem_cons_self
  cases text

end MarkupTree
