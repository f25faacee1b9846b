import Mathlib.Data.List.Forall2
import MarkupTree.Proofs.Flattening

/-! # Children are appended leaf by leaf

A list of children only grows, by what the values contribute alone (`addChildren_eq`). Each leaf
either gives nodes (`Value.Gives`) or is refused with an error (`Value.Refuses`), and the leaves
are taken in order up to the first that is refused (`addChildren_leaves`).

An object that describes a node has a list of children for itself (`Object.toNode_eq`). When that
list fails, the object is refused, and nothing of the list is left
(`Object.exists_error_of_children`).
-/

namespace MarkupTree

mutual

/-- A value appends what it contributes when it is flattened alone. -/
theorem addChild_eq (nodes : List Node) (value : Value) :
    addChild nodes value = ⟨nodes ++ value.flatten.nodes, value.flatten.error⟩ := by
  cases value with
  | null => simp only [addChild, Value.flatten, Flattening.empty, Flattening.ofNodes,
      List.append_nil]
  | boolean value => simp only [addChild, Value.flatten, Flattening.failed, List.append_nil]
  | number value => rfl
  | string value => rfl
  | array items => exact addChildren_eq nodes items
  | object fields =>
      simp only [addChild, Value.flatten, Object.toNode]
      split
      · split
        · next node described => simp only [described, Flattening.ofNodes]
        · next error failed => simp only [failed, Flattening.failed, List.append_nil]
      · simp only [Flattening.failed, List.append_nil]
  | node tree => rfl

/-- Adding values one after the other appends what they are flattened to. -/
theorem addChildren_eq (nodes : List Node) (values : List Value) :
    addChildren nodes values =
      ⟨nodes ++ (Value.flattenAll values).nodes, (Value.flattenAll values).error⟩ := by
  cases values with
  | nil => simp only [addChildren, Value.flattenAll, Flattening.empty, Flattening.ofNodes,
      List.append_nil]
  | cons value rest =>
      simp only [addChildren, Value.flattenAll, Flattening.andThen]
      rw [addChild_eq nodes value]
      cases stopped : value.flatten.error with
      | some error => simp only [stopped]
      | none =>
          dsimp only
          rw [addChildren_eq _ rest, List.append_assoc]

end

/-- Flattening is adding to no nodes. -/
theorem Value.flatten_eq_addChild (value : Value) : value.flatten = addChild [] value := by
  rw [addChild_eq, List.nil_append]

/-- Only the leaves of values count when they are appended. -/
theorem addChildren_leavesAll (nodes : List Node) (values : List Value) :
    addChildren nodes (Value.leavesAll values) = addChildren nodes values := by
  rw [addChildren_eq, Value.flattenAll_leavesAll, ← addChildren_eq]

namespace Object

private theorem flattenField_eq (entries : List (String × Value)) :
    Value.flattenField entries = Value.flattenAll (entries.lookup "children").toList := by
  induction entries with
  | nil => rfl
  | cons entry rest ih =>
      obtain ⟨name, value⟩ := entry
      rw [Value.flattenField, List.lookup_cons]
      by_cases children : name = "children"
      · subst children
        rw [if_pos rfl, beq_self_eq_true]
        exact (Value.flattenAll_singleton value).symm
      · rw [if_neg children, beq_false_of_ne (Ne.symm children), ih]

/-- The children of the node that an object describes are flattened into a list of their own. -/
theorem toNode_eq (fields : Object) :
    fields.toNode =
      fields.describedNode (Value.flattenAll (fields.get? "children").toList) := by
  rw [toNode, flattenField_eq, OrderedMap.get?]

/-- An object that describes an element or a root is refused when its children are. -/
theorem exists_error_of_children {fields : Object} {value : Value} {error : BuildError}
    (parent : fields.nodeType? = some "element" ∨ fields.nodeType? = some "root")
    (given : fields.get? "children" = some value)
    (failed : (addChild [] value).error = some error) :
    ∃ outer, fields.toNode = .error outer := by
  rw [toNode_eq, given, Option.toList_some, Value.flattenAll_singleton, Value.flatten_eq_addChild]
  rcases parent with element | root
  · have wrong : (fields.entries.findSome? fun entry =>
        fieldError? (addChild [] value) entry.1 entry.2).isSome = true := by
      refine List.findSome?_isSome_iff.mpr
        ⟨("children", value), OrderedMap.mem_entries_of_get? given, ?_⟩
      simp [fieldError?, failed]
    obtain ⟨outer, found⟩ := Option.isSome_iff_exists.mp wrong
    simp only [describedNode, element, Option.getD_some, found, String.reduceEq, ↓reduceIte]
    split
    · exact ⟨outer, rfl⟩
    · exact ⟨_, rfl⟩
  · refine ⟨error, ?_⟩
    simp only [describedNode, root, Option.getD_some, Flattening.toExcept, failed]
    rfl

end Object

namespace Value

/-- The nodes that a leaf gives alone. -/
inductive Gives : Value → List Node → Prop where
  | string (text : String) : Gives (.string text) [.text text]
  | number (number : Number) : Gives (.number number) [.text number.display]
  | root (children : List Node) : Gives (.node (.root children)) children
  | node {tree : Node} (other : tree.isRoot = false) : Gives (.node tree) [tree]
  | rootObject {fields : Object} {children : List Node} (shaped : fields.isNodeShaped = true)
      (converted : fields.toNode = .ok (.root children)) : Gives (.object fields) children
  | nodeObject {fields : Object} {tree : Node} (shaped : fields.isNodeShaped = true)
      (converted : fields.toNode = .ok tree) (other : tree.isRoot = false) :
      Gives (.object fields) [tree]

/-- The error with which a leaf is refused. -/
inductive Refuses : Value → BuildError → Prop where
  | boolean (value : Bool) : Refuses (.boolean value) (.invalidChild (Value.boolean value).display)
  | object {fields : Object} (plain : fields.isNodeShaped = false) :
      Refuses (.object fields) (.invalidChild fields.display)
  | nodeObject {fields : Object} {error : BuildError} (shaped : fields.isNodeShaped = true)
      (failed : fields.toNode = .error error) : Refuses (.object fields) error

variable {leaf : Value}

/-- A leaf that gives nodes appends them to whatever is there. -/
theorem Gives.addChild_eq {added : List Node} (gives : leaf.Gives added) (nodes : List Node) :
    addChild nodes leaf = .ofNodes (nodes ++ added) := by
  cases gives with
  | string text => rfl
  | number number => rfl
  | root children => rfl
  | node other => rw [addChild, Node.unwrapped_of_isRoot other]
  | rootObject shaped converted =>
      simp only [addChild, shaped, converted, ↓reduceIte]
      rfl
  | nodeObject shaped converted other =>
      simp only [addChild, shaped, converted, ↓reduceIte, Node.unwrapped_of_isRoot other]

/-- A leaf that is refused appends nothing. -/
theorem Refuses.addChild_eq {error : BuildError} (refuses : leaf.Refuses error)
    (nodes : List Node) : addChild nodes leaf = ⟨nodes, some error⟩ := by
  cases refuses with
  | boolean value => rfl
  | object plain => simp only [addChild, plain, Bool.false_eq_true, ↓reduceIte]
  | nodeObject shaped failed => simp only [addChild, shaped, failed, ↓reduceIte]

mutual

/-- A leaf is no null and no list. -/
theorem ne_of_mem_leaves {value : Value} (member : leaf ∈ value.leaves) :
    leaf ≠ .null ∧ ∀ items, leaf ≠ .array items := by
  cases value with
  | null => cases member
  | array items => exact ne_of_mem_leavesAll member
  | _ =>
      obtain rfl := List.mem_singleton.mp member
      exact ⟨nofun, nofun⟩

private theorem ne_of_mem_leavesAll {values : List Value} (member : leaf ∈ leavesAll values) :
    leaf ≠ .null ∧ ∀ items, leaf ≠ .array items := by
  cases values with
  | nil => cases member
  | cons value rest =>
      rcases List.mem_append.mp member with first | later
      · exact ne_of_mem_leaves first
      · exact ne_of_mem_leavesAll later

end

/-- A leaf gives nodes or is refused. -/
theorem gives_or_refuses {values : List Value} (member : leaf ∈ leavesAll values) :
    (∃ added, leaf.Gives added) ∨ ∃ error, leaf.Refuses error := by
  obtain ⟨notNull, notArray⟩ := ne_of_mem_leavesAll member
  cases leaf with
  | null => exact absurd rfl notNull
  | array items => exact absurd rfl (notArray items)
  | boolean value => exact .inr ⟨_, .boolean value⟩
  | number value => exact .inl ⟨_, .number value⟩
  | string value => exact .inl ⟨_, .string value⟩
  | node tree =>
      cases tree with
      | root children => exact .inl ⟨_, .root children⟩
      | _ => exact .inl ⟨_, .node rfl⟩
  | object fields =>
      cases shaped : Object.isNodeShaped fields with
      | false => exact .inr ⟨_, .object shaped⟩
      | true =>
          cases converted : Object.toNode fields with
          | error error => exact .inr ⟨_, .nodeObject shaped converted⟩
          | ok tree =>
              cases tree with
              | root children => exact .inl ⟨_, .rootObject shaped converted⟩
              | _ => exact .inl ⟨_, .nodeObject shaped converted rfl⟩

end Value

/-- Leaves that give nodes are appended before what follows them. -/
theorem addChildren_append {before : List Value} {contributed : List (List Node)}
    (gives : List.Forall₂ Value.Gives before contributed) (nodes : List Node)
    (after : List Value) :
    addChildren nodes (before ++ after) = addChildren (nodes ++ contributed.flatten) after := by
  induction gives generalizing nodes with
  | nil => rw [List.nil_append, List.flatten_nil, List.append_nil]
  | @cons leaf added rest others first _ ih =>
      rw [List.cons_append, addChildren, first.addChild_eq, List.flatten_cons, ← List.append_assoc]
      exact ih (nodes ++ added)

/-- When no value fails, every leaf has given nodes, and these are the nodes in order. -/
theorem exists_contributed_of_flattenAll {values : List Value}
    (success : (Value.flattenAll values).error = none) :
    ∃ contributed, List.Forall₂ Value.Gives (Value.leavesAll values) contributed ∧
      (Value.flattenAll values).nodes = contributed.flatten := by
  rw [← Value.flattenAll_leavesAll] at success ⊢
  have each (leaf : Value) (member : leaf ∈ Value.leavesAll values) :=
    Value.gives_or_refuses member
  generalize Value.leavesAll values = leaves at success each ⊢
  induction leaves with
  | nil => exact ⟨[], .nil, rfl⟩
  | cons leaf rest ih =>
      simp only [Value.flattenAll, Value.flatten_eq_addChild] at success ⊢
      rcases each leaf List.mem_cons_self with ⟨added, gives⟩ | ⟨error, refuses⟩
      · rw [gives.addChild_eq] at success ⊢
        obtain ⟨contributed, others, nodes⟩ :=
          ih success fun other later => each other (List.mem_cons_of_mem _ later)
        refine ⟨added :: contributed, .cons gives others, ?_⟩
        rw [List.flatten_cons, ← nodes]
        rfl
      · rw [refuses.addChild_eq] at success
        cases success

/-- **Children are appended leaf by leaf, up to the first leaf that is refused.** What values
append depends on them alone. A leaf gives its nodes, or it is refused and leaves the list as it
is; an object is refused when the children of the element or root that it describes are. -/
theorem addChildren_leaves (values : List Value) :
    (∃ suffix error, ∀ nodes, addChildren nodes values = ⟨nodes ++ suffix, error⟩) ∧
      (∀ leaf ∈ Value.leavesAll values,
        (∃ added, leaf.Gives added ∧ ∀ nodes, addChild nodes leaf = ⟨nodes ++ added, none⟩) ∨
          ∃ error, leaf.Refuses error ∧ ∀ nodes, addChild nodes leaf = ⟨nodes, some error⟩) ∧
      (∀ contributed, List.Forall₂ Value.Gives (Value.leavesAll values) contributed →
        ∀ nodes, addChildren nodes values = ⟨nodes ++ contributed.flatten, none⟩) ∧
      (∀ before bad after contributed error,
        Value.leavesAll values = before ++ bad :: after →
        List.Forall₂ Value.Gives before contributed → bad.Refuses error →
        ∀ nodes, addChildren nodes values = ⟨nodes ++ contributed.flatten, some error⟩) ∧
      ∀ (fields : Object) (children : Value) (inner : BuildError),
        fields.nodeType? = some "element" ∨ fields.nodeType? = some "root" →
        fields.get? "children" = some children → (addChild [] children).error = some inner →
        ∃ error, (Value.object fields).Refuses error := by
  refine ⟨⟨_, _, fun nodes => addChildren_eq nodes values⟩, ?_, ?_, ?_, ?_⟩
  · intro leaf member
    rcases Value.gives_or_refuses member with ⟨added, gives⟩ | ⟨error, refuses⟩
    · exact .inl ⟨added, gives, gives.addChild_eq⟩
    · exact .inr ⟨error, refuses, refuses.addChild_eq⟩
  · intro contributed gives nodes
    rw [← addChildren_leavesAll, ← List.append_nil (Value.leavesAll values),
      addChildren_append gives]
    rfl
  · intro before bad after contributed error leaves gives refuses nodes
    rw [← addChildren_leavesAll, leaves, addChildren_append gives, addChildren,
      refuses.addChild_eq]
  · intro fields children inner parent given failed
    have shaped : fields.isNodeShaped = true := by
      rcases parent with element | root
      · simp only [Object.isNodeShaped, element, Option.isSome_some]
      · simp only [Object.isNodeShaped, root, Option.isSome_some]
    obtain ⟨error, refused⟩ := Object.exists_error_of_children parent given failed
    exact ⟨error, .nodeObject shaped refused⟩

/-- A paragraph whose second child is refused. -/
def brokenParagraph : Object :=
  ⟨[("type", .string "element"), ("tagName", .string "p"),
    ("children", .array [.string "x", .array [.boolean true]])]⟩

/-- A text, and a root in a list, are appended before a paragraph that is refused together with
its own text. Without the paragraph all is appended. -/
theorem addChildren_leaves_broken :
    Value.leavesAll [.array [.string "a", .array [.null, .node (.root [.text "b"])]],
        .object brokenParagraph, .string "c"] =
        [.string "a", .node (.root [.text "b"])] ++ .object brokenParagraph :: [.string "c"] ∧
      List.Forall₂ Value.Gives [.string "a", .node (.root [.text "b"])]
        [[.text "a"], [.text "b"]] ∧
      (Value.object brokenParagraph).Refuses (.invalidChild "true") ∧
      (∀ nodes, addChildren nodes
          [.array [.string "a", .array [.null, .node (.root [.text "b"])]],
            .object brokenParagraph, .string "c"] =
        ⟨nodes ++ [.text "a", .text "b"], some (.invalidChild "true")⟩) ∧
      (∀ nodes, addChildren nodes
          [.array [.string "a", .array [.null, .node (.root [.text "b"])]]] =
        ⟨nodes ++ [.text "a", .text "b"], none⟩) ∧
      brokenParagraph.nodeType? = some "element" ∧
      (addChild [] (.array [.string "x", .array [.boolean true]])).error =
        some (.invalidChild "true") ∧
      ∃ error, (Value.object brokenParagraph).Refuses error := by
  have gives : List.Forall₂ Value.Gives [.string "a", .node (.root [.text "b"])]
      [[.text "a"], [.text "b"]] :=
    .cons (.string "a") (.cons (.root _) .nil)
  have refuses : (Value.object brokenParagraph).Refuses (.invalidChild "true") :=
    .nodeObject rfl rfl
  obtain ⟨-, -, -, stops, refused⟩ := addChildren_leaves
    [.array [.string "a", .array [.null, .node (.root [.text "b"])]], .object brokenParagraph,
      .string "c"]
  obtain ⟨-, -, all, -, -⟩ := addChildren_leaves
    [.array [.string "a", .array [.null, .node (.root [.text "b"])]]]
  exact ⟨rfl, gives, refuses, stops _ _ _ _ _ rfl gives refuses, all _ gives, rfl, rfl,
    refused _ _ _ (.inl rfl) rfl rfl⟩

end MarkupTree
