import MarkupTree.Proofs.Flattening
import MarkupTree.Proofs.Properties.NanFree

/-! # Nodes that constructors can build

A node is reachable if it comes from finitely many successful calls of the constructors,
on any values and with any factories, where the nodes that are embedded in the values are
reachable themselves (`Node.Reachable`). Every part of such a node is proper
(`Node.Proper`): no root stands below another node, and no property holds what is not a
number.

A constructor opens a root among its arguments only once. That is enough because what was
directly below that root is no root already, so the invariant is carried by what a value
contributes (`Value.fits_of_flattenAll`), and each constructor follows from that.
-/

namespace MarkupTree

namespace Value

mutual

/-- The nodes that are embedded in a value, at any depth of its lists and objects. -/
def embedded : Value → List Node
  | .array items => embeddedAll items
  | .object ⟨entries⟩ => embeddedFields entries
  | .node tree => [tree]
  | _ => []

/-- The nodes that are embedded in several values. -/
def embeddedAll : List Value → List Node
  | [] => []
  | value :: rest => embedded value ++ embeddedAll rest

/-- The nodes that are embedded in named values. -/
def embeddedFields : List (String × Value) → List Node
  | [] => []
  | (_, value) :: rest => embedded value ++ embeddedFields rest

end

end Value

/-- What holds of texts, and of a described element as soon as it holds of its children. -/
structure Node.KeptByDescription (kept : Node → Prop) : Prop where
  text : ∀ value, kept (.text value)
  element : ∀ tagName given children, (∀ child ∈ children, kept child) →
    kept (.element tagName (Object.plainProperties given) children none)

namespace Value

variable {kept : Node → Prop}

mutual

/-- A value contributes nodes of which something holds that descriptions keep, if it holds of
what the nodes embedded in the value contribute. -/
theorem each_of_flatten (closed : Node.KeptByDescription kept) (value : Value)
    (given : ∀ tree ∈ value.embedded, ∀ node ∈ tree.unwrapped, kept node) :
    ∀ node ∈ value.flatten.nodes, kept node := by
  cases value with
  | null => simp [flatten, Flattening.empty]
  | boolean value => simp [flatten, Flattening.failed]
  | number value => simpa [flatten, Flattening.ofNodes] using closed.text _
  | string value => simpa [flatten, Flattening.ofNodes] using closed.text _
  | array items => exact each_of_flattenAll closed items given
  | node tree => exact given tree (List.mem_singleton.mpr rfl)
  | object fields =>
      obtain ⟨entries⟩ := fields
      have children := each_of_flattenField closed entries given
      simp only [flatten]
      split
      · split
        · next tree made =>
            rcases Object.describedNode_cases made with
              ⟨-, value, -, rfl⟩ | ⟨-, tagName, given, rfl⟩ | ⟨-, -, rfl⟩
            · simpa [Flattening.ofNodes, Node.unwrapped] using closed.text value.display
            · simpa [Flattening.ofNodes, Node.unwrapped] using closed.element _ _ _ children
            · exact children
        · simp [Flattening.failed]
      · simp [Flattening.failed]

/-- **What descriptions keep, flattening keeps**: it holds of all nodes that values are flattened to
if it does of those that are embedded. -/
theorem each_of_flattenAll (closed : Node.KeptByDescription kept) (values : List Value)
    (given : ∀ tree ∈ embeddedAll values, ∀ node ∈ tree.unwrapped, kept node) :
    ∀ node ∈ (flattenAll values).nodes, kept node := by
  cases values with
  | nil => simp [flattenAll, Flattening.empty]
  | cons value rest =>
      have first := each_of_flatten closed value
        fun tree member => given tree (List.mem_append_left _ member)
      have others := each_of_flattenAll closed rest
        fun tree member => given tree (List.mem_append_right _ member)
      intro node member
      simp only [flattenAll, Flattening.andThen] at member
      split at member
      · exact first node member
      · exact (List.mem_append.mp member).elim (first node) (others node)

private theorem each_of_flattenField (closed : Node.KeptByDescription kept)
    (entries : List (String × Value))
    (given : ∀ tree ∈ embeddedFields entries, ∀ node ∈ tree.unwrapped, kept node) :
    ∀ node ∈ (flattenField entries).nodes, kept node := by
  cases entries with
  | nil => simp [flattenField, Flattening.empty]
  | cons entry rest =>
      obtain ⟨name, value⟩ := entry
      simp only [flattenField]
      split
      · exact each_of_flatten closed value
          fun tree member => given tree (List.mem_append_left _ member)
      · exact each_of_flattenField closed rest
          fun tree member => given tree (List.mem_append_right _ member)

end

end Value

namespace Node

/-- A node that comes from finitely many successful calls of constructors. -/
inductive Reachable : Node → Prop where
  /-- The outcome of building HTML. -/
  | html {selector : Option String} {arguments : List Value} {node : Node}
      (given : ∀ tree ∈ Value.embeddedAll arguments, Reachable tree)
      (built : h selector arguments = .ok node) : Reachable node
  /-- The outcome of building SVG. -/
  | svg {selector : Option String} {arguments : List Value} {node : Node}
      (given : ∀ tree ∈ Value.embeddedAll arguments, Reachable tree)
      (built : s selector arguments = .ok node) : Reachable node
  /-- The outcome of any factory on a selector and arguments. -/
  | created {factory : Factory} {selector : Option String} {arguments : List Value} {node : Node}
      (given : ∀ tree ∈ Value.embeddedAll arguments, Reachable tree)
      (built : factory.create selector arguments = .ok node) : Reachable node
  /-- A root that any factory makes of children. -/
  | root {factory : Factory} {children : List Value} {node : Node}
      (given : ∀ tree ∈ Value.embeddedAll children, Reachable tree)
      (built : factory.root children = .ok node) : Reachable node
  /-- An element that any factory makes of a bag and children. -/
  | element {factory : Factory} {selector : String} {bag : Object} {children : List Value}
      {node : Node}
      (given : ∀ tree ∈ Value.embeddedAll (.object bag :: children), Reachable tree)
      (built : factory.element selector bag children = .ok node) : Reachable node
  /-- The node that an object describes. -/
  | described {fields : Object} {node : Node}
      (given : ∀ tree ∈ (Value.object fields).embedded, Reachable tree)
      (built : fields.toNode = .ok node) : Reachable node

/-- What is asked of each part of a tree. -/
structure Proper (part : Node) : Prop where
  flat : ∀ lower ∈ part.directlyBelow, lower.isRoot = false
  nanFree : part.properties.NanFree

/-- What may stand below another node: a tree of proper parts that is no root. -/
structure Fits (node : Node) : Prop where
  notRoot : node.isRoot = false
  proper : node.Everywhere Proper

/-- A text is no root and holds no properties. -/
theorem fits_text (value : String) : (Node.text value).Fits where
  notRoot := rfl
  proper := (everywhere_iff _).mpr
    ⟨⟨fun _ below => (List.not_mem_nil below).elim, Properties.nanFree_empty⟩,
      fun _ below => (List.not_mem_nil below).elim⟩

/-- A root over nodes that fit is proper everywhere. -/
theorem everywhere_root {children : List Node} (fits : ∀ child ∈ children, child.Fits) :
    (Node.root children).Everywhere Proper := by
  rw [everywhere_iff, directlyBelow_root]
  refine ⟨⟨?_, Properties.nanFree_empty⟩, fun child member => (fits child member).proper⟩
  rw [directlyBelow_root]
  exact fun child member => (fits child member).notRoot

/-- An element over nodes that fit, with properties that hold numbers only, fits. -/
theorem fits_element (tagName : String) {properties : Properties} (free : properties.NanFree)
    {children : List Node} {content : Option (List Node)}
    (fits : ∀ lower ∈ children ++ content.getD [], lower.Fits) :
    (Node.element tagName properties children content).Fits where
  notRoot := rfl
  proper := (everywhere_iff _).mpr
    ⟨⟨fun lower below => (fits lower below).notRoot, free⟩,
      fun lower below => (fits lower below).proper⟩

private theorem Everywhere.fits_of_unwrapped {tree : Node} (proper : tree.Everywhere Proper) :
    ∀ node ∈ tree.unwrapped, node.Fits := by
  intro node member
  cases tree with
  | root children =>
      have below : node ∈ (Node.root children).directlyBelow :=
        List.mem_append_left _ member
      exact ⟨proper.here.flat node below, proper.below below⟩
  | text value =>
      obtain rfl := List.mem_singleton.mp member
      exact ⟨rfl, proper⟩
  | element tagName properties children content =>
      obtain rfl := List.mem_singleton.mp member
      exact ⟨rfl, proper⟩

end Node

open Node (Proper Fits)

private theorem Object.nanFree_plainProperties (fields : Object) :
    fields.plainProperties.NanFree := by
  rw [Properties.nanFree_iff]
  intro entry member
  obtain ⟨given, _, reads⟩ := List.mem_filterMap.mp (OrderedMap.mem_entries_ofList member)
  obtain ⟨value, plain, rfl⟩ := Option.map_eq_some_iff.mp reads
  exact PropertyValue.nanFree_of_ofValue? plain

/-- An object whose children fit describes a proper tree, if it describes any. -/
theorem Object.everywhere_of_describedNode {fields : Object} {children : Flattening} {node : Node}
    (fits : ∀ child ∈ children.nodes, child.Fits)
    (described : fields.describedNode children = .ok node) : node.Everywhere Proper := by
  rcases describedNode_cases described with
    ⟨-, value, -, rfl⟩ | ⟨-, tagName, given, rfl⟩ | ⟨-, -, rfl⟩
  · exact (Node.fits_text value.display).proper
  · exact (Node.fits_element tagName (nanFree_plainProperties given) (by simpa using fits)).proper
  · exact Node.everywhere_root fits

/-- What an object describes may be a child. -/
theorem Node.keptByDescription_fits : KeptByDescription Fits where
  text := fits_text
  element tagName given children fits :=
    fits_element tagName (Object.nanFree_plainProperties given) (by simpa using fits)

namespace Value

/-- Several values contribute nodes that fit, if the nodes embedded in them are proper. -/
theorem fits_of_flattenAll (values : List Value)
    (given : ∀ tree ∈ embeddedAll values, tree.Everywhere Proper) :
    ∀ node ∈ (flattenAll values).nodes, node.Fits :=
  each_of_flattenAll Node.keptByDescription_fits values
    fun tree member => (given tree member).fits_of_unwrapped

/-- The children field of an object contributes nodes that fit, if the nodes embedded in
the object are proper. -/
theorem fits_of_flattenField (entries : List (String × Value))
    (given : ∀ tree ∈ embeddedFields entries, tree.Everywhere Proper) :
    ∀ node ∈ (flattenField entries).nodes, node.Fits :=
  each_of_flattenField Node.keptByDescription_fits entries
    fun tree member => (given tree member).fits_of_unwrapped

end Value

namespace Factory

/-- A selector sets no numbers. -/
theorem nanFree_selectorProperties (selector : Selector) :
    (selectorProperties selector).NanFree := by
  have named (id : String) : Properties.NanFree (.insert .empty "id" (.string id)) :=
    Properties.nanFree_empty.insert _ (PropertyValue.nanFree_string id)
  cases given : selector.id with
  | none =>
      simp only [selectorProperties, given]
      split
      · exact Properties.nanFree_empty
      · exact Properties.nanFree_empty.insert _ (PropertyValue.nanFree_strings _)
  | some id =>
      simp only [selectorProperties, given]
      split
      · exact named id
      · exact (named id).insert _ (PropertyValue.nanFree_strings _)

/-- Whatever the argument is, what is not a number is not set. -/
theorem Draft.nanFree_addArgument {draft : Draft} (free : draft.properties.NanFree)
    (schema : Schema) (argument : Value) :
    (draft.addArgument schema argument).properties.NanFree := by
  cases argument with
  | object fields => exact free.extend schema _
  | node tree => exact free.extend schema _
  | _ => exact free

/-- A draft becomes a proper tree, if the nodes embedded in its children are proper. -/
theorem Draft.everywhere_of_complete {draft : Draft} (free : draft.properties.NanFree)
    {children : List Value} (given : ∀ tree ∈ Value.embeddedAll children, tree.Everywhere Proper)
    {node : Node} (built : draft.complete children = .ok node) : node.Everywhere Proper := by
  obtain ⟨_, rfl⟩ := (Flattening.map_toExcept_eq_ok_iff _ _ _).mp built
  have fits := Value.fits_of_flattenAll children given
  unfold withChildren
  split
  · exact (Node.fits_element _ free (by simpa using fits)).proper
  · exact (Node.fits_element _ free (by simpa using fits)).proper

variable (factory : Factory) {node : Node}

/-- A root is proper everywhere if the nodes among its children are. -/
theorem everywhere_of_root {children : List Value}
    (given : ∀ tree ∈ Value.embeddedAll children, tree.Everywhere Proper)
    (built : factory.root children = .ok node) : node.Everywhere Proper := by
  obtain ⟨_, rfl⟩ := (Flattening.map_toExcept_eq_ok_iff _ _ _).mp built
  exact Node.everywhere_root (Value.fits_of_flattenAll children given)

/-- An element is proper everywhere if the nodes among its children are. -/
theorem everywhere_of_element {selector : String} {bag : Object} {children : List Value}
    (given : ∀ tree ∈ Value.embeddedAll children, tree.Everywhere Proper)
    (built : factory.element selector bag children = .ok node) : node.Everywhere Proper :=
  Draft.everywhere_of_complete ((nanFree_selectorProperties _).extend factory.schema _) given built

/-- What is created is proper everywhere if the nodes among its arguments are. -/
theorem everywhere_of_create {selector : Option String} {arguments : List Value}
    (given : ∀ tree ∈ Value.embeddedAll arguments, tree.Everywhere Proper)
    (built : factory.create selector arguments = .ok node) : node.Everywhere Proper := by
  cases selector with
  | none => exact factory.everywhere_of_root given built
  | some selector =>
      have free := nanFree_selectorProperties
        (Selector.parse selector factory.defaultTagName)
      simp only [create, createElement] at built
      split at built
      · exact Draft.everywhere_of_complete free given built
      · split at built
        · exact Draft.everywhere_of_complete (Draft.nanFree_addArgument free _ _)
            (fun tree member => given tree (List.mem_append_right _ member)) built
        · exact Draft.everywhere_of_complete free given built

end Factory

/-- **Every part of a reachable node is proper.** No root is a child of a root or an element
or part of a content, and no property is or holds what is not a number, at any depth. -/
theorem Node.Reachable.everywhere_proper {node : Node} (reachable : node.Reachable) :
    node.Everywhere Proper := by
  induction reachable with
  | html given built ih => exact Factory.html.everywhere_of_create ih built
  | svg given built ih => exact Factory.svg.everywhere_of_create ih built
  | created given built ih => exact Factory.everywhere_of_create _ ih built
  | @root factory _ _ given built ih => exact factory.everywhere_of_root ih built
  | element given built ih =>
      exact Factory.everywhere_of_element _
        (fun tree member => ih tree (List.mem_append_right _ member)) built
  | described given built ih =>
      exact Object.everywhere_of_describedNode (Value.fits_of_flattenField _ ih) built

/-- A template around a root around a described element, in whose description a property and
an item are not numbers and a root stands among the children. -/
theorem Node.Reachable.everywhere_proper_template :
    (Node.element "template" .empty []
        (some [.element "p" ⟨[("coords", .list [.string "1"])]⟩ [.text "b", .text "c"] none,
          .text "d"])).Reachable ∧
      (Node.element "template" .empty []
        (some [.element "p" ⟨[("coords", .list [.string "1"])]⟩ [.text "b", .text "c"] none,
          .text "d"])).Everywhere Proper := by
  have described : Object.toNode ⟨[("type", .string "element"), ("tagName", .string "p"),
      ("properties",
        .object ⟨[("title", .number .nan), ("coords", .array [.number .nan, .string "1"])]⟩),
      ("children", .array [.string "b",
        .object ⟨[("type", .string "root"), ("children", .string "c")]⟩])]⟩ =
      .ok (.element "p" ⟨[("coords", .list [.string "1"])]⟩ [.text "b", .text "c"] none) := rfl
  have paragraph := Reachable.described
    (fun _ member => (List.not_mem_nil member).elim) described
  have root := Reachable.root
    (show ∀ tree ∈ Value.embeddedAll [.null, .node _], tree.Reachable from
      fun tree member => List.mem_singleton.mp member ▸ paragraph)
    (show Factory.html.root _ = .ok (.root [_]) from rfl)
  have parsed : Selector.parse "template" "div" = ⟨"template", none, []⟩ := by
    decide +kernel
  have built : h (some "template") [.node (.root [.element "p"
      ⟨[("coords", .list [.string "1"])]⟩ [.text "b", .text "c"] none]), .string "d"] =
      .ok (.element "template" .empty [] (some
        [.element "p" ⟨[("coords", .list [.string "1"])]⟩ [.text "b", .text "c"] none,
          .text "d"])) := by
    simp only [h, Factory.create, Factory.createElement, Factory.draft, Factory.tagName,
      Factory.html, Factory.make, Factory.adjust, Option.map_none, parsed]
    rfl
  have reachable := (Reachable.html · built) fun tree member => by
    obtain rfl := List.mem_singleton.mp member
    exact root
  exact ⟨reachable, reachable.everywhere_proper⟩

end MarkupTree
