import Mathlib.Data.List.Basic
import MarkupTree.Proofs.Creation
import MarkupTree.Proofs.Flattening
import MarkupTree.Proofs.Properties.NanFree

/-! # Trees spelled out as objects

A tree can be given as it is or spelled out as objects within objects (`Node.spelled`). Of a
tree that an object can spell (`Node.Spellable`), the object describes just that tree
(`Node.toNode_spelled`), so that it contributes the same children as the tree. The tree and the
object are also taken alike when they come first, where an argument may be a property bag, except
by an input, for which both are bags. An argument of `Factory.create`, or an item of one at any
depth, may therefore be the one or the other (`Node.create_spelled`).
-/

namespace MarkupTree

namespace Node

mutual

/-- The object that spells out a node. The content of a template is left out. -/
def spelled : Node → Object
  | .text value => ⟨[("type", .string "text"), ("value", .string value)]⟩
  | .root children => ⟨[("type", .string "root"), ("children", .array (spelledAll children))]⟩
  | .element tagName properties children _ =>
    ⟨[("type", .string "element"), ("tagName", .string tagName),
      ("properties", .object (properties.mapValues .ofPropertyValue)),
      ("children", .array (spelledAll children))]⟩

def spelledAll : List Node → List Value
  | [] => []
  | node :: rest => .object (spelled node) :: spelledAll rest

end

/-- What is asked of each part of a tree that is spelled out: no content, no root below, no
property that is or holds what is not a number, and no property key twice, as in every map that
is made by the operations on maps. -/
structure Spellable (part : Node) : Prop where
  contentless : part.content? = none
  flat : ∀ child ∈ part.children, child.isRoot = false
  nanFree : part.properties.NanFree
  distinct : part.properties.Distinct

instance : DecidablePred Spellable := fun part =>
  decidable_of_iff
    (part.content? = none ∧ (∀ child ∈ part.children, child.isRoot = false) ∧
      part.properties.NanFree ∧ part.properties.Distinct)
    ⟨fun ⟨contentless, flat, nanFree, distinct⟩ => ⟨contentless, flat, nanFree, distinct⟩,
      fun ⟨contentless, flat, nanFree, distinct⟩ => ⟨contentless, flat, nanFree, distinct⟩⟩

/-- The object that spells a node describes one. -/
theorem isNodeShaped_spelled (node : Node) : node.spelled.isNodeShaped = true := by
  cases node <;> simp [spelled, Object.isNodeShaped, Object.nodeType?, OrderedMap.get?]

end Node

/-- Properties that are passed as values, without a schema, are the properties. -/
theorem Object.plainProperties_mapValues {properties : Properties} (free : properties.NanFree)
    (distinct : properties.Distinct) :
    Object.plainProperties (properties.mapValues .ofPropertyValue) = properties := by
  have kept : (properties.mapValues Value.ofPropertyValue).entries.filterMap
      (fun entry => (PropertyValue.ofValue? entry.2).map fun value => (entry.1, value)) =
      properties.entries := by
    rw [OrderedMap.mapValues, List.filterMap_map]
    calc properties.entries.filterMap _
        = properties.entries.filterMap some := by
          apply List.filterMap_congr
          intro entry member
          have read := PropertyValue.ofValue?_ofPropertyValue
            ((Properties.nanFree_iff properties).mp free entry member)
          simp only [Function.comp, read, Option.map_some]
      _ = properties.entries := List.filterMap_some
  rw [plainProperties, kept, distinct.ofList_entries]

/-- An object that describes a node contributes what the node contributes. -/
theorem Value.flatten_of_toNode {fields : Object} {node : Node}
    (shaped : fields.isNodeShaped = true) (described : fields.toNode = .ok node) :
    (Value.object fields).flatten = (Value.node node).flatten := by
  obtain ⟨entries⟩ := fields
  have built : Object.describedNode ⟨entries⟩ (flattenField entries) = .ok node := described
  simp only [flatten, shaped, ↓reduceIte, built]

namespace Node

mutual

/-- An object that spells out a tree describes the tree. -/
theorem toNode_spelled (node : Node) (spellable : node.Everywhere Spellable) :
    node.spelled.toNode = .ok node := by
  cases node with
  | text value => rfl
  | root children =>
      have flattened :
          Value.flattenField (Node.root children).spelled.entries = .ofNodes children :=
        flattenAll_spelledAll children spellable.children spellable.here.flat
      rw [Object.toNode, flattened]
      rfl
  | element tagName properties children content =>
      have flattened : Value.flattenField
          (Node.element tagName properties children content).spelled.entries =
            .ofNodes children :=
        flattenAll_spelledAll children spellable.children spellable.here.flat
      have contentless : content = none := spellable.here.contentless
      have plain : Object.plainProperties (properties.mapValues .ofPropertyValue) = properties :=
        Object.plainProperties_mapValues spellable.here.nanFree spellable.here.distinct
      rw [Object.toNode, flattened, contentless]
      calc Object.describedNode (Node.element tagName properties children none).spelled
            (.ofNodes children)
          = .ok (.element tagName
              (Object.plainProperties (properties.mapValues .ofPropertyValue)) children none) := rfl
        _ = .ok (.element tagName properties children none) := by rw [plain]

private theorem flattenAll_spelledAll (nodes : List Node)
    (spellable : ∀ node ∈ nodes, node.Everywhere Spellable)
    (flat : ∀ node ∈ nodes, node.isRoot = false) :
    Value.flattenAll (spelledAll nodes) = .ofNodes nodes := by
  cases nodes with
  | nil => rfl
  | cons node rest =>
      have single : (Value.object node.spelled).flatten = .ofNodes [node] := by
        rw [Value.flatten_of_toNode node.isNodeShaped_spelled
          (toNode_spelled node (spellable node List.mem_cons_self)), Value.flatten,
          unwrapped_of_isRoot (flat node List.mem_cons_self)]
      have others := flattenAll_spelledAll rest
        (fun lower member => spellable lower (List.mem_cons_of_mem _ member))
        (fun lower member => flat lower (List.mem_cons_of_mem _ member))
      rw [spelledAll, Value.flattenAll, single, others]
      rfl

end

/-- **The object that spells a node is flattened like the node.** -/
theorem flatten_spelled {node : Node} (spellable : node.Everywhere Spellable) :
    (Value.object node.spelled).flatten = (Value.node node).flatten :=
  Value.flatten_of_toNode node.isNodeShaped_spelled (toNode_spelled node spellable)

/-- An object that spells out a node has the shape of the node. -/
theorem shape?_spelled (node : Node) :
    (Value.object node.spelled).shape? = (Value.node node).shape? := by
  cases node with
  | text value => rfl
  | root children => rfl
  | element tagName properties children content => rfl

/-- The object that spells a node is taken for a child or for properties like the node. -/
theorem classify_spelled (tagName : String) (node : Node) :
    classify tagName (.object node.spelled) = classify tagName (.node node) := by
  simp only [classify, shape?_spelled]

/-- One list of values has a node where the other has the object that spells it out: in one
place, which is a value of the list or an item at any depth of a value that is a list. -/
inductive Respelled (node : Node) : List Value → List Value → Prop where
  | here (after : List Value) :
    Respelled node (.node node :: after) (.object node.spelled :: after)
  | inside {items replaced : List Value} (within : Respelled node items replaced)
      (after : List Value) : Respelled node (.array items :: after) (.array replaced :: after)
  | later (value : Value) {values replaced : List Value} (within : Respelled node values replaced) :
    Respelled node (value :: values) (value :: replaced)

/-- Spelling some nodes of a list out does not change what it is flattened to. -/
theorem Respelled.flattenAll_eq {node : Node} (spellable : node.Everywhere Spellable)
    {values replaced : List Value} (respelled : Respelled node values replaced) :
    Value.flattenAll replaced = Value.flattenAll values := by
  induction respelled with
  | here after => simp only [Value.flattenAll, flatten_spelled spellable]
  | inside within after ih => simp only [Value.flattenAll, Value.flatten, ih]
  | later value within ih => simp only [Value.flattenAll, ih]

/-- **A tree spelled out as objects builds the same thing.** The object that spells out a tree
describes that tree; and for every element but an input it makes no difference which of the two
is an argument, the first one included, or an item of an argument at any depth. -/
theorem create_spelled (node : Node) (spellable : node.Everywhere Spellable) :
    node.spelled.toNode = .ok node ∧
      ∀ (factory : Factory) (selector : String), factory.tagName selector ≠ "input" →
        ∀ arguments replaced, Respelled node arguments replaced →
          factory.create (some selector) replaced = factory.create (some selector) arguments := by
  refine ⟨toNode_spelled node spellable, ?_⟩
  intro factory selector other arguments replaced respelled
  have same := respelled.flattenAll_eq spellable
  cases respelled with
  | here after =>
      have nodeChild : classify (factory.tagName selector) (.node node) = .child := by
        rw [classify_node, if_neg other]
      have objectChild := (classify_spelled (factory.tagName selector) node).trans nodeChild
      rw [factory.create_of_child selector after objectChild,
        factory.create_of_child selector after nodeChild]
      exact factory.element_congr selector .empty same
  | inside within after =>
      rw [factory.create_of_child selector after rfl, factory.create_of_child selector after rfl]
      exact factory.element_congr selector .empty same
  | @later value values replaced within =>
      cases kind : classify (factory.tagName selector) value with
      | child =>
          rw [factory.create_of_child selector _ kind, factory.create_of_child selector _ kind]
          exact factory.element_congr selector .empty same
      | properties =>
          obtain ⟨bag, given⟩ := exists_bag_of_classify kind
          rw [factory.create_of_properties selector _ kind given,
            factory.create_of_properties selector _ kind given]
          exact factory.element_congr selector bag (within.flattenAll_eq spellable)

/-- An element with a list of a number and a text among its properties and an element below it,
within a list behind a null, as arguments of a button. -/
theorem create_spelled_button :
    let tree := Node.element "p" ⟨[("title", .string "a"), ("coords", .list [.number .zero,
      .string "b"])]⟩ [.text "c", .element "i" .empty [] none] none
    (tree.Everywhere Spellable ∧ tree.spelled.toNode = .ok tree) ∧
      Factory.html.tagName "button#d" ≠ "input" ∧
        Respelled tree [.array [.null, .node tree]] [.array [.null, .object tree.spelled]] ∧
        Factory.html.create (some "button#d") [.array [.null, .object tree.spelled]] =
          Factory.html.create (some "button#d") [.array [.null, .node tree]] := by
  intro tree
  have spellable : tree.Everywhere Spellable := by decide
  have button : Factory.html.tagName "button#d" ≠ "input" := by decide +kernel
  have respelled : Respelled tree [.array [.null, .node tree]]
      [.array [.null, .object tree.spelled]] := .inside (.later .null (.here [])) []
  obtain ⟨described, same⟩ := create_spelled tree spellable
  exact ⟨⟨spellable, described⟩, button, respelled, same Factory.html _ button _ _ respelled⟩

end Node

end MarkupTree
