import MarkupTree.Proofs.Appending

/-! # Text is conserved

The text content of what a factory builds is the texts of the leaves of its children, in order
(`Factory.textContent_eq`). A leaf keeps its text when it is flattened
(`Value.Gives.leafText?_eq`), and children keep theirs when they become content
(`Factory.Draft.textContent_withChildren`). What an object describes has the text of its value or
of its children (`Object.textContent_toNode`).
-/

namespace MarkupTree

/-- The text of several nodes is that of the first before that of the others. -/
theorem Node.textContents_append (first second : List Node) :
    textContents (first ++ second) = textContents first ++ textContents second := by
  induction first with
  | nil => rw [List.nil_append, textContents, String.empty_append]
  | cons node rest ih => rw [List.cons_append, textContents, textContents, ih, String.append_assoc]

private theorem Node.textContents_flatten (contributed : List (List Node)) :
    textContents contributed.flatten = String.join (contributed.map textContents) := by
  induction contributed with
  | nil => rfl
  | cons added others ih =>
      rw [List.flatten_cons, textContents_append, ih, List.map_cons, String.join_cons]

private theorem Node.textContents_singleton (node : Node) :
    textContents [node] = node.textContent := by
  rw [textContents, textContents, String.append_empty]

namespace Value

/-- The text of a leaf that is a child: a text itself, a number as it is written, and the text
content of a node or of the node that an object describes. -/
def leafText? : Value → Option String
  | .string text => some text
  | .number value => some value.display
  | .node tree => some tree.textContent
  | .object fields =>
    if Object.isNodeShaped fields then (Object.toNode fields).toOption.map Node.textContent
    else none
  | _ => none

/-- The texts of the leaves of values, one after the other. -/
def leafTexts? (values : List Value) : Option String :=
  ((leavesAll values).mapM leafText?).map String.join

/-- A leaf keeps its text. -/
theorem Gives.leafText?_eq {leaf : Value} {added : List Node} (gives : leaf.Gives added) :
    leaf.leafText? = some (Node.textContents added) := by
  cases gives with
  | string text => rw [Node.textContents_singleton, Node.textContent, leafText?]
  | number value => rw [Node.textContents_singleton, Node.textContent, leafText?]
  | root children => rw [leafText?, Node.textContent]
  | node other => rw [Node.textContents_singleton, leafText?]
  | rootObject shaped converted =>
      simp only [leafText?, shaped, converted, ↓reduceIte, Except.toOption, Option.map_some,
        Node.textContent]
  | nodeObject shaped converted other =>
      simp only [leafText?, shaped, converted, ↓reduceIte, Except.toOption, Option.map_some,
        Node.textContents_singleton]

/-- The texts of leaves are those of the nodes that they give. -/
theorem mapM_leafText? {leaves : List Value} {contributed : List (List Node)}
    (gives : List.Forall₂ Gives leaves contributed) :
    leaves.mapM leafText? = some (contributed.map Node.textContents) := by
  induction gives with
  | nil => rfl
  | cons first _ ih =>
      rw [List.mapM_cons, first.leafText?_eq, ih]
      rfl

/-- Values that do not fail keep the texts of their leaves. -/
theorem leafTexts?_of_flattenAll {values : List Value}
    (success : (flattenAll values).error = none) :
    leafTexts? values = some (Node.textContents (flattenAll values).nodes) := by
  obtain ⟨contributed, gives, nodes⟩ := exists_contributed_of_flattenAll success
  rw [leafTexts?, mapM_leafText? gives, Option.map_some, nodes, Node.textContents_flatten]

end Value

namespace Object

variable {fields : Object} {node : Node}

/-- The children of a described element or root do not fail. -/
theorem error_children_of_toNode (described : fields.toNode = .ok node)
    (parent : fields.nodeType? = some "element" ∨ fields.nodeType? = some "root") :
    (Value.flattenAll (fields.get? "children").toList).error = none := by
  cases given : fields.get? "children" with
  | none => rfl
  | some value =>
      rw [Option.toList_some, Value.flattenAll_singleton, Value.flatten_eq_addChild]
      by_contra failing
      obtain ⟨error, failed⟩ := Option.ne_none_iff_exists'.mp failing
      obtain ⟨outer, refused⟩ := exists_error_of_children parent given failed
      rw [described] at refused
      cases refused

/-- What an object describes has the text of its value if it is a text, else the texts of the
leaves of its children. -/
theorem textContent_toNode (described : fields.toNode = .ok node) :
    some node.textContent =
      if fields.nodeType? = some "text" then (fields.get? "value").map Value.display
      else Value.leafTexts? (fields.get? "children").toList := by
  have children := error_children_of_toNode described
  rw [toNode_eq] at described
  rcases describedNode_cases described with
    ⟨text, value, given, rfl⟩ | ⟨element, tagName, properties, rfl⟩ | ⟨root, -, rfl⟩
  · rw [if_pos text, given, Node.textContent, Option.map_some]
  · rw [if_neg (by simp [element]), Value.leafTexts?_of_flattenAll (children (.inl element)),
      Node.textContent]
  · rw [if_neg (by simp [root]), Value.leafTexts?_of_flattenAll (children (.inr root)),
      Node.textContent]

end Object

/-- The text of an element is that of its children, also where they are content. -/
theorem Factory.Draft.textContent_withChildren (draft : Draft) (children : List Node) :
    (draft.withChildren children).textContent = Node.textContents children := by
  unfold withChildren
  split
  · rw [Node.textContent, Node.textContents, String.empty_append]
  · rw [Node.textContent]

namespace Factory

/-- **Text is conserved.** A root or an element has the texts of the leaves of its children, in
order, whatever the selector and the bag are, for a template too. -/
theorem textContent_eq (factory : Factory) (values : List Value) :
    (∀ built, factory.root values = .ok built →
      Value.leafTexts? values = some built.textContent) ∧
      ∀ selector bag built, factory.element selector bag values = .ok built →
        Value.leafTexts? values = some built.textContent := by
  constructor
  · intro built success
    obtain ⟨flattened, rfl⟩ := (Flattening.map_toExcept_eq_ok_iff _ _ _).mp success
    rw [Value.leafTexts?_of_flattenAll (congrArg Flattening.error flattened), Node.textContent]
  · intro selector bag built success
    obtain ⟨flattened, rfl⟩ := (Flattening.map_toExcept_eq_ok_iff _ _ _).mp success
    rw [Value.leafTexts?_of_flattenAll (congrArg Flattening.error flattened),
      Draft.textContent_withChildren]

/-- A text and a number in a list, a described paragraph and a template. -/
def mixedChildren : List Value :=
  [.array [.null, .string "a", .number (.ofInt 1)],
    .object ⟨[("type", .string "element"), ("tagName", .string "p"),
      ("children", .array [.string "b"])]⟩,
    .node (.element "template" .empty [] (some [.text "c"]))]

/-- A root of the mixed children, and a template that has them as its content. -/
theorem textContent_eq_template :
    Value.leafTexts? mixedChildren = some "a1bc" ∧
      (∃ built, html.root mixedChildren = .ok built ∧
        Value.leafTexts? mixedChildren = some built.textContent) ∧
      ∃ properties content,
        html.element "template" ⟨[("title", .string "t")]⟩ mixedChildren =
          .ok (.element "template" properties [] (some content)) ∧
        Value.leafTexts? mixedChildren =
          some (Node.element "template" properties [] (some content)).textContent := by
  have texts : Value.leafTexts? mixedChildren = some "a1bc" := by decide +kernel
  have rooted : html.root mixedChildren = .ok (.root (Value.flattenAll mixedChildren).nodes) := rfl
  have parsed : Selector.parse "template" "div" = ⟨"template", none, []⟩ := by decide +kernel
  have built : html.element "template" ⟨[("title", .string "t")]⟩ mixedChildren =
      .ok (.element "template"
        ((html.draft "template").addBag html.schema ⟨[("title", .string "t")]⟩).properties []
        (some (Value.flattenAll mixedChildren).nodes)) := by
    have named : (html.draft "template").tagName = "template" := by
      simp only [draft, tagName, html, make, adjust, Option.map_none, parsed]
    have children : Value.flattenAll mixedChildren =
        .ofNodes (Value.flattenAll mixedChildren).nodes := rfl
    rw [element, Draft.complete, children]
    simp only [Flattening.toExcept, Flattening.ofNodes, Except.map, Draft.withChildren,
      Draft.addBag, named, ↓reduceIte]
  have conserved := html.textContent_eq mixedChildren
  exact ⟨texts, ⟨_, rooted, conserved.1 _ rooted⟩, _, _, built, conserved.2 _ _ _ built⟩

end Factory

end MarkupTree
