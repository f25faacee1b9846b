import MarkupTree.Factory

/-! # Creating an element is building it behind one decision

`Factory.create` reads its first argument as a property bag or as the first child, and from
there on it does what `Factory.element` does (`Factory.create_eq_element`). Only an object and
a node have a bag to give (`Value.bag?`), and an argument that is not a child always is one of
these (`exists_bag_of_classify`), so no argument is lost. A node is a bag for an input alone
(`classify_node`).
-/

namespace MarkupTree

/-- The property bag that a value gives: an object itself, or the fields of a node. Null,
booleans, numbers, texts and lists give none. -/
def Value.bag? : Value → Option Object
  | .object fields => some fields
  | .node tree => some (.ofNode tree)
  | _ => none

/-- A text is no type of a button. -/
theorem text_notMem_buttonTypes : Text.lowercase "text" ∉ buttonTypes := by
  decide +kernel

/-- A node is a child of every element but an input. -/
theorem classify_node (tagName : String) (tree : Node) :
    classify tagName (.node tree) = if tagName = "input" then .properties else .child := by
  by_cases input : tagName = "input"
  · simp only [classify, input, ↓reduceIte]
  · simp only [classify, input, ↓reduceIte, Value.shape?]
    cases tree with
    | root children => rfl
    | element elementName properties children content => rfl
    | text value =>
        have named : "text".isEmpty = false := rfl
        simp [Shape.classify, Node.typeName, Node.isText, named, text_notMem_buttonTypes]

private theorem classify_empty (tagName : String) :
    classify tagName (.object .empty) = .properties := by
  simp [classify, Value.shape?, Object.nodeType?, OrderedMap.get?_empty]

/-- What is taken as a property bag has a bag to give. -/
theorem exists_bag_of_classify {tagName : String} {value : Value}
    (taken : classify tagName value = .properties) : ∃ bag, value.bag? = some bag := by
  cases value with
  | object fields => exact ⟨fields, rfl⟩
  | node tree => exact ⟨.ofNode tree, rfl⟩
  | _ => cases taken

namespace Factory

private theorem Draft.addArgument_of_bag {value : Value} {bag : Object}
    (given : value.bag? = some bag) (draft : Draft) (schema : Schema) :
    draft.addArgument schema value = draft.addBag schema bag := by
  cases value with
  | object fields => cases given; rfl
  | node tree => cases given; rfl
  | _ => cases given

variable (factory : Factory) (selector : String)

private theorem create_nil :
    factory.create (some selector) [] = factory.element selector .empty [] := rfl

/-- A first argument that is taken for properties is the bag of the element. -/
theorem create_of_properties {first : Value} (rest : List Value) {bag : Object}
    (taken : classify (factory.tagName selector) first = .properties)
    (given : first.bag? = some bag) :
    factory.create (some selector) (first :: rest) = factory.element selector bag rest := by
  have resolved : classify (factory.draft selector).tagName first = .properties := taken
  simp only [create, createElement, resolved, Draft.addArgument_of_bag given, element]

/-- A first argument that is taken for a child is one, and the bag is empty. -/
theorem create_of_child {first : Value} (rest : List Value)
    (child : classify (factory.tagName selector) first = .child) :
    factory.create (some selector) (first :: rest) =
      factory.element selector .empty (first :: rest) := by
  have resolved : classify (factory.draft selector).tagName first = .child := child
  simp only [create, createElement, resolved]
  rfl

/-- **Creating is building behind the decision between bag and child.** An argument that is
taken as a bag is an object, or for an input a node, and its entries are the bag of the element
with the other arguments as children. In all other cases the bag is empty and every argument
is a child, which is no different if an empty bag is put before them. -/
theorem create_eq_element :
    factory.create (some selector) [] = factory.element selector .empty [] ∧
      ∀ (first : Value) (rest : List Value),
        (classify (factory.tagName selector) first = .properties →
          ∃ bag, first.bag? = some bag ∧
            factory.create (some selector) (first :: rest) = factory.element selector bag rest ∧
            (∀ draft : Draft,
              draft.addArgument factory.schema first = draft.addBag factory.schema bag) ∧
            ∀ tree, first = .node tree → factory.tagName selector = "input") ∧
        (classify (factory.tagName selector) first = .child →
          factory.create (some selector) (first :: rest) =
              factory.element selector .empty (first :: rest) ∧
            factory.create (some selector) (.object .empty :: first :: rest) =
              factory.create (some selector) (first :: rest)) := by
  refine ⟨factory.create_nil selector, fun first rest => ⟨fun taken => ?_, fun child => ?_⟩⟩
  · obtain ⟨bag, given⟩ := exists_bag_of_classify taken
    refine ⟨bag, given, factory.create_of_properties selector rest taken given,
      fun draft => draft.addArgument_of_bag given factory.schema, ?_⟩
    rintro tree rfl
    rw [classify_node] at taken
    split at taken
    · next input => exact input
    · cases taken
  · have direct := factory.create_of_child selector rest child
    have behind := factory.create_of_properties selector (first :: rest) (classify_empty _) rfl
    exact ⟨direct, behind.trans direct.symm⟩

/-- A text node as the bag of an input, and an object with a type and a value that is a child
of a button because no button has that type. -/
theorem create_eq_element_input_button :
    (classify (html.tagName "input#a") (.node (.text "b")) = .properties ∧
      html.create (some "input#a") [.node (.text "b"), .string "c"] =
        html.element "input#a" ⟨[("type", .string "text"), ("value", .string "b")]⟩
          [.string "c"]) ∧
    classify (html.tagName "BUTTON")
        (.object ⟨[("type", .string "text"), ("value", .string "b")]⟩) = .child ∧
      html.create (some "BUTTON")
          [.object .empty, .object ⟨[("type", .string "text"), ("value", .string "b")]⟩] =
        html.create (some "BUTTON")
          [.object ⟨[("type", .string "text"), ("value", .string "b")]⟩] := by
  have input : html.tagName "input#a" = "input" := by decide +kernel
  have button : html.tagName "BUTTON" = "button" := by decide +kernel
  have taken : classify (html.tagName "input#a") (.node (.text "b")) = .properties := by
    rw [input]
    rfl
  have child : classify (html.tagName "BUTTON")
      (.object ⟨[("type", .string "text"), ("value", .string "b")]⟩) = .child := by
    rw [button]
    decide +kernel
  obtain ⟨bag, given, same, -⟩ := ((html.create_eq_element "input#a").2 _ [.string "c"]).1 taken
  cases given
  exact ⟨⟨taken, same⟩, child, (((html.create_eq_element "BUTTON").2 _ []).2 child).2⟩

/-- The property bag that `create` takes from its arguments. -/
def bagOf : List Value → Object
  | [] => .empty
  | first :: _ =>
    match classify (factory.tagName selector) first with
    | .properties => first.bag?.getD .empty
    | .child => .empty

/-- A selector and a property bag build a node: in `element` with some children, or in `create`
with arguments of which the bag is taken. -/
def Builds (bag : Object) (node : Node) : Prop :=
  (∃ children, factory.element selector bag children = .ok node) ∨
    ∃ arguments, factory.create (some selector) arguments = .ok node ∧
      factory.bagOf selector arguments = bag

variable {factory selector} {bag : Object} {node : Node}

/-- What `create` builds, `element` builds from the same bag. -/
theorem Builds.exists_children (built : factory.Builds selector bag node) :
    ∃ children, factory.element selector bag children = .ok node := by
  rcases built with ⟨children, made⟩ | ⟨arguments, made, rfl⟩
  · exact ⟨children, made⟩
  · cases arguments with
    | nil => exact ⟨[], made⟩
    | cons first rest =>
        cases decided : classify (factory.tagName selector) first with
        | properties =>
            obtain ⟨bag, given⟩ := exists_bag_of_classify decided
            rw [create_of_properties factory selector rest decided given] at made
            simp only [bagOf, decided, given, Option.getD_some]
            exact ⟨rest, made⟩
        | child =>
            rw [create_of_child factory selector rest decided] at made
            simp only [bagOf, decided]
            exact ⟨first :: rest, made⟩

/-- What is built is the draft of the selector and the bag with some children. -/
theorem Builds.exists_withChildren (built : factory.Builds selector bag node) :
    ∃ nodes, node = ((factory.draft selector).addBag factory.schema bag).withChildren nodes := by
  obtain ⟨children, made⟩ := built.exists_children
  unfold element Draft.complete at made
  cases flat : (Value.flattenAll children).toExcept with
  | error problem =>
      rw [flat] at made
      cases made
  | ok nodes =>
      rw [flat] at made
      exact ⟨nodes, (Except.ok.inj made).symm⟩

end Factory

end MarkupTree
