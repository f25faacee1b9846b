import MarkupTree.Factory

/-! # Flattening depends on the leaves alone

The leaves of values are what is left when lists are opened and nulls are dropped
(`Value.leavesAll`). Flattening several values is flattening their leaves
(`Value.flattenAll_leavesAll`), and it takes a concatenation part by part
(`Value.flattenAll_append`), so that neither the nodes nor the error that flattening stops
at depend on how values are grouped. A root that was built from some values stands for
them in the same sense. What an object describes is said once, by its type
(`Object.describedNode_cases`).
-/

namespace MarkupTree

/-- A node that is no root is unwrapped to itself. -/
theorem Node.unwrapped_of_isRoot {node : Node} (other : node.isRoot = false) :
    node.unwrapped = [node] := by
  cases node with
  | root children => cases other
  | text value => rfl
  | element tagName properties children content => rfl

namespace Flattening

/-- Going on after nothing is what comes next. -/
@[simp] theorem empty_andThen (second : Unit → Flattening) :
    empty.andThen second = second () := rfl

/-- Going on with nothing changes nothing. -/
@[simp] theorem andThen_empty (first : Flattening) : (first.andThen fun _ => empty) = first := by
  obtain ⟨nodes, error⟩ := first
  cases error with
  | none => simp only [andThen, empty, List.append_nil]
  | some error => rfl

/-- Going on after a flattening does not depend on how the parts are grouped. -/
theorem andThen_assoc (first : Flattening) (second third : Unit → Flattening) :
    (first.andThen second).andThen third = first.andThen fun _ => (second ()).andThen third := by
  obtain ⟨nodes, error⟩ := first
  cases error with
  | some error => rfl
  | none =>
      simp only [andThen]
      cases stopped : (second ()).error with
      | some error => simp only [stopped]
      | none => simp only [List.append_assoc]

/-- A node is made of a flattening exactly if it did not stop. -/
theorem map_toExcept_eq_ok_iff (flattening : Flattening) (make : List Node → Node) (built : Node) :
    flattening.toExcept.map make = .ok built ↔
      flattening = ofNodes flattening.nodes ∧ make flattening.nodes = built := by
  obtain ⟨nodes, error⟩ := flattening
  cases error with
  | none => simp only [toExcept, Except.map, ofNodes, Except.ok.injEq, true_and]
  | some error => simp only [toExcept, Except.map, ofNodes, reduceCtorEq, mk.injEq, and_false,
      false_and]

end Flattening

/-- By its type an object describes a text, an element without content that has the plain
properties of some object, or a root. -/
theorem Object.describedNode_cases {fields : Object} {children : Flattening} {node : Node}
    (described : fields.describedNode children = .ok node) :
    (fields.nodeType? = some "text" ∧
      ∃ value, fields.get? "value" = some value ∧ node = .text value.display) ∨
      (fields.nodeType? = some "element" ∧
        ∃ tagName given, node = .element tagName (plainProperties given) children.nodes none) ∨
      (fields.nodeType? = some "root" ∧
        children = .ofNodes children.nodes ∧ node = .root children.nodes) := by
  cases named : fields.nodeType? with
  | none => simp [describedNode, named] at described
  | some name =>
      simp only [describedNode, named, Option.getD_some] at described
      split at described
      · next text =>
        split at described <;> cases described
        next value _ given => exact .inl ⟨congrArg some text, value, given, rfl⟩
      · split at described
        · next element =>
          split at described
          · split at described
            · cases described
            · cases described
              refine .inr (.inl ⟨congrArg some element, ?_⟩)
              split
              · exact ⟨_, _, rfl⟩
              · exact ⟨_, .empty, rfl⟩
          · cases described
        · split at described
          · next root =>
            obtain ⟨flattened, made⟩ := (Flattening.map_toExcept_eq_ok_iff _ _ _).mp described
            exact .inr (.inr ⟨congrArg some root, flattened, made.symm⟩)
          · cases described

namespace Value

/-- Flattening a concatenation goes on with its second part after the first. -/
theorem flattenAll_append (first second : List Value) :
    flattenAll (first ++ second) = (flattenAll first).andThen fun _ => flattenAll second := by
  induction first with
  | nil => rfl
  | cons value rest ih =>
      simp only [List.cons_append, flattenAll]
      rw [ih, Flattening.andThen_assoc]

/-- A value alone is flattened like the value. -/
theorem flattenAll_singleton (value : Value) : flattenAll [value] = value.flatten :=
  Flattening.andThen_empty _

mutual

/-- The leaves of a value: nulls are dropped and lists are opened at any depth. -/
def leaves : Value → List Value
  | .null => []
  | .array items => leavesAll items
  | leaf => [leaf]

def leavesAll : List Value → List Value
  | [] => []
  | value :: rest => leaves value ++ leavesAll rest

end

mutual

private theorem flattenAll_leaves (value : Value) : flattenAll value.leaves = value.flatten := by
  cases value with
  | null => rfl
  | array items => exact flattenAll_leavesAll items
  | boolean value => exact flattenAll_singleton _
  | number value => exact flattenAll_singleton _
  | string value => exact flattenAll_singleton _
  | object fields => exact flattenAll_singleton _
  | node tree => exact flattenAll_singleton _

/-- **Only the leaves count**: values are flattened like their leaves. -/
theorem flattenAll_leavesAll (values : List Value) :
    flattenAll (leavesAll values) = flattenAll values := by
  cases values with
  | nil => rfl
  | cons value rest =>
      simp only [leavesAll, flattenAll]
      rw [flattenAll_append, flattenAll_leaves value, flattenAll_leavesAll rest]

end

/-- Values that are flattened alike may stand for each other in a list. -/
theorem flattenAll_congr_segment {segment replacement : List Value}
    (same : flattenAll segment = flattenAll replacement) (before after : List Value) :
    flattenAll (before ++ segment ++ after) = flattenAll (before ++ replacement ++ after) := by
  simp only [flattenAll_append, same]

end Value

namespace Factory

/-- A root that was built from values contributes, as a child, what the values contribute. -/
theorem flatten_root {factory : Factory} {values : List Value} {built : Node}
    (success : factory.root values = .ok built) :
    (Value.node built).flatten = Value.flattenAll values := by
  obtain ⟨flattened, rfl⟩ := (Flattening.map_toExcept_eq_ok_iff _ _ _).mp success
  exact flattened.symm

/-- A root depends on its children by what they are flattened to. -/
theorem root_congr (factory : Factory) {first second : List Value}
    (same : Value.flattenAll first = Value.flattenAll second) :
    factory.root first = factory.root second := by
  simp only [root, same]

/-- An element depends on its children by what they are flattened to. -/
theorem element_congr (factory : Factory) (selector : String) (bag : Object)
    {first second : List Value} (same : Value.flattenAll first = Value.flattenAll second) :
    factory.element selector bag first = factory.element selector bag second := by
  simp only [element, Draft.complete, same]

/-- **Regrouping children never changes a result.** Children with the same leaves make the
same root and the same element, or fail alike; and so do children in which a segment is
replaced by the root that was built from it. -/
theorem regroup (factory : Factory) :
    (∀ first second : List Value, Value.leavesAll first = Value.leavesAll second →
      factory.root first = factory.root second ∧
        ∀ selector bag,
          factory.element selector bag first = factory.element selector bag second) ∧
    ∀ (before segment after : List Value) (built : Node), factory.root segment = .ok built →
      factory.root (before ++ [.node built] ++ after) = factory.root (before ++ segment ++ after) ∧
        ∀ selector bag, factory.element selector bag (before ++ [.node built] ++ after) =
          factory.element selector bag (before ++ segment ++ after) := by
  constructor
  · intro first second leaves
    have same : Value.flattenAll first = Value.flattenAll second := by
      rw [← Value.flattenAll_leavesAll first, leaves, Value.flattenAll_leavesAll]
    exact ⟨factory.root_congr same, fun selector bag => factory.element_congr selector bag same⟩
  · intro before segment after built success
    have single : Value.flattenAll [.node built] = Value.flattenAll segment := by
      rw [Value.flattenAll_singleton, flatten_root success]
    have same := Value.flattenAll_congr_segment single before after
    exact ⟨factory.root_congr same, fun selector bag => factory.element_congr selector bag same⟩

/-- Lists in lists with a null and a value that is no child, against the same leaves in one
row; and a root of two texts in place of what it was built from. -/
theorem regroup_nested :
    (Value.leavesAll [.array [.string "a", .array [.null, .boolean true]]] =
        Value.leavesAll [.string "a", .null, .boolean true] ∧
      svg.root [.array [.string "a", .array [.null, .boolean true]]] =
        svg.root [.string "a", .null, .boolean true] ∧
      ∀ selector bag,
        svg.element selector bag [.array [.string "a", .array [.null, .boolean true]]] =
          svg.element selector bag [.string "a", .null, .boolean true]) ∧
    svg.root [.array [.string "a"], .string "b"] = .ok (.root [.text "a", .text "b"]) ∧
      svg.root ([.null] ++ [.node (.root [.text "a", .text "b"])] ++ [.string "c"]) =
        svg.root ([.null] ++ [.array [.string "a"], .string "b"] ++ [.string "c"]) ∧
      ∀ selector bag,
        svg.element selector bag
            ([.null] ++ [.node (.root [.text "a", .text "b"])] ++ [.string "c"]) =
          svg.element selector bag
            ([.null] ++ [.array [.string "a"], .string "b"] ++ [.string "c"]) := by
  have leaves : Value.leavesAll [.array [.string "a", .array [.null, .boolean true]]] =
      Value.leavesAll [.string "a", .null, .boolean true] := rfl
  have built : svg.root [.array [.string "a"], .string "b"] =
      .ok (.root [.text "a", .text "b"]) := rfl
  exact ⟨⟨leaves, svg.regroup.1 _ _ leaves⟩, built, svg.regroup.2 [.null] _ [.string "c"] _ built⟩

end Factory

end MarkupTree
