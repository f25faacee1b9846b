import MarkupTree.Text.Lowercase
import MarkupTree.Value

/-! # Property bag or child

The first argument of an element may be its property bag or its first child. Only an
object or a node can be a bag. An object with a text under `type` could describe a node,
so the tag name and the other fields decide: an input takes every object as a bag, a
list of children makes a child, a button takes the types of buttons as bags and
everything else as children, and elsewhere a value makes a child.
-/

namespace MarkupTree

/-- What the first argument of an element is. -/
inductive Argument where
  | properties
  | child
deriving Repr, DecidableEq

/-- What tells a node from a property bag. -/
structure Shape where
  nodeType : String
  hasChildren : Bool
  hasValue : Bool
deriving Repr, DecidableEq

/-- The shape of a node, or of an object that names a kind of node. -/
def Value.shape? : Value → Option Shape
  | .node tree => some ⟨tree.typeName, !tree.isText, tree.isText⟩
  | .object fields =>
    (Object.nodeType? fields).map fun nodeType =>
      { nodeType
        hasChildren :=
          match fields.get? "children" with
          | some (.array _) => true
          | _ => false
        hasValue := fields.contains "value" }
  | _ => none

def buttonTypes : List String := ["menu", "submit", "reset", "button"]

/-- What an argument of the given shape is for an element with the given tag name. -/
def Shape.classify (tagName : String) (shape : Shape) : Argument :=
  if shape.nodeType.isEmpty then .properties
  else if shape.hasChildren then .child
  else if tagName = "button" then
    if buttonTypes.contains (Text.lowercase shape.nodeType) then .properties else .child
  else if shape.hasValue then .child
  else .properties

/-- What a value is as the first argument of an element with the given tag name. -/
def classify (tagName : String) (value : Value) : Argument :=
  match value with
  | .object _ | .node _ =>
    if tagName = "input" then .properties
    else
      match value.shape? with
      | some shape => shape.classify tagName
      | none => .properties
  | _ => .child

end MarkupTree
