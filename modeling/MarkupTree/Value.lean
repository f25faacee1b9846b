import MarkupTree.Tree.Node

/-! # Untyped values

What is passed to build a node is untyped: a property bag, a child or the value of a
property may each be any value. An object maps names to values in order; a node may be
passed as it is.

A value has a text (`Value.display`), which is what stands where a text is wanted, and a
numeric notion of sameness (`Value.same`), in which a value that holds anything that is
not a number is not even the same as itself.
-/

namespace MarkupTree

/-- A value of any type. -/
inductive Value where
  | null
  | boolean (value : Bool)
  | number (value : Number)
  | string (value : String)
  | array (items : List Value)
  | object (fields : OrderedMap Value)
  | node (tree : Node)
deriving Inhabited

/-- Named values in order: a property bag, a style or the fields of a node. -/
abbrev Object := OrderedMap Value

namespace Value

def isNull : Value → Bool
  | .null => true
  | _ => false

/-- Whether the value is dropped where a property value is wanted: nothing, or a number
that is not a number. -/
def isNullish : Value → Bool
  | .null => true
  | .number value => value.isNan
  | _ => false

/-- The object that a value is, if it is one. -/
def object? : Value → Option Object
  | .object fields => some fields
  | _ => none

def ofListItem : ListItem → Value
  | .number value => .number value
  | .string value => .string value

def ofPropertyValue : PropertyValue → Value
  | .boolean value => .boolean value
  | .number value => .number value
  | .string value => .string value
  | .list items => .array (items.map ofListItem)

mutual

/-- The text of a value. A list is written with commas and nothing for each null in it, an
object as declarations, and a node as its text content. -/
def display : Value → String
  | .null => "null"
  | .boolean value => if value then "true" else "false"
  | .number value => value.display
  | .string value => value
  | .array items => ",".intercalate (displayItems items)
  | .object ⟨entries⟩ => "; ".intercalate (declarations entries)
  | .node tree => tree.textContent

def displayItems : List Value → List String
  | [] => []
  | item :: rest => (if item.isNull then "" else display item) :: displayItems rest

/-- The declarations of named values: each name with its value behind a colon. -/
def declarations : List (String × Value) → List String
  | [] => []
  | (name, value) :: rest => (name ++ ": " ++ display value) :: declarations rest

end

mutual

/-- Whether two values are the same: numbers are compared numerically, objects and the
properties of nodes without regard to order, and everything else in order. -/
def same : Value → Value → Bool
  | .null, .null => true
  | .boolean first, .boolean second => first == second
  | .number first, .number second => first.same second
  | .string first, .string second => first == second
  | .array first, .array second => sameItems first second
  | .object ⟨first⟩, .object second =>
    first.length == second.entries.length && sameFields first second.entries
  | .node first, .node second => first.same second
  | _, _ => false

/-- Whether two lists hold the same values in order. -/
def sameItems : List Value → List Value → Bool
  | [], [] => true
  | first :: firstRest, second :: secondRest => same first second && sameItems firstRest secondRest
  | _, _ => false

/-- Whether each name is bound to the same value among other named values. -/
def sameFields : List (String × Value) → List (String × Value) → Bool
  | [], _ => true
  | (name, value) :: rest, others =>
    (match others.lookup name with
      | some other => same value other
      | none => false) && sameFields rest others

end

end Value

namespace Object

/-- The text of an object: its declarations between semicolons. -/
def display (fields : Object) : String := (Value.object fields).display

def same (first second : Object) : Bool := (Value.object first).same (.object second)

/-- The text under `type`, by which an object says that it stands for a node. -/
def nodeType? (fields : Object) : Option String :=
  match fields.get? "type" with
  | some (.string name) => some name
  | _ => none

def isNodeShaped (fields : Object) : Bool := fields.nodeType?.isSome

/-- The fields of a node. A template's content is no field. -/
def ofNode : Node → Object
  | .root children => ⟨[("type", .string "root"), ("children", .array (children.map .node))]⟩
  | .element tagName properties children _ =>
    ⟨[("type", .string "element"), ("tagName", .string tagName),
      ("properties", .object (properties.mapValues .ofPropertyValue)),
      ("children", .array (children.map .node))]⟩
  | .text value => ⟨[("type", .string "text"), ("value", .string value)]⟩

end Object

end MarkupTree
