import MarkupTree.OrderedMap
import MarkupTree.Number.Layout

/-! # The properties of elements

A property value is a boolean, a number, a text or a list of numbers and texts. The
properties of an element map canonical keys to such values in the order in which the
keys were first set.

Values are compared by what they say (`PropertyValue.same`): numbers numerically, lists
item by item, and properties without regard to order.
-/

namespace MarkupTree

/-- An item of a list value. -/
inductive ListItem where
  | number (value : Number)
  | string (value : String)
deriving Repr, DecidableEq

/-- The value of a property. -/
inductive PropertyValue where
  | boolean (value : Bool)
  | number (value : Number)
  | string (value : String)
  | list (items : List ListItem)
deriving Repr, DecidableEq

/-- The properties of an element in order. -/
abbrev Properties := OrderedMap PropertyValue

namespace ListItem

def display : ListItem → String
  | .number value => value.display
  | .string value => value

def same : ListItem → ListItem → Bool
  | .number first, .number second => first.same second
  | .string first, .string second => first == second
  | _, _ => false

end ListItem

namespace PropertyValue

/-- The text of a value; the items of a list stand between spaces. -/
def display : PropertyValue → String
  | .boolean value => if value then "true" else "false"
  | .number value => value.display
  | .string value => value
  | .list items => " ".intercalate (items.map ListItem.display)

def strings (texts : List String) : PropertyValue := .list (texts.map ListItem.string)

/-- The text that a value is, if it is one. -/
def string? : PropertyValue → Option String
  | .string value => some value
  | _ => none

/-- The boolean that a value is, if it is one. -/
def boolean? : PropertyValue → Option Bool
  | .boolean value => some value
  | _ => none

/-- The number that a value is, if it is one. -/
def number? : PropertyValue → Option Number
  | .number value => some value
  | _ => none

/-- The list that a value is, if it is one. -/
def list? : PropertyValue → Option (List ListItem)
  | .list items => some items
  | _ => none

def same : PropertyValue → PropertyValue → Bool
  | .boolean first, .boolean second => first == second
  | .number first, .number second => first.same second
  | .string first, .string second => first == second
  | .list first, .list second => first.isEqv second ListItem.same
  | _, _ => false

/-- Two lists that are made from one list are the same if each two items are. -/
theorem same_list_map {α : Type} {first second : α → ListItem} {source : List α}
    (each : ∀ item ∈ source, (first item).same (second item) = true) :
    (list (source.map first)).same (list (source.map second)) = true := by
  induction source with
  | nil => rfl
  | cons item rest ih =>
    have here := each item List.mem_cons_self
    have others := ih fun later member => each later (List.mem_cons_of_mem _ member)
    simp only [same] at others ⊢
    simp only [List.map_cons, List.isEqv, here, others, Bool.and_self]

end PropertyValue

/-- Whether two property maps have the same keys with the same values. -/
def Properties.same (first second : Properties) : Bool := first.equalBy PropertyValue.same second

end MarkupTree
