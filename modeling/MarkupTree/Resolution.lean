import MarkupTree.Number.Literal
import MarkupTree.Schema.Basic
import MarkupTree.Text.Lowercase
import MarkupTree.Text.TokenList
import MarkupTree.Value

/-! # Property bags become properties

A property bag names properties in any spelling and gives them values of any type.
`Properties.add` resolves one entry: the schema gives the canonical key and the kind, and
the value is read accordingly and stored under the key. Null and what is not a number are
dropped. Two properties are special: a style is always stored as text, and classes are
added to those that are there already.
-/

namespace MarkupTree

/-- The value of a text under a kind. Under the kind of a number a numeric literal is that
number; under the kind of a boolean the empty text and the property's own name, in any
case, are true. Every other text is kept. -/
def PropertyKind.coerce (kind : PropertyKind) (property text : String) : PropertyValue :=
  let number := if kind.isNumber || kind.isPositiveNumber then Number.parse text else none
  match number with
  | some value => .number value
  | none =>
    if (kind.isBoolean || kind.isOverloadedBoolean) &&
        (text.isEmpty || Text.lowercase text == Text.lowercase property) then .boolean true
    else .string text

/-- An item of a list under a kind: a text that is no number stays the text of its value. -/
def PropertyKind.coerceItem (kind : PropertyKind) (property : String) : ListItem → ListItem
  | .number value => .number value
  | .string text =>
    match kind.coerce property text with
    | .number value => .number value
    | other => .string other.display

/-- The tokens of a text under a kind whose values are lists. -/
def PropertyKind.tokens? (kind : PropertyKind) (text : String) : Option (List String) :=
  if kind.isSpaceSeparated then some (Text.spaceSeparated text)
  else if kind.isCommaSeparated then some (Text.commaSeparated text)
  else if kind.isCommaOrSpaceSeparated then some (Text.commaOrSpaceSeparated text)
  else none

/-- The list item that a value is; only numbers and texts are items by themselves. -/
def ListItem.ofValue : Value → ListItem
  | .number value => .number value
  | .string value => .string value
  | other => .string other.display

/-- The list items of a list of values, less those that are dropped. -/
def ListItem.ofValues (values : List Value) : List ListItem :=
  (values.filter fun value => !value.isNullish).map ListItem.ofValue

/-- The property value of a value without regard to a schema. An object is its
declarations and a node its text. -/
def PropertyValue.ofValue? : Value → Option PropertyValue
  | .null => none
  | .boolean value => some (.boolean value)
  | .number value => if value.isNan then none else some (.number value)
  | .string value => some (.string value)
  | .array items => some (.list (ListItem.ofValues items))
  | .object fields => some (.string (Object.display fields))
  | .node tree => some (.string tree.textContent)

namespace Properties

/-- The value of a property before its texts are read: texts of a list kind are split and
lists keep what can be an item. -/
def uncoerced? (kind : PropertyKind) : Value → Option PropertyValue
  | .string text =>
    match kind.tokens? text with
    | some tokens => some (.list (tokens.map ListItem.string))
    | none => some (.string text)
  | value => PropertyValue.ofValue? value

/-- The items that a value adds to the classes: those of a list, or the text of the value,
all as texts. -/
def classItems : PropertyValue → List ListItem
  | .list items => items.map fun item => .string item.display
  | scalar => [.string scalar.display]

def presentClasses (properties : Properties) : List ListItem :=
  match properties.get? "className" with
  | some (.list items) => items
  | _ => []

/-- Reads the texts of a value under the kind of its property. -/
def coerced (info : PropertyInfo) : PropertyValue → PropertyValue
  | .string text => info.kind.coerce info.property text
  | .list items => .list (items.map (info.kind.coerceItem info.property))
  | scalar => scalar

/-- The value that an entry stores under its resolved key, if it stores one. -/
def stored? (properties : Properties) (info : PropertyInfo) (value : Value) :
    Option PropertyValue :=
  if value.isNullish then none
  else if info.property = "style" then some (.string value.display)
  else
    (uncoerced? info.kind value).map fun read =>
      coerced info
        (if info.property = "className" then .list (presentClasses properties ++ classItems read)
          else read)

def add (schema : Schema) (properties : Properties) (key : String) (value : Value) : Properties :=
  let info := schema.find key
  match stored? properties info value with
  | some read => properties.insert info.property read
  | none => properties

/-- Adds the entries of a property bag in their order. -/
def extend (schema : Schema) (properties : Properties) (entries : List (String × Value)) :
    Properties :=
  entries.foldl (fun built entry => add schema built entry.1 entry.2) properties

end Properties

end MarkupTree
