import MarkupTree.Argument
import MarkupTree.CaseTable
import MarkupTree.Children
import MarkupTree.Config
import MarkupTree.Schema.Known
import MarkupTree.Selector
import MarkupTree.Text.Quoted

/-! # Factories of nodes

A factory builds the nodes of one kind of markup. `Factory.element` takes a selector, a
property bag and children; `Factory.create` takes a selector and arguments, of which the
first may be the property bag (`classify`); `Factory.root` takes children alone.

The children of a template become its content.
-/

namespace MarkupTree

/-- A builder of nodes for one kind of markup. -/
structure Factory where
  schema : Schema
  defaultTagName : String
  caseTable : Option CaseTable

namespace Factory

/-- A factory for a schema. Tag names are given the spelling that they have among `names`,
if there are any. -/
def make (schema : Schema) (defaultTagName : String) (names : Option (List String)) : Factory :=
  ⟨schema, defaultTagName, names.map CaseTable.ofNames⟩

def html : Factory := make .html "div" none

def svg : Factory := make .svg "g" (some svgMixedCaseTagNames)

def schemaOf : Space → Schema
  | .html => .html
  | .svg => .svg

def ofConfig (config : FactoryConfig) : Except ConfigError Factory :=
  config.validate.map fun _ =>
    make (schemaOf config.space) config.defaultTagName
      (if config.adjustCase then some svgMixedCaseTagNames else none)

/-- A tag name in lower case with its capitals restored. -/
def adjust (factory : Factory) (tagName : String) : String :=
  match factory.caseTable with
  | some table => table.adjust tagName
  | none => tagName

/-- The tag name of the elements that a selector names. -/
def tagName (factory : Factory) (selector : String) : String :=
  factory.adjust (Selector.parse selector factory.defaultTagName).tagName

/-- The properties that a selector gives: its id and its classes. -/
def selectorProperties (selector : Selector) : Properties :=
  let withId : Properties :=
    match selector.id with
    | some id => OrderedMap.empty.insert "id" (.string id)
    | none => .empty
  if selector.classNames.isEmpty then withId
  else withId.insert "className" (.strings selector.classNames)

/-- An element without its children: what the selector and the property bag say. -/
structure Draft where
  tagName : String
  properties : Properties

def draft (factory : Factory) (selector : String) : Draft :=
  ⟨factory.tagName selector, selectorProperties (Selector.parse selector factory.defaultTagName)⟩

def Draft.addBag (draft : Draft) (schema : Schema) (bag : Object) : Draft :=
  { draft with properties := draft.properties.extend schema bag.entries }

/-- Adds an argument to a draft: an object, or the fields of a node. -/
def Draft.addArgument (draft : Draft) (schema : Schema) : Value → Draft
  | .object fields => draft.addBag schema fields
  | .node tree => draft.addBag schema (.ofNode tree)
  | _ => draft

/-- The element of a draft with its children, which are the content if it is a template. -/
def Draft.withChildren (draft : Draft) (children : List Node) : Node :=
  if draft.tagName = "template" then .element draft.tagName draft.properties [] (some children)
  else .element draft.tagName draft.properties children none

/-- The element of a draft with children given as values. -/
def Draft.complete (draft : Draft) (children : List Value) : Except BuildError Node :=
  (Value.flattenAll children).toExcept.map draft.withChildren

def root (_factory : Factory) (children : List Value) : Except BuildError Node :=
  (Value.flattenAll children).toExcept.map Node.root

/-- Builds an element from a selector, a property bag and children. -/
def element (factory : Factory) (selector : String) (bag : Object) (children : List Value) :
    Except BuildError Node :=
  ((factory.draft selector).addBag factory.schema bag).complete children

/-- Builds an element from a selector and arguments, of which the first is the property
bag or the first child. -/
def createElement (factory : Factory) (selector : String) (arguments : List Value) :
    Except BuildError Node :=
  let draft := factory.draft selector
  match arguments with
  | [] => draft.complete []
  | first :: rest =>
    match classify draft.tagName first with
    | .properties => (draft.addArgument factory.schema first).complete rest
    | .child => draft.complete arguments

/-- Builds a node: an element if there is a selector, else a root of all arguments. -/
def create (factory : Factory) (selector : Option String) (arguments : List Value) :
    Except BuildError Node :=
  match selector with
  | some selector => factory.createElement selector arguments
  | none => factory.root arguments

def summary (factory : Factory) : String :=
  let table :=
    match factory.caseTable with
    | some table => "Some(" ++ toString table.size ++ ")"
    | none => "None"
  "Factory \x7b space: " ++ Text.quote factory.schema.space ++ ", default_tag_name: " ++
    Text.quote factory.defaultTagName ++ ", case_table: " ++ table ++ " \x7d"

end Factory

/-- Builds an HTML node. -/
def h (selector : Option String) (arguments : List Value) : Except BuildError Node :=
  Factory.html.create selector arguments

/-- Builds an SVG node. -/
def s (selector : Option String) (arguments : List Value) : Except BuildError Node :=
  Factory.svg.create selector arguments

end MarkupTree
