import MarkupTree.Error
import MarkupTree.Resolution

/-! # Values become children

Children are given as values: texts and numbers, nodes, objects that describe nodes, and
lists of all these. Flattening opens lists and roots and leaves a plain list of nodes. It
goes from left to right and stops at the first value that is no child; the nodes up to
there remain (`Flattening`).

`Value.flatten` says what a value contributes. A list of children that is already there
grows by `addChild`, value by value.
-/

namespace MarkupTree

/-- What flattening values leaves: the nodes up to the first value that is no child, and
what was wrong with that one. -/
structure Flattening where
  nodes : List Node
  error : Option BuildError
deriving Inhabited

namespace Flattening

/-- Nothing, without an error. -/
def empty : Flattening := ⟨[], none⟩

/-- Some nodes, without an error. -/
def ofNodes (nodes : List Node) : Flattening := ⟨nodes, none⟩

def failed (error : BuildError) : Flattening := ⟨[], some error⟩

/-- One flattening after another, which does not begin where the first one stopped. -/
def andThen (first : Flattening) (second : Unit → Flattening) : Flattening :=
  match first.error with
  | some _ => first
  | none =>
    let following := second ()
    ⟨first.nodes ++ following.nodes, following.error⟩

def toExcept (flattening : Flattening) : Except BuildError (List Node) :=
  match flattening.error with
  | some error => .error error
  | none => .ok flattening.nodes

end Flattening

/-- The nodes that a node contributes as a child: a root is opened. -/
def Node.unwrapped : Node → List Node
  | .root children => children
  | node => [node]

namespace Object

/-- The properties of an object that describes an element, as they are given: without a
schema and without what has no property value. -/
def plainProperties (fields : Object) : Properties :=
  .ofList (fields.entries.filterMap fun entry =>
    (PropertyValue.ofValue? entry.2).map fun value => (entry.1, value))

/-- What is wrong with a field of an object that describes an element, given what became
of its children. -/
def fieldError? (children : Flattening) (name : String) (value : Value) : Option BuildError :=
  if name = "properties" then
    match value with
    | .object _ => none
    | .null => none
    | _ => some (.invalidNode "element" .badProperties)
  else if name = "children" then children.error
  else none

/-- The node that an object describes, given what became of its `children` field. Of
several errors in the fields of an element the first one in the object's order counts. -/
def describedNode (fields : Object) (children : Flattening) : Except BuildError Node :=
  let nodeType := (nodeType? fields).getD ""
  if nodeType = "text" then
    match fields.get? "value" with
    | none => .error (.invalidNode nodeType .noValue)
    | some .null => .error (.invalidNode nodeType .noValue)
    | some value => .ok (.text value.display)
  else if nodeType = "element" then
    match fields.get? "tagName" with
    | some (.string tagName) =>
      match fields.entries.findSome? fun entry => fieldError? children entry.1 entry.2 with
      | some error => .error error
      | none =>
        let properties : Properties :=
          match fields.get? "properties" with
          | some (.object given) => plainProperties given
          | _ => .empty
        .ok (.element tagName properties children.nodes none)
    | _ => .error (.invalidNode nodeType .noTagName)
  else if nodeType = "root" then children.toExcept.map Node.root
  else .error (.invalidNode nodeType .unsupported)

end Object

namespace Value

mutual

/-- The nodes that a value contributes as a child. -/
def flatten : Value → Flattening
  | .null => .empty
  | .boolean value => .failed (.invalidChild (Value.boolean value).display)
  | .number value => .ofNodes [.text value.display]
  | .string value => .ofNodes [.text value]
  | .array items => flattenAll items
  | .object ⟨entries⟩ =>
    if Object.isNodeShaped ⟨entries⟩ then
      match Object.describedNode ⟨entries⟩ (flattenField entries) with
      | .ok described => .ofNodes described.unwrapped
      | .error error => .failed error
    else .failed (.invalidChild (Object.display ⟨entries⟩))
  | .node tree => .ofNodes tree.unwrapped

/-- The nodes that several values contribute one after the other. -/
def flattenAll : List Value → Flattening
  | [] => .empty
  | value :: rest => (flatten value).andThen fun _ => flattenAll rest

/-- The nodes that the `children` field of an object contributes. -/
def flattenField : List (String × Value) → Flattening
  | [] => .empty
  | (name, value) :: rest => if name = "children" then flatten value else flattenField rest

end

end Value

def Object.toNode (fields : Object) : Except BuildError Node :=
  describedNode fields (Value.flattenField fields.entries)

mutual

/-- Appends what a value contributes to a list of nodes. When it fails, the nodes that were
appended before it did remain. -/
def addChild (nodes : List Node) : Value → Flattening
  | .null => .ofNodes nodes
  | .boolean value => ⟨nodes, some (.invalidChild (Value.boolean value).display)⟩
  | .number value => .ofNodes (nodes ++ [.text value.display])
  | .string value => .ofNodes (nodes ++ [.text value])
  | .array items => addChildren nodes items
  | .object fields =>
    if Object.isNodeShaped fields then
      match Object.toNode fields with
      | .ok described => .ofNodes (nodes ++ described.unwrapped)
      | .error error => ⟨nodes, some error⟩
    else ⟨nodes, some (.invalidChild (Object.display fields))⟩
  | .node tree => .ofNodes (nodes ++ tree.unwrapped)

/-- Appends what several values contribute to a list of nodes, one after the other, up to the
first that fails. -/
def addChildren (nodes : List Node) : List Value → Flattening
  | [] => .ofNodes nodes
  | value :: rest =>
    let added := addChild nodes value
    match added.error with
    | some _ => added
    | none => addChildren added.nodes rest

end

end MarkupTree
