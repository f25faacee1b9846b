import MarkupTree.Json.Reading
import MarkupTree.Tree.Property

/-! # Properties in JSON

Properties are an object whose values are booleans, numbers, texts and lists of numbers
and texts. A repeated key keeps its first place and its last value.
-/

namespace MarkupTree

open Json (ReadFault Piece Parts)

def ListItem.toJson : ListItem → Json
  | .number value => .ofNumber value
  | .string value => .string value

def PropertyValue.toJson : PropertyValue → Json
  | .boolean value => .boolean value
  | .number value => .ofNumber value
  | .string value => .string value
  | .list items => .array (items.map ListItem.toJson)

def Properties.toJson (properties : Properties) : Json :=
  .object (properties.entries.map fun entry => (entry.1, entry.2.toJson))

def ListItem.ofJson? : Json → Option ListItem
  | .number value _ => some (.number value)
  | .string value => some (.string value)
  | _ => none

def PropertyValue.ofJson? : Json → Option PropertyValue
  | .boolean value => some (.boolean value)
  | .number value _ => some (.number value)
  | .string value => some (.string value)
  | .array items => (items.mapM ListItem.ofJson?).map .list
  | _ => none

def Properties.entryOfJson? (field : String × Json) : Option (String × PropertyValue) :=
  (PropertyValue.ofJson? field.2).map fun value => (field.1, value)

def Properties.ofJson? : Json → Option Properties
  | .object fields => (fields.mapM entryOfJson?).map .ofList
  | _ => none

/-- Reads the fields of properties, each as soon as its value is complete. -/
def Properties.readFields (read : Properties) :
    List (String × Piece) → Except ReadFault Properties
  | [] => .ok read
  | (key, piece) :: rest => do
    let json ← piece.readLater (Json.depthLimit - 1)
    match PropertyValue.ofJson? json with
    | some value => readFields (read.insert key value) rest
    | none => .error .mismatch

def Properties.readPiece : Piece → Except ReadFault Properties
  | .group .curly inside closed => do
    let fields := Parts.fields inside
    let properties ← readFields .empty fields.read
    if fields.complete && closed then .ok properties else .error .malformed
  | .group .square _ _ => .error .mismatch
  | .word token => .error (Json.scalarFault token)

/-- Reads properties from a JSON text, their numbers with the given reader. -/
def Properties.readWith (reader : Json.NumberReader) (text : String) :
    Except ReadFault Properties :=
  Json.readDocument reader readPiece text

/-- Reads properties from a JSON text, where numbers are rounded correctly. -/
def Properties.read (text : String) : Except ReadFault Properties := readWith .nearest text

end MarkupTree
