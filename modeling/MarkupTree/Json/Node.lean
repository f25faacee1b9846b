import MarkupTree.Json.Properties
import MarkupTree.Tree.Node

/-! # Nodes in JSON

A node is an object whose field `type` names its kind; the other fields depend on it. The
content of an element is written as a root. When a node is read, `type` may stand
anywhere, fields that the kind does not have are ignored, and missing children and
properties are empty. A field of the kind that is given twice is a mistake.

A node may also be a list: its kind, then the values of its fields in their order. The
same holds for the content of an element, whose kind is not looked at. Below the outermost
node the kind may be given by its number.
-/

namespace MarkupTree

open Json (ReadFault Piece Parts)

namespace Node

/-- The kinds of nodes. -/
inductive Kind where
  | root
  | element
  | text
deriving Repr, DecidableEq

namespace Kind

def ofName? (name : String) : Option Kind :=
  if name = "root" then some .root
  else if name = "element" then some .element
  else if name = "text" then some .text
  else none

def ofNumber? (number : Number) : Option Kind :=
  if number = .ofInt 0 then some .root
  else if number = .ofInt 1 then some .element
  else if number = .ofInt 2 then some .text
  else none

def ofJson? : Json → Option Kind
  | .string name => ofName? name
  | .number value true => ofNumber? value
  | _ => none

/-- The fields that a kind of node has beside its kind. -/
def fieldNames : Kind → List String
  | .root => ["children"]
  | .element => ["tagName", "properties", "children", "content"]
  | .text => ["value"]

def readPiece (piece : Piece) : Except ReadFault Kind := do
  let name ← piece.readString
  match ofName? name with
  | some kind => .ok kind
  | none => .error .mismatch

end Kind

mutual

/-- The JSON value of a node. -/
def toJson : Node → Json
  | .text value => .object [("type", .string "text"), ("value", .string value)]
  | .root children => .object [("type", .string "root"), ("children", .array (toJsons children))]
  | .element tagName properties children content =>
    .object ([("type", .string "element"), ("tagName", .string tagName),
      ("properties", properties.toJson), ("children", .array (toJsons children))] ++
      contentToJson content)

def toJsons : List Node → List Json
  | [] => []
  | node :: rest => toJson node :: toJsons rest

/-- The field of an element's content if there is any. -/
def contentToJson : Option (List Node) → List (String × Json)
  | none => []
  | some content =>
    [("content", .object [("type", .string "root"), ("children", .array (toJsons content))])]

end

/-- Whether each of some names is given at most once. -/
def areSingle (names : List String) (fields : List (String × Json)) : Bool :=
  names.all fun name => (fields.map Prod.fst).count name ≤ 1

/-- What the nodes below a node are read as, where its fields say so. -/
structure Below where
  /-- The children; none if they are no list of nodes. -/
  children : Option (List Node)
  /-- The content; none if it is neither `null` nor a root. -/
  content : Option (Option (List Node))

/-- The node of a kind with the given fields, given what is read below it. -/
def ofFields? (kind : Kind) (fields : List (String × Json)) (below : Below) : Option Node :=
  if areSingle kind.fieldNames fields then
    match kind with
    | .root => below.children.map .root
    | .text =>
      match fields.lookup "value" with
      | some (.string value) => some (.text value)
      | _ => none
    | .element =>
      match fields.lookup "tagName" with
      | some (.string tagName) =>
        let properties :=
          match fields.lookup "properties" with
          | some given => Properties.ofJson? given
          | none => some .empty
        match properties, below.children, below.content with
        | some properties, some children, some content =>
          some (.element tagName properties children content)
        | _, _, _ => none
      | _ => none
  else none

/-- The names that the values of a list stand for, for as long as there are names. -/
def named (kind : Kind) (values : List Json) : Option (List (String × Json)) :=
  if values.length ≤ kind.fieldNames.length then some (kind.fieldNames.zip values) else none

/-- The kind of a node among its fields, which is given exactly once. -/
def kindOf? (fields : List (String × Json)) : Option Kind :=
  if (fields.map Prod.fst).count "type" = 1 then (fields.lookup "type").bind Kind.ofJson? else none

mutual

/-- The node of a JSON value. -/
def ofJson? : Json → Option Node
  | .object fields =>
    match kindOf? fields with
    | some kind => ofFields? kind fields ⟨childrenField? fields, contentField? fields⟩
    | none => none
  | .array (first :: values) =>
    match Kind.ofJson? first with
    | some kind =>
      match named kind values with
      | some fields => ofFields? kind fields (belowInList kind values)
      | none => none
    | none => none
  | _ => none

def ofJsons? : List Json → Option (List Node)
  | [] => some []
  | json :: rest =>
    match ofJson? json, ofJsons? rest with
    | some node, some nodes => some (node :: nodes)
    | _, _ => none

def ofJsonList? : Json → Option (List Node)
  | .array items => ofJsons? items
  | _ => none

/-- The children among the fields of a node; none are given if there is no such field. -/
def childrenField? : List (String × Json) → Option (List Node)
  | [] => some []
  | (name, value) :: rest =>
    if name = "children" then ofJsonList? value else childrenField? rest

/-- The content that a JSON value gives to an element. -/
def contentOfJson? : Json → Option (Option (List Node))
  | .null => some none
  | .object fields =>
    if areSingle ["children"] fields then (childrenField? fields).map some else none
  | .array [] => some (some [])
  | .array [children] => (ofJsonList? children).map some
  | _ => none

def contentField? : List (String × Json) → Option (Option (List Node))
  | [] => some none
  | (name, value) :: rest =>
    if name = "content" then contentOfJson? value else contentField? rest

/-- What stands below a node of a kind that is given as a list of the values of its fields. -/
def belowInList (kind : Kind) : List Json → Below
  | [] => ⟨some [], some none⟩
  | first :: rest =>
    match kind with
    | .root => ⟨ofJsonList? first, some none⟩
    | .text => ⟨some [], some none⟩
    | .element => belowTagName rest

/-- What stands below an element, given the values behind its tag name. -/
def belowTagName : List Json → Below
  | _ :: children :: content :: _ => ⟨ofJsonList? children, contentOfJson? content⟩
  | [_, children] => ⟨ofJsonList? children, some none⟩
  | _ => ⟨some [], some none⟩

end

/-- Reads the fields of the outermost node: its kind at once, the others for later. -/
def readFields (kind : Option Kind) (read : List (String × Json)) :
    List (String × Piece) → Except ReadFault (Option Kind × List (String × Json))
  | [] => .ok (kind, read)
  | (name, piece) :: rest =>
    if name = "type" then
      match kind with
      | some _ => .error .mismatch
      | none => do
        let kind ← Kind.readPiece piece
        readFields (some kind) read rest
    else do
      let json ← piece.readLater (Json.depthLimit - 1)
      readFields kind (read ++ [(name, json)]) rest

/-- The outcome of decoding a value that was kept for later. -/
def decoded {α : Type} : Option α → Except ReadFault α
  | some value => .ok value
  | none => .error .mismatch

/-- Reads the values of a list, each for later. -/
def readItems : List Piece → Except ReadFault (List Json)
  | [] => .ok []
  | piece :: rest => do
    let json ← piece.readLater (Json.depthLimit - 1)
    let jsons ← readItems rest
    .ok (json :: jsons)

def readPiece : Piece → Except ReadFault Node
  | .group .curly inside closed => do
    let fields := Parts.fields inside
    let (kind, read) ← readFields none [] fields.read
    if fields.complete && closed then
      match kind with
      | some kind => decoded (ofFields? kind read ⟨childrenField? read, contentField? read⟩)
      | none => .error .mismatch
    else .error .malformed
  | .group .square inside closed =>
    let items := Parts.items inside
    match items.read with
    | [] => .error (if items.complete && closed then .mismatch else .malformed)
    | first :: rest => do
      let kind ← Kind.readPiece first
      let values ← readItems rest
      if items.complete && closed then
        decoded ((named kind values).bind fun fields =>
          ofFields? kind fields (belowInList kind values))
      else .error .malformed
  | .word token => .error (Json.scalarFault token)

/-- Reads a node from a JSON text, its numbers with the given reader. -/
def readWith (reader : Json.NumberReader) (text : String) : Except ReadFault Node :=
  Json.readDocument reader readPiece text

/-- Reads a node from a JSON text, where numbers are rounded correctly. -/
def read (text : String) : Except ReadFault Node := readWith .nearest text

end Node

end MarkupTree
