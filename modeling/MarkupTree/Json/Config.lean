import MarkupTree.Config
import MarkupTree.Json.Reading

/-! # Configurations in JSON

A configuration is an object with the fields `space`, `defaultTagName` and `adjustCase`,
of which the last may be missing, or a list of these values in this order. Other fields
are skipped, and a field that is given twice is a mistake. Every value is read as soon as
it is met.
-/

namespace MarkupTree

open Json (ReadFault Piece Parts)

/-- The kind of markup that a name stands for, exactly as it is spelled. -/
def Space.read (name : String) : Except ReadFault Space :=
  match Space.ofName? name with
  | some space => .ok space
  | none => .error .mismatch

/-- Reads the name of a kind of markup written as an object: the name is the only field
and its value is `null`. -/
def Space.readField : List Piece → Except ReadFault (Space × List Piece)
  | [] => .error .malformed
  | piece :: rest => do
    let name ← piece.readString
    let space ← Space.read name
    match rest with
    | .word .colon :: .word .null :: behind => .ok (space, behind)
    | .word .colon :: .word token :: _ => .error (Json.scalarFault token)
    | .word .colon :: .group .. :: _ => .error .mismatch
    | _ => .error .malformed

/-- Reads a kind of markup. Anything but a name, or an object of a name and `null`, is not
taken as JSON here. -/
def Space.readPiece : Piece → Except ReadFault Space
  | .word (.string (some name)) => Space.read name
  | .group .curly inside closed => do
    let (space, behind) ← readField inside
    if behind.isEmpty && closed then .ok space else .error .malformed
  | _ => .error .malformed

namespace FactoryConfig

def toJson (config : FactoryConfig) : Json :=
  .object [("space", .string config.space.name), ("defaultTagName", .string config.defaultTagName),
    ("adjustCase", .boolean config.adjustCase)]

/-- The fields that have been read. -/
structure Found where
  space : Option Space
  defaultTagName : Option String
  adjustCase : Option Bool

/-- Reads a value into a field that has none yet. -/
def once {α : Type} (present : Option α) (read : Except ReadFault α) : Except ReadFault α :=
  match present with
  | some _ => .error .mismatch
  | none => read

def readFields (found : Found) : List (String × Piece) → Except ReadFault Found
  | [] => .ok found
  | (name, piece) :: rest =>
    if name = "space" then do
      let space ← once found.space (Space.readPiece piece)
      readFields { found with space := some space } rest
    else if name = "defaultTagName" then do
      let tagName ← once found.defaultTagName piece.readString
      readFields { found with defaultTagName := some tagName } rest
    else if name = "adjustCase" then do
      let adjustCase ← once found.adjustCase piece.readBoolean
      readFields { found with adjustCase := some adjustCase } rest
    else if piece.isSkippable then readFields found rest
    else .error .malformed

/-- Reads the values of a configuration that is written as a list. -/
def readItems : List Piece → Except ReadFault (Found × List Piece)
  | [] => .ok (⟨none, none, none⟩, [])
  | [first] => do
    let space ← Space.readPiece first
    .ok (⟨some space, none, none⟩, [])
  | [first, second] => do
    let space ← Space.readPiece first
    let tagName ← second.readString
    .ok (⟨some space, some tagName, none⟩, [])
  | first :: second :: third :: surplus => do
    let space ← Space.readPiece first
    let tagName ← second.readString
    let adjustCase ← third.readBoolean
    .ok (⟨some space, some tagName, some adjustCase⟩, surplus)

/-- The configuration of the fields that have been read, if none is missing. -/
def Found.complete (found : Found) : Except ReadFault FactoryConfig :=
  match found.space, found.defaultTagName with
  | some space, some tagName => .ok ⟨space, tagName, found.adjustCase.getD false⟩
  | _, _ => .error .mismatch

def readPiece : Piece → Except ReadFault FactoryConfig
  | .group .curly inside closed => do
    let fields := Parts.fields inside
    let found ← readFields ⟨none, none, none⟩ fields.read
    if fields.complete && closed then found.complete else .error .malformed
  | .group .square inside closed => do
    let items := Parts.items inside
    let (found, surplus) ← readItems items.read
    if items.complete && closed && surplus.isEmpty then found.complete else .error .malformed
  | .word token => .error (Json.scalarFault token)

/-- The kind of markup that a JSON value names: a text, or an object whose only field is the
name with `null`. -/
def spaceOfJson? : Json → Option Space
  | .string name => Space.ofName? name
  | .object [(name, .null)] => Space.ofName? name
  | _ => none

/-- The choice of restoring capitals, which may be left out. -/
def adjustCaseOfJson? : Option Json → Option Bool
  | none => some false
  | some (.boolean value) => some value
  | some _ => none

/-- The configuration of the JSON values of its fields. -/
def ofParts? (space defaultTagName adjustCase : Option Json) : Option FactoryConfig :=
  match space.bind spaceOfJson?, defaultTagName, adjustCaseOfJson? adjustCase with
  | some space, some (.string defaultTagName), some adjustCase =>
    some ⟨space, defaultTagName, adjustCase⟩
  | _, _, _ => none

/-- The configuration of a JSON value that has been read as a whole. -/
def ofJson? : Json → Option FactoryConfig
  | .object fields =>
    ofParts? (fields.lookup "space") (fields.lookup "defaultTagName") (fields.lookup "adjustCase")
  | .array [space, defaultTagName] => ofParts? (some space) (some defaultTagName) none
  | .array [space, defaultTagName, adjustCase] =>
    ofParts? (some space) (some defaultTagName) (some adjustCase)
  | _ => none

def read (text : String) : Except ReadFault FactoryConfig :=
  Json.readDocument .nearest readPiece text

end FactoryConfig

end MarkupTree
