import MarkupTree.Number.Layout

/-! # JSON values and their text

A JSON value keeps the fields of an object as they stand, also when a name is repeated.
`Json.render` writes a value without blanks.

A number that is written with digits alone is a count. Readers may want to tell a count
from other numbers, so the value remembers it.
-/

namespace MarkupTree

/-- A JSON value. -/
inductive Json where
  | null
  | boolean (value : Bool)
  | number (value : Number) (isCount : Bool)
  | string (value : String)
  | array (items : List Json)
  | object (fields : List (String × Json))
deriving Repr, Inhabited

namespace Json

/-- The JSON value of a number; only finite numbers have one but `null`. -/
def ofNumber (value : Number) : Json :=
  if value.isFinite then .number value (value.jsonChars.all Char.isDigit) else .null

/-- The notation of a character in a text: quotes, backslashes and controls are escaped. -/
def escapedChar (char : Char) : List Char :=
  if char = '"' then ['\\', '"']
  else if char = '\\' then ['\\', '\\']
  else if char = '\n' then ['\\', 'n']
  else if char = '\r' then ['\\', 'r']
  else if char = '\t' then ['\\', 't']
  else if char.toNat = 8 then ['\\', 'b']
  else if char.toNat = 12 then ['\\', 'f']
  else if char.toNat < 32 then
    ['\\', 'u', '0', '0', Nat.digitChar (char.toNat / 16), Nat.digitChar (char.toNat % 16)]
  else [char]

def stringChars (value : String) : List Char :=
  '"' :: (value.toList.flatMap escapedChar ++ ['"'])

mutual

/-- The characters of a value. -/
def renderChars : Json → List Char
  | .null => "null".toList
  | .boolean value => if value then "true".toList else "false".toList
  | .number value _ => value.jsonChars
  | .string value => stringChars value
  | .array items => '[' :: (renderItems items ++ [']'])
  | .object fields => '\x7b' :: (renderFields fields ++ ['\x7d'])

/-- The characters of the items of a list, with commas between them. -/
def renderItems : List Json → List Char
  | [] => []
  | item :: rest => renderChars item ++ renderMoreItems rest

/-- The characters of further items of a list, each behind a comma. -/
def renderMoreItems : List Json → List Char
  | [] => []
  | item :: rest => ',' :: (renderChars item ++ renderMoreItems rest)

/-- The characters of the fields of an object, with commas between them. -/
def renderFields : List (String × Json) → List Char
  | [] => []
  | (name, value) :: rest =>
    stringChars name ++ ':' :: (renderChars value ++ renderMoreFields rest)

/-- The characters of further fields of an object, each behind a comma. -/
def renderMoreFields : List (String × Json) → List Char
  | [] => []
  | (name, value) :: rest =>
    ',' :: (stringChars name ++ ':' :: (renderChars value ++ renderMoreFields rest))

end

/-- The text of a value, without blanks. -/
def render (json : Json) : String := String.ofList json.renderChars

end Json

end MarkupTree
