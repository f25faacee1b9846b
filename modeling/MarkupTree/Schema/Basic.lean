import MarkupTree.Schema.Index

/-! # Schemas and the resolution of names

A schema knows the properties of one kind of markup by the lower case of their names.
`Schema.find` resolves any name. A schema may have a way of its own to do so; the usual one
is `resolveName`, which resolves a known name to its record, a name of a data attribute or
data property to a record that is made from the name, and every other name to itself.

A data name is the word `data`, in any case, followed by at least one letter, digit,
hyphen, underscore, point or colon. Behind a hyphen it is an attribute, and its property
is written without the hyphens before small letters, which become capitals. Without that
hyphen it is a property, and its attribute has a hyphen before each small letter that
was a capital, unless a hyphen before a small letter shows that the name was no property
spelling in the first place.
-/

namespace MarkupTree

namespace DataName

/-- Whether a character may stand in a data name behind the first word. -/
def isNameChar (char : Char) : Bool :=
  char.isAlphanum || char == '-' || char == '_' || char == '.' || char == ':'

def rest? (name : List Char) : Option (List Char) :=
  let rest := name.drop 4
  if (name.take 4).map Char.toLower = "data".toList ∧ rest ≠ [] ∧ rest.all isNameChar then
    some rest
  else none

/-- The text with each hyphen before a small letter taken out and the letter made a
capital. -/
def camelCase : List Char → List Char
  | [] => []
  | [char] => [char]
  | char :: next :: rest =>
    if char = '-' ∧ next.isLower then next.toUpper :: camelCase rest
    else char :: camelCase (next :: rest)

/-- The text with each capital made a small letter behind a hyphen. -/
def hyphenated (chars : List Char) : List Char :=
  chars.flatMap fun char => if char.isUpper then ['-', char.toLower] else [char]

/-- Whether a hyphen stands before a small letter. -/
def hasHyphenatedLetter : List Char → Bool
  | [] => false
  | [_] => false
  | char :: next :: rest => (char == '-' && next.isLower) || hasHyphenatedLetter (next :: rest)

/-- The text with its first letter made a capital. -/
def capitalized : List Char → List Char
  | [] => []
  | first :: rest => first.toUpper :: rest

/-- The property of a data name, given what follows its first word. -/
def property (name : String) : List Char → String
  | '-' :: rest => "data" ++ String.ofList (capitalized (camelCase rest))
  | _ => name

/-- The attribute of a data name, given what follows its first word. -/
def attributeName (name : String) (rest : List Char) : String :=
  if rest.head? = some '-' ∨ hasHyphenatedLetter rest then name
  else
    let spelled := hyphenated rest
    "data" ++ String.ofList (if spelled.head? = some '-' then spelled else '-' :: spelled)

def info? (name : String) : Option PropertyInfo :=
  (rest? name.toList).map fun rest => ⟨property name rest, attributeName name rest, .plain, true, none⟩

end DataName

/-- Resolves a name: to its record if it is known, else as a data name, else to itself. -/
def resolveName (lookup : String → Option PropertyInfo) (name : String) : PropertyInfo :=
  match lookup name.toLower with
  | some info => info
  | none => (DataName.info? name).getD (.unknown name)

/-- How the names of a schema are resolved, given the names that it knows. -/
class NameResolution (lookup : String → Option PropertyInfo) where
  find : String → PropertyInfo

/-- Names are resolved by `resolveName` unless a schema says otherwise. -/
instance (lookup : String → Option PropertyInfo) : NameResolution lookup := ⟨resolveName lookup⟩

/-- The properties that are known for one kind of markup. -/
structure Schema where
  space : String
  lookup : String → Option PropertyInfo
  [resolution : NameResolution lookup]

def Schema.ofIndex (space : String) (index : PropertyIndex) : Schema := ⟨space, index.get?⟩

/-- Resolves any name. -/
def Schema.find (schema : Schema) (name : String) : PropertyInfo := schema.resolution.find name

theorem Schema.find_ofIndex (space : String) (index : PropertyIndex) (name : String) :
    (ofIndex space index).find name = resolveName index.get? name := rfl

end MarkupTree
