import MarkupTree.OrderedMap
import MarkupTree.Schema.Info
import MarkupTree.Schema.Vocabulary

/-! # An index over vocabularies

The index numbers the definitions of several vocabularies in their order and finds them
by the lower case of either spelling. Where two definitions share a spelling, the later
one is found.
-/

namespace MarkupTree

/-- The properties of several vocabularies, found by the lower case of their names. -/
structure PropertyIndex where
  infos : List PropertyInfo
  positions : OrderedMap Nat

namespace PropertyIndex

def empty : PropertyIndex := ⟨[], .empty⟩

def infoOf (vocabulary : Vocabulary) (definition : Definition) : PropertyInfo :=
  ⟨definition.property, vocabulary.attributeOf definition, definition.kind, true,
    some vocabulary.name⟩

def add (index : PropertyIndex) (info : PropertyInfo) : PropertyIndex :=
  let position := index.infos.length
  ⟨index.infos ++ [info],
    (index.positions.insert info.property.toLower position).insert info.attributeName.toLower position⟩

/-- Adds the definitions of a vocabulary in their order. -/
def addVocabulary (index : PropertyIndex) (vocabulary : Vocabulary) : PropertyIndex :=
  vocabulary.definitions.foldl (fun built definition => built.add (infoOf vocabulary definition))
    index

/-- The index of the definitions of several vocabularies. -/
def build (vocabularies : List Vocabulary) : PropertyIndex :=
  vocabularies.foldl addVocabulary empty

def get? (index : PropertyIndex) (normal : String) : Option PropertyInfo :=
  match index.positions.get? normal with
  | some position => index.infos[position]?
  | none => none

def size (index : PropertyIndex) : Nat := index.infos.length

def isEmpty (index : PropertyIndex) : Bool := index.infos.isEmpty

end PropertyIndex

end MarkupTree
