import MarkupTree.Schema.Kind

/-! # Vocabularies

A vocabulary is a named list of property definitions. Most attributes of a vocabulary
are spelled by one rule from the property key; a definition gives the spelling only
where the rule does not.
-/

namespace MarkupTree

/-- One property of a vocabulary. -/
structure Definition where
  property : String
  /-- The spelling of the attribute where the vocabulary's rule does not give it. -/
  attributeName : Option String
  kind : PropertyKind
deriving Repr, DecidableEq

/-- A property of a kind whose attribute is spelled by the vocabulary's rule. -/
def Definition.regular (kind : PropertyKind) (property : String) : Definition :=
  ⟨property, none, kind⟩

/-- A property of a kind with the spelling of its attribute. -/
def Definition.spelled (kind : PropertyKind) (names : String × String) : Definition :=
  ⟨names.1, some names.2, kind⟩

/-- A named list of properties with a rule for the spelling of attributes. -/
structure Vocabulary where
  name : String
  /-- The rule that spells an attribute from the property key. -/
  spell : String → String
  definitions : List Definition

def Vocabulary.attributeOf (vocabulary : Vocabulary) (definition : Definition) : String :=
  definition.attributeName.getD (vocabulary.spell definition.property)

/-- The text in lower case behind its first characters, after another beginning. -/
def replaceBeginning (length : Nat) (beginning property : String) : String :=
  beginning ++ String.ofList ((property.toList.drop length).map Char.toLower)

end MarkupTree
