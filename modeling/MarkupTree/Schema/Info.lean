import MarkupTree.Schema.Kind

/-! # What is known about a property name

A name in a property bag may be the spelling of an attribute or of a property. Its
record gives both spellings, the canonical property key under which values are stored,
and the kind of its values.
-/

namespace MarkupTree

/-- What a schema knows about one name. -/
structure PropertyInfo where
  property : String
  attributeName : String
  kind : PropertyKind
  /-- Whether the name is a known one or a well-formed name of a data attribute. -/
  defined : Bool
  space : Option String
deriving Repr, DecidableEq, Inhabited

/-- The record of a name that nothing is known about: it stands for itself and its
values are kept. -/
def PropertyInfo.unknown (name : String) : PropertyInfo := ⟨name, name, .plain, false, none⟩

end MarkupTree
