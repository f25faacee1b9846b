import MarkupTree.OrderedMap
import MarkupTree.Text.Lowercase

/-! # Canonical spellings of tag names

Some markup has tag names with capitals. A case table finds the canonical spelling of
such a name from its lower case. Of names with the same lower case the last one counts.
-/

namespace MarkupTree

/-- The canonical spellings of tag names under their lower case. -/
structure CaseTable where
  spellings : OrderedMap String
deriving Repr, DecidableEq

namespace CaseTable

def ofNames (names : List String) : CaseTable :=
  ⟨.ofList (names.map fun name => (Text.lowercase name, name))⟩

/-- The canonical spelling of a name in lower case, if the table has one. -/
def get? (table : CaseTable) (lower : String) : Option String := table.spellings.get? lower

/-- The canonical spelling of a name in lower case, which is the name itself if the table
has none. -/
def adjust (table : CaseTable) (lower : String) : String := (table.get? lower).getD lower

def size (table : CaseTable) : Nat := table.spellings.size

def isEmpty (table : CaseTable) : Bool := table.spellings.isEmpty

end CaseTable

end MarkupTree
