/-! # Kinds of property values

The kind of a property says how a text given as its value is read. It is a set of flags:
several may hold at once, such as a list of numbers between commas, and none holds for a
property whose text is kept as it is.
-/

namespace MarkupTree

/-- How the values of a property are read. -/
structure PropertyKind where
  /-- The empty text and the property's own name stand for true. -/
  isBoolean : Bool
  /-- Like a boolean property, but other texts are meaningful too. -/
  isOverloadedBoolean : Bool
  isNumber : Bool
  /-- Numeric literals are numbers, of which only positive ones are meaningful. -/
  isPositiveNumber : Bool
  isSpaceSeparated : Bool
  isCommaSeparated : Bool
  isCommaOrSpaceSeparated : Bool
deriving Repr, DecidableEq, Inhabited

namespace PropertyKind

/-- No flag: the text is kept. -/
def plain : PropertyKind := ⟨false, false, false, false, false, false, false⟩

def boolean : PropertyKind := { plain with isBoolean := true }

/-- The kind of a boolean property that takes other texts too. -/
def overloadedBoolean : PropertyKind := { plain with isOverloadedBoolean := true }

def number : PropertyKind := { plain with isNumber := true }

def positiveNumber : PropertyKind := { plain with isPositiveNumber := true }

def spaceSeparated : PropertyKind := { plain with isSpaceSeparated := true }

def commaSeparated : PropertyKind := { plain with isCommaSeparated := true }

def commaOrSpaceSeparated : PropertyKind := { plain with isCommaOrSpaceSeparated := true }

def union (first second : PropertyKind) : PropertyKind where
  isBoolean := first.isBoolean || second.isBoolean
  isOverloadedBoolean := first.isOverloadedBoolean || second.isOverloadedBoolean
  isNumber := first.isNumber || second.isNumber
  isPositiveNumber := first.isPositiveNumber || second.isPositiveNumber
  isSpaceSeparated := first.isSpaceSeparated || second.isSpaceSeparated
  isCommaSeparated := first.isCommaSeparated || second.isCommaSeparated
  isCommaOrSpaceSeparated := first.isCommaOrSpaceSeparated || second.isCommaOrSpaceSeparated

/-- The flags with their names, in the order in which they are listed. -/
def flags (kind : PropertyKind) : List (String × Bool) :=
  [("boolean", kind.isBoolean), ("overloadedBoolean", kind.isOverloadedBoolean),
   ("number", kind.isNumber), ("positiveNumber", kind.isPositiveNumber),
   ("spaceSeparated", kind.isSpaceSeparated), ("commaSeparated", kind.isCommaSeparated),
   ("commaOrSpaceSeparated", kind.isCommaOrSpaceSeparated)]

def contains (kind other : PropertyKind) : Bool := kind.union other == kind

def isEmpty (kind : PropertyKind) : Bool := kind == plain

/-- The names of the flags that hold, between braces. -/
def text (kind : PropertyKind) : String :=
  let held := kind.flags.filterMap fun flag => if flag.2 then some flag.1 else none
  "\x7b" ++ ", ".intercalate held ++ "\x7d"

def ofFlagName? (name : String) : Option PropertyKind :=
  [boolean, overloadedBoolean, number, positiveNumber, spaceSeparated, commaSeparated,
    commaOrSpaceSeparated].find? fun kind => kind.flags.contains (name, true)

end PropertyKind

end MarkupTree
