import MarkupTree.Text.Lowercase

/-! # Selectors

A selector names an element in short: a tag name, classes behind points and an id behind
a hash sign, in any order. A name is a run of name characters, as long as possible. What
belongs to no name is skipped, and so is a point or a hash sign without a name behind it.
-/

namespace MarkupTree

/-- What a selector says about an element. -/
structure Selector where
  tagName : String
  id : Option String
  classNames : List String
deriving Repr, DecidableEq

namespace Selector

/-- Whether a character may stand in a name: ASCII letters and digits, the underscore, the
colon and the hyphen, and every character from U+007F on. -/
def isNameChar (char : Char) : Bool :=
  char.isAlphanum || char == '_' || char == ':' || char == '-' || 0x7F ≤ char.toNat

/-- A piece of a selector. -/
inductive Piece where
  | tagName (name : List Char)
  | id (name : List Char)
  | className (name : List Char)
deriving Repr, DecidableEq

/-- The piece that a sign in front of a name makes of it. -/
def marked? : Char → Option (List Char → Piece)
  | '.' => some .className
  | '#' => some .id
  | _ => none

def pieces : List Char → List Piece
  | [] => []
  | char :: rest =>
    if isNameChar char then
      .tagName (char :: rest.takeWhile isNameChar) :: pieces (rest.dropWhile isNameChar)
    else
      match marked? char, rest.takeWhile isNameChar with
      | some piece, first :: name => piece (first :: name) :: pieces (rest.dropWhile isNameChar)
      | _, _ => pieces rest
termination_by chars => chars.length
decreasing_by
  all_goals simp only [List.length_cons]
  · exact Nat.lt_succ_of_le (List.dropWhile_sublist _).length_le
  · exact Nat.lt_succ_of_le (List.dropWhile_sublist _).length_le
  · exact Nat.lt_succ_self _

def Piece.tagName? : Piece → Option String
  | .tagName name => some (String.ofList name)
  | _ => none

def Piece.id? : Piece → Option String
  | .id name => some (String.ofList name)
  | _ => none

def Piece.className? : Piece → Option String
  | .className name => some (String.ofList name)
  | _ => none

/-- Reads a selector. Of several tag names or ids the last one counts; without a tag name
the default is taken. -/
def parse (selector defaultTagName : String) : Selector :=
  let found := pieces selector.toList
  { tagName := Text.lowercase ((found.filterMap Piece.tagName?).getLast?.getD defaultTagName)
    id := (found.filterMap Piece.id?).getLast?
    classNames := found.filterMap Piece.className? }

end Selector

end MarkupTree
