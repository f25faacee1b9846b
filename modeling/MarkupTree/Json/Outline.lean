import MarkupTree.Json.Token
import MarkupTree.Json.Tree

/-! # The outline of a JSON text

The outline of a text is its tokens with everything between a pair of brackets gathered
into one piece. Every value is then a single piece, and reading goes by the shape of the
outline. The outline of a broken text holds what stands before the break: the groups that
were open there are marked as not closed, and nothing follows them.

A reader may take a piece as a value (`Piece.value?`), skip it (`Piece.isSkippable`), or
walk through its parts (`Parts.items`, `Parts.fields`), which lets it meet a mistake of
its own before the break.
-/

namespace MarkupTree.Json

/-- A token that is no bracket, or a pair of brackets with what stands between. -/
inductive Piece where
  | word (token : Token)
  /-- What stands behind an opening bracket, and whether the closing one was met. -/
  | group (bracket : Bracket) (inside : List Piece) (closed : Bool)
deriving Repr

/-- A bracket that is open, with the pieces before it, the last one first. -/
structure OpenGroup where
  bracket : Bracket
  before : List Piece

namespace Outline

/-- Ends all open groups without their closing brackets. -/
def abandon (groups : List OpenGroup) (current : List Piece) : List Piece :=
  (groups.foldl (fun inside group => .group group.bracket inside.reverse false :: group.before)
    current).reverse

/-- Gathers tokens into pieces, given the groups that are open, the innermost first, and
the pieces of the innermost one, the last first. -/
def gather (groups : List OpenGroup) (current : List Piece) : List Token → List Piece
  | [] => abandon groups current
  | .opening bracket :: rest => gather (⟨bracket, current⟩ :: groups) [] rest
  | .closing bracket :: rest =>
    match groups with
    | ⟨opened, before⟩ :: outer =>
      if opened = bracket then
        gather outer (.group bracket current.reverse true :: before) rest
      else abandon groups (.word .malformed :: current)
    | [] => abandon [] (.word .malformed :: current)
  | token :: rest => gather groups (.word token :: current) rest

def ofChars (reader : NumberReader) (chars : List Char) : List Piece :=
  gather [] [] (Token.scan reader chars)

def ofText (reader : NumberReader) (text : String) : List Piece := ofChars reader text.toList

end Outline

namespace Piece

def scalar? : Token → Option Json
  | .null => some .null
  | .boolean value => some (.boolean value)
  | .number (some value) isCount => some (.number value isCount)
  | .string (some value) => some (.string value)
  | _ => none

mutual

/-- The value of a piece in which no more than `depth` groups are nested. -/
def value? (depth : Nat) : Piece → Option Json
  | .word token => scalar? token
  | .group .square inside closed =>
    if closed ∧ depth ≠ 0 then (itemValues? (depth - 1) inside).map .array else none
  | .group .curly inside closed =>
    if closed ∧ depth ≠ 0 then (fieldValues? (depth - 1) inside).map .object else none

def itemValues? (depth : Nat) : List Piece → Option (List Json)
  | [] => some []
  | piece :: rest =>
    match value? depth piece, moreItemValues? depth rest with
    | some value, some values => some (value :: values)
    | _, _ => none

/-- The values between square brackets behind the first one, each behind a comma. -/
def moreItemValues? (depth : Nat) : List Piece → Option (List Json)
  | [] => some []
  | .word .comma :: piece :: rest =>
    match value? depth piece, moreItemValues? depth rest with
    | some value, some values => some (value :: values)
    | _, _ => none
  | _ => none

def fieldValues? (depth : Nat) : List Piece → Option (List (String × Json))
  | [] => some []
  | .word (.string (some name)) :: .word .colon :: piece :: rest =>
    match value? depth piece, moreFieldValues? depth rest with
    | some value, some values => some ((name, value) :: values)
    | _, _ => none
  | _ => none

/-- The fields between curly brackets behind the first one, each behind a comma. -/
def moreFieldValues? (depth : Nat) : List Piece → Option (List (String × Json))
  | [] => some []
  | .word .comma :: .word (.string (some name)) :: .word .colon :: piece :: rest =>
    match value? depth piece, moreFieldValues? depth rest with
    | some value, some values => some ((name, value) :: values)
    | _, _ => none
  | _ => none

end

mutual

/-- Whether a piece is a well-formed value, whatever it is and however deep. -/
def isSkippable : Piece → Bool
  | .word .null | .word (.boolean _) | .word (.number _ _) | .word (.string _) => true
  | .word _ => false
  | .group .square inside closed => closed && areSkippableItems inside
  | .group .curly inside closed => closed && areSkippableFields inside

/-- Whether pieces are well-formed values with commas between them. -/
def areSkippableItems : List Piece → Bool
  | [] => true
  | piece :: rest => isSkippable piece && areMoreSkippableItems rest

/-- Whether pieces are well-formed values, each behind a comma. -/
def areMoreSkippableItems : List Piece → Bool
  | [] => true
  | .word .comma :: piece :: rest => isSkippable piece && areMoreSkippableItems rest
  | _ => false

/-- Whether pieces are well-formed fields with commas between them. -/
def areSkippableFields : List Piece → Bool
  | [] => true
  | .word (.string _) :: .word .colon :: piece :: rest =>
    isSkippable piece && areMoreSkippableFields rest
  | _ => false

/-- Whether pieces are well-formed fields, each behind a comma. -/
def areMoreSkippableFields : List Piece → Bool
  | [] => true
  | .word .comma :: .word (.string _) :: .word .colon :: piece :: rest =>
    isSkippable piece && areMoreSkippableFields rest
  | _ => false

end

end Piece

/-- The parts of a group up to the first place where its form is broken. -/
structure Parts (α : Type) where
  read : List α
  complete : Bool

namespace Parts

def cons {α : Type} (part : α) (parts : Parts α) : Parts α := ⟨part :: parts.read, parts.complete⟩

def moreItems : List Piece → Parts Piece
  | [] => ⟨[], true⟩
  | .word .comma :: piece :: rest => (moreItems rest).cons piece
  | _ => ⟨[], false⟩

def items : List Piece → Parts Piece
  | [] => ⟨[], true⟩
  | piece :: rest => (moreItems rest).cons piece

/-- The fields of an object behind the first one. A field that breaks off behind its name
counts as one with a broken value. -/
def moreFields : List Piece → Parts (String × Piece)
  | [] => ⟨[], true⟩
  | .word .comma :: .word (.string (some name)) :: .word .colon :: piece :: rest =>
    (moreFields rest).cons (name, piece)
  | .word .comma :: .word (.string (some name)) :: _ => ⟨[(name, .word .malformed)], false⟩
  | _ => ⟨[], false⟩

def fields : List Piece → Parts (String × Piece)
  | [] => ⟨[], true⟩
  | .word (.string (some name)) :: .word .colon :: piece :: rest =>
    (moreFields rest).cons (name, piece)
  | .word (.string (some name)) :: _ => ⟨[(name, .word .malformed)], false⟩
  | _ => ⟨[], false⟩

end Parts

/-- The value of a text that holds one value and nothing else, however deep. -/
def parse? (text : String) : Option Json :=
  match Outline.ofText .nearest text with
  | [piece] => piece.value? text.length
  | _ => none

end MarkupTree.Json
