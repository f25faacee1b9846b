import MarkupTree.Json.Outline

/-! # What reading can meet

A text may fail to be JSON, or be JSON that does not say what the reader wants. A reader
goes from left to right and reports what it meets first; a value that it keeps for later
is only checked to be JSON until it is used.
-/

namespace MarkupTree.Json

/-- Why a text cannot be read. -/
inductive ReadFault where
  /-- The text is not JSON, or ends early. -/
  | malformed
  /-- The text is JSON up to here but of another shape. -/
  | mismatch
deriving Repr, DecidableEq

/-- How many groups may be nested in a text. -/
def depthLimit : Nat := 127

/-- What is wrong with a scalar that is not the one wanted: it may not be JSON at all. -/
def scalarFault (token : Token) : ReadFault :=
  if (Piece.scalar? token).isSome then .mismatch else .malformed

def Piece.readString : Piece → Except ReadFault String
  | .word (.string (some value)) => .ok value
  | .word token => .error (scalarFault token)
  | .group .. => .error .mismatch

def Piece.readBoolean : Piece → Except ReadFault Bool
  | .word (.boolean value) => .ok value
  | .word token => .error (scalarFault token)
  | .group .. => .error .mismatch

/-- Reads a value that is looked at later. -/
def Piece.readLater (depth : Nat) (piece : Piece) : Except ReadFault Json :=
  match piece.value? depth with
  | some value => .ok value
  | none => .error .malformed

/-- Reads a text that holds one value: anything but blanks behind the value is a fault, but
only when the value itself has been read. -/
def readDocument {α : Type} (reader : NumberReader) (read : Piece → Except ReadFault α)
    (text : String) : Except ReadFault α :=
  match Outline.ofText reader text with
  | [] => .error .malformed
  | piece :: trailing => do
    let value ← read piece
    if trailing.isEmpty then .ok value else .error .malformed

end MarkupTree.Json
