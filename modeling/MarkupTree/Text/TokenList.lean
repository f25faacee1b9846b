import MarkupTree.Text.Blank

/-! # Lists of tokens in a text

Some properties hold several tokens in one text. There are three ways to write such a
list. Spaces: the tokens are the runs between the five ASCII space characters. Commas:
the tokens are the parts between commas without the blanks at their ends; empty tokens
count, only a last one does not. Commas or spaces: the comma list is written out again
with spaces and read as a space list.

The two notions of space differ on purpose: only the five ASCII characters separate,
while the ends of a part between commas lose every Unicode blank.
-/

namespace MarkupTree.Text

/-- The characters that separate tokens: space, tab, line feed, carriage return and form
feed. -/
def isTokenSpace (char : Char) : Bool :=
  char == ' ' || char == '\t' || char == '\n' || char == '\r' || char.toNat == 12

/-- The non-empty runs of characters between token spaces. -/
def spaceTokens (chars : List Char) : List (List Char) :=
  (chars.splitOnP isTokenSpace).filter fun token => !token.isEmpty

/-- The parts between commas, trimmed, less a last empty one. -/
def commaTokens (chars : List Char) : List (List Char) :=
  let tokens := (chars.splitOn ',').map trimChars
  if tokens.getLast? = some [] then tokens.dropLast else tokens

/-- The runs between token spaces of the comma list written out with spaces. -/
def commaOrSpaceTokens (chars : List Char) : List (List Char) :=
  spaceTokens ([' '].intercalate (commaTokens chars))

/-- Reads a list whose tokens are separated by spaces. -/
def spaceSeparated (text : String) : List String := (spaceTokens text.toList).map String.ofList

/-- Reads a list whose tokens are separated by commas. -/
def commaSeparated (text : String) : List String := (commaTokens text.toList).map String.ofList

/-- Reads a list whose tokens are separated by commas, spaces or both. -/
def commaOrSpaceSeparated (text : String) : List String :=
  (commaOrSpaceTokens text.toList).map String.ofList

end MarkupTree.Text
