import MarkupTree.Text.LetterCase

/-! # Full lower-casing of text

Every character is replaced by its small letter, with the two cases of Unicode's full
mapping that one character alone does not decide. A capital I with a dot becomes an i
with a combining dot above, so the text grows by one. A capital sigma becomes a final
sigma where it ends a word: a letter stands before it and none after it, marks and
points between not counted.
-/

namespace MarkupTree.Text

/-- Whether a character is a capital, small or title letter. -/
def isCased (char : Char) : Bool := casedRanges.any (·.holds char.toNat)

/-- Whether casing looks through a character to its neighbour. -/
def isCaseIgnorable (char : Char) : Bool := caseIgnorableRanges.any (·.holds char.toNat)

/-- The small letter of a character whose lower case is one character; every other
character is its own. -/
def smallLetter (char : Char) : Char :=
  match lowerRanges.find? (·.holds char.toNat) with
  | some range => Char.ofNat (char.toNat + range.shift).toNat
  | none => char

/-- Whether the nearest character that casing does not look through is a letter. The
neighbours are given from the nearest to the farthest. -/
def meetsLetter (neighbours : List Char) : Bool :=
  match neighbours.dropWhile isCaseIgnorable with
  | [] => false
  | nearest :: _ => isCased nearest

/-- The lower case of one character between the text before it, read backwards, and the
text after it. -/
def lowercaseAt (before : List Char) (char : Char) (after : List Char) : List Char :=
  if char = 'Σ' then
    if meetsLetter before && !meetsLetter after then ['ς'] else ['σ']
  else if char = 'İ' then ['i', Char.ofNat 0x307]
  else [smallLetter char]

/-- The lower case of characters that follow `before`, which is read backwards. -/
def lowercaseAfter (before : List Char) : List Char → List Char
  | [] => []
  | char :: after => lowercaseAt before char after ++ lowercaseAfter (char :: before) after

/-- The full Unicode lower case of a text. -/
def lowercase (text : String) : String := String.ofList (lowercaseAfter [] text.toList)

end MarkupTree.Text
