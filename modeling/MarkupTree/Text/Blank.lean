/-! # Blanks around a text

A blank is a character with Unicode's `White_Space` property; `trim` removes the blanks
at both ends. The byte order mark, the zero-width space and the Mongolian vowel
separator are no blanks.
-/

namespace MarkupTree.Text

/-- Whether a character is white space in Unicode's sense. -/
def isBlank (char : Char) : Bool :=
  let code := char.toNat
  (9 ≤ code && code ≤ 13) || code == 0x20 || code == 0x85 || code == 0xA0 || code == 0x1680 ||
    (0x2000 ≤ code && code ≤ 0x200A) || code == 0x2028 || code == 0x2029 || code == 0x202F ||
    code == 0x205F || code == 0x3000

/-- The characters up to the last one that is no blank. -/
def trimEnd (chars : List Char) : List Char := (chars.reverse.dropWhile isBlank).reverse

/-- The characters from the first one that is no blank to the last. -/
def trimChars (chars : List Char) : List Char := trimEnd (chars.dropWhile isBlank)

def trim (text : String) : String := String.ofList (trimChars text.toList)

def isBlankText (text : String) : Bool := text.toList.all isBlank

end MarkupTree.Text
