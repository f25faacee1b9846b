import MarkupTree.Number.Decimal
import MarkupTree.Text.Blank

/-! # Numeric literals

`Number.parse` reads the literals that stand for numbers in property values: decimals
with an optional sign, fraction and exponent, whole numbers in base 16, 8 or 2 after a
base mark, and the word for infinity. Blanks around a literal do not count.
`Number.ofSpelling` reads the spellings of numbers that are passed as values, which know
the names of the special numbers in any case.
-/

namespace MarkupTree

/-- Whether a character is one of the ten ASCII digits. -/
def isDigit (char : Char) : Bool := '0' ≤ char && char ≤ '9'

/-- The decimal with the given digits before and after its point, times a power of ten. -/
def Decimal.ofParts (whole fraction : List Char) (exponent : Int) : Decimal :=
  ⟨Nat.ofDigitChars 10 (whole ++ fraction) 0, exponent - fraction.length⟩

namespace Number

/-- Reads a whole exponent: an optional sign and at least one digit. -/
def readExponent (chars : List Char) : Option Int :=
  let value (digits : List Char) : Option Nat :=
    if digits.isEmpty || !digits.all isDigit then none else some (Nat.ofDigitChars 10 digits 0)
  match chars with
  | '-' :: digits => (value digits).map fun exponent => -(exponent : Int)
  | '+' :: digits => (value digits).map fun exponent => (exponent : Int)
  | digits => (value digits).map fun exponent => (exponent : Int)

/-- Reads an unsigned decimal: digits with an optional point, of which there is at least
one on either side, and an optional exponent. -/
def readDecimal (chars : List Char) : Option Decimal :=
  let whole := chars.takeWhile isDigit
  let afterWhole := chars.dropWhile isDigit
  let (fraction, rest) :=
    match afterWhole with
    | '.' :: behind => (behind.takeWhile isDigit, behind.dropWhile isDigit)
    | _ => ([], afterWhole)
  if whole.isEmpty && fraction.isEmpty then none
  else
    match rest with
    | [] => some (Decimal.ofParts whole fraction 0)
    | mark :: exponent =>
      if mark = 'e' ∨ mark = 'E' then
        (readExponent exponent).map (Decimal.ofParts whole fraction)
      else none

/-- The value of a digit in bases up to 16; letters count in either case. -/
def digitValue? (char : Char) : Option Nat :=
  if '0' ≤ char ∧ char ≤ '9' then some (char.toNat - '0'.toNat)
  else if 'a' ≤ char ∧ char ≤ 'f' then some (char.toNat - 'a'.toNat + 10)
  else if 'A' ≤ char ∧ char ≤ 'F' then some (char.toNat - 'A'.toNat + 10)
  else none

/-- Adds the digits of a base to a value, most significant first. -/
def readDigits (base : Nat) (value : Nat) : List Char → Option Nat
  | [] => some value
  | char :: rest =>
    match digitValue? char with
    | some digit => if digit < base then readDigits base (value * base + digit) rest else none
    | none => none

/-- Reads a whole number of 64 bits in a base, after an optional plus sign. -/
def readRadix (base : Nat) (chars : List Char) : Option Nat :=
  let digits :=
    match chars with
    | '+' :: rest => rest
    | _ => chars
  if digits.isEmpty then none
  else (readDigits base 0 digits).filter (· < Nat.pow 2 64)

/-- The base that a text announces, with the text behind the mark. -/
def radixMark? : List Char → Option (Nat × List Char)
  | '0' :: mark :: rest =>
    if mark = 'x' ∨ mark = 'X' then some (16, rest)
    else if mark = 'o' ∨ mark = 'O' then some (8, rest)
    else if mark = 'b' ∨ mark = 'B' then some (2, rest)
    else none
  | _ => none

/-- A leading sign, whether it is a minus, and the text behind it. -/
structure Signed where
  written : Bool
  negative : Bool
  unsigned : List Char

def Signed.ofChars : List Char → Signed
  | '-' :: rest => ⟨true, true, rest⟩
  | '+' :: rest => ⟨true, false, rest⟩
  | chars => ⟨false, false, chars⟩

/-- Reads the spelling of a number, rounding by `round`: a decimal with an optional sign,
or the name of a special number in any case. -/
def ofSpelling (round : Bool → Decimal → Number) (text : String) : Option Number :=
  let spelling := Signed.ofChars text.toList
  let name := String.ofList (spelling.unsigned.map Char.toLower)
  if name = "inf" ∨ name = "infinity" then some (.infinite spelling.negative)
  else if name = "nan" then some .nan
  else (readDecimal spelling.unsigned).map (round spelling.negative)

/-- The number with the other sign. -/
def negated : Number → Number
  | .nan => .nan
  | .infinite negative => .infinite !negative
  | .finite negative magnitude => .finite (!negative) magnitude

/-- Whether a character may occur in a decimal: a digit, a point, or the letter or the sign
of an exponent. -/
def isDecimalChar (char : Char) : Bool :=
  isDigit char || char == '.' || char == 'e' || char == 'E' || char == '+' || char == '-'

/-- Whether a text is of the characters of a decimal and has a digit, so that its spelling
is not the name of a special number. -/
def isDecimalLike (chars : List Char) : Bool := chars.all isDecimalChar && chars.any isDigit

/-- Reads a trimmed literal, which has one sign at most in front. Whole numbers with a base
mark take none. -/
def parseChars (chars : List Char) : Option Number :=
  let literal := Signed.ofChars chars
  if (Signed.ofChars literal.unsigned).written then none
  else if literal.unsigned = "Infinity".toList then some (.infinite literal.negative)
  else
    match radixMark? literal.unsigned with
    | some (base, digits) =>
      if literal.written then none
      else (readRadix base digits).map fun whole => ofDecimal false ⟨whole, 0⟩
    | none =>
      if isDecimalLike literal.unsigned then
        (ofSpelling ofDecimal (String.ofList literal.unsigned)).map fun number =>
          if literal.negative then number.negated else number
      else none

def parse (text : String) : Option Number := parseChars (Text.trimChars text.toList)

end Number

end MarkupTree
