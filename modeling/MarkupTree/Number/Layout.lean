import MarkupTree.Number.Decimal

/-! # The text of numbers

A finite number is written with its shortest digits. A layout says how: which exponents
are written plainly and how an exponent is marked. There are two layouts. In text, such
as a child or a style, numbers are written by `Number.display`; in JSON by
`Number.json`, which writes whole numbers up to `2 ^ 53 - 1` as integers and has no
notation for infinities and for what is not a number.
-/

namespace MarkupTree

/-- How the digits of a finite number are written. The exponent of a number is the power
of ten of its first digit. -/
structure Layout where
  tie : Tie
  lowest : Int
  highest : Int
  /-- Whether a positive exponent has a sign. -/
  plus : Bool
  /-- Whether a whole number in plain notation ends with a point and a zero. -/
  point : Bool
deriving Repr, DecidableEq

namespace Layout

/-- Numbers in text are plain from a millionth to below ten to the power of 21; an
exponent always has a sign. -/
def text : Layout := ⟨.up, -6, 20, true, false⟩

/-- Numbers in JSON that are no safe integers are plain from a hundred-thousandth to below
ten to the power of 16, always with a point; a positive exponent has no sign. -/
def json : Layout := ⟨.toEven, -5, 15, false, true⟩

/-- Plain notation of digits whose last one has the given power of ten. -/
def plain (layout : Layout) (digits : List Char) (exponent : Int) : List Char :=
  let ahead := digits.length + exponent
  if 0 ≤ exponent then
    digits ++ List.replicate exponent.toNat '0' ++ (if layout.point then ['.', '0'] else [])
  else if 0 < ahead then
    digits.take ahead.toNat ++ '.' :: digits.drop ahead.toNat
  else
    '0' :: '.' :: (List.replicate (-ahead).toNat '0' ++ digits)

/-- Notation with an exponent, which is the power of ten of the first digit. -/
def scientific (layout : Layout) (digits : List Char) (exponent : Int) : List Char :=
  let sign := if exponent < 0 then ['-'] else if layout.plus then ['+'] else []
  let mantissa :=
    match digits with
    | [] => []
    | [digit] => [digit]
    | first :: rest => first :: '.' :: rest
  mantissa ++ 'e' :: sign ++ Nat.toDigits 10 exponent.natAbs

def write (layout : Layout) (decimal : Decimal) : List Char :=
  let digits := Nat.toDigits 10 decimal.digits
  let exponent : Int := digits.length - 1 + decimal.exponent
  if layout.lowest ≤ exponent ∧ exponent ≤ layout.highest then
    layout.plain digits decimal.exponent
  else layout.scientific digits exponent

def writeMagnitude (layout : Layout) (magnitude : Magnitude) : List Char :=
  layout.write (magnitude.shortest layout.tie)

end Layout

namespace Number

/-- A text with a minus sign in front if `negative` holds. -/
def signed (negative : Bool) (chars : List Char) : List Char :=
  if negative then '-' :: chars else chars

def displayChars : Number → List Char
  | .nan => "NaN".toList
  | .infinite negative => signed negative "Infinity".toList
  | .finite negative magnitude =>
    if magnitude.rank = 0 then ['0'] else signed negative (Layout.text.writeMagnitude magnitude)

/-- The text of a number. A zero has no sign. -/
def display (number : Number) : String := String.ofList number.displayChars

/-- The largest whole number up to which all whole numbers are numbers. -/
def largestSafeInteger : Nat := Nat.pow 2 53 - 1

/-- The whole number of a number that JSON writes as an integer. -/
def safeInteger? : Number → Option Int
  | .finite negative magnitude =>
    match magnitude.whole? with
    | some whole =>
      if whole ≤ largestSafeInteger then some (if negative then -(whole : Int) else whole) else none
    | none => none
  | _ => none

def integerChars (whole : Int) : List Char :=
  signed (decide (whole < 0)) (Nat.toDigits 10 whole.natAbs)

/-- The characters of a number in JSON; only finite numbers have any but `null`. -/
def jsonChars (number : Number) : List Char :=
  match number.safeInteger? with
  | some whole => integerChars whole
  | none =>
    match number with
    | .finite negative magnitude => signed negative (Layout.json.writeMagnitude magnitude)
    | _ => "null".toList

def json (number : Number) : String := String.ofList number.jsonChars

end Number

end MarkupTree
