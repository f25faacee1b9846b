import MarkupTree.Number.Basic

/-! # Decimals and the numbers nearest to them

A decimal is a whole number of some power of ten. `Number.ofDecimal` reads one as the
nearest number, ties to the even neighbour. In the other direction every finite
magnitude is a decimal exactly (`Magnitude.toDecimal`), and `Magnitude.shortest` is the
decimal of fewest digits that is read back as that magnitude, the nearest one of those.
-/

namespace MarkupTree

/-- The decimal `digits` times ten to the power of `exponent`. -/
structure Decimal where
  digits : Nat
  /-- The power of ten of the last digit. -/
  exponent : Int
deriving Repr, DecidableEq

namespace Decimal

/-- A decimal with the same nearest number whose power of ten is quickly computed.

Ten to the power of 400 is beyond every finite magnitude already. And a decimal with
`b` binary digits is below two to the power of `b` less three times its negative
exponent, so it lies far below half a unit once the difference reaches minus 1100. -/
def bounded (decimal : Decimal) : Decimal :=
  if 400 < decimal.exponent then { decimal with exponent := 400 }
  else if Nat.log2 decimal.digits + 1101 ≤ 3 * (-decimal.exponent).toNat then ⟨0, 0⟩
  else decimal

/-- The decimal as a quotient in units of a format. -/
def inUnits (format : Format) (decimal : Decimal) : Nat × Nat :=
  match decimal.exponent with
  | .ofNat exponent => (decimal.digits * Nat.pow 10 exponent * Nat.pow 2 format.unitShift, 1)
  | .negSucc exponent => (decimal.digits * Nat.pow 2 format.unitShift, Nat.pow 10 (exponent + 1))

/-- The rank of the magnitude nearest to the decimal. -/
def nearestRank (format : Format) (decimal : Decimal) : Nat :=
  let quotient := decimal.bounded.inUnits format
  format.nearestRank quotient.1 quotient.2

/-- The number of digits that are written for the decimal. -/
def digitCount (decimal : Decimal) : Nat := (Nat.toDigits 10 decimal.digits).length

/-- The decimal without zeros at the end of its digits. -/
def strip (decimal : Decimal) : Decimal :=
  if decimal.digits ≠ 0 ∧ decimal.digits % 10 = 0 then
    strip ⟨decimal.digits / 10, decimal.exponent + 1⟩
  else decimal
termination_by decimal.digits
decreasing_by omega

end Decimal

/-- Which of two decimals is taken when a value lies exactly between them. -/
inductive Tie where
  | up
  | toEven
deriving Repr, DecidableEq

/-- The two decimals around a decimal that lack its last `dropped` digits, the nearer one
first. -/
def Decimal.cuts (tie : Tie) (decimal : Decimal) (dropped : Nat) : List Decimal :=
  let scale := Nat.pow 10 dropped
  let low := decimal.digits / scale
  let remainder := decimal.digits % scale
  let below : Decimal := ⟨low, decimal.exponent + dropped⟩
  let above : Decimal := ⟨low + 1, decimal.exponent + dropped⟩
  if 2 * remainder < scale then [below, above]
  else if scale < 2 * remainder then [above, below]
  else match tie with
    | .up => [above, below]
    | .toEven => if low % 2 = 0 then [below, above] else [above, below]

namespace Magnitude

/-- The magnitude as a decimal, without rounding: a unit is a power of five over a
power of ten. -/
def toDecimal (magnitude : Magnitude) : Decimal :=
  ⟨magnitude.units * Nat.pow 5 Format.binary64.unitShift, -Format.binary64.unitShift⟩

/-- Whether a decimal is read as this magnitude. -/
def isReadFrom (magnitude : Magnitude) (decimal : Decimal) : Bool :=
  decimal.nearestRank Format.binary64 == magnitude.rank

/-- The decimal of fewest digits that is read as the magnitude, the nearest of those to
it; a tie goes as `tie` says. With all its digits the magnitude is read back as itself. -/
def shortest (tie : Tie) (magnitude : Magnitude) : Decimal :=
  let exact := magnitude.toDecimal
  let size := exact.digitCount
  let found := (List.range size).findSome? fun kept =>
    (exact.cuts tie (size - 1 - kept)).find? magnitude.isReadFrom
  (found.getD exact).strip

end Magnitude

namespace Number

/-- The number nearest to a decimal, with a sign. -/
def ofDecimal (negative : Bool) (decimal : Decimal) : Number :=
  let quotient := decimal.bounded.inUnits Format.binary64
  ofUnits negative quotient.1 quotient.2

def ofInt (whole : Int) : Number := ofDecimal (whole < 0) ⟨whole.natAbs, 0⟩

/-- The number of 32 bits nearest to a decimal, as a number of 64 bits. -/
def ofDecimal32 (negative : Bool) (decimal : Decimal) : Number :=
  let rank := decimal.nearestRank Format.binary32
  if rank < Format.binary32.limit then
    ofUnits negative
      (Format.binary32.units rank *
        Nat.pow 2 (Format.binary64.unitShift - Format.binary32.unitShift)) 1
  else .infinite negative

end Number

end MarkupTree
