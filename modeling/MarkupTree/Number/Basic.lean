import MarkupTree.Number.Format

/-! # Numbers

A number is a binary64 value: a finite one with a sign, one of two infinities, or not a
number. Zero has a sign too, which only shows where it is asked for.

Two comparisons are kept apart. `=` compares the values as data, so it tells the two
zeros apart and holds between two values that are not numbers. `Number.same` is
numeric equality: the zeros are the same, and what is not a number is the same as
nothing.
-/

namespace MarkupTree

/-- A finite binary64 magnitude, given by its rank. -/
structure Magnitude where
  rank : Nat
  rank_lt : rank < Format.binary64.limit
deriving Repr, DecidableEq

namespace Magnitude

def zero : Magnitude := ⟨0, by decide⟩

def units (magnitude : Magnitude) : Nat := Format.binary64.units magnitude.rank

/-- The magnitude as a whole number, if it is one. -/
def whole? (magnitude : Magnitude) : Option Nat :=
  let scale := Nat.pow 2 Format.binary64.unitShift
  if magnitude.units % scale = 0 then some (magnitude.units / scale) else none

end Magnitude

/-- A binary64 number. -/
inductive Number where
  | nan
  | infinite (negative : Bool)
  | finite (negative : Bool) (magnitude : Magnitude)
deriving Repr, DecidableEq

namespace Number

def zero : Number := .finite false .zero

def isNan : Number → Bool
  | .nan => true
  | _ => false

def isFinite : Number → Bool
  | .finite _ _ => true
  | _ => false

/-- Numeric equality: zeros are the same whatever their sign, and no value is the same
as one that is not a number. -/
def same : Number → Number → Bool
  | .finite firstNegative first, .finite secondNegative second =>
    first == second && (firstNegative == secondNegative || first.rank == 0)
  | .infinite firstNegative, .infinite secondNegative => firstNegative == secondNegative
  | _, _ => false

/-- The number nearest to a quotient of units, with a sign. A value beyond the finite
magnitudes is an infinity. -/
def ofUnits (negative : Bool) (numerator denominator : Nat) : Number :=
  let rank := Format.binary64.nearestRank numerator denominator
  if fits : rank < Format.binary64.limit then .finite negative ⟨rank, fits⟩
  else .infinite negative

end Number

end MarkupTree
