/-! # Binary floating-point formats

A format has finitely many finite magnitudes. They are numbered in increasing order from
zero on, and the number of a magnitude is its *rank*. All magnitudes are whole multiples
of the smallest positive one, the *unit*, so a magnitude is known exactly as a count of
units (`Format.units`).

Ranks make rounding short. In the first two binades neighbouring magnitudes differ by
one unit, and rank and count agree; from there on the distance doubles with every
binade, while the ranks go on counting. A value that rounds up to the end of its binade
gets the rank of the first magnitude of the next one without a special case.
-/

namespace MarkupTree

/-- A binary floating-point format. -/
structure Format where
  precision : Nat
  /-- The unit is two to the power of minus this number. -/
  unitShift : Nat
  /-- The number of finite magnitudes; the ranks are the numbers below it. -/
  limit : Nat
deriving Repr, DecidableEq

namespace Format

def binary64 : Format := ⟨53, 1074, 2047 * Nat.pow 2 52⟩

def binary32 : Format := ⟨24, 149, 255 * Nat.pow 2 23⟩

/-- The number of magnitudes in a binade. -/
def binade (format : Format) : Nat := Nat.pow 2 (format.precision - 1)

/-- The magnitude of a rank, counted in units. -/
def units (format : Format) (rank : Nat) : Nat :=
  if rank < format.binade then rank
  else (format.binade + rank % format.binade) * Nat.pow 2 (rank / format.binade - 1)

end Format

/-- The whole number nearest to a quotient; a tie goes to the even neighbour. -/
def roundQuotient (numerator denominator : Nat) : Nat :=
  let quotient := numerator / denominator
  let remainder := numerator % denominator
  if 2 * remainder < denominator then quotient
  else if denominator < 2 * remainder then quotient + 1
  else quotient + quotient % 2

/-- The rank of the magnitude nearest to a quotient of units; a tie goes to the even
rank. Ranks from the format's limit on stand for values that are too large for it. -/
def Format.nearestRank (format : Format) (numerator denominator : Nat) : Nat :=
  let doublings := Nat.log2 (numerator / denominator) + 1 - format.precision
  doublings * format.binade + roundQuotient numerator (denominator * Nat.pow 2 doublings)

end MarkupTree
