import MarkupTree.Number.Literal

/-! # Readers of numbers

JSON says how a number is written, not which of the numbers at hand is meant, and its readers
differ here. One that rounds correctly takes the nearest number for every notation; a quicker one
may miss it by a little. So what a notation is read as is left to a `NumberReader`, and texts are
read by any of them.
-/

namespace MarkupTree.Json

/-- A number as it is written in JSON. -/
structure WrittenNumber where
  negative : Bool
  whole : List Char
  fraction : List Char
  exponent : Option Int
deriving Repr, DecidableEq

namespace WrittenNumber

/-- Whether a number is written with digits alone. -/
def isCount (written : WrittenNumber) : Bool :=
  !written.negative && written.fraction.isEmpty && written.exponent.isNone

/-- The number without its sign, as exactly as it is written. -/
def decimal (written : WrittenNumber) : Decimal :=
  .ofParts written.whole written.fraction (written.exponent.getD 0)

end WrittenNumber

/-- A way to read written numbers. A number that is out of range is none. -/
structure NumberReader where
  read? : WrittenNumber → Option Number

/-- The reader that rounds correctly: what rounds to an infinity is out of range. -/
def NumberReader.nearest : NumberReader where
  read? written :=
    let value := Number.ofDecimal written.negative written.decimal
    if value.isFinite then some value else none

end MarkupTree.Json
