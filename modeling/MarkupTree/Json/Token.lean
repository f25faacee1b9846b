import MarkupTree.Json.NumberReader

/-! # The tokens of a JSON text

`Token.scan` cuts a text into brackets, commas, colons and scalars. Where the text holds
no token, scanning ends with the token `malformed`.

Two scalars are well formed without having a value: a number that is out of range, and
a text with half of a surrogate pair. They are tokens too, since a reader that skips a
value does not ask what it is.
-/

namespace MarkupTree.Json

/-- The two pairs of brackets. -/
inductive Bracket where
  | square
  | curly
deriving Repr, DecidableEq

/-- A token of a JSON text. -/
inductive Token where
  | opening (bracket : Bracket)
  | closing (bracket : Bracket)
  | comma
  | colon
  | null
  | boolean (value : Bool)
  /-- A number if it is in range, and whether it is written with digits alone. -/
  | number (value : Option Number) (isCount : Bool)
  /-- A text if its surrogates are paired. -/
  | string (value : Option String)
  /-- The end of what can be read. -/
  | malformed
deriving Repr, DecidableEq

namespace Token

def isSpace (char : Char) : Bool := char == ' ' || char == '\n' || char == '\t' || char == '\r'

def readHex (digits : List Char) : Option Nat := Number.readDigits 16 0 digits

def escapedLetter? : Char → Option Nat
  | '"' => some 34
  | '\\' => some 92
  | '/' => some 47
  | 'b' => some 8
  | 'f' => some 12
  | 'n' => some 10
  | 'r' => some 13
  | 't' => some 9
  | _ => none

/-- Reads a text behind its opening quote: the units of the text, which are code points
and halves of surrogate pairs, and what follows the closing quote. -/
def scanUnits : List Char → Option (List Nat × List Char)
  | [] => none
  | '"' :: rest => some ([], rest)
  | '\\' :: 'u' :: first :: second :: third :: fourth :: rest =>
    match readHex [first, second, third, fourth], scanUnits rest with
    | some unit, some (units, after) => some (unit :: units, after)
    | _, _ => none
  | '\\' :: letter :: rest =>
    match escapedLetter? letter, scanUnits rest with
    | some unit, some (units, after) => some (unit :: units, after)
    | _, _ => none
  | char :: rest =>
    if char.toNat < 32 ∨ char = '\\' then none
    else
      match scanUnits rest with
      | some (units, after) => some (char.toNat :: units, after)
      | none => none

/-- Whether a unit is the first half of a surrogate pair. -/
def isLeading (unit : Nat) : Bool := 0xD800 ≤ unit && unit < 0xDC00

/-- Whether a unit is the second half of a surrogate pair. -/
def isTrailing (unit : Nat) : Bool := 0xDC00 ≤ unit && unit < 0xE000

/-- The characters of units; none if half of a surrogate pair stands alone. -/
def charsOfUnits : List Nat → Option (List Char)
  | [] => some []
  | [unit] => if isLeading unit || isTrailing unit then none else some [Char.ofNat unit]
  | first :: second :: rest =>
    if isLeading first then
      if isTrailing second then
        (charsOfUnits rest).map fun chars =>
          Char.ofNat (0x10000 + (first - 0xD800) * 0x400 + (second - 0xDC00)) :: chars
      else none
    else if isTrailing first then none
    else (charsOfUnits (second :: rest)).map fun chars => Char.ofNat first :: chars

/-- Reads the whole part of a number: a zero alone, or digits that begin with no zero. -/
def scanWhole : List Char → Option (List Char × List Char)
  | '0' :: rest =>
    match rest with
    | [] => some (['0'], [])
    | next :: _ => if isDigit next then none else some (['0'], rest)
  | chars =>
    let digits := chars.takeWhile isDigit
    if digits.isEmpty then none else some (digits, chars.dropWhile isDigit)

/-- Reads the fraction of a number if there is one: a point and at least one digit. -/
def scanFraction : List Char → Option (List Char × List Char)
  | '.' :: rest =>
    let digits := rest.takeWhile isDigit
    if digits.isEmpty then none else some (digits, rest.dropWhile isDigit)
  | chars => some ([], chars)

/-- Reads the exponent of a number if there is one, given as its mark, its sign and at
least one digit. -/
def scanExponent : List Char → Option (Option Int × List Char)
  | [] => some (none, [])
  | mark :: rest =>
    if mark = 'e' ∨ mark = 'E' then
      let signed := Number.Signed.ofChars rest
      let digits := signed.unsigned.takeWhile isDigit
      if digits.isEmpty then none
      else
        let exponent : Int := Nat.ofDigitChars 10 digits 0
        some (some (if signed.negative then -exponent else exponent),
          signed.unsigned.dropWhile isDigit)
    else some (none, mark :: rest)

def scanNumber (reader : NumberReader) (negative : Bool) (chars : List Char) :
    Option (Token × List Char) :=
  (scanWhole chars).bind fun (whole, afterWhole) =>
    (scanFraction afterWhole).bind fun (fraction, afterFraction) =>
      (scanExponent afterFraction).map fun (exponent, rest) =>
        let written : WrittenNumber := ⟨negative, whole, fraction, exponent⟩
        (.number (reader.read? written) written.isCount, rest)

def scanString (chars : List Char) : Option (Token × List Char) :=
  (scanUnits chars).map fun (units, rest) =>
    (.string ((charsOfUnits units).map String.ofList), rest)

/-- Reads the rest of a word behind its first letter. -/
def scanWord (token : Token) (letters chars : List Char) : Option (Token × List Char) :=
  if letters.isPrefixOf chars then some (token, chars.drop letters.length) else none

/-- The token that a character is by itself. -/
def sign? : Char → Option Token
  | '[' => some (.opening .square)
  | ']' => some (.closing .square)
  | '\x7b' => some (.opening .curly)
  | '\x7d' => some (.closing .curly)
  | ',' => some .comma
  | ':' => some .colon
  | _ => none

/-- The word that begins with a letter: its token and its other letters. -/
def word? : Char → Option (Token × List Char)
  | 'n' => some (.null, ['u', 'l', 'l'])
  | 't' => some (.boolean true, ['r', 'u', 'e'])
  | 'f' => some (.boolean false, ['a', 'l', 's', 'e'])
  | _ => none

def scanFrom (reader : NumberReader) (char : Char) (rest : List Char) :
    Option (Token × List Char) :=
  match sign? char, word? char with
  | some token, _ => some (token, rest)
  | none, some (token, letters) => scanWord token letters rest
  | none, none =>
    if char = '"' then scanString rest
    else if char = '-' then scanNumber reader true rest
    else scanNumber reader false (char :: rest)

theorem length_of_scanUnits {chars after : List Char} {units : List Nat}
    (read : scanUnits chars = some (units, after)) : after.length < chars.length := by
  fun_induction scanUnits chars generalizing units after <;>
    simp only [reduceCtorEq, Option.some.injEq, Prod.mk.injEq, List.length_cons] at read ⊢ <;>
    grind

/-- What follows the whole part of a number is shorter than what the part was read from. -/
theorem length_of_scanWhole {chars digits after : List Char}
    (read : scanWhole chars = some (digits, after)) : after.length < chars.length := by
  have parts := congrArg List.length (List.takeWhile_append_dropWhile (p := isDigit) (l := chars))
  unfold scanWhole at read
  grind [List.isEmpty_iff_length_eq_zero]

/-- What follows a fraction is no longer than what the fraction was read from. -/
theorem length_of_scanFraction {chars digits after : List Char}
    (read : scanFraction chars = some (digits, after)) : after.length ≤ chars.length := by
  have shorter (rest : List Char) := (List.dropWhile_sublist (l := rest) isDigit).length_le
  unfold scanFraction at read
  grind

theorem length_unsigned (chars : List Char) :
    (Number.Signed.ofChars chars).unsigned.length ≤ chars.length := by
  unfold Number.Signed.ofChars
  grind

/-- What follows an exponent is no longer than what the exponent was read from. -/
theorem length_of_scanExponent {chars after : List Char} {exponent : Option Int}
    (read : scanExponent chars = some (exponent, after)) : after.length ≤ chars.length := by
  have shorter (rest : List Char) := (List.dropWhile_sublist (l := rest) isDigit).length_le
  have unsigned := length_unsigned
  unfold scanExponent at read
  grind

theorem length_of_scanNumber {reader : NumberReader} {negative : Bool} {chars after : List Char}
    {token : Token} (read : scanNumber reader negative chars = some (token, after)) :
    after.length < chars.length := by
  simp only [scanNumber, Option.bind_eq_some_iff, Option.map_eq_some_iff, Prod.exists,
    Prod.mk.injEq] at read
  obtain ⟨_, _, whole, _, _, fraction, _, _, exponent, _, rfl⟩ := read
  exact Nat.lt_of_le_of_lt (length_of_scanExponent exponent)
    (Nat.lt_of_le_of_lt (length_of_scanFraction fraction) (length_of_scanWhole whole))

theorem length_of_scanString {chars after : List Char} {token : Token}
    (read : scanString chars = some (token, after)) : after.length ≤ chars.length := by
  simp only [scanString, Option.map_eq_some_iff, Prod.exists, Prod.mk.injEq] at read
  obtain ⟨_, _, units, _, rfl⟩ := read
  exact Nat.le_of_lt (length_of_scanUnits units)

theorem length_of_scanWord {word token : Token} {letters chars after : List Char}
    (read : scanWord word letters chars = some (token, after)) : after.length ≤ chars.length := by
  unfold scanWord at read
  grind

/-- What follows a token is no longer than what follows its first character. -/
theorem length_of_scanFrom {reader : NumberReader} {char : Char} {rest after : List Char}
    {token : Token} (read : scanFrom reader char rest = some (token, after)) :
    after.length ≤ rest.length := by
  unfold scanFrom at read
  split at read
  · grind
  · exact length_of_scanWord read
  · split at read
    · exact length_of_scanString read
    · split at read
      · exact Nat.le_of_lt (length_of_scanNumber read)
      · exact Nat.le_of_lt_succ (length_of_scanNumber read)

/-- The tokens of a text. Where no token can be read the last one is `malformed`. -/
def scan (reader : NumberReader) (chars : List Char) : List Token :=
  match chars with
  | [] => []
  | char :: rest =>
    if isSpace char then scan reader rest
    else
      match _ : scanFrom reader char rest with
      | some (token, after) => token :: scan reader after
      | none => [.malformed]
termination_by chars.length
decreasing_by
  all_goals simp only [List.length_cons]
  · omega
  · exact Nat.lt_succ_of_le (length_of_scanFrom (by assumption))

end Token

end MarkupTree.Json
