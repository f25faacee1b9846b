import MarkupTree.Number.Literal
import MarkupTree.Proofs.Text.Span

/-! # Decimal literals

A decimal literal has digits with an optional point, of which there is at least one on either
side, and an optional exponent (`Number.Literal`). Reading a decimal accepts these literals and
nothing else (`Number.readDecimal_eq_some_iff`).

A literal that announces no base is checked before it is read: it has one sign at most in front
and the characters of a decimal. The check refuses the names of special numbers, which spellings
of numbers may be, and a second sign. It refuses no decimal, so behind the check just the
decimals remain (`Number.parseChars_eq`).
-/

namespace MarkupTree

namespace Number

/-- How a sign is written. -/
inductive Sign where
  | absent
  | plus
  | minus

namespace Sign

def chars : Sign → List Char
  | .absent => []
  | .plus => ['+']
  | .minus => ['-']

def isNegative : Sign → Bool
  | .minus => true
  | _ => false

end Sign

/-- The exponent of a literal: a letter, an optional sign and at least one digit. -/
structure Exponent where
  letter : Char
  sign : Sign
  digits : List Char
  isLetter : letter = 'e' ∨ letter = 'E'
  present : digits ≠ []
  areDigits : ∀ char ∈ digits, isDigit char = true

namespace Exponent

def chars (exponent : Exponent) : List Char :=
  exponent.letter :: (exponent.sign.chars ++ exponent.digits)

def power (exponent : Exponent) : Int :=
  if exponent.sign.isNegative then -(Nat.ofDigitChars 10 exponent.digits 0 : Int)
  else Nat.ofDigitChars 10 exponent.digits 0

end Exponent

/-- A decimal literal without its sign: digits, behind an optional point too, at least one of
them, and an optional exponent. -/
structure Literal where
  whole : List Char
  /-- The digits behind the point, if there is one. -/
  fraction : Option (List Char)
  exponent : Option Exponent
  areDigits : ∀ char ∈ whole ++ fraction.getD [], isDigit char = true
  present : whole ++ fraction.getD [] ≠ []

/-- The point with the digits behind it, if there is one. -/
def pointed : Option (List Char) → List Char
  | none => []
  | some digits => '.' :: digits

namespace Literal

variable (literal : Literal)

def fractionChars : List Char := pointed literal.fraction

def exponentChars : List Char :=
  match literal.exponent with
  | none => []
  | some exponent => exponent.chars

def chars : List Char := literal.whole ++ (literal.fractionChars ++ literal.exponentChars)

def power : Int :=
  match literal.exponent with
  | none => 0
  | some exponent => exponent.power

/-- The decimal that the literal is read as. -/
def decimal : Decimal := .ofParts literal.whole (literal.fraction.getD []) literal.power

/-- There are only digits before the point. -/
theorem whole_digits : ∀ char ∈ literal.whole, isDigit char = true :=
  fun char member => literal.areDigits char (List.mem_append_left _ member)

/-- There are only digits behind the point. -/
theorem fraction_digits : ∀ char ∈ literal.fraction.getD [], isDigit char = true :=
  fun char member => literal.areDigits char (List.mem_append_right _ member)

end Literal

section Exponents

variable {digits : List Char}

private theorem readExponent_minus (present : digits ≠ [])
    (all : ∀ char ∈ digits, isDigit char = true) :
    readExponent ('-' :: digits) = some (-(Nat.ofDigitChars 10 digits 0 : Int)) := by
  have every : digits.all isDigit = true := List.all_eq_true.mpr all
  simp only [readExponent, List.isEmpty_eq_false_iff.mpr present, every]
  rfl

private theorem readExponent_plus (present : digits ≠ [])
    (all : ∀ char ∈ digits, isDigit char = true) :
    readExponent ('+' :: digits) = some (Nat.ofDigitChars 10 digits 0 : Int) := by
  have every : digits.all isDigit = true := List.all_eq_true.mpr all
  simp only [readExponent, List.isEmpty_eq_false_iff.mpr present, every]
  rfl

private theorem readExponent_digits (present : digits ≠ [])
    (all : ∀ char ∈ digits, isDigit char = true) :
    readExponent digits = some (Nat.ofDigitChars 10 digits 0 : Int) := by
  have every : digits.all isDigit = true := List.all_eq_true.mpr all
  obtain ⟨first, rest, rfl⟩ := List.exists_cons_of_ne_nil present
  have digit : isDigit first = true := all first List.mem_cons_self
  unfold readExponent
  split
  · next same => exact absurd ((List.cons.inj same).1 ▸ digit) (by decide)
  · next same => exact absurd ((List.cons.inj same).1 ▸ digit) (by decide)
  · simp only [List.isEmpty_cons, every]
    rfl

/-- An exponent is read behind its letter. -/
theorem readExponent_chars (exponent : Exponent) :
    readExponent (exponent.sign.chars ++ exponent.digits) = some exponent.power := by
  obtain ⟨letter, sign, digits, isLetter, present, areDigits⟩ := exponent
  cases sign with
  | absent => exact readExponent_digits present areDigits
  | plus => exact readExponent_plus present areDigits
  | minus => exact readExponent_minus present areDigits

/-- What is read behind the letter of an exponent is an optional sign with digits. -/
theorem exists_exponent_of_readExponent {letter : Char} (isLetter : letter = 'e' ∨ letter = 'E')
    {chars : List Char} {power : Int} (read : readExponent chars = some power) :
    ∃ exponent : Exponent, exponent.chars = letter :: chars ∧ exponent.power = power := by
  have counted {digits : List Char}
      (proper : ¬ (digits.isEmpty || !digits.all isDigit) = true) :
      digits ≠ [] ∧ ∀ char ∈ digits, isDigit char = true := by
    simp only [Bool.or_eq_true, Bool.not_eq_true', not_or, Bool.not_eq_true,
      Bool.not_eq_false, List.isEmpty_eq_false_iff] at proper
    exact ⟨proper.1, List.all_eq_true.mp proper.2⟩
  unfold readExponent at read
  dsimp only at read
  split at read
  · split at read
    · cases read
    · next proper =>
      obtain ⟨present, areDigits⟩ := counted proper
      obtain rfl := Option.some.inj read
      exact ⟨⟨letter, .minus, _, isLetter, present, areDigits⟩, rfl, rfl⟩
  · split at read
    · cases read
    · next proper =>
      obtain ⟨present, areDigits⟩ := counted proper
      obtain rfl := Option.some.inj read
      exact ⟨⟨letter, .plus, _, isLetter, present, areDigits⟩, rfl, rfl⟩
  · split at read
    · cases read
    · next proper =>
      obtain ⟨present, areDigits⟩ := counted proper
      obtain rfl := Option.some.inj read
      exact ⟨⟨letter, .absent, _, isLetter, present, areDigits⟩, rfl, rfl⟩

end Exponents

/-- Behind its digits a literal ends, or it has an exponent that is read. -/
theorem Literal.exponentChars_cases (literal : Literal) :
    literal.exponentChars = [] ∧ literal.power = 0 ∨
      ∃ letter chars, literal.exponentChars = letter :: chars ∧ (letter = 'e' ∨ letter = 'E') ∧
        readExponent chars = some literal.power := by
  unfold Literal.exponentChars Literal.power
  cases literal.exponent with
  | none => exact .inl ⟨rfl, rfl⟩
  | some exponent => exact .inr ⟨_, _, rfl, exponent.isLetter, readExponent_chars exponent⟩

/-- A literal is read as its decimal. -/
theorem readDecimal_literal (literal : Literal) :
    readDecimal literal.chars = some literal.decimal := by
  have behind := literal.exponentChars_cases
  unfold Literal.chars Literal.decimal
  generalize literal.exponentChars = rest at behind
  have noDigit : ∀ char ∈ rest.head?, isDigit char = false := by
    rcases behind with ⟨rfl, -⟩ | ⟨letter, chars, rfl, rfl | rfl, -⟩ <;> simp [isDigit]
  have behindWhole : ∀ char ∈ (literal.fractionChars ++ rest).head?, isDigit char = false := by
    unfold Literal.fractionChars
    cases literal.fraction with
    | none => exact noDigit
    | some digits => simp [pointed, isDigit]
  have whole := takeWhile_stretch literal.whole_digits behindWhole
  have afterWhole := dropWhile_stretch literal.whole_digits behindWhole
  have fraction := takeWhile_stretch literal.fraction_digits noDigit
  have afterFraction := dropWhile_stretch literal.fraction_digits noDigit
  have present := literal.present
  unfold Literal.fractionChars at whole afterWhole ⊢
  cases given : literal.fraction with
  | none =>
      rw [given, pointed, List.nil_append] at whole afterWhole
      rw [given, Option.getD_none, List.append_nil] at present
      have counted : literal.whole.isEmpty = false := List.isEmpty_eq_false_iff.mpr present
      simp only [pointed, List.nil_append, readDecimal, whole, afterWhole, counted]
      rcases behind with ⟨rfl, none⟩ | ⟨letter, chars, rfl, isLetter, read⟩
      · simp [none]
      · have noPoint : letter ≠ '.' := by rcases isLetter with rfl | rfl <;> decide
        simp [isLetter, noPoint, read]
  | some digits =>
      rw [given, pointed, List.cons_append] at whole afterWhole
      rw [given, Option.getD_some] at present fraction afterFraction
      have counted : (literal.whole.isEmpty && digits.isEmpty) = false := by
        cases empty : literal.whole with
        | nil => simpa [empty] using present
        | cons first rest => rfl
      simp only [pointed, List.cons_append, readDecimal, whole, afterWhole, fraction,
        afterFraction, counted]
      rcases behind with ⟨rfl, none⟩ | ⟨letter, chars, rfl, isLetter, read⟩
      · simp [none]
      · simp [isLetter, read]

/-- Digits, a point with digits, and behind them nothing or an exponent are a literal. -/
theorem exists_literal_of_parts {whole : List Char} (fraction : Option (List Char))
    {rest : List Char} {decimal : Decimal}
    (areDigits : ∀ char ∈ whole ++ fraction.getD [], isDigit char = true)
    (present : whole ++ fraction.getD [] ≠ [])
    (ends : (match rest with
      | [] => some (Decimal.ofParts whole (fraction.getD []) 0)
      | mark :: exponent =>
        if mark = 'e' ∨ mark = 'E' then
          (readExponent exponent).map (Decimal.ofParts whole (fraction.getD []))
        else none) = some decimal) :
    ∃ literal : Literal, literal.chars = whole ++ (pointed fraction ++ rest) ∧
      literal.decimal = decimal := by
  cases rest with
  | nil =>
      obtain rfl := Option.some.inj ends
      exact ⟨⟨whole, fraction, none, areDigits, present⟩, rfl, rfl⟩
  | cons letter rest =>
      dsimp only at ends
      split at ends
      · next isLetter =>
        obtain ⟨power, read, rfl⟩ := Option.map_eq_some_iff.mp ends
        obtain ⟨exponent, text, rfl⟩ := exists_exponent_of_readExponent isLetter read
        rw [← text]
        exact ⟨⟨whole, fraction, some exponent, areDigits, present⟩, rfl, rfl⟩
      · cases ends

/-- What is read as a decimal is a literal. -/
theorem exists_literal_of_readDecimal {chars : List Char} {decimal : Decimal}
    (read : readDecimal chars = some decimal) :
    ∃ literal : Literal, literal.chars = chars ∧ literal.decimal = decimal := by
  have digitsOf (text : List Char) : ∀ char ∈ text.takeWhile isDigit, isDigit char = true :=
    List.all_eq_true.mp List.all_takeWhile
  have split (text : List Char) : text.takeWhile isDigit ++ text.dropWhile isDigit = text :=
    List.takeWhile_append_dropWhile
  unfold readDecimal at read
  dsimp only at read
  split at read
  · next behind point =>
    split at read
    · cases read
    · next present =>
      obtain ⟨literal, text, exact⟩ := exists_literal_of_parts (some (behind.takeWhile isDigit))
        (List.forall_mem_append.mpr ⟨digitsOf chars, digitsOf behind⟩)
        (by simpa using present) read
      refine ⟨literal, ?_, exact⟩
      rw [text, pointed, List.cons_append, split behind, ← point, split chars]
  · split at read
    · cases read
    · next present =>
      obtain ⟨literal, text, exact⟩ := exists_literal_of_parts none
        (by simpa using digitsOf chars) (by simpa using present) read
      refine ⟨literal, ?_, exact⟩
      rw [text, pointed, List.nil_append, split chars]

/-- **Reading a decimal accepts just the decimal literals.** -/
theorem readDecimal_eq_some_iff {chars : List Char} {decimal : Decimal} :
    readDecimal chars = some decimal ↔
      ∃ literal : Literal, literal.chars = chars ∧ literal.decimal = decimal := by
  constructor
  · exact exists_literal_of_readDecimal
  · rintro ⟨literal, rfl, rfl⟩
    exact readDecimal_literal literal

/-- A decimal literal begins with a digit or a point. -/
theorem readDecimal_cons_eq_none {char : Char} (noDigit : isDigit char = false)
    (noPoint : char ≠ '.') (rest : List Char) : readDecimal (char :: rest) = none := by
  have whole : (char :: rest).takeWhile isDigit = [] :=
    List.takeWhile_cons_of_neg (by simp [noDigit])
  have afterWhole : (char :: rest).dropWhile isDigit = char :: rest :=
    List.dropWhile_cons_of_neg (by simp [noDigit])
  simp only [readDecimal, whole, afterWhole]
  split
  · next same => simp_all
  · rfl

/-- A decimal literal announces no base. -/
theorem radixMark?_of_readDecimal {chars : List Char} {decimal : Decimal}
    (read : readDecimal chars = some decimal) : radixMark? chars = none := by
  unfold radixMark?
  split
  · next mark rest =>
    -- Behind a zero, a mark is neither a digit nor a point nor the sign of an exponent.
    have unread (noDigit : isDigit mark = false) (noPoint : mark ≠ '.')
        (noExponent : ¬(mark = 'e' ∨ mark = 'E')) : readDecimal ('0' :: mark :: rest) = none := by
      have zero : isDigit '0' = true := by decide
      simp [readDecimal, zero, noDigit, noPoint, noExponent]
    split
    · next base => rcases base with rfl | rfl <;> simp [unread, isDigit] at read
    · split
      · next base => rcases base with rfl | rfl <;> simp [unread, isDigit] at read
      · split
        · next base => rcases base with rfl | rfl <;> simp [unread, isDigit] at read
        · rfl
  · rfl

/-- A decimal has no sign in front. -/
theorem ofChars_of_readDecimal {chars : List Char} {decimal : Decimal}
    (read : readDecimal chars = some decimal) : Signed.ofChars chars = ⟨false, false, chars⟩ := by
  unfold Signed.ofChars
  split
  · rw [readDecimal_cons_eq_none (by decide) (by decide)] at read
    cases read
  · rw [readDecimal_cons_eq_none (by decide) (by decide)] at read
    cases read
  · rfl

private theorem isDecimalChar_of_isDigit {char : Char} (digit : isDigit char = true) :
    isDecimalChar char = true := by
  simp only [isDecimalChar, digit, Bool.true_or]

/-- The characters of a decimal are digits, the point, the letter of the exponent and signs. -/
theorem isDecimalChar_cases {char : Char} (decimal : isDecimalChar char = true) :
    isDigit char = true ∨ char = '.' ∨ char = 'e' ∨ char = 'E' ∨ char = '+' ∨ char = '-' := by
  simpa only [isDecimalChar, Bool.or_eq_true, beq_iff_eq, or_assoc] using decimal

namespace Literal

variable (literal : Literal)

private theorem all_isDecimalChar_fractionChars :
    ∀ char ∈ literal.fractionChars, isDecimalChar char = true := by
  have digits := literal.fraction_digits
  unfold fractionChars
  cases given : literal.fraction with
  | none => exact fun _ member => (List.not_mem_nil member).elim
  | some fraction =>
      rw [given] at digits
      exact List.forall_mem_cons.mpr
        ⟨rfl, fun char member => isDecimalChar_of_isDigit (digits char member)⟩

private theorem all_isDecimalChar_exponentChars :
    ∀ char ∈ literal.exponentChars, isDecimalChar char = true := by
  unfold exponentChars
  cases literal.exponent with
  | none => exact fun _ member => (List.not_mem_nil member).elim
  | some exponent =>
      have letter : isDecimalChar exponent.letter = true := by
        rcases exponent.isLetter with letter | letter <;> rw [letter] <;> rfl
      have sign : ∀ char ∈ exponent.sign.chars, isDecimalChar char = true := by
        cases exponent.sign <;> exact List.all_eq_true.mp rfl
      exact List.forall_mem_cons.mpr ⟨letter, List.forall_mem_append.mpr
        ⟨sign, fun char member => isDecimalChar_of_isDigit (exponent.areDigits char member)⟩⟩

/-- A literal is of the characters of a decimal and has a digit. -/
theorem isDecimalLike_chars : isDecimalLike literal.chars = true := by
  have whole : ∀ char ∈ literal.whole, isDecimalChar char = true :=
    fun char member => isDecimalChar_of_isDigit (literal.whole_digits char member)
  have fraction : ∀ char ∈ literal.fraction.getD [], char ∈ literal.fractionChars := by
    unfold fractionChars
    cases literal.fraction with
    | none => exact fun _ member => member
    | some digits => exact fun _ member => List.mem_cons_of_mem _ member
  obtain ⟨digit, member⟩ := List.exists_mem_of_ne_nil _ literal.present
  have inside : digit ∈ literal.chars := by
    rcases List.mem_append.mp member with first | second
    · exact List.mem_append_left _ first
    · exact List.mem_append_right _ (List.mem_append_left _ (fraction digit second))
  have all : ∀ char ∈ literal.chars, isDecimalChar char = true :=
    List.forall_mem_append.mpr ⟨whole, List.forall_mem_append.mpr
      ⟨literal.all_isDecimalChar_fractionChars, literal.all_isDecimalChar_exponentChars⟩⟩
  rw [isDecimalLike, Bool.and_eq_true, List.all_eq_true, List.any_eq_true]
  exact ⟨all, digit, inside, literal.areDigits digit member⟩

end Literal

private theorem toLower_ne_of_isDecimalChar {char : Char} (decimal : isDecimalChar char = true) :
    char.toLower ≠ 'n' := by
  rcases isDecimalChar_cases decimal with digit | rfl | rfl | rfl | rfl | rfl
  · have low : char.toNat ≤ 57 := by
      have bounds : 48 ≤ char.toNat ∧ char.toNat ≤ 57 := by
        simpa [isDigit, Char.le_def, UInt32.le_iff_toNat_le] using digit
      exact bounds.2
    have upper : ¬ (char.val ≥ 'A'.val ∧ char.val ≤ 'Z'.val) := by
      rintro ⟨high, -⟩
      exact absurd (Nat.le_trans (UInt32.le_iff_toNat_le.mp high) low) (by decide)
    have same : char.toLower = char := dif_neg upper
    rw [same]
    rintro rfl
    exact absurd low (by decide)
  all_goals decide

/-- Without a sign nothing is taken off. -/
theorem ofChars_of_written {chars : List Char} (unsigned : (Signed.ofChars chars).written = false) :
    Signed.ofChars chars = ⟨false, false, chars⟩ := by
  unfold Signed.ofChars at unsigned ⊢
  split at unsigned
  · cases unsigned
  · cases unsigned
  · rfl

/-- A sign that is taken off stands in front. -/
theorem exists_sign_of_written {chars : List Char}
    (signed : (Signed.ofChars chars).written = true) :
    ∃ sign rest, chars = sign :: rest ∧ (sign = '-' ∨ sign = '+') := by
  unfold Signed.ofChars at signed
  split at signed
  · exact ⟨_, _, rfl, .inl rfl⟩
  · exact ⟨_, _, rfl, .inr rfl⟩
  · cases signed

/-- The name of a special number is not of the characters of a decimal. -/
theorem ofSpelling_of_isDecimalLike {chars : List Char} (like : isDecimalLike chars = true)
    (unsigned : (Signed.ofChars chars).written = false) :
    ofSpelling ofDecimal (String.ofList chars) = (readDecimal chars).map (ofDecimal false) := by
  have plain := ofChars_of_written unsigned
  have unnamed (name : String) (letter : 'n' ∈ name.toList) :
      String.ofList (chars.map Char.toLower) ≠ name := by
    rintro rfl
    rw [String.toList_ofList, List.mem_map] at letter
    obtain ⟨char, member, lower⟩ := letter
    rw [isDecimalLike, Bool.and_eq_true, List.all_eq_true] at like
    exact toLower_ne_of_isDecimalChar (like.1 char member) lower
  have inf := unnamed "inf" (by decide)
  have infinity := unnamed "infinity" (by decide)
  have nan := unnamed "nan" (by decide)
  simp only [ofSpelling, String.toList_ofList, plain, inf, infinity, nan, or_self, ↓reduceIte]

/-- Negating a number that was read is reading it with a sign. -/
theorem negated_ofDecimal (decimal : Decimal) :
    (ofDecimal false decimal).negated = ofDecimal true decimal := by
  simp only [ofDecimal, ofUnits]
  split <;> rfl

/-- **Behind the checks just the decimals remain.** A trimmed text is the word for infinity, a
whole number behind a base mark, or a decimal. -/
theorem parseChars_eq (chars : List Char) :
    parseChars chars =
      let literal := Signed.ofChars chars
      if literal.unsigned = "Infinity".toList then some (.infinite literal.negative)
      else
        match radixMark? literal.unsigned with
        | some (base, digits) =>
          if literal.written then none
          else (readRadix base digits).map fun whole => ofDecimal false ⟨whole, 0⟩
        | none => (readDecimal literal.unsigned).map (ofDecimal literal.negative) := by
  unfold parseChars
  generalize Signed.ofChars chars = literal
  obtain ⟨written, negative, unsigned⟩ := literal
  dsimp only
  by_cases signed : (Signed.ofChars unsigned).written = true
  · -- Nothing that is read begins with a second sign.
    simp only [signed, ↓reduceIte]
    obtain ⟨sign, rest, rfl, isSign⟩ := exists_sign_of_written signed
    rcases isSign with rfl | rfl <;> simp [radixMark?, readDecimal_cons_eq_none, isDigit]
  · simp only [signed, Bool.false_eq_true, ↓reduceIte]
    by_cases word : unsigned = "Infinity".toList
    · simp only [word, ↓reduceIte]
    · simp only [word, ↓reduceIte]
      cases radixMark? unsigned with
      | some mark => rfl
      | none =>
          dsimp only
          by_cases like : isDecimalLike unsigned = true
          · have spelling := ofSpelling_of_isDecimalLike like (Bool.not_eq_true _ ▸ signed)
            simp only [like, ↓reduceIte, spelling]
            cases readDecimal unsigned with
            | none => rfl
            | some decimal =>
                cases negative with
                | false => simp only [Option.map_some, Bool.false_eq_true, ↓reduceIte]
                | true => simp only [Option.map_some, ↓reduceIte, negated_ofDecimal]
          · simp only [like, Bool.false_eq_true, ↓reduceIte]
            cases read : readDecimal unsigned with
            | none => rfl
            | some decimal =>
                obtain ⟨literal, rfl, -⟩ := exists_literal_of_readDecimal read
                exact absurd literal.isDecimalLike_chars like

/-- The text behind an optional sign, with what the sign is. -/
theorem exists_sign (chars : List Char) :
    ∃ sign : Sign, chars = sign.chars ++ (Signed.ofChars chars).unsigned ∧
      (Signed.ofChars chars).negative = sign.isNegative := by
  unfold Signed.ofChars
  split
  · exact ⟨.minus, rfl, rfl⟩
  · exact ⟨.plus, rfl, rfl⟩
  · exact ⟨.absent, rfl, rfl⟩

/-- A sign is taken off a text that does not begin with a second one. -/
theorem ofChars_sign_append (sign : Sign) {unsigned : List Char}
    (plain : (Signed.ofChars unsigned).written = false) :
    (Signed.ofChars (sign.chars ++ unsigned)).unsigned = unsigned ∧
      (Signed.ofChars (sign.chars ++ unsigned)).negative = sign.isNegative := by
  cases sign with
  | minus => exact ⟨rfl, rfl⟩
  | plus => exact ⟨rfl, rfl⟩
  | absent =>
      rw [Sign.chars, List.nil_append, ofChars_of_written plain]
      exact ⟨rfl, rfl⟩

/-- A decimal is read with its sign. -/
theorem parseChars_of_readDecimal (sign : Sign) {chars : List Char} {decimal : Decimal}
    (read : readDecimal chars = some decimal) :
    parseChars (sign.chars ++ chars) = some (ofDecimal sign.isNegative decimal) := by
  have word : chars ≠ "Infinity".toList := by
    rintro rfl
    have unread : readDecimal "Infinity".toList = none := by decide +kernel
    rw [unread] at read
    cases read
  have plain : (Signed.ofChars chars).written = false := by rw [ofChars_of_readDecimal read]
  obtain ⟨unsigned, negative⟩ := ofChars_sign_append sign plain
  simp only [parseChars_eq, unsigned, negative, word, ↓reduceIte,
    radixMark?_of_readDecimal read, read, Option.map_some]

end Number

end MarkupTree
