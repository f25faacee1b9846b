import MarkupTree.Proofs.Number.Literals
import MarkupTree.Proofs.Number.Nearest
import MarkupTree.Proofs.Text.Trimming

/-! # What is read as a number

A trimmed text that announces no base is read as a number exactly if it is the word for infinity
or a decimal literal, either of them with a sign or without. A literal is read as the number
nearest to the value that it denotes (`Number.Literal.value`), with its sign. So what is not a
number is never read, and neither is a blank text (`Number.reads_decimal_literals`).
-/

namespace MarkupTree

namespace Number

/-- The rational number that a literal denotes: its whole part and its fraction, times a power
of ten. -/
def Literal.value (literal : Literal) : ℚ :=
  (Nat.ofDigitChars 10 literal.whole 0 +
    Nat.ofDigitChars 10 (literal.fraction.getD []) 0 /
      10 ^ (literal.fraction.getD []).length) * 10 ^ literal.power

/-- The decimal that a literal is read as has the value of the literal. -/
theorem Literal.value_decimal (literal : Literal) : literal.decimal.value = literal.value := by
  have ten : (10 : ℚ) ≠ 0 := by norm_num
  have places : (10 : ℚ) ^ (literal.fraction.getD []).length ≠ 0 := pow_ne_zero _ ten
  unfold Literal.decimal Literal.value Decimal.ofParts Decimal.value
  rw [Nat.ofDigitChars_append, Nat.ofDigitChars_eq_ofDigitChars_zero, Nat.cast_add, Nat.cast_mul,
    Nat.cast_pow, Nat.cast_ofNat, zpow_sub₀ ten, zpow_natCast]
  field_simp

/-- Behind an optional sign the text begins with a base mark. -/
def AnnouncesBase (chars : List Char) : Prop :=
  ∃ (sign : Sign) (letter : Char),
    letter ∈ ['x', 'X', 'o', 'O', 'b', 'B'] ∧ sign.chars ++ ['0', letter] <+: chars

private theorem radixMark?_isSome_iff (chars : List Char) :
    (radixMark? chars).isSome = true ↔
      ∃ letter ∈ ['x', 'X', 'o', 'O', 'b', 'B'], ['0', letter] <+: chars := by
  constructor
  · intro marked
    unfold radixMark? at marked
    split at marked
    · next letter rest =>
      refine ⟨letter, ?_, rest, rfl⟩
      by_contra other
      simp only [List.mem_cons, List.not_mem_nil, or_false, not_or] at other
      simp [other] at marked
    · cases marked
  · rintro ⟨letter, member, rest, rfl⟩
    simp only [List.mem_cons, List.not_mem_nil, or_false] at member
    rcases member with rfl | rfl | rfl | rfl | rfl | rfl <;> rfl

/-- A text announces a base if there is a mark of one behind its sign. -/
theorem announcesBase_iff (chars : List Char) :
    AnnouncesBase chars ↔ (radixMark? (Signed.ofChars chars).unsigned).isSome = true := by
  rw [radixMark?_isSome_iff]
  constructor
  · rintro ⟨sign, letter, member, rest, rfl⟩
    refine ⟨letter, member, rest, ?_⟩
    rw [List.append_assoc]
    exact (ofChars_sign_append sign rfl).1.symm
  · rintro ⟨letter, member, rest, text⟩
    obtain ⟨sign, split, -⟩ := exists_sign chars
    refine ⟨sign, letter, member, rest, ?_⟩
    rw [List.append_assoc, text, ← split]

instance (chars : List Char) : Decidable (AnnouncesBase chars) :=
  decidable_of_iff _ (announcesBase_iff chars).symm

private theorem parseChars_infinity (sign : Sign) :
    parseChars (sign.chars ++ "Infinity".toList) = some (.infinite sign.isNegative) := by
  cases sign <;> decide +kernel

section Texts

variable {text : String}

/-- The word for infinity is read with its sign. -/
theorem parse_word {sign : Sign}
    (spelled : Text.trimChars text.toList = sign.chars ++ "Infinity".toList) :
    parse text = some (.infinite sign.isNegative) := by
  rw [parse, spelled, parseChars_infinity]

/-- A literal is read as its decimal with its sign. -/
theorem parse_literal {sign : Sign} {literal : Literal}
    (spelled : Text.trimChars text.toList = sign.chars ++ literal.chars) :
    parse text = some (ofDecimal sign.isNegative literal.decimal) := by
  rw [parse, spelled, parseChars_of_readDecimal sign (readDecimal_literal literal)]

/-- A literal is read as the number nearest to its value. -/
theorem parse_literal_eq_some_iff {sign : Sign} {literal : Literal}
    (spelled : Text.trimChars text.toList = sign.chars ++ literal.chars) (number : Number) :
    parse text = some number ↔ number.IsNearest sign.isNegative literal.value := by
  have nearest := isNearest_ofDecimal sign.isNegative literal.decimal
  rw [Literal.value_decimal] at nearest
  rw [parse_literal spelled, Option.some.injEq]
  constructor
  · rintro rfl
    exact nearest
  · exact nearest.unique

/-- Of the texts that announce no base, nothing is read but the word for infinity and literals. -/
theorem spelled_of_parse (plain : ¬ AnnouncesBase (Text.trimChars text.toList)) {number : Number}
    (read : parse text = some number) :
    (∃ sign : Sign, Text.trimChars text.toList = sign.chars ++ "Infinity".toList) ∨
      ∃ (sign : Sign) (literal : Literal),
        Text.trimChars text.toList = sign.chars ++ literal.chars := by
  obtain ⟨sign, split, -⟩ := exists_sign (Text.trimChars text.toList)
  rw [announcesBase_iff, Option.not_isSome_iff_eq_none] at plain
  rw [parse, parseChars_eq] at read
  dsimp only at read
  rw [plain] at read
  split at read
  · next infinity => exact .inl ⟨sign, infinity ▸ split⟩
  · obtain ⟨decimal, decimalRead, -⟩ := Option.map_eq_some_iff.mp read
    obtain ⟨literal, chars, -⟩ := exists_literal_of_readDecimal decimalRead
    exact .inr ⟨sign, literal, chars ▸ split⟩

end Texts

/-- **Which texts are read as decimal numbers, and as which.** -/
theorem reads_decimal_literals (text : String)
    (plain : ¬ AnnouncesBase (Text.trimChars text.toList)) :
    ((parse text).isSome = true ↔
      (∃ sign : Sign, Text.trimChars text.toList = sign.chars ++ "Infinity".toList) ∨
        ∃ (sign : Sign) (literal : Literal),
          Text.trimChars text.toList = sign.chars ++ literal.chars) ∧
      (∀ sign : Sign, Text.trimChars text.toList = sign.chars ++ "Infinity".toList →
        parse text = some (.infinite sign.isNegative)) ∧
      (∀ (sign : Sign) (literal : Literal),
        Text.trimChars text.toList = sign.chars ++ literal.chars → ∀ number,
          parse text = some number ↔ number.IsNearest sign.isNegative literal.value) ∧
      parse text ≠ some .nan ∧ (Text.isBlankText text = true → parse text = none) := by
  refine ⟨⟨?_, ?_⟩, fun _ => parse_word, fun _ _ => parse_literal_eq_some_iff, ?_, ?_⟩
  · intro some
    obtain ⟨number, read⟩ := Option.isSome_iff_exists.mp some
    exact spelled_of_parse plain read
  · rintro (⟨sign, spelled⟩ | ⟨sign, literal, spelled⟩)
    · rw [parse_word spelled]
      rfl
    · rw [parse_literal spelled]
      rfl
  · intro read
    rcases spelled_of_parse plain read with ⟨sign, spelled⟩ | ⟨sign, literal, spelled⟩
    · rw [parse_word spelled] at read
      cases read
    · -- None of the cases of being nearest is not a number.
      cases (parse_literal_eq_some_iff spelled .nan).mp read
  · intro blank
    rw [parse, Text.trimChars_of_blank (List.all_eq_true.mp blank)]
    rfl

/-- Fifteen hundred, with every part that a literal may have. -/
def fifteenHundred : Literal where
  whole := ['1']
  fraction := some ['5']
  exponent := some ⟨'E', .plus, ['3'], .inr rfl, by decide, List.all_eq_true.mp rfl⟩
  areDigits := List.all_eq_true.mp rfl
  present := by decide

/-- A literal with a point, an exponent and blanks around it. -/
theorem reads_decimal_literals_fifteenHundred :
    ¬ AnnouncesBase (Text.trimChars " -1.5E+3 ".toList) ∧
      Text.trimChars " -1.5E+3 ".toList = Sign.minus.chars ++ fifteenHundred.chars ∧
      fifteenHundred.value = 1500 ∧
      (parse " -1.5E+3 ").isSome = true ∧
      ∀ number, parse " -1.5E+3 " = some number ↔ number.IsNearest true fifteenHundred.value := by
  have plain : ¬ AnnouncesBase (Text.trimChars " -1.5E+3 ".toList) := by decide +kernel
  have spelled : Text.trimChars " -1.5E+3 ".toList = Sign.minus.chars ++ fifteenHundred.chars := by
    decide +kernel
  have value : fifteenHundred.value = 1500 := by
    have whole : Nat.ofDigitChars 10 fifteenHundred.whole 0 = 1 := rfl
    have fraction : Nat.ofDigitChars 10 (fifteenHundred.fraction.getD []) 0 = 5 := rfl
    have power : fifteenHundred.power = (3 : ℕ) := rfl
    have places : (fifteenHundred.fraction.getD []).length = 1 := rfl
    rw [Literal.value, whole, fraction, power, places, zpow_natCast]
    norm_num
  obtain ⟨accepted, -, literals, -⟩ := reads_decimal_literals " -1.5E+3 " plain
  exact ⟨plain, spelled, value, accepted.mpr (.inr ⟨_, _, spelled⟩), literals .minus _ spelled⟩

end Number

end MarkupTree
