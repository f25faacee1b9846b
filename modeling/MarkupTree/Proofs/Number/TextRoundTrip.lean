import MarkupTree.Proofs.Number.Layouts
import MarkupTree.Proofs.Number.Literals
import MarkupTree.Proofs.Text.Trimming

/-! # The text of a number is read as that number

A numeral is a decimal literal (`Number.Literal.ofNumeral`), and a decimal literal is read
whatever its sign (`Number.parseChars_signed`). So digits that are laid out are read as a literal
of exactly their value (`Number.parse_write`), and the text of every number is read as the number,
but for the sign of a zero, which the text does not show (`Number.parse_display`). Both together,
with what they mean for texts that are equal, are `Number.texts_are_read_back`.
-/

namespace MarkupTree

open Json (Numeral)

namespace Number

/-- The literal that a numeral is, where a positive exponent has a sign or not. -/
def Literal.ofNumeral (numeral : Numeral) (plus : Bool) : Literal where
  whole := numeral.whole
  fraction := if numeral.fraction.isEmpty then none else some numeral.fraction
  exponent := numeral.exponent.map fun exponent =>
    ⟨'e', if exponent < 0 then .minus else if plus then .plus else .absent,
      Nat.toDigits 10 exponent.natAbs, .inl rfl, Nat.toDigits_ne_nil,
      fun _ => isDigit_of_mem_toDigits⟩
  areDigits := by
    split
    · exact fun _ member => numeral.whole_digits (by simpa using member)
    · exact numeral.areDigits
  present := List.append_ne_nil_of_left_ne_nil numeral.whole_ne_nil _

private theorem Literal.chars_ofNumeral (numeral : Numeral) (plus : Bool) :
    (ofNumeral numeral plus).chars = numeral.charsWith plus := by
  have fraction : (ofNumeral numeral plus).fractionChars = numeral.fractionChars := by
    unfold fractionChars Numeral.fractionChars ofNumeral
    dsimp only
    split <;> rfl
  have exponent : (ofNumeral numeral plus).exponentChars = numeral.exponentCharsWith plus := by
    unfold exponentChars Numeral.exponentCharsWith ofNumeral
    cases numeral.exponent with
    | none => rfl
    | some exponent =>
        simp only [Option.map_some, Exponent.chars]
        split
        · rfl
        · split <;> rfl
  rw [chars, fraction, exponent]
  rfl

private theorem Literal.decimal_ofNumeral (numeral : Numeral) (plus : Bool) :
    (ofNumeral numeral plus).decimal = numeral.decimal := by
  have fraction : (ofNumeral numeral plus).fraction.getD [] = numeral.fraction := by
    unfold ofNumeral
    dsimp only
    split
    · next empty => exact (List.isEmpty_iff.mp empty).symm
    · rfl
  have power : (ofNumeral numeral plus).power = numeral.exponent.getD 0 := by
    unfold Literal.power ofNumeral
    cases numeral.exponent with
    | none => rfl
    | some exponent =>
        have negative : (if exponent < 0 then Sign.minus
            else if plus = true then .plus else .absent).isNegative = decide (exponent < 0) := by
          by_cases negative : exponent < 0
          · rw [if_pos negative, decide_eq_true negative, Sign.isNegative]
          · rw [if_neg negative, decide_eq_false negative]
            cases plus <;> rfl
        simp only [Option.map_some, Exponent.power, negative, decide_eq_true_eq,
          Nat.ofDigitChars_ten_toDigits, Option.getD_some]
        split <;> omega
  rw [decimal, fraction, power]
  rfl

/-- A numeral is read as its decimal, whether a positive exponent has a sign or not. -/
theorem readDecimal_charsWith (numeral : Numeral) (plus : Bool) :
    readDecimal (numeral.charsWith plus) = some numeral.decimal := by
  rw [← Literal.chars_ofNumeral, readDecimal_literal, Literal.decimal_ofNumeral]

/-- A decimal literal is read with its sign. -/
theorem parseChars_signed {chars : List Char} {decimal : Decimal}
    (read : readDecimal chars = some decimal) (negative : Bool) :
    parseChars (signed negative chars) = some (ofDecimal negative decimal) := by
  cases negative with
  | true => exact parseChars_of_readDecimal .minus read
  | false => exact parseChars_of_readDecimal .absent read

end Number

private theorem Text.isBlank_of_isDigit {char : Char} (digit : isDigit char = true) :
    isBlank char = false := by
  have bounds : 48 ≤ char.toNat ∧ char.toNat ≤ 57 := by
    simpa [isDigit, Char.le_def, UInt32.le_iff_toNat_le] using digit
  simp only [isBlank, Bool.or_eq_false_iff, Bool.and_eq_false_iff, decide_eq_false_iff_not,
    beq_eq_false_iff_ne]
  omega

/-- There is nothing to trim in a visible text. -/
theorem Text.trimChars_of_visible {chars : List Char}
    (visible : ∀ char ∈ chars, isBlank char = false) : trimChars chars = chars := by
  apply IsTrimmed.trimChars_eq
  constructor
  · exact fun char first => visible char (List.mem_of_mem_head? first)
  · exact fun char last => visible char (List.mem_of_mem_getLast? last)

/-- The characters of a decimal are visible. -/
theorem Text.isBlank_of_isDecimalChar {char : Char} (decimal : Number.isDecimalChar char = true) :
    isBlank char = false := by
  rcases Number.isDecimalChar_cases decimal with digit | rfl | rfl | rfl | rfl | rfl
  · exact isBlank_of_isDigit digit
  all_goals decide

/-- A numeral is written in the characters of a decimal. -/
theorem Json.Numeral.isDecimalChar_of_mem_charsWith {numeral : Numeral} {plus : Bool} {char : Char}
    (member : char ∈ numeral.charsWith plus) : Number.isDecimalChar char = true := by
  have like := (Number.Literal.ofNumeral numeral plus).isDecimalLike_chars
  rw [Number.Literal.chars_ofNumeral, Number.isDecimalLike, Bool.and_eq_true,
    List.all_eq_true] at like
  exact like.1 char member

/-- A numeral holds no blank. -/
theorem Json.Numeral.visible_charsWith (numeral : Numeral) (plus : Bool) :
    ∀ char ∈ numeral.charsWith plus, Text.isBlank char = false :=
  fun _ member => Text.isBlank_of_isDecimalChar (isDecimalChar_of_mem_charsWith member)

namespace Number

private theorem visible_signed {chars : List Char}
    (visible : ∀ char ∈ chars, Text.isBlank char = false)
    (negative : Bool) : ∀ char ∈ signed negative chars, Text.isBlank char = false := by
  intro char member
  cases negative with
  | false => exact visible char member
  | true =>
      rcases List.mem_cons.mp member with rfl | further
      · decide
      · exact visible char further

/-- **Digits that are laid out are read as a literal of exactly their value**, with their sign. -/
theorem parse_write {decimal : Decimal} (nonzero : decimal.digits ≠ 0) (negative : Bool) :
    ∃ literal : Decimal, readDecimal (Layout.text.write decimal) = some literal ∧
      literal.value = decimal.value ∧
        parse (String.ofList (signed negative (Layout.text.write decimal))) =
          some (ofDecimal negative decimal) := by
  obtain ⟨numeral, exact, text⟩ := Layout.text.exists_numeral nonzero
  have read := readDecimal_charsWith numeral Layout.text.plus
  have visible := visible_signed (numeral.visible_charsWith Layout.text.plus) negative
  have spells := Numeral.spells_of_value exact
  rw [text]
  refine ⟨numeral.decimal, read, exact, ?_⟩
  rw [parse, String.toList_ofList, Text.trimChars_of_visible visible, parseChars_signed read,
    spells negative]

/-- **The text of a number is read as the number**, but for the sign of a zero. -/
theorem parse_display {value : Number} (known : value.isNan = false) :
    parse value.display = some value.unsignZero := by
  cases value with
  | nan => cases known
  | infinite negative => cases negative <;> decide +kernel
  | finite negative magnitude =>
      by_cases zero : magnitude.rank = 0
      · have text : (finite negative magnitude).display = "0" := by
          simp only [display, displayChars, zero, ↓reduceIte]
        have read : parse "0" = some (ofDecimal false ⟨0, 0⟩) := by decide +kernel
        rw [text, read, ofDecimal_of_zero false rfl]
        simp only [unsignZero, zero, ↓reduceIte]
        rfl
      · have nonzero := digits_shortest_ne_zero Layout.text.tie zero
        obtain ⟨literal, -, -, read⟩ := parse_write nonzero negative
        have text : (finite negative magnitude).display =
            String.ofList (signed negative
              (Layout.text.write (magnitude.shortest Layout.text.tie))) := by
          simp only [display, displayChars, zero, ↓reduceIte, Layout.writeMagnitude]
        rw [text, read, ofDecimal_shortest]
        simp only [unsignZero, zero, ↓reduceIte]

/-- **Numbers have texts that are read back.** The text of a number is read as the number, but
for the sign of a zero, and so numbers that differ have different texts. For digits in every
layout the text is a decimal literal of exactly their value, which is read with its sign. -/
theorem texts_are_read_back :
    (∀ value : Number, value.isNan = false → parse value.display = some value.unsignZero) ∧
      (∀ first second : Number, first.isNan = false → second.isNan = false →
        first.display = second.display → first.same second = true) ∧
      ∀ decimal : Decimal, decimal.digits ≠ 0 → ∀ negative : Bool,
        ∃ literal : Decimal, readDecimal (Layout.text.write decimal) = some literal ∧
          literal.value = decimal.value ∧
            parse (String.ofList (signed negative (Layout.text.write decimal))) =
              some (ofDecimal negative literal) := by
  refine ⟨fun value => parse_display, ?_, ?_⟩
  · intro first second firstKnown secondKnown text
    apply same_of_unsignZero secondKnown
    have read := parse_display firstKnown
    rw [text, parse_display secondKnown] at read
    exact (Option.some.inj read).symm
  · intro decimal nonzero negative
    obtain ⟨literal, read, exact, parsed⟩ := parse_write nonzero negative
    refine ⟨literal, read, exact, ?_⟩
    rw [parsed, ofDecimal_congr negative exact]

/-- A number of 64 bits, the two zeros and two digits that are written with an exponent. -/
theorem texts_are_read_back_exponent :
    (ofDecimal true ⟨15, -8⟩).isNan = false ∧
      parse (ofDecimal true ⟨15, -8⟩).display = some (ofDecimal true ⟨15, -8⟩).unsignZero ∧
      zero.display = (finite true .zero).display ∧ zero.same (finite true .zero) = true ∧
      (15 ≠ 0 ∧ ∃ literal : Decimal, readDecimal "1.5e-7".toList = some literal ∧
        literal.value = Decimal.value ⟨15, -8⟩ ∧
          parse "-1.5e-7" = some (ofDecimal true literal)) := by
  have known : (ofDecimal true ⟨15, -8⟩).isNan = false := by decide +kernel
  have zeros : zero.display = (finite true .zero).display := rfl
  have chars : Layout.text.write ⟨15, -8⟩ = "1.5e-7".toList := by decide +kernel
  have written : String.ofList (signed true "1.5e-7".toList) = "-1.5e-7" := by decide
  obtain ⟨read, apart, exact⟩ := texts_are_read_back
  refine ⟨known, read _ known, zeros, apart _ _ rfl rfl zeros, by decide, ?_⟩
  rw [← chars, ← written, ← chars]
  exact exact ⟨15, -8⟩ (by decide) true

end Number

end MarkupTree
