import MarkupTree.Json.Tree
import MarkupTree.Proofs.Number.Layouts

/-! # Numbers in a JSON text

Every way in which a finite number is written is that of a JSON number and stands for the
number, but for the sign of a zero (`Number.exists_numeral`). So a finite number is one token
of the text it is written into (`Token.scan_jsonChars`), whoever reads it. Which number is read
is up to the reader: one that rounds correctly reads every finite number back
(`NumberReader.readsBack_nearest`), others may do so for some numbers only
(`NumberReader.ReadsBack`).
-/

namespace MarkupTree

open Json (Numeral)

private theorem Json.Numeral.all_isDigit (numeral : Numeral) :
    numeral.chars.all Char.isDigit = numeral.isCount := by
  have whole : numeral.whole.all Char.isDigit = true :=
    List.all_eq_true.mpr fun char member => numeral.whole_digits member
  simp only [Numeral.chars, Numeral.isCount, List.all_append, whole, Bool.true_and]
  congr 1
  · unfold Numeral.fractionChars
    cases numeral.fraction with
    | nil => rfl
    | cons first rest => simp
  · unfold Numeral.exponentChars
    cases numeral.exponent with
    | none => rfl
    | some exponent => simp

private theorem Number.all_isDigit_signed (negative : Bool) (numeral : Numeral) :
    (signed negative numeral.chars).all Char.isDigit = (!negative && numeral.isCount) := by
  cases negative with
  | false => simp [signed, numeral.all_isDigit]
  | true => simp [signed]

namespace Number

/-- A zero, with or without a sign, is a safe integer. -/
theorem safeInteger_of_rank {negative : Bool} {magnitude : Magnitude}
    (zero : magnitude.rank = 0) : (finite negative magnitude).safeInteger? = some 0 := by
  obtain rfl := Magnitude.eq_zero_of_rank zero
  have units : Magnitude.zero.units = 0 := rfl
  have whole : Magnitude.zero.whole? = some 0 := by
    simp only [Magnitude.whole?, units, Nat.zero_mod, Nat.zero_div, ↓reduceIte]
  cases negative <;> simp [safeInteger?, whole]

/-- A zero is written without its sign. -/
theorem jsonChars_unsignZero (value : Number) : value.unsignZero.jsonChars = value.jsonChars := by
  cases value with
  | nan => rfl
  | infinite negative => rfl
  | finite negative magnitude =>
      by_cases nothing : magnitude.rank = 0
      · have unsigned : Number.zero.safeInteger? = some 0 := safeInteger_of_rank rfl
        simp only [unsignZero, nothing, ↓reduceIte, jsonChars, unsigned,
          safeInteger_of_rank nothing]
      · simp only [unsignZero, nothing, ↓reduceIte]

/-- **A finite number is written as a JSON number that stands for it**, but for the sign of a
zero. -/
theorem exists_numeral {value : Number} (finite : value.isFinite = true) :
    ∃ (negative : Bool) (numeral : Numeral),
      value.jsonChars = signed negative numeral.chars ∧
        ofDecimal negative numeral.decimal = value.unsignZero := by
  unfold jsonChars
  cases safe : value.safeInteger? with
  | some whole =>
      have leading : Nat.toDigits 10 whole.natAbs = ['0'] ∨
          ∃ first rest, Nat.toDigits 10 whole.natAbs = first :: rest ∧ first ≠ '0' := by
        by_cases zero : whole.natAbs = 0
        · rw [zero]
          exact .inl (Nat.toDigits_zero 10)
        · exact .inr (head_toDigits zero)
      refine ⟨decide (whole < 0), ⟨Nat.toDigits 10 whole.natAbs, [], none, ?_, leading⟩, ?_, ?_⟩
      · rw [List.append_nil]
        exact fun char => isDigit_of_mem_toDigits
      · simp [integerChars, Numeral.chars, Numeral.fractionChars, Numeral.exponentChars]
      · rw [← ofDecimal_safeInteger safe]
        simp [Numeral.decimal, Decimal.ofParts]
  | none =>
      cases value with
      | nan => cases finite
      | infinite negative => cases finite
      | finite negative magnitude =>
          have nonzero : magnitude.rank ≠ 0 := by
            intro zero
            rw [safeInteger_of_rank zero] at safe
            cases safe
          obtain ⟨numeral, exact, text⟩ := Layout.json.exists_numeral
            (digits_shortest_ne_zero Layout.json.tie nonzero)
          refine ⟨negative, numeral, ?_, ?_⟩
          · have written : Layout.json.writeMagnitude magnitude = numeral.chars := text
            simp only [written]
          · rw [Numeral.spells_of_value exact negative, ofDecimal_shortest]
            simp only [unsignZero, nonzero, ↓reduceIte]

end Number

namespace Json.Token

private theorem ne_of_isDigit {char other : Char} (digit : isDigit char = true)
    (noDigit : isDigit other = false) : char ≠ other := by
  rintro rfl
  rw [digit] at noDigit
  cases noDigit

/-- A token that begins with a digit is a number. -/
theorem scanFrom_of_digit (reader : NumberReader) {first : Char} (rest : List Char)
    (digit : isDigit first = true) :
    scanFrom reader first rest = scanNumber reader false (first :: rest) := by
  have different (other : Char) (noDigit : isDigit other = false) : first ≠ other :=
    ne_of_isDigit digit noDigit
  have sign : sign? first = none := by
    unfold sign?
    split <;> first | rfl | exact absurd rfl (different _ (by decide))
  have word : word? first = none := by
    unfold word?
    split <;> first | rfl | exact absurd rfl (different _ (by decide))
  have quote : first ≠ '"' := different _ (by decide)
  have minus : first ≠ '-' := different _ (by decide)
  simp only [scanFrom, sign, word, quote, minus, ↓reduceIte]

private theorem isSpace_of_digit {char : Char} (digit : isDigit char = true) :
    isSpace char = false := by
  have blank : char ≠ ' ' := ne_of_isDigit digit (by decide)
  have newline : char ≠ '\n' := ne_of_isDigit digit (by decide)
  have tab : char ≠ '\t' := ne_of_isDigit digit (by decide)
  have carriage : char ≠ '\r' := ne_of_isDigit digit (by decide)
  simp [isSpace, blank, newline, tab, carriage]

/-- A number with its sign is one token of the text in which it stands. -/
theorem scan_signed (reader : NumberReader) (negative : Bool) (numeral : Numeral)
    {after : List Char} (ends : NumberEnds after) :
    scan reader (Number.signed negative numeral.chars ++ after) =
      .number (reader.read? (numeral.written negative)) (!negative && numeral.isCount) ::
        scan reader after := by
  have read := scanNumber_numeral reader numeral negative ends
  cases negative with
  | true =>
      rw [Number.signed, if_pos rfl, List.cons_append]
      exact scan_of_scanFrom rfl read
  | false =>
      rw [Number.signed, if_neg Bool.false_ne_true]
      obtain ⟨first, rest, front⟩ := List.exists_cons_of_ne_nil numeral.whole_ne_nil
      have digit : isDigit first = true := numeral.whole_digits (by simp [front])
      have chars : numeral.chars ++ after =
          first :: (rest ++ (numeral.fractionChars ++ numeral.exponentChars) ++ after) := by
        rw [Numeral.chars, front, List.cons_append, List.cons_append]
      rw [chars] at read ⊢
      apply scan_of_scanFrom (isSpace_of_digit digit)
      rw [scanFrom_of_digit reader _ digit]
      exact read

end Json.Token

namespace Json

namespace NumberReader

variable (reader : NumberReader)

/-- What is read from the text of a number. -/
def reread? (value : Number) : Option Number :=
  match Token.scan reader value.jsonChars with
  | [.number read _] => read
  | _ => none

/-- The number that is read where a number was written, as long as it is in range. -/
def reread (value : Number) : Number := (reader.reread? value).getD value.unsignZero

/-- **Read-back of a number.** The text of the number is read as the number. If it is a negative
zero its text has lost the sign. -/
def ReadsBack (value : Number) : Prop := reader.reread? value = some value.unsignZero

variable {reader}

/-- A number that is read back is what stands where it was written. -/
theorem ReadsBack.reread_eq {value : Number} (back : reader.ReadsBack value) :
    reader.reread value = value.unsignZero := by
  rw [reread, back, Option.getD_some]

/-- What is read from the text of a number is what the reader takes its notation for. -/
theorem reread?_eq {value : Number} {negative : Bool} {numeral : Numeral}
    (text : value.jsonChars = Number.signed negative numeral.chars) :
    reader.reread? value = reader.read? (numeral.written negative) := by
  have nothing : NumberEnds [] := fun char head => by cases head
  have token := Token.scan_signed reader negative numeral nothing
  rw [List.append_nil, ← text, Token.scan] at token
  rw [reread?, token]

/-- **A reader that rounds correctly reads every finite number back.** -/
theorem readsBack_nearest {value : Number} (finite : value.isFinite = true) :
    nearest.ReadsBack value := by
  obtain ⟨negative, numeral, text, decimal⟩ := Number.exists_numeral finite
  have known : value.unsignZero.isFinite = true := by rw [Number.isFinite_unsignZero, finite]
  have rounded : Number.ofDecimal (numeral.written negative).negative
      (numeral.written negative).decimal = value.unsignZero := decimal
  rw [ReadsBack, reread?_eq text]
  simp only [nearest, rounded, known, ↓reduceIte]

end NumberReader

/-- A finite number is one token of the text that it is written into. -/
theorem Token.scan_jsonChars (reader : NumberReader) {value : Number}
    (finite : value.isFinite = true) {after : List Char} (ends : NumberEnds after) :
    scan reader (value.jsonChars ++ after) =
      .number (reader.reread? value) (value.jsonChars.all Char.isDigit) :: scan reader after := by
  obtain ⟨negative, numeral, text, -⟩ := Number.exists_numeral finite
  rw [NumberReader.reread?_eq text, text, Number.all_isDigit_signed]
  exact scan_signed reader negative numeral ends

end Json

end MarkupTree
