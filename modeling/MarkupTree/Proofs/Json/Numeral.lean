import MarkupTree.Json.Token
import MarkupTree.Proofs.Text.Span

/-! # The numbers of JSON

A JSON number has a whole part, a fraction and an exponent (`Json.Numeral`), and a scanner
takes it apart again wherever it ends (`Token.scanNumber_numeral`).
-/

namespace MarkupTree

/-- Counts are written in digits. -/
theorem isDigit_of_mem_toDigits {number : Nat} {char : Char}
    (member : char ∈ Nat.toDigits 10 number) : isDigit char = true :=
  Nat.isDigit_of_mem_toDigits (by decide) (by decide) member

/-- The digits of a number that is not zero begin with no zero. -/
theorem head_toDigits {number : Nat} (nonzero : number ≠ 0) :
    ∃ first rest, Nat.toDigits 10 number = first :: rest ∧ first ≠ '0' := by
  induction number using Nat.strongRecOn with
  | ind number ih =>
      by_cases single : number < 10
      · refine ⟨number.digitChar, [], Nat.toDigits_of_lt_base single, ?_⟩
        have digits : ∀ digit < 10, digit ≠ 0 → digit.digitChar ≠ '0' := by decide
        exact digits number single nonzero
      · obtain ⟨first, rest, front, proper⟩ := ih (number / 10) (by omega) (by omega)
        rw [Nat.toDigits_of_base_le (by decide) (by omega), front]
        exact ⟨first, _, rfl, proper⟩

namespace Json

/-- The text behind a number: it begins with nothing that would belong to the number. -/
def NumberEnds (after : List Char) : Prop :=
  ∀ char ∈ after.head?, isDigit char = false ∧ char ≠ '.' ∧ char ≠ 'e' ∧ char ≠ 'E'

/-- A number of JSON in its parts, without its sign. -/
structure Numeral where
  whole : List Char
  fraction : List Char
  exponent : Option Int
  areDigits : ∀ char ∈ whole ++ fraction, isDigit char = true
  /-- The whole part is a zero alone or begins with no zero. -/
  leading : whole = ['0'] ∨ ∃ first rest, whole = first :: rest ∧ first ≠ '0'

namespace Numeral

variable (numeral : Numeral)

def fractionChars : List Char :=
  if numeral.fraction.isEmpty then [] else '.' :: numeral.fraction

def exponentChars : List Char :=
  match numeral.exponent with
  | none => []
  | some exponent =>
    'e' :: ((if exponent < 0 then ['-'] else []) ++ Nat.toDigits 10 exponent.natAbs)

def chars : List Char := numeral.whole ++ (numeral.fractionChars ++ numeral.exponentChars)

/-- The exponent where a positive one may have a sign, as it has outside JSON. -/
def exponentCharsWith (plus : Bool) : List Char :=
  match numeral.exponent with
  | none => []
  | some exponent =>
    'e' :: ((if exponent < 0 then ['-'] else if plus then ['+'] else []) ++
      Nat.toDigits 10 exponent.natAbs)

def charsWith (plus : Bool) : List Char :=
  numeral.whole ++ (numeral.fractionChars ++ numeral.exponentCharsWith plus)

def decimal : Decimal := .ofParts numeral.whole numeral.fraction (numeral.exponent.getD 0)

/-- Whether a number is written with digits alone. -/
def isCount : Bool := numeral.fraction.isEmpty && numeral.exponent.isNone

/-- The number with a sign in front of it, as readers of numbers get it. -/
def written (negative : Bool) : WrittenNumber :=
  ⟨negative, numeral.whole, numeral.fraction, numeral.exponent⟩

/-- There are only digits before the point. -/
theorem whole_digits {char : Char} (member : char ∈ numeral.whole) : isDigit char = true :=
  numeral.areDigits char (List.mem_append_left _ member)

/-- There are only digits behind the point. -/
theorem fraction_digits {char : Char} (member : char ∈ numeral.fraction) : isDigit char = true :=
  numeral.areDigits char (List.mem_append_right _ member)

/-- There is a digit before the point. -/
theorem whole_ne_nil : numeral.whole ≠ [] := by
  rcases numeral.leading with zero | ⟨first, rest, parts, _⟩
  · simp [zero]
  · simp [parts]

end Numeral

namespace Token

/-- The digits before the point are read up to the point. -/
theorem scanWhole_numeral (numeral : Numeral) {after : List Char}
    (ends : ∀ char ∈ after.head?, isDigit char = false) :
    scanWhole (numeral.whole ++ after) = some (numeral.whole, after) := by
  have digits := takeWhile_stretch (fun _ => numeral.whole_digits) ends
  have behind := dropWhile_stretch (fun _ => numeral.whole_digits) ends
  rcases numeral.leading with zero | ⟨first, rest, parts, proper⟩
  · rw [zero]
    cases after with
    | nil => rfl
    | cons next rest => simp [scanWhole, ends next rfl]
  · rw [parts] at digits behind ⊢
    rw [List.cons_append] at digits behind ⊢
    unfold scanWhole
    split
    · next same => exact absurd (List.cons.inj same).1 proper
    · simp [digits, behind]

/-- The digits behind the point are read up to the exponent. -/
theorem scanFraction_numeral (numeral : Numeral) {after : List Char}
    (ends : ∀ char ∈ after.head?, isDigit char = false ∧ char ≠ '.') :
    scanFraction (numeral.fractionChars ++ after) = some (numeral.fraction, after) := by
  have notDigit : ∀ char ∈ after.head?, isDigit char = false := fun char head => (ends char head).1
  have digits := takeWhile_stretch (fun _ => numeral.fraction_digits) notDigit
  have behind := dropWhile_stretch (fun _ => numeral.fraction_digits) notDigit
  unfold Numeral.fractionChars
  by_cases empty : numeral.fraction = []
  · rw [empty]
    simp only [List.isEmpty_nil, ↓reduceIte, List.nil_append]
    unfold scanFraction
    split
    · exact absurd rfl (ends '.' (by simp)).2
    · rfl
  · simp [empty, scanFraction, digits, behind]

private theorem ofChars_of_digit {first : Char} (rest : List Char) (digit : isDigit first = true) :
    Number.Signed.ofChars (first :: rest) = ⟨false, false, first :: rest⟩ := by
  unfold Number.Signed.ofChars
  split
  · next same => rw [(List.cons.inj same).1] at digit; exact absurd digit (by decide)
  · next same => rw [(List.cons.inj same).1] at digit; exact absurd digit (by decide)
  · rfl

private theorem ofChars_exponent (exponent : Int) (after : List Char) :
    Number.Signed.ofChars
        ((if exponent < 0 then ['-'] else []) ++ Nat.toDigits 10 exponent.natAbs ++ after) =
      ⟨decide (exponent < 0), decide (exponent < 0),
        Nat.toDigits 10 exponent.natAbs ++ after⟩ := by
  by_cases negative : exponent < 0
  · simp only [negative, ↓reduceIte, decide_true]
    rfl
  · simp only [negative, ↓reduceIte, decide_false, List.nil_append]
    cases digits : Nat.toDigits 10 exponent.natAbs with
    | nil => exact absurd digits Nat.toDigits_ne_nil
    | cons first rest =>
        have member : first ∈ Nat.toDigits 10 exponent.natAbs := by simp [digits]
        exact ofChars_of_digit _ (isDigit_of_mem_toDigits member)

/-- The exponent is read to its end. -/
theorem scanExponent_numeral (numeral : Numeral) {after : List Char} (ends : NumberEnds after) :
    scanExponent (numeral.exponentChars ++ after) = some (numeral.exponent, after) := by
  unfold Numeral.exponentChars
  cases numeral.exponent with
  | none =>
      cases after with
      | nil => rfl
      | cons next rest =>
          obtain ⟨_, _, lower, upper⟩ := ends next rfl
          simp [scanExponent, lower, upper]
  | some exponent =>
      have notDigit : ∀ char ∈ after.head?, isDigit char = false :=
        fun char head => (ends char head).1
      have allDigits : ∀ char ∈ Nat.toDigits 10 exponent.natAbs, isDigit char = true :=
        fun _ => isDigit_of_mem_toDigits
      have digits := takeWhile_stretch allDigits notDigit
      have behind := dropWhile_stretch allDigits notDigit
      have present : (Nat.toDigits 10 exponent.natAbs).isEmpty = false := by
        simp [Nat.toDigits_ne_nil]
      simp only [List.cons_append, scanExponent, true_or, ↓reduceIte, ofChars_exponent, digits,
        behind, present, Bool.false_eq_true, Nat.ofDigitChars_ten_toDigits, decide_eq_true_eq]
      have value : (if exponent < 0 then -(exponent.natAbs : Int) else exponent.natAbs) =
          exponent := by
        split <;> omega
      rw [value]

/-- A number is read with its sign and its parts, wherever it ends. -/
theorem scanNumber_numeral (reader : NumberReader) (numeral : Numeral) (negative : Bool)
    {after : List Char} (ends : NumberEnds after) :
    scanNumber reader negative (numeral.chars ++ after) =
      some (.number (reader.read? (numeral.written negative)) (!negative && numeral.isCount),
        after) := by
  have behindFraction : ∀ char ∈ (numeral.exponentChars ++ after).head?,
      isDigit char = false ∧ char ≠ '.' := by
    unfold Numeral.exponentChars
    cases numeral.exponent with
    | none => exact fun char head => ⟨(ends char head).1, (ends char head).2.1⟩
    | some exponent => simp [isDigit]
  have behindWhole : ∀ char ∈ (numeral.fractionChars ++ (numeral.exponentChars ++ after)).head?,
      isDigit char = false := by
    by_cases empty : numeral.fraction = []
    · have nothing : numeral.fractionChars = [] := by simp [Numeral.fractionChars, empty]
      rw [nothing, List.nil_append]
      exact fun char head => (behindFraction char head).1
    · simp [Numeral.fractionChars, empty, isDigit]
  have parts : numeral.chars ++ after =
      numeral.whole ++ (numeral.fractionChars ++ (numeral.exponentChars ++ after)) := by
    simp only [Numeral.chars, List.append_assoc]
  simp only [scanNumber, parts, scanWhole_numeral numeral behindWhole,
    scanFraction_numeral numeral behindFraction, scanExponent_numeral numeral ends,
    Option.bind_some, Option.map_some, Numeral.written, WrittenNumber.isCount, Numeral.isCount,
    Bool.and_assoc]

section Scan

variable {reader : NumberReader} {char : Char} {token : Token}

/-- A text that does not begin with a blank has the token that its first character begins, and
the tokens of what follows. -/
theorem scan_of_scanFrom {rest after : List Char} (visible : isSpace char = false)
    (read : scanFrom reader char rest = some (token, after)) :
    scan reader (char :: rest) = token :: scan reader after := by
  rw [scan]
  simp only [visible, Bool.false_eq_true, ↓reduceIte]
  split
  · next found =>
    rw [read] at found
    cases found
    rfl
  · next missing =>
    rw [read] at missing
    cases missing

/-- A sign is one token. -/
theorem scan_of_sign? (sign : sign? char = some token) (visible : isSpace char = false)
    (after : List Char) : scan reader (char :: after) = token :: scan reader after := by
  apply scan_of_scanFrom visible
  simp only [scanFrom, sign]

end Scan

end Token

end Json

end MarkupTree
