import MarkupTree.Proofs.Number.Reading
import Mathlib.Data.Nat.Digits.Defs

/-! # Whole numbers behind a base mark

Behind a base mark stand digits of the base (`Number.RadixLiteral`). Such a literal takes no sign
in front and is read as the number nearest to its value as long as the value has 64 bits; a plus
sign may stand between the mark and the digits, and nothing else is read
(`Number.reads_radix_literals`).

So the literals are not all that is read, and not all of them are: a sign behind the mark is
taken, and a value of more than 64 bits is refused (`Number.not_readsJustRadixLiterals`).
-/

namespace MarkupTree

/-- What holds of every ASCII code point holds of all ASCII characters. -/
theorem forall_ascii {holds : Char → Prop}
    (codes : ∀ code : Fin 128, holds (Char.ofNat code)) {char : Char} (ascii : char.toNat < 128) :
    holds char := by
  have numbered := codes ⟨char.toNat, ascii⟩
  rwa [Char.ofNat_toNat] at numbered

namespace Number

/-- The bases that a mark announces. -/
inductive Base where
  | sixteen
  | eight
  | two
deriving DecidableEq

namespace Base

def radix : Base → Nat
  | .sixteen => 16
  | .eight => 8
  | .two => 2

/-- The letters that mark the base behind a zero. -/
def letters : Base → List Char
  | .sixteen => ['x', 'X']
  | .eight => ['o', 'O']
  | .two => ['b', 'B']

theorem radix_le (base : Base) : base.radix ≤ 16 := by
  cases base <;> decide

end Base

/-- Characters spell digits of a base, the letters among them in either case. -/
structure Spells (radix : Nat) (spelling : List Char) (digits : List Nat) : Prop where
  chars : spelling.map Char.toLower = digits.map Nat.digitChar
  below : ∀ digit ∈ digits, digit < radix

/-- A whole number behind a base mark: at least one digit, with no limit to their number. -/
structure RadixLiteral where
  base : Base
  letter : Char
  spelling : List Char
  /-- The digits from the highest to the lowest. -/
  digits : List Nat
  isLetter : letter ∈ base.letters
  spells : Spells base.radix spelling digits
  present : spelling ≠ []

namespace RadixLiteral

variable (literal : RadixLiteral)

/-- The text of the literal with a sign between the mark and the digits. -/
def charsWith (sign : Sign) : List Char :=
  '0' :: literal.letter :: (sign.chars ++ literal.spelling)

def chars : List Char := literal.charsWith .absent

def value : Nat := Nat.ofDigits literal.base.radix literal.digits.reverse

end RadixLiteral

section Digits

/-- A character has a value as a digit if it is the character of that value, in either case. -/
theorem digitValue?_eq_some_iff {char : Char} {digit : Nat} :
    digitValue? char = some digit ↔ digit < 16 ∧ char.toLower = digit.digitChar := by
  by_cases ascii : char.toNat < 128
  · constructor
    · have values : ∀ value ∈ digitValue? char, value < 16 ∧ char.toLower = value.digitChar := by
        apply forall_ascii _ ascii
        decide +kernel
      exact values digit
    · rintro ⟨low, lower⟩
      have values : ∀ value : Fin 16, char.toLower = value.val.digitChar →
          digitValue? char = some value.val := by
        apply forall_ascii _ ascii
        decide +kernel
      exact values ⟨digit, low⟩ lower
  · -- Neither side reaches beyond ASCII.
    have behind {last : Char} (small : last.toNat < 128) : ¬ char ≤ last := by
      intro below
      exact ascii (Nat.lt_of_le_of_lt (UInt32.le_iff_toNat_le.mp below) small)
    have unread : digitValue? char = none := by
      simp [digitValue?, behind]
    have noCapital : ¬ (char.val ≥ 'A'.val ∧ char.val ≤ 'Z'.val) := by
      rintro ⟨-, below⟩
      have last : 'Z'.toNat < 128 := by decide
      exact behind last below
    have same : char.toLower = char := dif_neg noCapital
    rw [unread, same]
    constructor
    · intro read
      cases read
    rintro ⟨low, rfl⟩
    have small : ∀ value : Fin 16, value.val.digitChar.toNat < 128 := by decide
    exact absurd (small ⟨digit, low⟩) ascii

/-- Digits are read from the highest on, each one behind the value of those before it. -/
theorem readDigits_eq_some_iff {radix : Nat} (small : radix ≤ 16) {start value : Nat}
    {spelling : List Char} :
    readDigits radix start spelling = some value ↔
      ∃ digits, Spells radix spelling digits ∧
        value = Nat.ofDigits radix digits.reverse + radix ^ digits.length * start := by
  induction spelling generalizing start with
  | nil =>
      constructor
      · intro read
        obtain rfl := Option.some.inj read
        exact ⟨[], ⟨rfl, fun _ member => nomatch member⟩, by simp⟩
      · rintro ⟨digits, ⟨chars, -⟩, rfl⟩
        obtain rfl := List.map_eq_nil_iff.mp chars.symm
        simp [readDigits]
  | cons char rest ih =>
      -- The first digit becomes part of the value that the others are read behind.
      have behind (digit : Nat) (digits : List Nat) :
          Nat.ofDigits radix digits.reverse + radix ^ digits.length * (start * radix + digit) =
            Nat.ofDigits radix (digit :: digits).reverse +
              radix ^ (digit :: digits).length * start := by
        rw [Nat.ofDigits_reverse_cons, List.length_cons, Nat.pow_succ]
        ring
      constructor
      · intro read
        unfold readDigits at read
        split at read
        · next digit valued =>
          split at read
          · next below =>
            obtain ⟨digits, ⟨chars, others⟩, rfl⟩ := ih.mp read
            obtain ⟨-, lower⟩ := digitValue?_eq_some_iff.mp valued
            refine ⟨digit :: digits, ⟨?_, List.forall_mem_cons.mpr ⟨below, others⟩⟩,
              behind digit digits⟩
            rw [List.map_cons, List.map_cons, lower, chars]
          · cases read
        · cases read
      · rintro ⟨digits, ⟨chars, below⟩, rfl⟩
        cases digits with
        | nil => cases chars
        | cons digit digits =>
            rw [List.map_cons, List.map_cons, List.cons.injEq] at chars
            rw [List.forall_mem_cons] at below
            have valued : digitValue? char = some digit :=
              digitValue?_eq_some_iff.mpr ⟨Nat.lt_of_lt_of_le below.1 small, chars.1⟩
            simp only [readDigits, valued, below.1, ↓reduceIte]
            exact ih.mpr ⟨digits, ⟨chars.2, below.2⟩, (behind digit digits).symm⟩

theorem Spells.ne_plus {radix : Nat} {first : Char} {rest : List Char} {digits : List Nat}
    (spells : Spells radix (first :: rest) digits) : first ≠ '+' := by
  rintro rfl
  have chars := spells.chars
  cases digits with
  | nil => cases chars
  | cons digit digits =>
      have plus : '+' = digit.digitChar := (List.cons.inj chars).1
      exact Nat.digitChar_ne '+' rfl plus.symm

/-- Behind the mark, digits are read with a plus sign in front or none, up to 64 bits. -/
theorem readRadix_eq_some_iff {radix : Nat} (small : radix ≤ 16) {chars : List Char}
    {value : Nat} :
    readRadix radix chars = some value ↔
      ∃ (sign : Sign) (spelling : List Char) (digits : List Nat),
        sign.isNegative = false ∧ chars = sign.chars ++ spelling ∧ spelling ≠ [] ∧
          Spells radix spelling digits ∧ value = Nat.ofDigits radix digits.reverse ∧
            value < 2 ^ 64 := by
  have values (spelling : List Char) :
      (if spelling.isEmpty then none
        else (readDigits radix 0 spelling).filter (· < Nat.pow 2 64)) = some value ↔
      spelling ≠ [] ∧ ∃ digits, Spells radix spelling digits ∧
        value = Nat.ofDigits radix digits.reverse ∧ value < 2 ^ 64 := by
    by_cases empty : spelling = []
    · simp [empty]
    · simp only [empty, List.isEmpty_iff, ↓reduceIte, Option.filter_eq_some_iff,
        readDigits_eq_some_iff small, Nat.mul_zero, Nat.add_zero, decide_eq_true_eq, Nat.pow_eq,
        ne_eq, not_false_eq_true, true_and, ← exists_and_right, and_assoc]
  constructor
  · intro read
    unfold readRadix at read
    dsimp only at read
    split at read
    · next rest =>
      obtain ⟨present, digits, read⟩ := (values rest).mp read
      exact ⟨.plus, rest, digits, rfl, rfl, present, read⟩
    · obtain ⟨present, digits, read⟩ := (values chars).mp read
      exact ⟨.absent, chars, digits, rfl, rfl, present, read⟩
  · rintro ⟨sign, spelling, digits, unsigned, rfl, present, read⟩
    have valued := (values spelling).mpr ⟨present, digits, read⟩
    cases sign with
    | minus => cases unsigned
    | plus => exact valued
    | absent =>
        unfold readRadix
        split
        · next rest same =>
          obtain rfl : spelling = '+' :: rest := same
          exact absurd rfl read.1.ne_plus
        · exact valued

end Digits

/-- A base mark is a zero with a letter of the base. -/
theorem radixMark?_eq_some_iff {chars rest : List Char} {radix : Nat} :
    radixMark? chars = some (radix, rest) ↔
      ∃ (base : Base) (letter : Char), letter ∈ base.letters ∧ radix = base.radix ∧
        chars = '0' :: letter :: rest := by
  constructor
  · intro marked
    unfold radixMark? at marked
    split at marked
    · next letter behind =>
      split at marked
      · next isLetter =>
        cases marked
        exact ⟨.sixteen, letter, by simpa [Base.letters] using isLetter, rfl, rfl⟩
      · split at marked
        · next isLetter =>
          cases marked
          exact ⟨.eight, letter, by simpa [Base.letters] using isLetter, rfl, rfl⟩
        · split at marked
          · next isLetter =>
            cases marked
            exact ⟨.two, letter, by simpa [Base.letters] using isLetter, rfl, rfl⟩
          · cases marked
    · cases marked
  · rintro ⟨base, letter, isLetter, rfl, rfl⟩
    cases base with
    | sixteen =>
        rcases List.mem_pair.mp isLetter with rfl | rfl <;> rfl
    | eight =>
        rcases List.mem_pair.mp isLetter with rfl | rfl <;> rfl
    | two =>
        rcases List.mem_pair.mp isLetter with rfl | rfl <;> rfl

section Texts

variable {text : String}

/-- Behind a mark a literal is read unless its value has too many bits. -/
theorem parse_radixLiteral {literal : RadixLiteral} {sign : Sign}
    (unsigned : sign.isNegative = false)
    (spelled : Text.trimChars text.toList = literal.charsWith sign)
    (fits : literal.value < 2 ^ 64) :
    parse text = some (ofDecimal false ⟨literal.value, 0⟩) := by
  have marked : radixMark? (literal.charsWith sign) =
      some (literal.base.radix, sign.chars ++ literal.spelling) :=
    radixMark?_eq_some_iff.mpr ⟨literal.base, literal.letter, literal.isLetter, rfl, rfl⟩
  have read : readRadix literal.base.radix (sign.chars ++ literal.spelling) = some literal.value :=
    (readRadix_eq_some_iff literal.base.radix_le).mpr
      ⟨sign, literal.spelling, literal.digits, unsigned, rfl, literal.present, literal.spells,
        rfl, fits⟩
  have plain : Signed.ofChars (literal.charsWith sign) =
      ⟨false, false, literal.charsWith sign⟩ := rfl
  have noWord : literal.charsWith sign ≠ "Infinity".toList := by
    intro same
    exact absurd (List.cons.inj same).1 (by decide)
  rw [parse, spelled, parseChars_eq, plain]
  simp only [noWord, ↓reduceIte, marked, Bool.false_eq_true, read, Option.map_some]

/-- Of the texts that announce a base, nothing is read but literals of 64 bits. -/
theorem exists_radixLiteral_of_parse (marked : AnnouncesBase (Text.trimChars text.toList))
    {number : Number} (read : parse text = some number) :
    ∃ (literal : RadixLiteral) (sign : Sign), sign.isNegative = false ∧
      Text.trimChars text.toList = literal.charsWith sign ∧ literal.value < 2 ^ 64 := by
  obtain ⟨⟨radix, behind⟩, mark⟩ :=
    Option.isSome_iff_exists.mp ((announcesBase_iff _).mp marked)
  obtain ⟨base, letter, isLetter, rfl, unsigned⟩ := radixMark?_eq_some_iff.mp mark
  rw [parse, parseChars_eq] at read
  dsimp only at read
  rw [mark] at read
  split at read
  · next word =>
    rw [unsigned] at word
    exact absurd (List.cons.inj word).1 (by decide)
  · dsimp only at read
    split at read
    · cases read
    · next unwritten =>
      obtain ⟨value, valued, -⟩ := Option.map_eq_some_iff.mp read
      obtain ⟨sign, spelling, digits, noMinus, rfl, present, spells, rfl, fits⟩ :=
        (readRadix_eq_some_iff base.radix_le).mp valued
      rw [ofChars_of_written (Bool.eq_false_iff.mpr unwritten)] at unsigned
      exact ⟨⟨base, letter, spelling, digits, isLetter, spells, present⟩, sign, noMinus,
        unsigned, fits⟩

end Texts

/-- **Which texts are read as whole numbers behind a base mark, and as which.** There is no sign
in front of the mark. Behind it stand digits of the base, one at least and in either case, with a
plus sign in front of them or none, and their value has 64 bits at most. Such a text is read as
the number nearest to the value. -/
theorem reads_radix_literals (text : String)
    (marked : AnnouncesBase (Text.trimChars text.toList)) :
    ((parse text).isSome = true ↔
      ∃ (literal : RadixLiteral) (sign : Sign), sign.isNegative = false ∧
        Text.trimChars text.toList = literal.charsWith sign ∧ literal.value < 2 ^ 64) ∧
      ∀ (literal : RadixLiteral) (sign : Sign), sign.isNegative = false →
        Text.trimChars text.toList = literal.charsWith sign → literal.value < 2 ^ 64 →
          ∀ number, parse text = some number ↔ number.IsNearest false literal.value := by
  refine ⟨⟨?_, ?_⟩, ?_⟩
  · intro some
    obtain ⟨number, read⟩ := Option.isSome_iff_exists.mp some
    exact exists_radixLiteral_of_parse marked read
  · rintro ⟨literal, sign, unsigned, spelled, fits⟩
    rw [parse_radixLiteral unsigned spelled fits]
    rfl
  · intro literal sign unsigned spelled fits number
    have value : Decimal.value ⟨literal.value, 0⟩ = literal.value := by
      rw [Decimal.value, zpow_zero, mul_one]
    have nearest := isNearest_ofDecimal false ⟨literal.value, 0⟩
    rw [value] at nearest
    rw [parse_radixLiteral unsigned spelled fits, Option.some.injEq]
    constructor
    · rintro rfl
      exact nearest
    · exact nearest.unique

/-- The largest number of 64 bits, in letters of both cases. -/
def largestOfSixteenDigits : RadixLiteral where
  base := .sixteen
  letter := 'X'
  spelling := "fFFFffffffffffff".toList
  digits := List.replicate 16 15
  isLetter := by decide
  spells := ⟨by decide, by decide⟩
  present := by decide

theorem reads_radix_literals_largest :
    AnnouncesBase (Text.trimChars " 0XfFFFffffffffffff ".toList) ∧
      Text.trimChars " 0XfFFFffffffffffff ".toList = largestOfSixteenDigits.charsWith .absent ∧
      largestOfSixteenDigits.value < 2 ^ 64 ∧
      (parse " 0XfFFFffffffffffff ").isSome = true ∧
      ∀ number, parse " 0XfFFFffffffffffff " = some number ↔
        number.IsNearest false largestOfSixteenDigits.value := by
  have marked : AnnouncesBase (Text.trimChars " 0XfFFFffffffffffff ".toList) := by decide +kernel
  have spelled : Text.trimChars " 0XfFFFffffffffffff ".toList =
      largestOfSixteenDigits.charsWith .absent := by decide +kernel
  have fits : largestOfSixteenDigits.value < 2 ^ 64 := by decide +kernel
  obtain ⟨accepted, literals⟩ := reads_radix_literals " 0XfFFFffffffffffff " marked
  exact ⟨marked, spelled, fits, accepted.mpr ⟨_, _, rfl, spelled, fits⟩,
    literals _ _ rfl spelled fits⟩

/-- A text behind whose mark just the digits count: it is read exactly if it is a literal without
any sign, and as the number nearest to the value. -/
def ReadsJustRadixLiterals (text : String) : Prop :=
  ((parse text).isSome = true ↔
    ∃ literal : RadixLiteral, Text.trimChars text.toList = literal.chars) ∧
    ∀ literal : RadixLiteral, Text.trimChars text.toList = literal.chars →
      ∀ number, parse text = some number ↔ number.IsNearest false literal.value

/-- Two to the power of 64. -/
def twoToThe64 : RadixLiteral where
  base := .sixteen
  letter := 'x'
  spelling := "10000000000000000".toList
  digits := 1 :: List.replicate 16 0
  isLetter := by decide
  spells := ⟨by decide, by decide⟩
  present := by decide

/-- A sign behind the mark is read although it is no digit, and a number of 65 bits is not read
although it is a literal. -/
theorem not_readsJustRadixLiterals :
    (AnnouncesBase (Text.trimChars "0x+F".toList) ∧ ¬ ReadsJustRadixLiterals "0x+F") ∧
      AnnouncesBase (Text.trimChars "0x10000000000000000".toList) ∧
        ¬ ReadsJustRadixLiterals "0x10000000000000000" := by
  refine ⟨⟨by decide +kernel, ?_⟩, by decide +kernel, ?_⟩
  · rintro ⟨accepted, -⟩
    have read : (parse "0x+F").isSome = true := by decide +kernel
    obtain ⟨literal, spelled⟩ := accepted.mp read
    have chars : Text.trimChars "0x+F".toList = ['0', 'x', '+', 'F'] := by decide +kernel
    rw [chars, RadixLiteral.chars, RadixLiteral.charsWith] at spelled
    have behind : ['+', 'F'] = literal.spelling := (List.cons.inj (List.cons.inj spelled).2).2
    have spells := literal.spells
    rw [← behind] at spells
    exact spells.ne_plus rfl
  · rintro ⟨accepted, -⟩
    have unread : parse "0x10000000000000000" = none := by decide +kernel
    have spelled : Text.trimChars "0x10000000000000000".toList = twoToThe64.chars := by
      decide +kernel
    have read := accepted.mpr ⟨twoToThe64, spelled⟩
    rw [unread] at read
    cases read

end Number

end MarkupTree
