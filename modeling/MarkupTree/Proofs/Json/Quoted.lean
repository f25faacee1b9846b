import MarkupTree.Json.Tree
import MarkupTree.Proofs.Json.Numeral

/-! # Texts in a JSON text

Escaping goes character by character, and so does reading: what stands for a character is
read as that character (`Token.scanUnits_escapedChar`). A character is never half of a
surrogate pair, so no two of them are read as one.
-/

namespace MarkupTree.Json.Token

/-- A control character is read from its four hexadecimal digits. -/
theorem readHex_digits {number : Nat} (small : number < 32) :
    readHex ['0', '0', Nat.digitChar (number / 16), Nat.digitChar (number % 16)] =
      some number := by
  have all : ∀ number < 32,
      readHex ['0', '0', Nat.digitChar (number / 16), Nat.digitChar (number % 16)] =
        some number := by decide
  exact all number small

private theorem scanUnits_escaped {letter : Char} {unit : Nat} (other : letter ≠ 'u')
    (escaped : escapedLetter? letter = some unit) (chars : List Char) :
    scanUnits ('\\' :: letter :: chars) =
      (scanUnits chars).map fun (units, after) => (unit :: units, after) := by
  rw [scanUnits.eq_def]
  split
  · next same => cases same
  · next same => cases same
  · next same => exact absurd (List.cons.inj (List.cons.inj same).2).1 other
  · next same =>
    obtain ⟨rfl, rfl⟩ := List.cons.inj (List.cons.inj same).2
    rw [escaped]
    cases scanUnits chars <;> rfl
  · next noLetter same =>
    obtain ⟨rfl, rfl⟩ := List.cons.inj same
    exact (noLetter _ _ rfl rfl).elim

private theorem scanUnits_hex {first second third fourth : Char} {unit : Nat}
    (hex : readHex [first, second, third, fourth] = some unit) (chars : List Char) :
    scanUnits ('\\' :: 'u' :: first :: second :: third :: fourth :: chars) =
      (scanUnits chars).map fun (units, after) => (unit :: units, after) := by
  rw [scanUnits, hex]
  cases scanUnits chars <;> rfl

private theorem scanUnits_plain {char : Char} (quote : char ≠ '"') (backslash : char ≠ '\\')
    (visible : ¬ char.toNat < 32) (chars : List Char) :
    scanUnits (char :: chars) =
      (scanUnits chars).map fun (units, after) => (char.toNat :: units, after) := by
  rw [scanUnits.eq_def]
  split
  · next same => cases same
  · next same => exact absurd (List.cons.inj same).1 quote
  · next same => exact absurd (List.cons.inj same).1 backslash
  · next same => exact absurd (List.cons.inj same).1 backslash
  · next same =>
    obtain ⟨rfl, rfl⟩ := List.cons.inj same
    simp only [visible, backslash, or_self, ↓reduceIte]
    cases scanUnits chars <;> rfl

/-- What stands for a character in a text is read as that character. -/
theorem scanUnits_escapedChar (char : Char) (chars : List Char) :
    scanUnits (escapedChar char ++ chars) =
      (scanUnits chars).map fun (units, after) => (char.toNat :: units, after) := by
  unfold escapedChar
  split
  · next same =>
    subst same
    exact scanUnits_escaped (by decide) rfl chars
  next quote =>
  split
  · next same =>
    subst same
    exact scanUnits_escaped (by decide) rfl chars
  next backslash =>
  split
  · next same =>
    subst same
    exact scanUnits_escaped (by decide) rfl chars
  split
  · next same =>
    subst same
    exact scanUnits_escaped (by decide) rfl chars
  split
  · next same =>
    subst same
    exact scanUnits_escaped (by decide) rfl chars
  split
  · next same =>
    rw [same]
    exact scanUnits_escaped (by decide) rfl chars
  split
  · next same =>
    rw [same]
    exact scanUnits_escaped (by decide) rfl chars
  split
  · next control => exact scanUnits_hex (readHex_digits control) chars
  · next visible => exact scanUnits_plain quote backslash visible chars

/-- **The units of a text are read from its escaped characters.** -/
theorem scanUnits_flatMap (chars after : List Char) :
    scanUnits (chars.flatMap escapedChar ++ '"' :: after) =
      some (chars.map Char.toNat, after) := by
  induction chars with
  | nil => rfl
  | cons char rest ih =>
      rw [List.flatMap_cons, List.append_assoc, scanUnits_escapedChar, ih]
      rfl

/-- A character is no half of a surrogate pair. -/
theorem no_surrogate (char : Char) :
    isLeading char.toNat = false ∧ isTrailing char.toNat = false := by
  have valid : char.toNat < 0xD800 ∨ 0xDFFF < char.toNat ∧ char.toNat < 0x110000 := char.valid
  simp only [isLeading, isTrailing, Bool.and_eq_false_iff, decide_eq_false_iff_not]
  omega

private theorem charsOfUnits_cons (char : Char) (units : List Nat) :
    charsOfUnits (char.toNat :: units) = (charsOfUnits units).map (char :: ·) := by
  obtain ⟨leading, trailing⟩ := no_surrogate char
  cases units <;> simp [charsOfUnits, leading, trailing]

/-- The characters of a text are read from their units. -/
theorem charsOfUnits_map (chars : List Char) :
    charsOfUnits (chars.map Char.toNat) = some chars := by
  induction chars with
  | nil => rfl
  | cons char rest ih => rw [List.map_cons, charsOfUnits_cons, ih, Option.map_some]

/-- **A text is one token of the text into which it is written.** -/
theorem scan_stringChars (reader : NumberReader) (value : String) (after : List Char) :
    scan reader (stringChars value ++ after) = .string (some value) :: scan reader after := by
  apply scan_of_scanFrom rfl
  have chars : value.toList.flatMap escapedChar ++ ['"'] ++ after =
      value.toList.flatMap escapedChar ++ '"' :: after := by simp
  have read : scanString (value.toList.flatMap escapedChar ++ ['"'] ++ after) =
      some (.string (some value), after) := by
    simp only [chars, scanString, scanUnits_flatMap, Option.map_some, charsOfUnits_map,
      String.ofList_toList]
  exact read

end MarkupTree.Json.Token
