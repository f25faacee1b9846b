import MarkupTree.Proofs.Text.AsciiLetters
import MarkupTree.Text.Lowercase

/-! # Lower-casing a text twice, and in other ASCII letters

No lower case of a character is changed by lower-casing again (`isChanged_smallLetter`), so a
text in lower case stays as it is (`lowercase_lowercase`). And a text that differs in nothing
but the case of ASCII letters has the same lower case (`lowercase_toLower`).
-/

namespace MarkupTree

namespace Text

/-- The capitals that lower-casing changes: those of the ranges, and the I with a dot. -/
def capitalRanges : List CaseRange := ⟨0x130, 0x130, 1, -199⟩ :: lowerRanges

/-- Whether lower-casing changes a character. -/
def isChanged (char : Char) : Bool := capitalRanges.any (·.holds char.toNat)

namespace CaseRange

/-- The code point of the lower case of a capital of the range. -/
def lower (range : CaseRange) (code : Nat) : Nat := (code + range.shift).toNat

/-- Whether all code points from `low` to `high`, of which only every second one counts unless
there is only one, keep clear of a range: they lie before it, behind it or in its gaps. -/
def isClearOf (low high : Nat) (sparse : Bool) (range : CaseRange) : Bool :=
  Nat.blt high range.first || Nat.blt range.last low ||
    Nat.beq range.step 2 && sparse && Nat.beq ((low + range.first) % 2) 1

/-- Whether a range has every second code point or a single one. -/
def isSparse (range : CaseRange) : Bool := range.step == 2 || range.first == range.last

/-- Whether lower-casing changes no lower case of the range. -/
def isSettled (range : CaseRange) : Bool :=
  capitalRanges.all (isClearOf (range.lower range.first) (range.lower range.last) range.isSparse)

/-- Whether the lower cases of the range are code points of characters. -/
def isValid (range : CaseRange) : Bool :=
  decide (0 ≤ range.first + range.shift) &&
    (decide (range.lower range.last < 0xD800) ||
      decide (0xDFFF < range.lower range.first) && decide (range.lower range.last < 0x110000))

private theorem holds_of_isClearOf {range : CaseRange} {low high code : Nat} {sparse : Bool}
    (clear : isClearOf low high sparse range = true) (above : low ≤ code) (below : code ≤ high)
    (spaced : sparse = true → (low + code) % 2 = 0) : range.holds code = false := by
  simp only [isClearOf, Bool.or_eq_true, Bool.and_eq_true, Nat.blt_eq, Nat.beq_eq] at clear
  rcases clear with (before | behind) | ⟨⟨two, scattered⟩, odd⟩
  · have outside : ¬range.first ≤ code := by omega
    simp [holds, outside]
  · have outside : ¬code ≤ range.last := by omega
    simp [holds, outside]
  · have even := spaced scattered
    by_cases inside : range.first ≤ code
    · have gap : (code - range.first) % 2 = 1 := by omega
      simp [holds, two, gap]
    · simp [holds, inside]

/-- A range holds the codes from its first to its last one in its steps. -/
theorem holds_iff {range : CaseRange} {code : Nat} : range.holds code = true ↔
    range.first ≤ code ∧ code ≤ range.last ∧ (code - range.first) % range.step = 0 := by
  simp [holds, and_assoc]

/-- The lower cases of a range lie between those of its ends. -/
theorem lower_bounds {range : CaseRange} {code : Nat} (held : range.holds code = true) :
    range.lower range.first ≤ range.lower code ∧ range.lower code ≤ range.lower range.last := by
  obtain ⟨above, below, -⟩ := holds_iff.mp held
  unfold lower
  omega

private theorem even_of_isSparse {range : CaseRange} {code : Nat} (held : range.holds code = true)
    (valid : range.isValid = true) (sparse : range.isSparse = true) :
    (range.lower range.first + range.lower code) % 2 = 0 := by
  obtain ⟨above, below, spaced⟩ := holds_iff.mp held
  rw [isValid, Bool.and_eq_true, decide_eq_true_eq] at valid
  rw [isSparse, Bool.or_eq_true, beq_iff_eq, beq_iff_eq] at sparse
  unfold lower
  rcases sparse with two | single
  · rw [two] at spaced
    omega
  · omega

private theorem isValidChar_lower {range : CaseRange} {code : Nat} (held : range.holds code = true)
    (valid : range.isValid = true) : (range.lower code).isValidChar := by
  have bounds := lower_bounds held
  simp only [isValid, Bool.and_eq_true, Bool.or_eq_true, decide_eq_true_eq] at valid
  unfold Nat.isValidChar
  omega

end CaseRange

/-- Lower-casing changes no lower case of a capital. -/
theorem isSettled_lowerRanges : ∀ range ∈ lowerRanges, range.isSettled = true := by
  decide +kernel

/-- The lower cases of capitals are characters. -/
theorem isValid_lowerRanges : ∀ range ∈ lowerRanges, range.isValid = true := by
  decide +kernel

/-- A character stays, or a range says which one it becomes. -/
theorem smallLetter_cases (char : Char) :
    (smallLetter char = char ∧ ∀ range ∈ lowerRanges, range.holds char.toNat = false) ∨
      ∃ range ∈ lowerRanges, range.holds char.toNat = true ∧
        smallLetter char = Char.ofNat (range.lower char.toNat) := by
  unfold smallLetter
  cases found : lowerRanges.find? (·.holds char.toNat) with
  | none =>
      refine .inl ⟨rfl, ?_⟩
      simpa using List.find?_eq_none.mp found
  | some range =>
      refine .inr ⟨range, List.mem_of_find?_eq_some found, ?_, rfl⟩
      exact List.find?_some (p := fun range => CaseRange.holds range char.toNat) found

/-- The code of a small letter is the one that its range gives. -/
theorem toNat_ofNat_lower {range : CaseRange} {code : Nat} (listed : range ∈ lowerRanges)
    (held : range.holds code = true) :
    (Char.ofNat (range.lower code)).toNat = range.lower code := by
  have valid := CaseRange.isValidChar_lower held (isValid_lowerRanges range listed)
  rw [Char.ofNat, dif_pos valid]
  rfl

private theorem isChanged_eq_false_iff {char : Char} :
    isChanged char = false ↔ ∀ range ∈ capitalRanges, range.holds char.toNat = false := by
  simp [isChanged]

/-- The lower case of a character is not changed again. -/
theorem isChanged_smallLetter {char : Char} (other : char ≠ 'İ') :
    isChanged (smallLetter char) = false := by
  rw [isChanged_eq_false_iff]
  rcases smallLetter_cases char with ⟨same, outside⟩ | ⟨source, listed, held, small⟩
  · rw [same, capitalRanges, List.forall_mem_cons]
    refine ⟨?_, outside⟩
    apply Bool.eq_false_iff.mpr
    intro held
    obtain ⟨above, below, -⟩ := CaseRange.holds_iff.mp held
    have code : char.toNat = 'İ'.toNat := Nat.le_antisymm below above
    exact other (Char.toNat_inj.mp code)
  · intro range member
    have settled := List.all_eq_true.mp (isSettled_lowerRanges source listed) range member
    obtain ⟨above, below⟩ := CaseRange.lower_bounds held
    rw [small, toNat_ofNat_lower listed held]
    apply CaseRange.holds_of_isClearOf settled above below
    exact CaseRange.even_of_isSparse held (isValid_lowerRanges source listed)

/-- What does not change is its own small letter. -/
theorem smallLetter_of_unchanged {char : Char} (unchanged : isChanged char = false) :
    smallLetter char = char := by
  rw [isChanged_eq_false_iff, capitalRanges, List.forall_mem_cons] at unchanged
  rcases smallLetter_cases char with ⟨same, -⟩ | ⟨source, listed, held, -⟩
  · exact same
  · rw [unchanged.2 source listed] at held
    cases held

section Characters

variable (before after : List Char)

/-- No character of the lower case is changed again. -/
theorem isChanged_of_mem_lowercaseAt {char made : Char}
    (member : made ∈ lowercaseAt before char after) : isChanged made = false := by
  unfold lowercaseAt at member
  split at member
  · split at member
    · rw [List.mem_singleton.mp member]
      decide +kernel
    · rw [List.mem_singleton.mp member]
      decide +kernel
  · split at member
    · rw [List.mem_cons, List.mem_singleton] at member
      rcases member with rfl | rfl
      · decide +kernel
      · decide +kernel
    · next other =>
      rw [List.mem_singleton.mp member]
      exact isChanged_smallLetter other

private theorem lowercaseAt_of_unchanged {char : Char} (unchanged : isChanged char = false) :
    lowercaseAt before char after = [char] := by
  have sigma : char ≠ 'Σ' := by
    rintro rfl
    exact absurd unchanged (by decide +kernel)
  have dotted : char ≠ 'İ' := by
    rintro rfl
    exact absurd unchanged (by decide +kernel)
  rw [lowercaseAt, if_neg sigma, if_neg dotted, smallLetter_of_unchanged unchanged]

end Characters

/-- What is in small letters does not change. -/
theorem isChanged_of_mem_lowercaseAfter {before text : List Char} :
    ∀ char ∈ lowercaseAfter before text, isChanged char = false := by
  induction text generalizing before with
  | nil =>
      intro char member
      cases member
  | cons first rest ih =>
      intro char member
      rcases List.mem_append.mp member with here | later
      · exact isChanged_of_mem_lowercaseAt before rest here
      · exact ih char later

/-- A text that does not change is its own lower-casing. -/
theorem lowercaseAfter_of_unchanged {before text : List Char}
    (unchanged : ∀ char ∈ text, isChanged char = false) : lowercaseAfter before text = text := by
  induction text generalizing before with
  | nil => rfl
  | cons first rest ih =>
      rw [List.forall_mem_cons] at unchanged
      rw [lowercaseAfter, lowercaseAt_of_unchanged before rest unchanged.1, ih unchanged.2]
      rfl

/-- **A text in lower case stays as it is.** -/
theorem lowercase_lowercase (text : String) : lowercase (lowercase text) = lowercase text := by
  have small : ∀ char ∈ (lowercase text).toList, isChanged char = false := by
    rw [lowercase, String.toList_ofList]
    exact isChanged_of_mem_lowercaseAfter
  rw [lowercase, lowercaseAfter_of_unchanged small, String.ofList_toList]

/-- No character is lost. -/
theorem lowercaseAt_ne_nil (before : List Char) (char : Char) (after : List Char) :
    lowercaseAt before char after ≠ [] := by
  unfold lowercaseAt
  split
  · split
    · exact List.cons_ne_nil _ _
    · exact List.cons_ne_nil _ _
  · split
    · exact List.cons_ne_nil _ _
    · exact List.cons_ne_nil _ _

/-- Only the empty text is lower-cased to nothing. -/
theorem eq_empty_of_lowercase {text : String} (empty : lowercase text = "") : text = "" := by
  rw [lowercase, String.ofList_eq_empty_iff] at empty
  cases chars : text.toList with
  | nil => exact String.toList_eq_nil_iff.mp chars
  | cons first rest =>
      rw [chars, lowercaseAfter, List.append_eq_nil_iff] at empty
      exact absurd empty.1 (lowercaseAt_ne_nil [] first rest)

section Ascii

variable {char : Char}

/-- What casing looks at is the same for an ASCII capital and its small letter. -/
theorem casing_toLower : isCased char.toLower = isCased char ∧
    isCaseIgnorable char.toLower = isCaseIgnorable char ∧
      smallLetter char.toLower = smallLetter char ∧
        (char.toLower = 'Σ' ↔ char = 'Σ') ∧ (char.toLower = 'İ' ↔ char = 'İ') := by
  by_cases upper : char.isUpper = true
  · apply Ascii.forall_isUpper _ upper
    decide +kernel
  · rw [Ascii.toLower_of_not_isUpper upper]
    exact ⟨rfl, rfl, rfl, Iff.rfl, Iff.rfl⟩

private theorem meetsLetter_toLower (neighbours : List Char) :
    meetsLetter (neighbours.map Char.toLower) = meetsLetter neighbours := by
  have ignored : isCaseIgnorable ∘ Char.toLower = isCaseIgnorable := by
    funext char
    exact casing_toLower.2.1
  rw [meetsLetter, meetsLetter, List.dropWhile_map, ignored]
  cases neighbours.dropWhile isCaseIgnorable with
  | nil => rfl
  | cons nearest rest => exact casing_toLower.1

private theorem lowercaseAt_toLower (before after : List Char) :
    lowercaseAt (before.map Char.toLower) char.toLower (after.map Char.toLower) =
      lowercaseAt before char after := by
  obtain ⟨-, -, small, sigma, dotted⟩ := @casing_toLower char
  simp only [lowercaseAt, meetsLetter_toLower, small, sigma, dotted]

/-- Lower-casing ASCII letters before does not show. -/
theorem lowercaseAfter_toLower (before text : List Char) :
    lowercaseAfter (before.map Char.toLower) (text.map Char.toLower) =
      lowercaseAfter before text := by
  induction text generalizing before with
  | nil => rfl
  | cons char rest ih =>
      rw [List.map_cons, lowercaseAfter, lowercaseAfter, lowercaseAt_toLower, ← List.map_cons, ih]

/-- The case of ASCII letters makes no difference. -/
theorem lowercase_toLower (text : String) : lowercase text.toLower = lowercase text := by
  rw [lowercase, Ascii.toList_toLower]
  exact congrArg String.ofList (lowercaseAfter_toLower [] text.toList)

end Ascii

end Text

end MarkupTree
