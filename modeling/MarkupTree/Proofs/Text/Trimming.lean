import MarkupTree.Proofs.Text.Span
import MarkupTree.Text.Blank

/-! # Trimming

A trimmed text neither begins nor ends with a blank (`IsTrimmed`). Trimming makes a text trimmed
(`isTrimmed_trimChars`) by taking blanks off its ends (`exists_trimChars`), and it leaves a trimmed
text as it is, also behind blanks (`IsTrimmed.trimChars_append`).
-/

namespace MarkupTree.Text

/-- A text that neither begins nor ends with a blank. -/
structure IsTrimmed (text : List Char) : Prop where
  begins : ∀ char ∈ text.head?, isBlank char = false
  ends : ∀ char ∈ text.getLast?, isBlank char = false

variable (text : List Char)

private theorem trimEnd_begins : trimEnd text <+: text := by
  have suffix := List.dropWhile_suffix (l := text.reverse) isBlank
  have before := List.reverse_prefix.mpr suffix
  rwa [List.reverse_reverse] at before

/-- What is left of a text by trimming is trimmed. -/
theorem isTrimmed_trimChars : IsTrimmed (trimChars text) where
  begins := by
    obtain ⟨blanks, rest⟩ := trimEnd_begins (text.dropWhile isBlank)
    intro char first
    apply head?_dropWhile_stops isBlank text
    rw [← rest, List.head?_append, ← trimChars, Option.mem_def.mp first]
    rfl
  ends := by
    rw [trimChars, trimEnd, List.getLast?_reverse]
    exact head?_dropWhile_stops isBlank _

/-- Trimming adds no character. -/
theorem trimChars_subset : trimChars text ⊆ text := by
  have front : trimChars text ⊆ text.dropWhile isBlank := (trimEnd_begins _).subset
  exact List.Subset.trans front (List.dropWhile_suffix isBlank).subset

/-- What is trimmed off the end of a text is blank. -/
theorem exists_trimEnd :
    ∃ back, text = trimEnd text ++ back ∧ ∀ char ∈ back, isBlank char = true := by
  refine ⟨(text.reverse.takeWhile isBlank).reverse, ?_, ?_⟩
  · rw [trimEnd, ← List.reverse_append, List.takeWhile_append_dropWhile, List.reverse_reverse]
  · intro char member
    exact List.all_eq_true.mp List.all_takeWhile char (List.mem_reverse.mp member)

/-- What trimming takes off a text are blanks at its ends. -/
theorem exists_trimChars :
    ∃ front back, text = front ++ trimChars text ++ back ∧ (∀ char ∈ front, isBlank char = true) ∧
      ∀ char ∈ back, isBlank char = true := by
  obtain ⟨back, split, blank⟩ := exists_trimEnd (text.dropWhile isBlank)
  refine ⟨text.takeWhile isBlank, back, ?_, List.all_eq_true.mp List.all_takeWhile, blank⟩
  rw [trimChars, List.append_assoc, ← split, List.takeWhile_append_dropWhile]

variable {text}

/-- A trimmed text stays as it is. -/
theorem IsTrimmed.trimChars_eq (trimmed : IsTrimmed text) : trimChars text = text := by
  have front : text.dropWhile isBlank = text := dropWhile_of_stops trimmed.begins
  have back : text.reverse.dropWhile isBlank = text.reverse := by
    apply dropWhile_of_stops
    rw [List.head?_reverse]
    exact trimmed.ends
  rw [trimChars, trimEnd, front, back, List.reverse_reverse]

/-- A trimmed text is what is left of it behind blanks. -/
theorem IsTrimmed.trimChars_append (trimmed : IsTrimmed text) {blanks : List Char}
    (blank : ∀ char ∈ blanks, isBlank char = true) : trimChars (blanks ++ text) = text := by
  have front : text.dropWhile isBlank = text := dropWhile_of_stops trimmed.begins
  have same : trimChars (blanks ++ text) = trimChars text := by
    rw [trimChars, trimChars, dropWhile_stretch blank trimmed.begins, front]
  rw [same, trimmed.trimChars_eq]

/-- Nothing is left of blanks. -/
theorem trimChars_of_blank (blank : ∀ char ∈ text, isBlank char = true) : trimChars text = [] := by
  have empty : IsTrimmed [] := ⟨nofun, nofun⟩
  have nothing := empty.trimChars_append blank
  rwa [List.append_nil] at nothing

/-- Nothing is left of a text if it is blank. -/
theorem trim_eq_empty_iff (text : String) : trim text = "" ↔ isBlankText text = true := by
  rw [← String.toList_inj, trim, String.toList_ofList, isBlankText, List.all_eq_true]
  refine ⟨fun empty => ?_, trimChars_of_blank⟩
  obtain ⟨front, back, split, blankFront, blankBack⟩ := exists_trimChars text.toList
  rw [empty] at split
  rw [split]
  simp only [List.mem_append]
  rintro char ((before | inside) | behind)
  · exact blankFront char before
  · cases inside
  · exact blankBack char behind

end MarkupTree.Text
