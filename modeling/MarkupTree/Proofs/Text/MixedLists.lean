import MarkupTree.Proofs.Text.CommaLists
import MarkupTree.Proofs.Text.Runs

/-! # Lists between commas or spaces

Where commas and spaces both separate, a text is read in two passes that do not agree on what a
space is: the parts between commas lose all blanks at their ends, and only then the five token
spaces separate. So a list has the tokens of each trimmed part (`commaOrSpaceTokens_eq_parts`).

If the text has no other blanks than token spaces, the two passes are one. Trimming then takes off
nothing but separators, which makes no difference (`spaceTokens_trimChars`), and splitting at
commas and then at spaces is splitting at both (`splitOnP_or`). What is left are the runs of the
text between its separators (`commaOrSpaceTokens_eq_runs`).
-/

namespace MarkupTree.Text

/-- A character that separates tokens where commas and spaces both do. -/
def isSeparator (char : Char) : Bool := char == ',' || isTokenSpace char

/-- Splitting at two classes of characters is splitting at one and then at the other. -/
theorem splitOnP_or (first second : Char → Bool) (text : List Char) :
    text.splitOnP (fun char => first char || second char) =
      (text.splitOnP first).flatMap fun part => part.splitOnP second := by
  induction text with
  | nil => rfl
  | cons char rest ih =>
      obtain ⟨part, others, parts⟩ :=
        List.exists_cons_of_ne_nil (List.splitOnP_ne_nil first rest)
      obtain ⟨piece, further, pieces⟩ :=
        List.exists_cons_of_ne_nil (List.splitOnP_ne_nil second part)
      simp only [List.splitOnP_cons_eq_if_modifyHead, ih, parts]
      cases first char with
      | true => rfl
      | false =>
          simp only [Bool.false_or, Bool.false_eq_true, ↓reduceIte, List.modifyHead_cons,
            List.flatMap_cons, List.splitOnP_cons_eq_if_modifyHead, pieces]
          cases second char with
          | true => rfl
          | false => rfl

variable {text : List Char}

section Spaces

variable {spaces : List Char}

theorem spaceTokens_append_left (separate : ∀ char ∈ spaces, isTokenSpace char = true) :
    spaceTokens (spaces ++ text) = spaceTokens text := by
  induction spaces with
  | nil => rfl
  | cons space rest ih =>
      rw [List.forall_mem_cons] at separate
      exact (spaceTokens_append_cons [] separate.1 (rest ++ text)).trans (ih separate.2)

theorem spaceTokens_append_right (separate : ∀ char ∈ spaces, isTokenSpace char = true) :
    spaceTokens (text ++ spaces) = spaceTokens text := by
  cases spaces with
  | nil => rw [List.append_nil]
  | cons space rest =>
      rw [List.forall_mem_cons] at separate
      have nothing : spaceTokens (rest ++ []) = spaceTokens [] :=
        spaceTokens_append_left separate.2
      rw [List.append_nil] at nothing
      rw [spaceTokens_append_cons text separate.1, nothing]
      exact List.append_nil _

/-- If only token spaces are trimmed, trimming makes no difference to the tokens. -/
theorem spaceTokens_trimChars
    (plain : ∀ char ∈ text, isBlank char = true → isTokenSpace char = true) :
    spaceTokens (trimChars text) = spaceTokens text := by
  obtain ⟨front, back, split, blankFront, blankBack⟩ := exists_trimChars text
  have separateFront : ∀ char ∈ front, isTokenSpace char = true := by
    intro char member
    apply plain char _ (blankFront char member)
    rw [split]
    exact List.mem_append_left _ (List.mem_append_left _ member)
  have separateBack : ∀ char ∈ back, isTokenSpace char = true := by
    intro char member
    apply plain char _ (blankBack char member)
    rw [split]
    exact List.mem_append_right _ member
  calc spaceTokens (trimChars text)
      = spaceTokens (front ++ (trimChars text ++ back)) := by
        rw [spaceTokens_append_left separateFront, spaceTokens_append_right separateBack]
    _ = spaceTokens text := by rw [← List.append_assoc, ← split]

end Spaces

/-- The tokens between commas or spaces are those between spaces of each trimmed part. -/
theorem commaOrSpaceTokens_eq_parts (text : List Char) :
    commaOrSpaceTokens text =
      (text.splitOn ',').flatMap fun part => spaceTokens (trimChars part) := by
  have parts : (text.splitOn ',').flatMap (fun part => spaceTokens (trimChars part)) =
      ((text.splitOn ',').map trimChars).flatMap spaceTokens :=
    (List.flatMap_map _ _ _).symm
  rw [commaOrSpaceTokens_eq, parts]
  unfold commaTokens
  dsimp only
  split
  · next empty =>
    -- The empty token that is left out has no tokens between spaces.
    obtain ⟨front, split⟩ := List.getLast?_eq_some_iff.mp empty
    rw [split, List.dropLast_concat, List.flatMap_append]
    exact (List.append_nil _).symm
  · rfl

/-- A text without other blanks than token spaces has its runs between separators as tokens. -/
theorem commaOrSpaceTokens_eq_runs
    (plain : ∀ char ∈ text, isBlank char = true → isTokenSpace char = true) :
    commaOrSpaceTokens text = (runs (fun char => !isSeparator char) text).map Run.chars := by
  have untrimmed : ∀ part ∈ text.splitOn ',', spaceTokens (trimChars part) = spaceTokens part := by
    intro part piece
    apply spaceTokens_trimChars
    exact fun char member => plain char (of_mem_splitOnP piece char member).1
  rw [commaOrSpaceTokens_eq_parts, List.flatMap_congr untrimmed, map_chars_runs]
  simp only [Bool.not_not]
  unfold isSeparator spaceTokens
  rw [splitOnP_or, List.filter_flatMap, List.splitOn_eq_splitOnP]

/-- **Lists between commas or spaces.** The tokens are those between spaces of each trimmed part
between commas, in their order. None is empty or has a separator in it, and written out with
spaces they are read again. If all blanks of the text are token spaces, the tokens are its runs of
characters that are no separators. -/
theorem commaOrSpaceSeparated_eq_runs (text : String) :
    commaOrSpaceSeparated text =
        (commaParts text).flatMap (fun part => spaceSeparated (trim part)) ∧
      (∀ token ∈ commaOrSpaceSeparated text,
        token ≠ "" ∧ ∀ char ∈ token.toList, isSeparator char = false) ∧
      commaOrSpaceSeparated (" ".intercalate (commaOrSpaceSeparated text)) =
        commaOrSpaceSeparated text ∧
      ((∀ char ∈ text.toList, isBlank char = true → isTokenSpace char = true) →
        ∃ found : List Run,
          (∀ run, run ∈ found ↔ run.IsMaximal (fun char => !isSeparator char) text.toList) ∧
            (found.Pairwise fun first second => first.before.length < second.before.length) ∧
            commaOrSpaceSeparated text = found.map Run.text) := by
  have list := isTokenList_commaOrSpaceTokens text.toList
  refine ⟨?_, ?_, ?_, ?_⟩
  · simp only [commaOrSpaceSeparated, commaOrSpaceTokens_eq_parts, commaParts, List.flatMap_map,
      List.map_flatMap, spaceSeparated, trim, String.toList_ofList]
  · intro token member
    obtain ⟨chars, inside, rfl⟩ := List.mem_map.mp member
    have isToken := list.areTokens chars inside
    refine ⟨?_, fun char held => ?_⟩
    · rw [ne_eq, ← String.toList_eq_nil_iff, String.toList_ofList]
      exact isToken.present
    · rw [String.toList_ofList] at held
      have noComma : char ≠ ',' := fun comma => list.uncut chars inside (comma ▸ held)
      rw [isSeparator, isToken.solid char held, beq_false_of_ne noComma, Bool.or_self]
  · have space : " ".toList = [' '] := by decide
    rw [commaOrSpaceSeparated, commaOrSpaceSeparated, String.toList_intercalate, space,
      map_toList_map_ofList, list.commaOrSpaceTokens_intercalate]
  · intro plain
    refine ⟨runs (fun char => !isSeparator char) text.toList, mem_runs_iff _,
      pairwise_runsAfter _ _, ?_⟩
    rw [commaOrSpaceSeparated, commaOrSpaceTokens_eq_runs plain, List.map_map]
    rfl

/-- Commas, a tab and a line feed, several of them together and at the ends. -/
theorem commaOrSpaceSeparated_eq_runs_doubled :
    (∀ char ∈ ",\ta ,, b\n c,".toList, isBlank char = true → isTokenSpace char = true) ∧
      (commaOrSpaceSeparated ",\ta ,, b\n c," = ["a", "b", "c"] ∧
        ∃ found : List Run,
          (∀ run, run ∈ found ↔
            run.IsMaximal (fun char => !isSeparator char) ",\ta ,, b\n c,".toList) ∧
            (found.Pairwise fun first second => first.before.length < second.before.length) ∧
            ["a", "b", "c"] = found.map Run.text) := by
  have plain : ∀ char ∈ ",\ta ,, b\n c,".toList,
      isBlank char = true → isTokenSpace char = true := by
    have checked : ",\ta ,, b\n c,".toList.all
        (fun char => !isBlank char || isTokenSpace char) = true := by decide
    intro char member blank
    simpa only [blank, Bool.not_true, Bool.false_or] using List.all_eq_true.mp checked char member
  have tokens : commaOrSpaceSeparated ",\ta ,, b\n c," = ["a", "b", "c"] := by decide +kernel
  have found := (commaOrSpaceSeparated_eq_runs ",\ta ,, b\n c,").2.2.2 plain
  rw [tokens] at found
  exact ⟨plain, tokens, found⟩

end MarkupTree.Text
