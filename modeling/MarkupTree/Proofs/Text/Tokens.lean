import MarkupTree.Proofs.Text.Trimming
import MarkupTree.Text.TokenList
import Mathlib.Data.List.Basic

/-! # Tokens that survive being written out

Everything about the tokens between spaces follows from one equation: a text with a space in it
has the tokens before the space and those behind it (`spaceTokens_append_cons`). So tokens that
are written out with spaces are read again (`spaceTokens_intercalate_tokens`).

Where commas separate too, it takes more. The text is cut at commas first, and its ends lose
blanks that separate no tokens. Tokens are read again if none holds a comma and the first one
does not begin, the last one not end with a blank (`IsTokenList`). The tokens of every text are
such (`isTokenList_commaOrSpaceTokens`), since the parts between its commas are trimmed.
-/

namespace MarkupTree.Text

/-- Pieces are those of the texts that they make. -/
theorem map_toList_map_ofList (pieces : List (List Char)) :
    (pieces.map String.ofList).map String.toList = pieces := by
  simp only [List.map_map, Function.comp_def, String.toList_ofList, List.map_id']

/-- Texts are those that their characters make. -/
theorem map_ofList_map_toList (texts : List String) :
    (texts.map String.toList).map String.ofList = texts := by
  simp only [List.map_map, Function.comp_def, String.ofList_toList, List.map_id']

private theorem isBlank_of_isTokenSpace {char : Char} (space : isTokenSpace char = true) :
    isBlank char = true := by
  simp only [isTokenSpace, Bool.or_eq_true, beq_iff_eq] at space
  rcases space with (((rfl | rfl) | rfl) | rfl) | feed
  · decide
  · decide
  · decide
  · decide
  · simp [isBlank, feed]

private theorem isTokenSpace_of_visible {char : Char} (visible : isBlank char = false) :
    isTokenSpace char = false := by
  by_contra space
  rw [Bool.not_eq_false] at space
  rw [isBlank_of_isTokenSpace space] at visible
  cases visible

/-- The pieces of a text that was split have characters of the text, but none at which it was
split. -/
theorem of_mem_splitOnP {test : Char → Bool} {text piece : List Char}
    (member : piece ∈ text.splitOnP test) : ∀ char ∈ piece, char ∈ text ∧ test char = false := by
  induction text using stretch_induction (fun char => !test char) with
  | stretch run solid =>
      simp only [Bool.not_eq_true'] at solid
      rw [List.splitOnP_eq_singleton solid, List.mem_singleton] at member
      subst member
      exact fun char inside => ⟨inside, solid char inside⟩
  | cut run cut after solid separates ih =>
      simp only [Bool.not_eq_true', Bool.not_eq_false'] at solid separates
      rw [List.splitOnP_append_cons_of_forall_mem solid cut separates] at member
      rcases List.mem_cons.mp member with rfl | later
      · exact fun char inside => ⟨List.mem_append_left _ inside, solid char inside⟩
      · intro char inside
        obtain ⟨present, fails⟩ := ih later char inside
        exact ⟨List.mem_append_right _ (List.mem_cons_of_mem _ present), fails⟩

section Spaces

variable {text : List Char}

/-- A token is no empty text and holds no space. -/
structure IsToken (token : List Char) : Prop where
  present : token ≠ []
  solid : ∀ char ∈ token, isTokenSpace char = false

/-- Each piece between spaces is a token. -/
theorem isToken_of_mem_spaceTokens {token : List Char} (member : token ∈ spaceTokens text) :
    IsToken token := by
  obtain ⟨piece, present⟩ := List.mem_filter.mp member
  exact ⟨by simpa using present, fun char inside => (of_mem_splitOnP piece char inside).2⟩

/-- A text with a space in it has the tokens on either side of the space. -/
theorem spaceTokens_append_cons (before : List Char) {space : Char}
    (separates : isTokenSpace space = true) (after : List Char) :
    spaceTokens (before ++ space :: after) = spaceTokens before ++ spaceTokens after := by
  unfold spaceTokens
  rw [List.splitOnP_append_cons before after separates, List.filter_append]

private theorem spaceTokens_of_solid (solid : ∀ char ∈ text, isTokenSpace char = false) :
    spaceTokens text = if text = [] then [] else [text] := by
  rw [spaceTokens, List.splitOnP_eq_singleton solid]
  cases text <;> rfl

/-- A token alone is one piece. -/
theorem spaceTokens_token {token : List Char} (isToken : IsToken token) :
    spaceTokens token = [token] := by
  rw [spaceTokens_of_solid isToken.solid, if_neg isToken.present]

/-- What holds of texts without a space, and of a text with a space in it if it holds of what is
behind the first one, holds of every text. -/
theorem spaced_induction {motive : List Char → Prop}
    (solid : ∀ run, (∀ char ∈ run, isTokenSpace char = false) → motive run)
    (spaced : ∀ run space after, (∀ char ∈ run, isTokenSpace char = false) →
      isTokenSpace space = true → motive after → motive (run ++ space :: after))
    (text : List Char) : motive text :=
  stretch_induction (fun char => !isTokenSpace char)
    (by simpa only [Bool.not_eq_true'] using solid)
    (by simpa only [Bool.not_eq_true', Bool.not_eq_false'] using spaced) text

/-- A token has characters of the text. -/
theorem subset_of_mem_spaceTokens {token : List Char} (member : token ∈ spaceTokens text) :
    token ⊆ text :=
  fun char inside => (of_mem_splitOnP (List.mem_filter.mp member).1 char inside).1

/-- A text that ends with no space ends with its last token. -/
theorem getLast?_spaceTokens {last : Char} (ends : text.getLast? = some last)
    (solid : isTokenSpace last = false) :
    ∃ token, (spaceTokens text).getLast? = some token ∧ token.getLast? = some last := by
  induction text using spaced_induction with
  | solid run solidRun =>
      have present : run ≠ [] := by
        rintro rfl
        cases ends
      rw [spaceTokens_of_solid solidRun, if_neg present]
      exact ⟨run, rfl, ends⟩
  | spaced run space after _ separates ih =>
      rw [List.getLast?_append_cons] at ends
      cases after with
      | nil =>
          have same : space = last := Option.some.inj ends
          rw [← same, separates] at solid
          cases solid
      | cons first rest =>
          obtain ⟨token, final, same⟩ := ih ends
          refine ⟨token, ?_, same⟩
          rw [spaceTokens_append_cons run separates, List.getLast?_append, final]
          rfl

/-- A text that begins with no space begins with its first token. -/
theorem head?_spaceTokens (begins : ∀ char ∈ text.head?, isTokenSpace char = false) :
    ∀ token ∈ (spaceTokens text).head?, token.head? = text.head? := by
  induction text using spaced_induction with
  | solid run solidRun =>
      rw [spaceTokens_of_solid solidRun]
      split
      · exact nofun
      · rintro token ⟨⟩
        rfl
  | spaced run space after solidRun separates _ =>
      have present : run ≠ [] := by
        rintro rfl
        have solid := begins space rfl
        rw [separates] at solid
        cases solid
      rw [spaceTokens_append_cons run separates, spaceTokens_of_solid solidRun, if_neg present,
        List.head?_append_of_ne_nil _ present]
      rintro token ⟨⟩
      rfl

/-- Texts that are written out with spaces have the tokens of each. -/
theorem spaceTokens_intercalate (parts : List (List Char)) :
    spaceTokens ([' '].intercalate parts) = parts.flatMap spaceTokens := by
  induction parts with
  | nil => rfl
  | cons part rest ih =>
      cases rest with
      | nil => rw [List.intercalate_singleton, List.flatMap_singleton]
      | cons next more =>
          rw [List.intercalate_cons_cons, List.append_assoc, List.singleton_append,
            spaceTokens_append_cons part (by decide), ih]
          rfl

/-- Tokens that are written out with spaces are read again. -/
theorem spaceTokens_intercalate_tokens {tokens : List (List Char)}
    (areTokens : ∀ token ∈ tokens, IsToken token) :
    spaceTokens ([' '].intercalate tokens) = tokens := by
  rw [spaceTokens_intercalate]
  induction tokens with
  | nil => rfl
  | cons token rest ih =>
      rw [List.forall_mem_cons] at areTokens
      rw [List.flatMap_cons, spaceTokens_token areTokens.1, ih areTokens.2, List.singleton_append]

private theorem head?_intercalate {tokens : List (List Char)}
    (areTokens : ∀ token ∈ tokens, IsToken token) :
    ([' '].intercalate tokens).head? = tokens.head?.bind List.head? := by
  cases tokens with
  | nil => rfl
  | cons token rest =>
      rw [List.forall_mem_cons] at areTokens
      cases rest with
      | nil =>
          rw [List.intercalate_singleton]
          rfl
      | cons next more =>
          rw [List.intercalate_cons_cons, List.append_assoc,
            List.head?_append_of_ne_nil _ areTokens.1.present]
          rfl

private theorem getLast?_intercalate {tokens : List (List Char)}
    (areTokens : ∀ token ∈ tokens, IsToken token) :
    ([' '].intercalate tokens).getLast? = tokens.getLast?.bind List.getLast? := by
  induction tokens with
  | nil => rfl
  | cons token rest ih =>
      rw [List.forall_mem_cons] at areTokens
      cases rest with
      | nil =>
          rw [List.intercalate_singleton]
          rfl
      | cons next more =>
          have later : [' '].intercalate (next :: more) ≠ [] := by
            have again := spaceTokens_intercalate_tokens areTokens.2
            intro empty
            rw [empty] at again
            cases again
          rw [List.intercalate_cons_cons, List.getLast?_append_of_ne_nil _ later, ih areTokens.2]
          rfl

end Spaces

section Commas

variable {text : List Char} {tokens : List (List Char)}

/-- What is read between commas is trimmed and holds no comma. -/
theorem isTrimmed_of_mem_commaTokens {token : List Char} (member : token ∈ commaTokens text) :
    IsTrimmed token ∧ ',' ∉ token := by
  have trimmed : token ∈ (text.splitOn ',').map trimChars := by
    unfold commaTokens at member
    dsimp only at member
    split at member
    · exact List.dropLast_subset _ member
    · exact member
  obtain ⟨piece, split, rfl⟩ := List.mem_map.mp trimmed
  refine ⟨isTrimmed_trimChars piece, fun comma => ?_⟩
  have apart := of_mem_splitOnP split ',' (trimChars_subset piece comma)
  cases apart.2

/-- A text without a comma is one part, unless it is blank. -/
theorem commaTokens_of_uncut (uncut : ',' ∉ text) :
    commaTokens text = if trimChars text = [] then [] else [trimChars text] := by
  unfold commaTokens
  rw [List.splitOn_eq_singleton uncut]
  simp

/-- The tokens between commas or spaces are those between spaces of each part between commas. -/
theorem commaOrSpaceTokens_eq (text : List Char) :
    commaOrSpaceTokens text = (commaTokens text).flatMap spaceTokens :=
  spaceTokens_intercalate _

/-- A text that is not empty and holds neither a blank nor a comma. -/
structure IsWord (text : List Char) : Prop where
  present : text ≠ []
  visible : ∀ char ∈ text, isBlank char = false ∧ char ≠ ','

/-- A text of visible characters without commas is a word. -/
theorem IsWord.of_all (present : text ≠ [])
    (visible : text.all (fun char => !isBlank char && char != ',') = true) : IsWord text := by
  refine ⟨present, fun char member => ?_⟩
  have shows := List.all_eq_true.mp visible char member
  simpa using shows

/-- A word is a token. -/
theorem IsWord.isToken (word : IsWord text) : IsToken text :=
  ⟨word.present, fun char member => isTokenSpace_of_visible (word.visible char member).1⟩

/-- A list of tokens of which none holds a comma and the ends are no blanks. Within the list
there may be blanks that separate no tokens. -/
structure IsTokenList (tokens : List (List Char)) : Prop where
  areTokens : ∀ token ∈ tokens, IsToken token
  uncut : ∀ token ∈ tokens, ',' ∉ token
  begins : ∀ token ∈ tokens.head?, ∀ char ∈ token.head?, isBlank char = false
  ends : ∀ token ∈ tokens.getLast?, ∀ char ∈ token.getLast?, isBlank char = false

namespace IsTokenList

/-- No tokens are a list of tokens. -/
theorem nil : IsTokenList [] := ⟨nofun, nofun, nofun, nofun⟩

/-- Two lists of tokens make one. -/
theorem append {others : List (List Char)} (first : IsTokenList tokens)
    (second : IsTokenList others) : IsTokenList (tokens ++ others) where
  areTokens := List.forall_mem_append.mpr ⟨first.areTokens, second.areTokens⟩
  uncut := List.forall_mem_append.mpr ⟨first.uncut, second.uncut⟩
  begins token member := by
    rw [List.head?_append, Option.mem_def, Option.or_eq_some_iff] at member
    rcases member with before | ⟨-, behind⟩
    · exact first.begins token before
    · exact second.begins token behind
  ends token member := by
    rw [List.getLast?_append, Option.mem_def, Option.or_eq_some_iff] at member
    rcases member with behind | ⟨-, before⟩
    · exact second.ends token behind
    · exact first.ends token before

/-- The list stays one if each token is kept or becomes a word. -/
theorem map {α : Type} {texts : List α} {old new : α → List Char}
    (list : IsTokenList (texts.map old))
    (each : ∀ text ∈ texts, new text = old text ∨ IsWord (new text)) :
    IsTokenList (texts.map new) where
  areTokens := by
    have areTokens := list.areTokens
    rw [List.forall_mem_map] at areTokens ⊢
    intro text member
    rcases each text member with same | word
    · rw [same]
      exact areTokens text member
    · exact word.isToken
  uncut := by
    have uncut := list.uncut
    rw [List.forall_mem_map] at uncut ⊢
    intro text member
    rcases each text member with same | word
    · rw [same]
      exact uncut text member
    · exact fun comma => (word.visible ',' comma).2 rfl
  begins := by
    have begins := list.begins
    rw [List.head?_map] at begins ⊢
    intro changed member char inside
    obtain ⟨text, first, rfl⟩ := Option.map_eq_some_iff.mp member
    rcases each text (List.mem_of_mem_head? first) with same | word
    · rw [same] at inside
      exact begins _ (Option.mem_map_of_mem old first) char inside
    · exact (word.visible char (List.mem_of_mem_head? inside)).1
  ends := by
    have ends := list.ends
    rw [List.getLast?_map] at ends ⊢
    intro changed member char inside
    obtain ⟨text, last, rfl⟩ := Option.map_eq_some_iff.mp member
    rcases each text (List.mem_of_mem_getLast? last) with same | word
    · rw [same] at inside
      exact ends _ (Option.mem_map_of_mem old last) char inside
    · exact (word.visible char (List.mem_of_mem_getLast? inside)).1

/-- Written out with spaces, the tokens have no comma. -/
theorem uncut_intercalate (list : IsTokenList tokens) : ',' ∉ [' '].intercalate tokens := by
  have uncut := list.uncut
  clear list
  induction tokens with
  | nil => exact List.not_mem_nil
  | cons token rest ih =>
      rw [List.forall_mem_cons] at uncut
      cases rest with
      | nil =>
          rw [List.intercalate_singleton]
          exact uncut.1
      | cons next more =>
          rw [List.intercalate_cons_cons, List.mem_append, List.mem_append, List.mem_singleton]
          rintro ((before | space) | behind)
          · exact uncut.1 before
          · cases space
          · exact ih uncut.2 behind

/-- Written out with spaces, the tokens are trimmed. -/
theorem isTrimmed_intercalate (list : IsTokenList tokens) :
    IsTrimmed ([' '].intercalate tokens) where
  begins := by
    rw [head?_intercalate list.areTokens]
    intro char member
    obtain ⟨token, first, inside⟩ := Option.bind_eq_some_iff.mp member
    exact list.begins token first char inside
  ends := by
    rw [getLast?_intercalate list.areTokens]
    intro char member
    obtain ⟨token, last, inside⟩ := Option.bind_eq_some_iff.mp member
    exact list.ends token last char inside

/-- Tokens of a list that is written out with spaces are read again. -/
theorem commaOrSpaceTokens_intercalate (list : IsTokenList tokens) :
    commaOrSpaceTokens ([' '].intercalate tokens) = tokens := by
  have joined : commaOrSpaceTokens ([' '].intercalate tokens) =
      spaceTokens ([' '].intercalate tokens) := by
    rw [commaOrSpaceTokens_eq, commaTokens_of_uncut list.uncut_intercalate,
      list.isTrimmed_intercalate.trimChars_eq]
    split
    · next empty =>
      rw [empty]
      rfl
    · rw [List.flatMap_singleton]
  rw [joined, spaceTokens_intercalate_tokens list.areTokens]

end IsTokenList

/-- The tokens between the spaces of a trimmed part are a list. -/
theorem IsTrimmed.isTokenList_spaceTokens (trimmed : IsTrimmed text) (uncut : ',' ∉ text) :
    IsTokenList (spaceTokens text) where
  areTokens _ member := isToken_of_mem_spaceTokens member
  uncut _ member comma := uncut (subset_of_mem_spaceTokens member comma)
  begins token first char inside := by
    rw [head?_spaceTokens (fun char first => isTokenSpace_of_visible (trimmed.begins char first))
      token first] at inside
    exact trimmed.begins char inside
  ends token final char inside := by
    cases last : text.getLast? with
    | none =>
        rw [List.getLast?_eq_none_iff.mp last] at final
        cases final
    | some visible =>
        obtain ⟨known, same, ending⟩ :=
          getLast?_spaceTokens last (isTokenSpace_of_visible (trimmed.ends visible last))
        rw [same] at final
        obtain rfl := Option.some.inj final
        rw [ending] at inside
        obtain rfl := Option.some.inj inside
        exact trimmed.ends visible last

/-- **The tokens between commas or spaces are a list.** -/
theorem isTokenList_commaOrSpaceTokens (text : List Char) :
    IsTokenList (commaOrSpaceTokens text) := by
  rw [commaOrSpaceTokens_eq]
  have parts : ∀ part ∈ commaTokens text, IsTrimmed part ∧ ',' ∉ part :=
    fun part => isTrimmed_of_mem_commaTokens
  generalize commaTokens text = tokens at parts
  induction tokens with
  | nil => exact .nil
  | cons part rest ih =>
      rw [List.forall_mem_cons] at parts
      rw [List.flatMap_cons]
      exact (parts.1.1.isTokenList_spaceTokens parts.1.2).append (ih parts.2)

end Commas

end MarkupTree.Text
