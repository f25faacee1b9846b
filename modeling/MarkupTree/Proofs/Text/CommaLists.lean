import MarkupTree.Proofs.Text.Tokens

/-! # Lists between commas

A text is cut at its commas into parts, of which there is at least one (`Text.commaParts`). Each
part gives a token, which is the part without the blanks at its ends, but for the last part, which
gives none if it is blank (`Text.commaSeparated_of_parts`).

So an empty token shows in a text that lists it if something stands behind it, and the text that
lists tokens has one more comma where the last token is empty (`Text.commaList`). Read again, it
gives the tokens, provided that they have no comma in them and no blank at their ends. The tokens
of every text are such (`Text.commaSeparated_commaList`).
-/

namespace MarkupTree.Text

/-- The parts of a text between its commas, in order. -/
def commaParts (text : String) : List String := (text.toList.splitOn ',').map String.ofList

/-- The text that lists tokens with a separator between them. Behind an empty last token stands
one more comma. -/
def commaList (separator : String) (tokens : List String) : String :=
  separator.intercalate tokens ++ if tokens.getLast? = some "" then "," else ""

/-- A token that a list between commas can have: no comma in it and no blank at its ends. -/
structure IsCommaToken (token : String) : Prop where
  trimmed : IsTrimmed token.toList
  uncut : ',' ∉ token.toList

section Parts

variable {text : String} {parts front : List String} {last : String}

theorem toList_commaParts : (commaParts text).map String.toList = text.toList.splitOn ',' :=
  map_toList_map_ofList _

/-- The parts of a text are the texts without commas that make it up when commas are put between
them. -/
theorem commaParts_eq_iff :
    commaParts text = parts ↔
      parts ≠ [] ∧ (∀ part ∈ parts, ',' ∉ part.toList) ∧ ",".intercalate parts = text := by
  have comma : ",".toList = [','] := by decide
  constructor
  · rintro rfl
    refine ⟨?_, ?_, ?_⟩
    · rw [commaParts, ne_eq, List.map_eq_nil_iff]
      exact List.splitOn_ne_nil ',' _
    · intro part member inside
      have piece : part.toList ∈ text.toList.splitOn ',' :=
        toList_commaParts ▸ List.mem_map_of_mem member
      cases (of_mem_splitOnP piece ',' inside).2
    · rw [← String.toList_inj, String.toList_intercalate, comma, toList_commaParts,
        List.intercalate_splitOn]
  · rintro ⟨present, uncut, rfl⟩
    have pieces : (",".intercalate parts).toList.splitOn ',' = parts.map String.toList := by
      rw [String.toList_intercalate, comma]
      apply List.splitOn_intercalate
      · rw [List.forall_mem_map]
        exact uncut
      · rwa [ne_eq, List.map_eq_nil_iff]
    rw [commaParts, pieces, map_ofList_map_toList]

/-- **Each part gives a token, but a blank last one.** -/
theorem commaSeparated_of_parts (cut : commaParts text = front ++ [last]) :
    commaSeparated text =
      front.map trim ++ if isBlankText last = true then [] else [trim last] := by
  have trimmed : (text.toList.splitOn ',').map trimChars =
      (front.map trim).map String.toList ++ [(trim last).toList] := by
    have pieces := congrArg (List.map fun part => (trim part).toList) cut
    simpa [commaParts, trim, List.map_map, Function.comp_def] using pieces
  have empty : (trim last).toList = [] ↔ isBlankText last = true := by
    rw [← trim_eq_empty_iff, String.toList_eq_nil_iff]
  simp only [commaSeparated, commaTokens, trimmed, List.getLast?_concat, Option.some.injEq,
    List.dropLast_concat, empty]
  split
  · rw [map_ofList_map_toList, List.append_nil]
  · rw [List.map_append, map_ofList_map_toList, List.map_singleton, String.ofList_toList]

/-- Parts that are put together with commas give a token each, if one more comma stands behind a
blank last part. -/
theorem commaSeparated_intercalate (present : parts ≠ [])
    (uncut : ∀ part ∈ parts, ',' ∉ part.toList) :
    commaSeparated (",".intercalate parts ++
      if (parts.map trim).getLast? = some "" then "," else "") = parts.map trim := by
  obtain ⟨front, last, rfl⟩ := (List.eq_nil_or_concat' parts).resolve_left present
  simp only [List.map_append, List.map_singleton, List.getLast?_concat, Option.some.injEq,
    trim_eq_empty_iff]
  split
  · -- The additional comma makes an empty last part, which gives no token.
    have cut : commaParts (",".intercalate (front ++ [last]) ++ ",") = front ++ [last] ++ [""] := by
      refine commaParts_eq_iff.mpr ⟨by simp, ?_, ?_⟩
      · rw [List.forall_mem_append, List.forall_mem_singleton]
        exact ⟨uncut, List.not_mem_nil⟩
      · rw [String.intercalate_append_of_ne_nil present (List.cons_ne_nil _ _),
          String.intercalate_singleton, String.append_empty]
    have blank : isBlankText "" = true := rfl
    rw [commaSeparated_of_parts cut, if_pos blank, List.map_append, List.append_nil,
      List.map_singleton]
  · next visible =>
    have cut : commaParts (",".intercalate (front ++ [last])) = front ++ [last] :=
      commaParts_eq_iff.mpr ⟨present, uncut, rfl⟩
    rw [String.append_empty, commaSeparated_of_parts cut, if_neg visible]

end Parts

/-- Blanks behind each separating comma are blanks in front of the parts behind the commas. -/
theorem intercalate_comma_append (blanks first : String) (rest : List String) :
    ("," ++ blanks).intercalate (first :: rest) =
      ",".intercalate (first :: rest.map (blanks ++ ·)) := by
  induction rest generalizing first with
  | nil => rfl
  | cons next rest ih =>
      rw [String.intercalate_cons_cons, ih, List.map_cons, String.intercalate_cons_cons,
        String.intercalate_cons_append]
      simp only [String.append_assoc]

section Tokens

variable {blanks : String} {tokens : List String}

/-- Behind blanks that are trimmed, a token stays as it is. -/
theorem IsCommaToken.trim_append {token : String} (isToken : IsCommaToken token)
    (blank : isBlankText blanks = true) : trim (blanks ++ token) = token := by
  rw [trim, String.toList_append, isToken.trimmed.trimChars_append (List.all_eq_true.mp blank),
    String.ofList_toList]

theorem IsCommaToken.trim_eq {token : String} (isToken : IsCommaToken token) :
    trim token = token := by
  rw [trim, isToken.trimmed.trimChars_eq, String.ofList_toList]

theorem isCommaToken_of_mem {text token : String} (member : token ∈ commaSeparated text) :
    IsCommaToken token := by
  obtain ⟨chars, inside, rfl⟩ := List.mem_map.mp member
  obtain ⟨trimmed, uncut⟩ := isTrimmed_of_mem_commaTokens inside
  constructor
  · rwa [String.toList_ofList]
  · rwa [String.toList_ofList]

/-- Tokens are read again from the text that lists them, whatever blanks stand behind the
commas. -/
theorem commaSeparated_commaList_append (areTokens : ∀ token ∈ tokens, IsCommaToken token)
    (blank : isBlankText blanks = true) (uncut : ',' ∉ blanks.toList) :
    commaSeparated (commaList ("," ++ blanks) tokens) = tokens := by
  cases tokens with
  | nil => rfl
  | cons first rest =>
      rw [List.forall_mem_cons] at areTokens
      have trimmed : (first :: rest.map (blanks ++ ·)).map trim = first :: rest := by
        have others : rest.map (trim ∘ (blanks ++ ·)) = rest.map id :=
          List.map_congr_left fun token member => (areTokens.2 token member).trim_append blank
        rw [List.map_cons, List.map_map, areTokens.1.trim_eq, others, List.map_id]
      have uncutParts : ∀ part ∈ first :: rest.map (blanks ++ ·), ',' ∉ part.toList := by
        rw [List.forall_mem_cons, List.forall_mem_map]
        refine ⟨areTokens.1.uncut, fun token member => ?_⟩
        rw [String.toList_append, List.mem_append, not_or]
        exact ⟨uncut, (areTokens.2 token member).uncut⟩
      rw [commaList, intercalate_comma_append, ← trimmed]
      exact commaSeparated_intercalate (List.cons_ne_nil _ _) uncutParts

end Tokens

/-- **Lists between commas are read again.** Tokens without commas in them and without blanks at
their ends come back from the text that lists them with commas, with or without a space behind
each, and with one more comma behind an empty last token. The tokens of a text are such: one for
each part of the text between its commas in their order, but none for a blank last part. -/
theorem commaSeparated_commaList :
    (∀ tokens : List String, (∀ token ∈ tokens, IsCommaToken token) →
      ∀ separator ∈ [",", ", "], commaSeparated (commaList separator tokens) = tokens) ∧
      ∀ text : String,
        (∀ token ∈ commaSeparated text, IsCommaToken token) ∧
          (∃ front last, commaParts text = front ++ [last] ∧
            commaSeparated text =
              front.map trim ++ if isBlankText last = true then [] else [trim last]) ∧
          ∀ separator ∈ [",", ", "],
            commaSeparated (commaList separator (commaSeparated text)) = commaSeparated text := by
  have again (tokens : List String) (areTokens : ∀ token ∈ tokens, IsCommaToken token) :
      ∀ separator ∈ [",", ", "], commaSeparated (commaList separator tokens) = tokens := by
    rw [List.forall_mem_cons, List.forall_mem_singleton]
    have bare : commaSeparated (commaList ("," ++ "") tokens) = tokens :=
      commaSeparated_commaList_append areTokens rfl (by decide)
    have spaced : commaSeparated (commaList ("," ++ " ") tokens) = tokens :=
      commaSeparated_commaList_append areTokens rfl (by decide)
    exact ⟨bare, spaced⟩
  refine ⟨again, fun text => ?_⟩
  have areTokens : ∀ token ∈ commaSeparated text, IsCommaToken token :=
    fun token => isCommaToken_of_mem
  have present : commaParts text ≠ [] := (commaParts_eq_iff.mp rfl).1
  obtain ⟨front, last, cut⟩ := (List.eq_nil_or_concat' (commaParts text)).resolve_left present
  exact ⟨areTokens, ⟨front, last, cut, commaSeparated_of_parts cut⟩, again _ areTokens⟩

/-- Empty tokens at all places, and a token with a blank in it. -/
theorem commaSeparated_commaList_empty :
    (∀ token ∈ ["", "a b", "", ""], IsCommaToken token) ∧
      commaList ", " ["", "a b", "", ""] = ", a b, , ," ∧
        commaSeparated ", a b, , ," = ["", "a b", "", ""] := by
  have areTokens : ∀ token ∈ ["", "a b", "", ""], IsCommaToken token := by
    have empty : IsCommaToken "" := ⟨⟨nofun, nofun⟩, List.not_mem_nil⟩
    have word : IsCommaToken "a b" := by
      refine ⟨⟨fun char first => ?_, fun char last => ?_⟩, by decide⟩
      · cases first
        rfl
      · cases last
        rfl
    simp only [List.forall_mem_cons]
    exact ⟨empty, word, empty, empty, nofun⟩
  have listed : commaList ", " ["", "a b", "", ""] = ", a b, , ," := by decide
  have again := commaSeparated_commaList.1 _ areTokens ", " (by decide)
  rw [listed] at again
  exact ⟨areTokens, listed, again⟩

end MarkupTree.Text
