import MarkupTree.Proofs.Selector.TagNames

/-! # Selectors spelled out

A selector that was read says a tag name, an id at most and classes. Spelled out they are a
selector again (`Selector.text`): the tag name, the id behind a hash sign, and each class behind a
point. Reading that gives what was read (`Selector.parse_spelledOut`), so every text that is a
selector has a normal form which says the same.

Pieces that are written one after the other are read as these pieces if only the first one is a
tag name (`Selector.pieces_flatMap_chars`), because each sign ends the name in front of it. What
is read consists of names (`Selector.isProper_parse`): each piece is a run, and lower-casing
leaves a name a name and is not changed by lower-casing again.
-/

namespace MarkupTree

open Text

namespace Selector

/-- A name: characters that may stand in one, at least one of them. -/
def IsName (text : String) : Prop := text ≠ "" ∧ text.toList.all isNameChar = true

instance (text : String) : Decidable (IsName text) :=
  inferInstanceAs (Decidable (text ≠ "" ∧ text.toList.all isNameChar = true))

/-- What a selector can say: names, of which the tag name is in lower case. -/
structure IsProper (selector : Selector) : Prop where
  tagName : IsName selector.tagName
  small : lowercase selector.tagName = selector.tagName
  id : ∀ id ∈ selector.id, IsName id
  classNames : ∀ name ∈ selector.classNames, IsName name

namespace Piece

def name : Piece → List Char
  | .tagName name => name
  | .id name => name
  | .className name => name

/-- How a piece is written: an id behind a hash sign and a class behind a point. -/
def chars : Piece → List Char
  | .tagName name => name
  | .id name => '#' :: name
  | .className name => '.' :: name

/-- The name of the piece is one that can be read. -/
def IsNamed (piece : Piece) : Prop :=
  piece.name ≠ [] ∧ ∀ char ∈ piece.name, isNameChar char = true

end Piece

/-- The pieces that say what the selector says. -/
def written (selector : Selector) : List Piece :=
  .tagName selector.tagName.toList ::
    (selector.id.toList.map fun id => .id id.toList) ++
      selector.classNames.map fun name => .className name.toList

/-- The selector spelled out. -/
def text (selector : Selector) : String :=
  String.ofList (selector.written.flatMap Piece.chars)

example : text ⟨"a", some "top", ["alpha", "bravo"]⟩ = "a#top.alpha.bravo" := by decide

/-- A piece is read up to the next character that may not stand in a name. -/
theorem pieces_chars_append {piece : Piece} (named : piece.IsNamed) {after : List Char}
    (stops : ∀ char ∈ after.head?, isNameChar char = false) :
    pieces (piece.chars ++ after) = piece :: pieces after := by
  obtain ⟨present, inside⟩ := named
  have taken := takeWhile_stretch inside stops
  have left := dropWhile_stretch inside stops
  cases piece with
  | tagName name =>
      obtain ⟨first, rest, rfl⟩ := List.exists_cons_of_ne_nil present
      have front : isNameChar first = true := inside first List.mem_cons_self
      simp only [Piece.name, List.cons_append, List.takeWhile_cons_of_pos front,
        List.dropWhile_cons_of_pos front] at taken left
      rw [Piece.chars, List.cons_append, pieces, if_pos front, taken, left]
  | id name =>
      obtain ⟨first, rest, rfl⟩ := List.exists_cons_of_ne_nil present
      have sign : marked? '#' = some .id := rfl
      simp only [Piece.name] at taken left
      rw [Piece.chars, List.cons_append, pieces_of_marked (by decide) sign taken, left]
  | className name =>
      obtain ⟨first, rest, rfl⟩ := List.exists_cons_of_ne_nil present
      have sign : marked? '.' = some .className := rfl
      simp only [Piece.name] at taken left
      rw [Piece.chars, List.cons_append, pieces_of_marked (by decide) sign taken, left]

/-- A piece that is no tag name is written with a sign in front. -/
theorem head?_chars_of_marked {piece : Piece} (marked : piece.tagName? = none)
    (after : List Char) :
    ∀ char ∈ (piece.chars ++ after).head?, isNameChar char = false := by
  cases piece with
  | tagName name => cases marked
  | id name =>
      rintro char ⟨⟩
      decide
  | className name =>
      rintro char ⟨⟩
      decide

/-- **Pieces that are written are read again**, if none but the first one is a tag name. -/
theorem pieces_flatMap_chars {found : List Piece} (named : ∀ piece ∈ found, piece.IsNamed)
    (marked : ∀ piece ∈ found.tail, piece.tagName? = none) :
    pieces (found.flatMap Piece.chars) = found := by
  induction found with
  | nil => rw [List.flatMap_nil, pieces]
  | cons piece rest ih =>
      rw [List.forall_mem_cons] at named
      have others : ∀ later ∈ rest.tail, later.tagName? = none :=
        fun later member => marked later (List.mem_of_mem_tail member)
      have stops : ∀ char ∈ (rest.flatMap Piece.chars).head?, isNameChar char = false := by
        cases rest with
        | nil =>
            intro char first
            cases first
        | cons next further =>
            exact head?_chars_of_marked (marked next List.mem_cons_self) _
      rw [List.flatMap_cons, pieces_chars_append named.1 stops, ih named.2 others]

theorem IsName.isNamed {text : String} (name : IsName text) :
    text.toList ≠ [] ∧ ∀ char ∈ text.toList, isNameChar char = true :=
  ⟨fun empty => name.1 (String.toList_eq_nil_iff.mp empty), List.all_eq_true.mp name.2⟩

/-- **What a proper selector says is read from its spelling**, whatever the default. -/
theorem parse_text {selector : Selector} (proper : selector.IsProper) (defaultTagName : String) :
    parse selector.text defaultTagName = selector := by
  have named : ∀ piece ∈ selector.written, piece.IsNamed := by
    intro piece member
    simp only [written, List.cons_append, List.mem_cons, List.mem_append, List.mem_map,
      Option.mem_toList] at member
    rcases member with rfl | ⟨id, given, rfl⟩ | ⟨name, listed, rfl⟩
    · exact proper.tagName.isNamed
    · exact (proper.id id given).isNamed
    · exact (proper.classNames name listed).isNamed
  have marked : ∀ piece ∈ selector.written.tail, piece.tagName? = none := by
    intro piece member
    simp only [written, List.cons_append, List.tail_cons, List.mem_append, List.mem_map] at member
    rcases member with ⟨id, -, rfl⟩ | ⟨name, -, rfl⟩ <;> rfl
  have read : pieces selector.text.toList = selector.written := by
    rw [text, String.toList_ofList, pieces_flatMap_chars named marked]
  have tagNames : selector.written.filterMap Piece.tagName? = [selector.tagName] := by
    simp [written, List.filterMap_map, Function.comp_def, Piece.tagName?]
  have ids : selector.written.filterMap Piece.id? = selector.id.toList := by
    simp [written, List.filterMap_cons, List.filterMap_map, Function.comp_def, Piece.id?]
  have classNames : selector.written.filterMap Piece.className? = selector.classNames := by
    simp [written, List.filterMap_cons, List.filterMap_map, Function.comp_def, Piece.className?]
  rw [parse]
  simp only [read, tagNames, ids, classNames]
  obtain ⟨tagName, id, classNames⟩ := selector
  cases id <;> simp [proper.small]

/-- The names that pieces of a selector say are those of runs. -/
theorem isName_of_mem_filterMap {read : Piece → Option String} {holds : Run → Bool}
    (same : ∀ run, read (pieceOf run) = if holds run then some run.text else none)
    {text : List Char} {name : String} (member : name ∈ (pieces text).filterMap read) :
    IsName name := by
  rw [pieces_eq_map_runs, filterMap_map_pieceOf same] at member
  obtain ⟨run, found, rfl⟩ := List.mem_map.mp member
  have maximal := (mem_runs_iff text run).mp (List.mem_filter.mp found).1
  refine ⟨fun empty => maximal.nonempty (String.ofList_eq_empty_iff.mp empty), ?_⟩
  rw [Run.text, String.toList_ofList]
  exact List.all_eq_true.mpr maximal.pass

/-- The lower case of a name is a name. -/
theorem IsName.lowercase {name : String} (proper : IsName name) : IsName (lowercase name) :=
  ⟨fun empty => proper.1 (eq_empty_of_lowercase empty),
    (all_isNameChar_lowercase name).trans proper.2⟩

/-- What is read from any text is proper, as long as the default is a name. -/
theorem isProper_parse (selector : String) {defaultTagName : String}
    (named : IsName defaultTagName) : (parse selector defaultTagName).IsProper where
  tagName := by
    apply IsName.lowercase
    cases last : ((pieces selector.toList).filterMap Piece.tagName?).getLast? with
    | none => exact named
    | some name => exact isName_of_mem_filterMap tagName?_pieceOf (List.mem_of_getLast? last)
  small := lowercase_lowercase _
  id := fun _ last => isName_of_mem_filterMap id?_pieceOf (List.mem_of_getLast? last)
  classNames := fun _ member => isName_of_mem_filterMap className?_pieceOf member

/-- **Selectors have a normal form.** What is read from a text, with a name as the default tag
name, is proper, and its spelling is read as the same with any default. Every proper selector is
read from its spelling, and from the spelling of no other one. -/
theorem parse_spelledOut :
    (∀ selector defaultTagName, IsName defaultTagName →
      (parse selector defaultTagName).IsProper ∧
        ∀ other, parse (parse selector defaultTagName).text other =
          parse selector defaultTagName) ∧
      ∀ selector : Selector, selector.IsProper →
        (∀ other, parse selector.text other = selector) ∧
          ∀ (second : Selector) (other : String), second.IsProper →
            (parse second.text other = selector ↔ second.text = selector.text) := by
  refine ⟨?_, ?_⟩
  · intro selector defaultTagName named
    have proper := isProper_parse selector named
    exact ⟨proper, parse_text proper⟩
  · intro selector proper
    refine ⟨parse_text proper, ?_⟩
    intro second other secondProper
    constructor
    · intro same
      rw [← same, parse_text secondProper]
    · intro same
      rw [same, parse_text proper]

/-- A capital with a dot, whose small letter is two characters, a final sigma, and names that are
said twice. -/
theorem parse_spelledOut_finalSigma :
    IsName "div" ∧
      parse "b#x [İΑΣ] .a##y.a" "div" = ⟨"i̇ας", some "y", ["a", "a"]⟩ ∧
        IsProper ⟨"i̇ας", some "y", ["a", "a"]⟩ ∧
          text ⟨"i̇ας", some "y", ["a", "a"]⟩ = "i̇ας#y.a.a" ∧
            parse "i̇ας#y.a.a" "g" = parse "b#x [İΑΣ] .a##y.a" "div" ∧
              parse "i̇ας#y.a.a" "" = ⟨"i̇ας", some "y", ["a", "a"]⟩ := by
  have named : IsName "div" := by decide
  have said : parse "b#x [İΑΣ] .a##y.a" "div" = ⟨"i̇ας", some "y", ["a", "a"]⟩ := by
    decide +kernel
  have spelled : text ⟨"i̇ας", some "y", ["a", "a"]⟩ = "i̇ας#y.a.a" := by decide
  obtain ⟨reads, proper⟩ := parse_spelledOut
  obtain ⟨isProper, again⟩ := reads "b#x [İΑΣ] .a##y.a" "div" named
  rw [said] at isProper again
  have read := (proper _ isProper).1 ""
  rw [spelled] at again read
  exact ⟨named, said, isProper, spelled, said ▸ again "g", read⟩

end Selector

end MarkupTree
