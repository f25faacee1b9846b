import MarkupTree.Proofs.Json.Written

/-! # The value of a text

A reader that takes an object apart meets the fields that the value of the object has, with the
same names in the same order, and takes from each the value that it has there
(`Json.Parts.exists_fields`). So what is read from a text that has a value is a matter of that
value, whatever blanks and escapes the text has.
-/

namespace MarkupTree.Json

variable {reader : NumberReader}

/-- The value of a text, unless brackets are nested in it deeper than a reader allows. -/
def ofText? (reader : NumberReader) (text : String) : Option Json :=
  match Outline.ofText reader text with
  | [piece] => piece.value? depthLimit
  | _ => none

/-- A text with a value has one piece as its outline. -/
theorem exists_piece_of_ofText? {text : String} {value : Json}
    (has : ofText? reader text = some value) :
    ∃ piece, Outline.ofText reader text = [piece] ∧ piece.value? depthLimit = some value := by
  unfold ofText? at has
  split at has
  · next piece only => exact ⟨piece, only, has⟩
  · cases has

/-- **What is written has a value**, that of the same fields and items with each number as the
reader reads it. -/
theorem ofText?_render {json : Json} (shallow : json.nesting ≤ depthLimit)
    (inRange : json.InRange reader) : ofText? reader json.render = some (json.reread reader) := by
  rw [ofText?, Outline.ofText_render]
  exact value?_piece json shallow inRange

/-- A text of one piece is read as its piece is. -/
theorem readDocument_of_piece {α : Type} {read : Piece → Except ReadFault α} {text : String}
    {piece : Piece} (only : Outline.ofText reader text = [piece]) :
    readDocument reader read text = read piece := by
  rw [readDocument, only]
  dsimp only
  cases read piece <;> rfl

namespace Piece

variable {piece : Piece} {depth : Nat}

/-- A part of an object is a field of its value. -/
def IsField (depth : Nat) (part : String × Piece) (field : String × Json) : Prop :=
  part.1 = field.1 ∧ part.2.value? depth = some field.2

/-- Only a text has a text as its value. -/
theorem eq_of_value?_string {value : String} (has : piece.value? depth = some (.string value)) :
    piece = .word (.string (some value)) := by
  cases piece with
  | word token =>
      have scalar : scalar? token = some (.string value) := has
      unfold scalar? at scalar
      split at scalar <;> simp_all
  | group bracket inside closed =>
      cases bracket <;> simp [value?] at has

/-- Only what stands between curly brackets has an object as its value. -/
theorem exists_group_of_value?_object {fields : List (String × Json)}
    (has : piece.value? depth = some (.object fields)) :
    ∃ inside, piece = .group .curly inside true ∧
      fieldValues? (depth - 1) inside = some fields := by
  cases piece with
  | word token =>
      have scalar : scalar? token = some (.object fields) := has
      unfold scalar? at scalar
      split at scalar <;> simp at scalar
  | group bracket inside closed =>
      cases bracket with
      | square => simp [value?] at has
      | curly =>
          simp only [value?] at has
          split at has
          · next whole =>
            obtain ⟨rfl, -⟩ := whole
            obtain ⟨values, inner, same⟩ := Option.map_eq_some_iff.mp has
            cases same
            exact ⟨inside, rfl, inner⟩
          · cases has

end Piece

namespace Parts

private theorem exists_moreFields {depth : Nat} {inside : List Piece}
    {fields : List (String × Json)} (values : Piece.moreFieldValues? depth inside = some fields) :
    ∃ parts, moreFields inside = ⟨parts, true⟩ ∧
      List.Forall₂ (Piece.IsField depth) parts fields := by
  -- the cases of the value, which has fewer than the parts: a break there leaves no value
  unfold Piece.moreFieldValues? at values
  split at values
  · obtain rfl := Option.some.inj values
    exact ⟨[], rfl, .nil⟩
  · next name piece rest =>
    split at values
    · next value others first later =>
      obtain ⟨parts, read, each⟩ := exists_moreFields later
      obtain rfl := Option.some.inj values
      refine ⟨(name, piece) :: parts, ?_, .cons ⟨rfl, first⟩ each⟩
      rw [moreFields, read, Parts.cons]
    · cases values
  · cases values

/-- **The parts of an object are the fields of its value.** -/
theorem exists_fields {depth : Nat} {inside : List Piece} {fields : List (String × Json)}
    (values : Piece.fieldValues? depth inside = some fields) :
    ∃ parts, Parts.fields inside = ⟨parts, true⟩ ∧
      List.Forall₂ (Piece.IsField depth) parts fields := by
  unfold Piece.fieldValues? at values
  split at values
  · obtain rfl := Option.some.inj values
    exact ⟨[], rfl, .nil⟩
  · next name piece rest =>
    split at values
    · next value others first later =>
      obtain ⟨parts, read, each⟩ := exists_moreFields later
      obtain rfl := Option.some.inj values
      refine ⟨(name, piece) :: parts, ?_, .cons ⟨rfl, first⟩ each⟩
      rw [Parts.fields, read, Parts.cons]
    · cases values
  · cases values

end Parts

end MarkupTree.Json
