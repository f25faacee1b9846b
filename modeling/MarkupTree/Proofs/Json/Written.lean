import MarkupTree.Json.Reading
import MarkupTree.Proofs.Json.NumberText
import MarkupTree.Proofs.Json.Quoted

/-! # Reading what was written

The text of a value has one piece as its outline (`Outline.ofText_render`), and the value of
that piece is the value that was written, with each number as the reader reads it back
(`Piece.value?_piece`). Gathering is followed through the text with any groups open and any
pieces before, so the induction goes along the value.
-/

namespace MarkupTree.Json

section Piece

variable (reader : NumberReader)

mutual

/-- The piece that the text of a value is outlined as. -/
def piece : Json → Piece
  | .null => .word .null
  | .boolean value => .word (.boolean value)
  | .number value _ =>
    if value.isFinite then
      .word (.number (reader.reread? value) (value.jsonChars.all Char.isDigit))
    else .word .null
  | .string value => .word (.string (some value))
  | .array items => .group .square (itemPieces items) true
  | .object fields => .group .curly (fieldPieces fields) true

/-- The pieces of the items of a list, with commas between them. -/
def itemPieces : List Json → List Piece
  | [] => []
  | item :: rest => piece item :: moreItemPieces rest

/-- The pieces of further items of a list, each behind a comma. -/
def moreItemPieces : List Json → List Piece
  | [] => []
  | item :: rest => .word .comma :: piece item :: moreItemPieces rest

/-- The pieces of the fields of an object, with commas between them. -/
def fieldPieces : List (String × Json) → List Piece
  | [] => []
  | (name, value) :: rest =>
    .word (.string (some name)) :: .word .colon :: piece value :: moreFieldPieces rest

/-- The pieces of further fields of an object, each behind a comma. -/
def moreFieldPieces : List (String × Json) → List Piece
  | [] => []
  | (name, value) :: rest =>
    .word .comma :: .word (.string (some name)) :: .word .colon :: piece value ::
      moreFieldPieces rest

end

end Piece

/-- A number ends where punctuation begins. -/
private theorem numberEnds_of_sign? {char : Char} {token : Token}
    (sign : Token.sign? char = some token) (rest : List Char) : NumberEnds (char :: rest) := by
  rintro first head
  obtain rfl := Option.some.inj head
  unfold Token.sign? at sign
  split at sign
  all_goals first | decide | cases sign

private theorem numberEnds_renderMoreItems (items : List Json) {after : List Char}
    (ends : NumberEnds after) : NumberEnds (renderMoreItems items ++ after) := by
  cases items with
  | nil => exact ends
  | cons item rest => exact numberEnds_of_sign? rfl _

private theorem numberEnds_renderMoreFields (fields : List (String × Json)) {after : List Char}
    (ends : NumberEnds after) : NumberEnds (renderMoreFields fields ++ after) := by
  cases fields with
  | nil => exact ends
  | cons field rest => exact numberEnds_of_sign? rfl _

namespace Outline

variable {reader : NumberReader} {groups : List OpenGroup} {current : List Piece}

/-! Scalars and punctuation become one piece each. -/

private theorem gather_null (after : List Char) :
    gather groups current (Token.scan reader ("null".toList ++ after)) =
      gather groups (.word .null :: current) (Token.scan reader after) := by
  have read : Token.scan reader ("null".toList ++ after) = .null :: Token.scan reader after :=
    Token.scan_of_scanFrom rfl rfl
  exact congrArg (gather groups current) read

private theorem gather_boolean (value : Bool) (after : List Char) :
    gather groups current
        (Token.scan reader ((if value then "true".toList else "false".toList) ++ after)) =
      gather groups (.word (.boolean value) :: current) (Token.scan reader after) := by
  have read : Token.scan reader ((if value then "true".toList else "false".toList) ++ after) =
      .boolean value :: Token.scan reader after := by
    cases value <;> exact Token.scan_of_scanFrom rfl rfl
  exact congrArg (gather groups current) read

private theorem gather_number {value : Number} (finite : value.isFinite = true)
    {after : List Char} (ends : NumberEnds after) :
    gather groups current (Token.scan reader (value.jsonChars ++ after)) =
      gather groups
        (.word (.number (reader.reread? value) (value.jsonChars.all Char.isDigit)) :: current)
        (Token.scan reader after) :=
  congrArg (gather groups current) (Token.scan_jsonChars reader finite ends)

private theorem gather_string (value : String) (after : List Char) :
    gather groups current (Token.scan reader (stringChars value ++ after)) =
      gather groups (.word (.string (some value)) :: current) (Token.scan reader after) :=
  congrArg (gather groups current) (Token.scan_stringChars reader value after)

private theorem gather_comma (after : List Char) :
    gather groups current (Token.scan reader (',' :: after)) =
      gather groups (.word .comma :: current) (Token.scan reader after) := by
  have read : Token.scan reader (',' :: after) = .comma :: Token.scan reader after :=
    Token.scan_of_sign? rfl rfl after
  exact congrArg (gather groups current) read

private theorem gather_colon (after : List Char) :
    gather groups current (Token.scan reader (':' :: after)) =
      gather groups (.word .colon :: current) (Token.scan reader after) := by
  have read : Token.scan reader (':' :: after) = .colon :: Token.scan reader after :=
    Token.scan_of_sign? rfl rfl after
  exact congrArg (gather groups current) read

private theorem gather_name (name : String) (after : List Char) :
    gather groups current (Token.scan reader (stringChars name ++ ':' :: after)) =
      gather groups (.word .colon :: .word (.string (some name)) :: current)
        (Token.scan reader after) := by
  rw [gather_string, gather_colon]

/-- Brackets around what is gathered piece by piece become one group. -/
theorem gather_group {bracket : Bracket} {opening closing : Char}
    (opens : Token.sign? opening = some (.opening bracket))
    (closes : Token.sign? closing = some (.closing bracket))
    (visible : Token.isSpace opening = false ∧ Token.isSpace closing = false)
    {chars after : List Char} {inside : List Piece}
    (gathered : ∀ groups, gather groups [] (Token.scan reader (chars ++ closing :: after)) =
      gather groups inside.reverse (Token.scan reader (closing :: after))) :
    gather groups current (Token.scan reader (opening :: (chars ++ [closing]) ++ after)) =
      gather groups (.group bracket inside true :: current) (Token.scan reader after) := by
  have text : opening :: (chars ++ [closing]) ++ after =
      opening :: (chars ++ closing :: after) := by simp
  have opened := @Token.scan_of_sign? reader _ _ opens visible.1 (chars ++ closing :: after)
  have closed := @Token.scan_of_sign? reader _ _ closes visible.2 after
  rw [text, opened, gather, gathered, closed, gather, if_pos rfl, List.reverse_reverse]

mutual

/-- The text of a value is gathered into its piece, whatever is open and whatever follows. -/
theorem gather_renderChars (json : Json) (groups : List OpenGroup) (current : List Piece)
    {after : List Char} (ends : NumberEnds after) :
    gather groups current (Token.scan reader (json.renderChars ++ after)) =
      gather groups (json.piece reader :: current) (Token.scan reader after) := by
  cases json with
  | null => exact gather_null after
  | boolean value => exact gather_boolean value after
  | number value isCount =>
      by_cases finite : value.isFinite = true
      · rw [renderChars, piece, if_pos finite, gather_number finite ends]
      · have text : value.jsonChars = "null".toList := by
          cases value with
          | nan => rfl
          | infinite negative => rfl
          | finite negative magnitude => exact absurd rfl finite
        rw [renderChars, piece, if_neg finite, text, gather_null]
  | string value => exact gather_string value after
  | array items =>
      refine gather_group rfl rfl ⟨rfl, rfl⟩ fun groups => ?_
      rw [gather_renderItems items groups [] (numberEnds_of_sign? rfl _), List.append_nil]
  | object fields =>
      refine gather_group rfl rfl ⟨rfl, rfl⟩ fun groups => ?_
      rw [gather_renderFields fields groups [] (numberEnds_of_sign? rfl _), List.append_nil]

/-- Items are gathered into their pieces. -/
theorem gather_renderItems (items : List Json) (groups : List OpenGroup) (current : List Piece)
    {after : List Char} (ends : NumberEnds after) :
    gather groups current (Token.scan reader (renderItems items ++ after)) =
      gather groups ((itemPieces reader items).reverse ++ current) (Token.scan reader after) := by
  cases items with
  | nil => rfl
  | cons item rest =>
      rw [renderItems, List.append_assoc,
        gather_renderChars item _ _ (numberEnds_renderMoreItems rest ends),
        gather_renderMoreItems rest _ _ ends, itemPieces, List.reverse_cons, List.append_assoc]
      rfl

/-- Further items are gathered into their pieces. -/
theorem gather_renderMoreItems (items : List Json) (groups : List OpenGroup)
    (current : List Piece) {after : List Char} (ends : NumberEnds after) :
    gather groups current (Token.scan reader (renderMoreItems items ++ after)) =
      gather groups ((moreItemPieces reader items).reverse ++ current)
        (Token.scan reader after) := by
  cases items with
  | nil => rfl
  | cons item rest =>
      rw [renderMoreItems, List.cons_append, gather_comma, List.append_assoc,
        gather_renderChars item _ _ (numberEnds_renderMoreItems rest ends),
        gather_renderMoreItems rest _ _ ends, moreItemPieces, List.reverse_cons,
        List.reverse_cons, List.append_assoc, List.append_assoc]
      rfl

/-- Fields are gathered into their pieces. -/
theorem gather_renderFields (fields : List (String × Json)) (groups : List OpenGroup)
    (current : List Piece) {after : List Char} (ends : NumberEnds after) :
    gather groups current (Token.scan reader (renderFields fields ++ after)) =
      gather groups ((fieldPieces reader fields).reverse ++ current) (Token.scan reader after) := by
  cases fields with
  | nil => rfl
  | cons field rest =>
      obtain ⟨name, value⟩ := field
      rw [renderFields, List.append_assoc, List.cons_append, gather_name, List.append_assoc,
        gather_renderChars value _ _ (numberEnds_renderMoreFields rest ends),
        gather_renderMoreFields rest _ _ ends, fieldPieces]
      simp only [List.reverse_cons, List.append_assoc]
      rfl

/-- Further fields are gathered into their pieces. -/
theorem gather_renderMoreFields (fields : List (String × Json)) (groups : List OpenGroup)
    (current : List Piece) {after : List Char} (ends : NumberEnds after) :
    gather groups current (Token.scan reader (renderMoreFields fields ++ after)) =
      gather groups ((moreFieldPieces reader fields).reverse ++ current)
        (Token.scan reader after) := by
  cases fields with
  | nil => rfl
  | cons field rest =>
      obtain ⟨name, value⟩ := field
      rw [renderMoreFields, List.cons_append, gather_comma, List.append_assoc, List.cons_append,
        gather_name, List.append_assoc,
        gather_renderChars value _ _ (numberEnds_renderMoreFields rest ends),
        gather_renderMoreFields rest _ _ ends, moreFieldPieces]
      simp only [List.reverse_cons, List.append_assoc]
      rfl

end

/-- **The text of a value is outlined as one piece.** -/
theorem ofText_render (reader : NumberReader) (json : Json) :
    ofText reader json.render = [json.piece reader] := by
  have nothing : NumberEnds [] := fun char head => by cases head
  have gathered := @gather_renderChars reader json [] [] _ nothing
  rw [List.append_nil] at gathered
  rw [ofText, Json.render, String.toList_ofList, ofChars, gathered, Token.scan]
  rfl

end Outline

mutual

/-- How many pairs of brackets are nested in the text of a value. -/
def nesting : Json → Nat
  | .array items => nestingOfItems items + 1
  | .object fields => nestingOfFields fields + 1
  | _ => 0

/-- How many pairs of brackets are nested in the texts of several values. -/
def nestingOfItems : List Json → Nat
  | [] => 0
  | item :: rest => max (nesting item) (nestingOfItems rest)

/-- How many pairs of brackets are nested in the texts of the values of fields. -/
def nestingOfFields : List (String × Json) → Nat
  | [] => 0
  | (_, value) :: rest => max (nesting value) (nestingOfFields rest)

end

mutual

/-- The numbers in a value, however deep. -/
def numbers : Json → List Number
  | .number value _ => [value]
  | .array items => numbersOfItems items
  | .object fields => numbersOfFields fields
  | _ => []

/-- The numbers in several values. -/
def numbersOfItems : List Json → List Number
  | [] => []
  | item :: rest => numbers item ++ numbersOfItems rest

/-- The numbers in the values of fields. -/
def numbersOfFields : List (String × Json) → List Number
  | [] => []
  | (_, value) :: rest => numbers value ++ numbersOfFields rest

end

/-- From the text of each finite number among some a number is read, be it the same one or not. -/
def NumberReader.Covers (reader : NumberReader) (values : List Number) : Prop :=
  ∀ value ∈ values, value.isFinite = true → (reader.reread? value).isSome = true

private theorem NumberReader.covers_append {reader : NumberReader} {values others : List Number} :
    reader.Covers (values ++ others) ↔ reader.Covers values ∧ reader.Covers others :=
  List.forall_mem_append

/-- **Numbers in range.** The reader reads a number wherever a finite one is written. -/
def InRange (reader : NumberReader) (json : Json) : Prop := reader.Covers json.numbers

/-- Every number is in the range of a reader that rounds correctly. -/
theorem inRange_nearest (json : Json) : json.InRange .nearest := by
  intro value _ finite
  rw [NumberReader.readsBack_nearest finite, Option.isSome_some]

section Reread

variable (reader : NumberReader)

mutual

/-- The value that is read where a value was written: each number is what is read from its text,
and a number that is not finite is gone. -/
def reread : Json → Json
  | .number value _ =>
    if value.isFinite then .number (reader.reread value) (value.jsonChars.all Char.isDigit)
    else .null
  | .array items => .array (rereadItems items)
  | .object fields => .object (rereadFields fields)
  | json => json

/-- The values that are read where several values were written. -/
def rereadItems : List Json → List Json
  | [] => []
  | item :: rest => reread item :: rereadItems rest

/-- The fields that are read where fields were written. -/
def rereadFields : List (String × Json) → List (String × Json)
  | [] => []
  | (name, value) :: rest => (name, reread value) :: rereadFields rest

end

variable {reader}

/-- Values are read one by one. -/
theorem rereadItems_eq (items : List Json) :
    rereadItems reader items = items.map (reread reader) := by
  induction items with
  | nil => rfl
  | cons item rest ih => rw [rereadItems, ih, List.map_cons]

/-- The values of fields are read one by one, and their names stay. -/
theorem rereadFields_eq (fields : List (String × Json)) :
    rereadFields reader fields = fields.map fun field => (field.1, field.2.reread reader) := by
  induction fields with
  | nil => rfl
  | cons field rest ih =>
      obtain ⟨name, value⟩ := field
      rw [rereadFields, ih, List.map_cons]

/-- A finite number is read as what its text is read as. -/
theorem reread_ofNumber {value : Number} (finite : value.isFinite = true) :
    (ofNumber value).reread reader =
      .number (reader.reread value) (value.jsonChars.all Char.isDigit) := by
  rw [ofNumber, if_pos finite, reread, if_pos finite]

/-- A number that is not finite is written as null. -/
theorem reread_ofNumber_of_not_finite {value : Number} (unknown : ¬ value.isFinite = true) :
    (ofNumber value).reread reader = .null := by
  rw [ofNumber, if_neg unknown]
  rfl

mutual

/-- **What was written is read back** with each number as the reader reads it, unless brackets are
nested too deep or a number is out of range. -/
theorem value?_piece (json : Json) {depth : Nat} (shallow : json.nesting ≤ depth)
    (inRange : json.InRange reader) :
    (json.piece reader).value? depth = some (json.reread reader) := by
  cases json with
  | null => rfl
  | boolean value => rfl
  | number value isCount =>
      by_cases finite : value.isFinite = true
      · obtain ⟨read, known⟩ := Option.isSome_iff_exists.mp
          (inRange value (by rw [numbers, List.mem_singleton]) finite)
        rw [piece, if_pos finite, reread, if_pos finite, NumberReader.reread, known]
        rfl
      · rw [piece, if_neg finite, reread, if_neg finite]
        rfl
  | string value => rfl
  | array items =>
      rw [nesting] at shallow
      have deeper : depth ≠ 0 := by omega
      have read := @itemValues?_itemPieces items (depth - 1) (by omega) inRange
      simp only [piece, Piece.value?, read, deeper, ne_eq, not_false_eq_true, and_self, ↓reduceIte,
        Option.map_some, reread]
  | object fields =>
      rw [nesting] at shallow
      have deeper : depth ≠ 0 := by omega
      have read := @fieldValues?_fieldPieces fields (depth - 1) (by omega) inRange
      simp only [piece, Piece.value?, read, deeper, ne_eq, not_false_eq_true, and_self, ↓reduceIte,
        Option.map_some, reread]

/-- The items of a list are read back. -/
theorem itemValues?_itemPieces (items : List Json) {depth : Nat}
    (shallow : nestingOfItems items ≤ depth)
    (inRange : reader.Covers (numbersOfItems items)) :
    Piece.itemValues? depth (itemPieces reader items) = some (rereadItems reader items) := by
  cases items with
  | nil => rfl
  | cons item rest =>
      rw [nestingOfItems] at shallow
      rw [numbersOfItems, NumberReader.covers_append] at inRange
      have first := @value?_piece item depth (by omega) inRange.1
      have others := @moreItemValues?_moreItemPieces rest depth (by omega) inRange.2
      simp only [itemPieces, Piece.itemValues?, first, others, rereadItems]

/-- Further items of a list are read back. -/
theorem moreItemValues?_moreItemPieces (items : List Json) {depth : Nat}
    (shallow : nestingOfItems items ≤ depth)
    (inRange : reader.Covers (numbersOfItems items)) :
    Piece.moreItemValues? depth (moreItemPieces reader items) =
      some (rereadItems reader items) := by
  cases items with
  | nil => rfl
  | cons item rest =>
      rw [nestingOfItems] at shallow
      rw [numbersOfItems, NumberReader.covers_append] at inRange
      have first := @value?_piece item depth (by omega) inRange.1
      have others := @moreItemValues?_moreItemPieces rest depth (by omega) inRange.2
      simp only [moreItemPieces, Piece.moreItemValues?, first, others, rereadItems]

/-- The fields of an object are read back. -/
theorem fieldValues?_fieldPieces (fields : List (String × Json)) {depth : Nat}
    (shallow : nestingOfFields fields ≤ depth)
    (inRange : reader.Covers (numbersOfFields fields)) :
    Piece.fieldValues? depth (fieldPieces reader fields) = some (rereadFields reader fields) := by
  cases fields with
  | nil => rfl
  | cons field rest =>
      obtain ⟨name, value⟩ := field
      rw [nestingOfFields] at shallow
      rw [numbersOfFields, NumberReader.covers_append] at inRange
      have first := @value?_piece value depth (by omega) inRange.1
      have others := @moreFieldValues?_moreFieldPieces rest depth (by omega) inRange.2
      simp only [fieldPieces, Piece.fieldValues?, first, others, rereadFields]

/-- Further fields of an object are read back. -/
theorem moreFieldValues?_moreFieldPieces (fields : List (String × Json)) {depth : Nat}
    (shallow : nestingOfFields fields ≤ depth)
    (inRange : reader.Covers (numbersOfFields fields)) :
    Piece.moreFieldValues? depth (moreFieldPieces reader fields) =
      some (rereadFields reader fields) := by
  cases fields with
  | nil => rfl
  | cons field rest =>
      obtain ⟨name, value⟩ := field
      rw [nestingOfFields] at shallow
      rw [numbersOfFields, NumberReader.covers_append] at inRange
      have first := @value?_piece value depth (by omega) inRange.1
      have others := @moreFieldValues?_moreFieldPieces rest depth (by omega) inRange.2
      simp only [moreFieldPieces, Piece.moreFieldValues?, first, others, rereadFields]

end

end Reread

/-! Rounded correctly, a value is written as the same text again. -/

/-- A number that is rounded correctly loses its sign if it is a zero. -/
theorem reread_nearest_ofNumber (value : Number) :
    (ofNumber value).reread .nearest = ofNumber value.unsignZero := by
  by_cases finite : value.isFinite = true
  · have known : value.unsignZero.isFinite = true := by rw [Number.isFinite_unsignZero, finite]
    rw [reread_ofNumber finite, (NumberReader.readsBack_nearest finite).reread_eq, ofNumber,
      if_pos known, Number.jsonChars_unsignZero]
  · have unknown : ¬ value.unsignZero.isFinite = true := by rwa [Number.isFinite_unsignZero]
    rw [reread_ofNumber_of_not_finite finite, ofNumber, if_neg unknown]

private theorem renderChars_reread_number (value : Number) (isCount : Bool) :
    ((Json.number value isCount).reread .nearest).renderChars = value.jsonChars := by
  by_cases finite : value.isFinite = true
  · rw [reread, if_pos finite, renderChars, (NumberReader.readsBack_nearest finite).reread_eq,
      Number.jsonChars_unsignZero]
  · rw [reread, if_neg finite]
    cases value with
    | nan => rfl
    | infinite negative => rfl
    | finite negative magnitude => exact absurd rfl finite

mutual

/-- What is read is written with the same characters, if numbers are rounded correctly. -/
theorem renderChars_reread (json : Json) :
    (json.reread .nearest).renderChars = json.renderChars := by
  cases json with
  | null => rfl
  | boolean value => rfl
  | number value isCount => exact renderChars_reread_number value isCount
  | string value => rfl
  | array items => rw [reread, renderChars, renderItems_reread, renderChars]
  | object fields => rw [reread, renderChars, renderFields_reread, renderChars]

private theorem renderItems_reread (items : List Json) :
    renderItems (rereadItems .nearest items) = renderItems items := by
  cases items with
  | nil => rfl
  | cons item rest =>
      rw [rereadItems, renderItems, renderChars_reread item, renderMoreItems_reread, renderItems]

private theorem renderMoreItems_reread (items : List Json) :
    renderMoreItems (rereadItems .nearest items) = renderMoreItems items := by
  cases items with
  | nil => rfl
  | cons item rest =>
      rw [rereadItems, renderMoreItems, renderChars_reread item, renderMoreItems_reread rest,
        renderMoreItems]

private theorem renderFields_reread (fields : List (String × Json)) :
    renderFields (rereadFields .nearest fields) = renderFields fields := by
  cases fields with
  | nil => rfl
  | cons field rest =>
      obtain ⟨name, value⟩ := field
      rw [rereadFields, renderFields, renderChars_reread value, renderMoreFields_reread rest,
        renderFields]

private theorem renderMoreFields_reread (fields : List (String × Json)) :
    renderMoreFields (rereadFields .nearest fields) = renderMoreFields fields := by
  cases fields with
  | nil => rfl
  | cons field rest =>
      obtain ⟨name, value⟩ := field
      rw [rereadFields, renderMoreFields, renderChars_reread value, renderMoreFields_reread rest,
        renderMoreFields]

end

/-- **Writing what was read gives the same text again**, if numbers are rounded correctly. -/
theorem render_reread (json : Json) : (json.reread .nearest).render = json.render := by
  rw [render, renderChars_reread, render]

end MarkupTree.Json
