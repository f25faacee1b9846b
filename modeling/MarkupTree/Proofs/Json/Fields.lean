import Mathlib.Data.List.Nodup
import MarkupTree.Json.Node
import MarkupTree.Proofs.Json.TextValue

/-! # Fields in any order

The fields of an object may stand in any order, the kind of a node anywhere among them, and there
may be fields that the kind does not have (`Node.Arranged`). Reading a node depends on nothing but
the fields that the kind has (`Node.ofFurtherFields?_perm`, `Node.ofFurtherFields?_append`), so an
arranged object says what its own fields say, below another node (`Node.Arranged.ofJson?_eq`) as
well as alone in a text (`Node.Arranged.readPiece_eq`).
-/

namespace MarkupTree

/-- The first value of a name is the same in any order of the fields if there is no other. -/
theorem lookup_eq_of_perm {fields others : List (String × Json)} {name : String}
    (perm : fields.Perm others) (single : (fields.map Prod.fst).count name ≤ 1) :
    fields.lookup name = others.lookup name := by
  induction perm with
  | nil => rfl
  | cons field perm ih =>
      rw [List.map_cons, List.count_cons] at single
      rw [List.lookup_cons, List.lookup_cons, ih (by omega)]
  | swap first second rest =>
      obtain ⟨firstName, firstValue⟩ := first
      obtain ⟨secondName, secondValue⟩ := second
      by_cases here : name = firstName
      · have there : name ≠ secondName := by
          rintro rfl
          simp [here] at single
        simp [List.lookup_cons, here, beq_false_of_ne (here ▸ there)]
      · simp [List.lookup_cons, beq_false_of_ne here]
  | trans firstPerm secondPerm firstSame secondSame =>
      rw [firstSame single]
      apply secondSame
      rwa [← (firstPerm.map Prod.fst).count_eq name]

/-- A name that no field has is bound to nothing. -/
theorem lookup_eq_none_of_notMem {fields : List (String × Json)} {name : String}
    (absent : name ∉ fields.map Prod.fst) : fields.lookup name = none := by
  rw [List.lookup_eq_none_iff]
  intro field listed
  rw [bne_iff_ne]
  rintro rfl
  exact absent (List.mem_map_of_mem listed)

namespace Node

/-- The name of a kind in JSON. -/
def Kind.name : Kind → String
  | .root => "root"
  | .element => "element"
  | .text => "text"

/-- Each kind is read from its name. -/
theorem Kind.ofName?_name (kind : Kind) : ofName? kind.name = some kind := by
  cases kind <;> rfl

/-- Fields that a kind of node does not have. -/
def AreForeign (kind : Kind) (fields : List (String × Json)) : Prop :=
  ∀ field ∈ fields, field.1 ≠ "type" ∧ field.1 ∉ kind.fieldNames

instance (kind : Kind) (fields : List (String × Json)) : Decidable (AreForeign kind fields) :=
  inferInstanceAs (Decidable (∀ field ∈ fields, field.1 ≠ "type" ∧ field.1 ∉ kind.fieldNames))

/-- Fields in any order that are the kind of a node, its own fields and foreign ones. -/
def Arranged (kind : Kind) (own fields : List (String × Json)) : Prop :=
  ∃ extra, AreForeign kind extra ∧ fields.Perm (("type", .string kind.name) :: (own ++ extra))

/-- The own fields of a node behind its kind are an arrangement of them. -/
theorem arranged_alone (kind : Kind) (own : List (String × Json)) :
    Arranged kind own (("type", .string kind.name) :: own) := by
  refine ⟨[], ?_, ?_⟩
  · exact fun _ member => (List.not_mem_nil member).elim
  · rw [List.append_nil]

/-! Reading asks for fields by name, and for those of the kind only. -/

/-- The field of the kind does not count among the fields of a node. -/
theorem ofFields?_cons_type (kind : Kind) (json : Json) (fields : List (String × Json))
    (below : Below) :
    ofFields? kind (("type", json) :: fields) below = ofFields? kind fields below := by
  have single : areSingle kind.fieldNames (("type", json) :: fields) =
      areSingle kind.fieldNames fields := by
    cases kind <;> simp [areSingle, Kind.fieldNames]
  cases kind <;> simp only [ofFields?, single] <;> rfl

/-- The kind is told by its field if there is no other. -/
theorem kindOf?_cons_type {name : String} {kind : Kind} (named : Kind.ofName? name = some kind)
    {fields : List (String × Json)} (others : "type" ∉ fields.map Prod.fst) :
    kindOf? (("type", .string name) :: fields) = some kind := by
  have once : ((("type", Json.string name) :: fields).map Prod.fst).count "type" = 1 := by
    rw [List.map_cons, List.count_cons_self, List.count_eq_zero.mpr others]
  rw [kindOf?, if_pos once]
  exact named

/-- What the fields of a node say if its kind is known. -/
def ofFurtherFields? (kind : Kind) (fields : List (String × Json)) : Option Node :=
  ofFields? kind fields ⟨childrenField? fields, contentField? fields⟩

/-- The children are decoded from the field of this name; without one there are none. -/
theorem childrenField?_eq (fields : List (String × Json)) :
    childrenField? fields =
      match fields.lookup "children" with
      | some value => ofJsonList? value
      | none => some [] := by
  induction fields with
  | nil => rfl
  | cons field rest ih =>
      obtain ⟨name, value⟩ := field
      by_cases here : name = "children"
      · simp [childrenField?, here]
      · have other : ("children" == name) = false := beq_false_of_ne fun same => here same.symm
        simp [childrenField?, here, List.lookup_cons, other, ih]

/-- The content is decoded from the field of this name; without one there is none. -/
theorem contentField?_eq (fields : List (String × Json)) :
    contentField? fields =
      match fields.lookup "content" with
      | some value => contentOfJson? value
      | none => some none := by
  induction fields with
  | nil => rfl
  | cons field rest ih =>
      obtain ⟨name, value⟩ := field
      by_cases here : name = "content"
      · simp [contentField?, here]
      · have other : ("content" == name) = false := beq_false_of_ne fun same => here same.symm
        simp [contentField?, here, List.lookup_cons, other, ih]

/-- What fields say is said by the values of the names that the kind has. -/
theorem ofFurtherFields?_congr {kind : Kind} {fields others : List (String × Json)}
    (single : areSingle kind.fieldNames fields = areSingle kind.fieldNames others)
    (same : areSingle kind.fieldNames fields = true →
      ∀ name ∈ kind.fieldNames, fields.lookup name = others.lookup name) :
    ofFurtherFields? kind fields = ofFurtherFields? kind others := by
  unfold ofFurtherFields? ofFields?
  rw [← single]
  split
  · next once =>
    have values := same once
    cases kind with
    | root =>
        have children := values "children" List.mem_cons_self
        simp only [childrenField?_eq, children]
    | text =>
        have value := values "value" List.mem_cons_self
        simp only [value]
    | element =>
        have tagName := values "tagName" List.mem_cons_self
        have properties := values "properties" (.tail _ List.mem_cons_self)
        have children := values "children" (.tail _ (.tail _ List.mem_cons_self))
        have content := values "content" (.tail _ (.tail _ (.tail _ List.mem_cons_self)))
        simp only [childrenField?_eq, contentField?_eq, tagName, properties, children, content]
  · rfl

section Fields

variable {kind : Kind} {fields others own extra : List (String × Json)}

/-- Whether names are given once does not depend on the order of the fields. -/
theorem areSingle_perm (names : List String) (perm : fields.Perm others) :
    areSingle names fields = areSingle names others := by
  simp only [areSingle, (perm.map Prod.fst).count_eq]

/-- The order of the fields does not matter. -/
theorem ofFurtherFields?_perm (perm : fields.Perm others) :
    ofFurtherFields? kind fields = ofFurtherFields? kind others := by
  apply ofFurtherFields?_congr (areSingle_perm _ perm)
  intro single name given
  apply lookup_eq_of_perm perm
  exact of_decide_eq_true (List.all_eq_true.mp single name given)

private theorem nodup_fieldNames (kind : Kind) : kind.fieldNames.Nodup := by
  cases kind <;> decide

/-- A node may lack some of the fields of its kind. -/
theorem areSingle_of_sublist (names : (own.map Prod.fst).Sublist kind.fieldNames) :
    areSingle kind.fieldNames own = true := by
  rw [areSingle, List.all_eq_true]
  intro name given
  exact decide_eq_true (List.nodup_iff_count_le_one.mp (names.nodup (nodup_fieldNames kind)) name)

private theorem type_notMem_of_sublist (names : (own.map Prod.fst).Sublist kind.fieldNames) :
    "type" ∉ own.map Prod.fst := by
  intro member
  have known := names.subset member
  cases kind <;> simp [Kind.fieldNames] at known

private theorem AreForeign.name_notMem (foreign : AreForeign kind extra) {name : String}
    (given : name = "type" ∨ name ∈ kind.fieldNames) : name ∉ extra.map Prod.fst := by
  intro member
  obtain ⟨field, listed, rfl⟩ := List.mem_map.mp member
  rcases given with type | own
  · exact (foreign field listed).1 type
  · exact (foreign field listed).2 own

/-- Foreign fields do not change what the fields of a kind are bound to. -/
theorem AreForeign.lookup_append (foreign : AreForeign kind extra) {name : String}
    (given : name = "type" ∨ name ∈ kind.fieldNames) (fields : List (String × Json)) :
    (fields ++ extra).lookup name = fields.lookup name := by
  rw [List.lookup_append, lookup_eq_none_of_notMem (foreign.name_notMem given), Option.or_none]

private theorem AreForeign.count_append (foreign : AreForeign kind extra) {name : String}
    (given : name = "type" ∨ name ∈ kind.fieldNames) (fields : List (String × Json)) :
    ((fields ++ extra).map Prod.fst).count name = (fields.map Prod.fst).count name := by
  rw [List.map_append, List.count_append, List.count_eq_zero.mpr (foreign.name_notMem given),
    Nat.add_zero]

/-- Fields that the kind does not have do not matter. -/
theorem ofFurtherFields?_append (foreign : AreForeign kind extra) :
    ofFurtherFields? kind (own ++ extra) = ofFurtherFields? kind own := by
  apply ofFurtherFields?_congr
  · rw [Bool.eq_iff_iff, areSingle, areSingle, List.all_eq_true, List.all_eq_true]
    apply forall₂_congr
    intro name given
    rw [foreign.count_append (.inr given)]
  · intro _ name given
    exact foreign.lookup_append (.inr given) own

/-- The kind does not depend on the order of the fields. -/
theorem kindOf?_perm (perm : fields.Perm others) : kindOf? fields = kindOf? others := by
  unfold kindOf?
  rw [(perm.map Prod.fst).count_eq]
  split
  · next once =>
    rw [lookup_eq_of_perm perm]
    rw [(perm.map Prod.fst).count_eq, once]
  · rfl

/-- An arrangement is decoded like the own fields alone. -/
theorem Arranged.ofFurtherFields?_eq (arranged : Arranged kind own fields) :
    ofFurtherFields? kind fields = ofFurtherFields? kind own := by
  obtain ⟨extra, foreign, perm⟩ := arranged
  have untyped : ofFurtherFields? kind (("type", .string kind.name) :: (own ++ extra)) =
      ofFurtherFields? kind (own ++ extra) := ofFields?_cons_type _ _ _ _
  rw [ofFurtherFields?_perm perm, untyped, ofFurtherFields?_append foreign]

/-- The kind is read wherever it stands. -/
theorem Arranged.kindOf?_eq (arranged : Arranged kind own fields)
    (untyped : "type" ∉ own.map Prod.fst) : kindOf? fields = some kind := by
  obtain ⟨extra, foreign, perm⟩ := arranged
  rw [kindOf?_perm perm]
  apply kindOf?_cons_type kind.ofName?_name
  rw [List.map_append, List.mem_append, not_or]
  exact ⟨untyped, foreign.name_notMem (.inl rfl)⟩

/-- An object is decoded from the own fields of its kind. -/
theorem Arranged.ofJson?_eq (arranged : Arranged kind own fields)
    (names : (own.map Prod.fst).Sublist kind.fieldNames) :
    ofJson? (.object fields) = ofFurtherFields? kind own := by
  rw [ofJson?, arranged.kindOf?_eq (type_notMem_of_sublist names)]
  exact arranged.ofFurtherFields?_eq

/-- The content is that of the root that its fields say. -/
theorem contentOfJson?_object (fields : List (String × Json)) :
    contentOfJson? (.object fields) =
      (ofFurtherFields? .root fields).map fun root => some root.children := by
  have names : Kind.root.fieldNames = ["children"] := rfl
  rw [contentOfJson?, ofFurtherFields?, ofFields?, names]
  split
  · rw [Option.map_map]
    rfl
  · rfl

end Fields

/-! What is read where fields were written is arranged as they were. -/

section Reread

open Json (rereadFields)

variable (reader : Json.NumberReader) {kind : Kind} {own fields : List (String × Json)}

private theorem AreForeign.reread (foreign : AreForeign kind fields) :
    AreForeign kind (rereadFields reader fields) := by
  intro field member
  rw [Json.rereadFields_eq] at member
  obtain ⟨written, listed, rfl⟩ := List.mem_map.mp member
  exact foreign written listed

/-- Reading keeps the arrangement. -/
theorem Arranged.reread (arranged : Arranged kind own fields) :
    Arranged kind (rereadFields reader own) (rereadFields reader fields) := by
  obtain ⟨extra, foreign, perm⟩ := arranged
  refine ⟨rereadFields reader extra, foreign.reread reader, ?_⟩
  have kept := perm.map fun field : String × Json => (field.1, field.2.reread reader)
  rw [List.map_cons, List.map_append] at kept
  rw [Json.rereadFields_eq, Json.rereadFields_eq, Json.rereadFields_eq]
  exact kept

/-- Fields are read one group after the other. -/
theorem rereadFields_append (fields others : List (String × Json)) :
    rereadFields reader (fields ++ others) =
      rereadFields reader fields ++ rereadFields reader others := by
  simp only [Json.rereadFields_eq, List.map_append]

end Reread

/-! The outermost node is read field by field; there the kind may only be a string. -/

section Reading

variable {kind : Kind} {parts : List (String × Json.Piece)} {own fields : List (String × Json)}

private theorem readFields_cons {known : Option Kind} {read : List (String × Json)}
    {part : String × Json.Piece} {field : String × Json}
    (first : Json.Piece.IsField (Json.depthLimit - 1) part field) (different : "type" ≠ field.1) :
    readFields known read (part :: parts) = readFields known (read ++ [field]) parts := by
  obtain ⟨name, piece⟩ := part
  obtain ⟨named, value⟩ := field
  obtain ⟨rfl, has⟩ := first
  have kept : piece.readLater (Json.depthLimit - 1) = .ok value := by
    rw [Json.Piece.readLater, has]
  simp only [readFields, different.symm, ↓reduceIte, kept]
  rfl

/-- Fields other than the kind are kept. -/
theorem readFields_untyped {known : Option Kind} {read : List (String × Json)}
    (each : List.Forall₂ (Json.Piece.IsField (Json.depthLimit - 1)) parts fields)
    (untyped : "type" ∉ fields.map Prod.fst) :
    readFields known read parts = .ok (known, read ++ fields) := by
  induction each generalizing read with
  | nil =>
      rw [List.append_nil]
      rfl
  | cons first others ih =>
      rw [List.map_cons, List.mem_cons, not_or] at untyped
      rw [readFields_cons first untyped.1, ih untyped.2, List.append_assoc]
      rfl

/-- The kind is found anywhere among the fields, and the others are kept in their order. -/
theorem readFields_typed {before after read : List (String × Json)}
    (each : List.Forall₂ (Json.Piece.IsField (Json.depthLimit - 1)) parts
      (before ++ ("type", .string kind.name) :: after))
    (untyped : "type" ∉ (before ++ after).map Prod.fst) :
    readFields none read parts = .ok (some kind, read ++ (before ++ after)) := by
  -- on the fields before the kind, as those behind it are read with the kind known
  induction before generalizing parts read with
  | nil =>
      cases each with
      | @cons part _ parts _ first others =>
          obtain ⟨name, piece⟩ := part
          obtain ⟨rfl, value⟩ := first
          obtain rfl := Json.Piece.eq_of_value?_string value
          have known : Kind.readPiece (.word (.string (some kind.name))) = .ok kind := by
            cases kind <;> rfl
          simp only [readFields, ↓reduceIte, known]
          exact readFields_untyped others untyped
  | cons field before ih =>
      cases each with
      | cons first others =>
          rw [List.cons_append, List.map_cons, List.mem_cons, not_or] at untyped
          rw [readFields_cons first untyped.1, ih others untyped.2, List.append_assoc]
          rfl

/-- An arranged object is its kind between other fields, which say what its own fields say. -/
theorem Arranged.exists_split (arranged : Arranged kind own fields)
    (names : (own.map Prod.fst).Sublist kind.fieldNames) :
    ∃ before after, fields = before ++ ("type", .string kind.name) :: after ∧
      "type" ∉ (before ++ after).map Prod.fst ∧
      ofFurtherFields? kind (before ++ after) = ofFurtherFields? kind own := by
  obtain ⟨extra, foreign, perm⟩ := arranged
  obtain ⟨before, after, rfl⟩ := List.append_of_mem (perm.mem_iff.mpr List.mem_cons_self)
  have others : (before ++ after).Perm (own ++ extra) :=
    (List.perm_middle.symm.trans perm).cons_inv
  refine ⟨before, after, rfl, ?_, ?_⟩
  · rw [(others.map Prod.fst).mem_iff, List.map_append, List.mem_append, not_or]
    exact ⟨type_notMem_of_sublist names, foreign.name_notMem (.inl rfl)⟩
  · rw [ofFurtherFields?_perm others, ofFurtherFields?_append foreign]

/-- An arranged object is read as what its own fields say. -/
theorem Arranged.readPiece_eq (arranged : Arranged kind own fields)
    (names : (own.map Prod.fst).Sublist kind.fieldNames) {piece : Json.Piece}
    (has : piece.value? Json.depthLimit = some (.object fields)) :
    readPiece piece = decoded (ofFurtherFields? kind own) := by
  obtain ⟨inside, rfl, values⟩ := Json.Piece.exists_group_of_value?_object has
  obtain ⟨parts, complete, each⟩ := Json.Parts.exists_fields values
  obtain ⟨before, after, rfl, untyped, same⟩ := arranged.exists_split names
  have read := @readFields_typed kind parts before after [] each untyped
  rw [← same, readPiece, complete]
  dsimp only
  rw [read]
  rfl

end Reading

end Node

end MarkupTree
