import Mathlib.Data.List.Forall2
import MarkupTree.Proofs.Json.Fields
import MarkupTree.Proofs.Tree.UnsignedZeros

/-! # All documents of a tree

A tree has more documents than the one it is written as. The fields of an object may be arranged
in any way; children and properties may be left out where they are empty, and an element without
content may say so with `null` (`Node.WrittenAs`). Every text of such a document is read as the
tree, whichever way numbers are read. The text that the document is rendered as is read as the
tree with each number as the reader reads it back (`Node.read_of_writtenAs`).
-/

namespace MarkupTree

/-! Documents of property values. How a number is written does not matter, only which it is. -/

/-- A JSON value that says what a list item is. -/
inductive ListItem.WrittenAs : ListItem → Json → Prop
  | number (value : Number) (isCount : Bool) : WrittenAs (.number value) (.number value isCount)
  | string (value : String) : WrittenAs (.string value) (.string value)

/-- A JSON value that says what a property is. -/
inductive PropertyValue.WrittenAs : PropertyValue → Json → Prop
  | boolean (value : Bool) : WrittenAs (.boolean value) (.boolean value)
  | number (value : Number) (isCount : Bool) : WrittenAs (.number value) (.number value isCount)
  | string (value : String) : WrittenAs (.string value) (.string value)
  | list {items : List ListItem} {documents : List Json}
      (each : List.Forall₂ ListItem.WrittenAs items documents) :
      WrittenAs (.list items) (.array documents)

/-- A document of properties: an object of their keys in their order. -/
inductive Properties.WrittenAs (properties : Properties) : Json → Prop
  | object {fields : List (String × Json)}
      (each : List.Forall₂ (fun entry field => entry.1 = field.1 ∧ entry.2.WrittenAs field.2)
        properties.entries fields) :
      WrittenAs properties (.object fields)

/-- What is written one by one is decoded one by one. -/
theorem mapM_of_forall₂ {α β : Type} {read : β → Option α} {values : List α} {written : List β}
    (each : List.Forall₂ (fun value document => read document = some value) values written) :
    written.mapM read = some values := by
  induction each with
  | nil => rfl
  | cons first _ ih =>
      rw [List.mapM_cons, first, ih]
      rfl

private theorem ListItem.WrittenAs.ofJson?_eq {item : ListItem} {document : Json}
    (written : item.WrittenAs document) : ListItem.ofJson? document = some item := by
  cases written <;> rfl

private theorem PropertyValue.WrittenAs.ofJson?_eq {value : PropertyValue} {document : Json}
    (written : value.WrittenAs document) : PropertyValue.ofJson? document = some value := by
  cases written with
  | list each =>
      rw [ofJson?, mapM_of_forall₂ (each.imp fun _ _ item => item.ofJson?_eq), Option.map_some]
  | _ => rfl

/-- Every document of properties is decoded to the properties. -/
theorem Properties.WrittenAs.ofJson?_eq {properties : Properties} {document : Json}
    (written : properties.WrittenAs document) (distinct : properties.Distinct) :
    Properties.ofJson? document = some properties := by
  cases written with
  | object each =>
      have decoded : List.Forall₂ (fun entry field => entryOfJson? field = some entry)
          properties.entries _ := each.imp fun entry field written => by
        rw [entryOfJson?, written.2.ofJson?_eq, Option.map_some, ← written.1]
      rw [ofJson?, mapM_of_forall₂ decoded, Option.map_some, distinct.ofList_entries]

private theorem PropertyValue.writtenAs_toJson {value : PropertyValue}
    (finite : ∀ held ∈ value.numbers, held.isFinite = true) : value.WrittenAs value.toJson := by
  cases value with
  | boolean value => exact .boolean value
  | number value =>
      rw [toJson, Json.ofNumber, if_pos (finite value (by simp))]
      exact .number value _
  | string value => exact .string value
  | list items =>
      refine .list (List.forall₂_map_right_iff.mpr (List.forall₂_same.mpr fun item member => ?_))
      cases item with
      | number value =>
          have known := finite value ((mem_numbers_list items value).mpr member)
          rw [ListItem.toJson, Json.ofNumber, if_pos known]
          exact .number value _
      | string value => exact .string value

/-- What properties are written as is a document of them if their numbers are finite. -/
theorem Properties.writtenAs_toJson {properties : Properties} (finite : properties.Finite) :
    properties.WrittenAs properties.toJson := by
  refine .object (List.forall₂_map_right_iff.mpr (List.forall₂_same.mpr fun entry member => ?_))
  exact ⟨rfl, PropertyValue.writtenAs_toJson fun held => finite.of_mem member⟩

section Reread

variable (reader : Json.NumberReader)

private theorem ListItem.WrittenAs.reread {item : ListItem} {document : Json}
    (written : item.WrittenAs document)
    (finite : ∀ value, item = .number value → value.isFinite = true) :
    (item.mapNumber reader.reread).WrittenAs (document.reread reader) := by
  cases written with
  | number value isCount =>
      rw [Json.reread, if_pos (finite value rfl)]
      exact .number _ _
  | string value => exact .string value

private theorem PropertyValue.WrittenAs.reread {value : PropertyValue} {document : Json}
    (written : value.WrittenAs document) (finite : ∀ held ∈ value.numbers, held.isFinite = true) :
    (value.mapNumbers reader.reread).WrittenAs (document.reread reader) := by
  cases written with
  | boolean value => exact .boolean value
  | number value isCount =>
      rw [Json.reread, if_pos (finite value (by simp))]
      exact .number _ _
  | string value => exact .string value
  | @list items documents each =>
      have known : ∀ item ∈ items, ∀ value, item = .number value → value.isFinite = true := by
        rintro _ member value rfl
        exact finite value ((mem_numbers_list items value).mpr member)
      rw [Json.reread, Json.rereadItems_eq]
      apply list
      rw [List.forall₂_map_left_iff, List.forall₂_map_right_iff]
      refine ((List.forall₂_and_left items documents).mpr ⟨known, each⟩).imp ?_
      exact fun item document here => here.2.reread reader here.1

/-- What is read from a document of properties is a document of the properties with their numbers
as they are read. -/
theorem Properties.WrittenAs.reread {properties : Properties} {document : Json}
    (written : properties.WrittenAs document) (finite : properties.Finite) :
    (properties.mapNumbers reader.reread).WrittenAs (document.reread reader) := by
  cases written with
  | @object fields each =>
      rw [Json.reread, Json.rereadFields_eq]
      constructor
      rw [Properties.mapNumbers, OrderedMap.mapValues, List.forall₂_map_left_iff,
        List.forall₂_map_right_iff]
      have known : ∀ entry ∈ properties.entries, ∀ held ∈ entry.2.numbers,
          held.isFinite = true := fun entry member held => finite.of_mem member
      refine ((List.forall₂_and_left properties.entries fields).mpr ⟨known, each⟩).imp ?_
      exact fun entry field here => ⟨here.2.1, here.2.2.reread reader here.1⟩

end Reread

namespace Node

/-- The field of the properties of an element, which is left out only if there are none. -/
inductive PropertiesWritten : Properties → List (String × Json) → Prop
  | given {properties : Properties} {document : Json} (written : properties.WrittenAs document) :
      PropertiesWritten properties [("properties", document)]
  | omitted : PropertiesWritten .empty []

mutual

/-- A document of a node: its kind and its own fields, arranged with foreign ones. -/
inductive WrittenAs : Node → Json → Prop
  | text {value : String} {fields : List (String × Json)}
      (arranged : Arranged .text [("value", .string value)] fields) :
      WrittenAs (.text value) (.object fields)
  | root {children : List Node} {own fields : List (String × Json)}
      (below : ChildrenWritten children own) (arranged : Arranged .root own fields) :
      WrittenAs (.root children) (.object fields)
  | element {tagName : String} {properties : Properties} {children : List Node}
      {content : Option (List Node)}
      {ownProperties ownChildren ownContent fields : List (String × Json)}
      (here : PropertiesWritten properties ownProperties)
      (below : ChildrenWritten children ownChildren) (inside : ContentWritten content ownContent)
      (arranged : Arranged .element
        (("tagName", .string tagName) :: (ownProperties ++ ownChildren ++ ownContent)) fields) :
      WrittenAs (.element tagName properties children content) (.object fields)

/-- Documents of several nodes. -/
inductive AllWrittenAs : List Node → List Json → Prop
  | nil : AllWrittenAs [] []
  | cons {node : Node} {nodes : List Node} {document : Json} {documents : List Json}
      (first : WrittenAs node document) (others : AllWrittenAs nodes documents) :
      AllWrittenAs (node :: nodes) (document :: documents)

/-- The field of the children of a node, which is left out only if there are none. -/
inductive ChildrenWritten : List Node → List (String × Json) → Prop
  | given {nodes : List Node} {documents : List Json} (all : AllWrittenAs nodes documents) :
      ChildrenWritten nodes [("children", .array documents)]
  | omitted : ChildrenWritten [] []

/-- The field of the content of an element, a document of a root. Without content it is left out
or `null`. -/
inductive ContentWritten : Option (List Node) → List (String × Json) → Prop
  | given {nodes : List Node} {document : Json} (root : WrittenAs (.root nodes) document) :
      ContentWritten (some nodes) [("content", document)]
  | null : ContentWritten none [("content", .null)]
  | omitted : ContentWritten none []

end

mutual

/-- What a tree is written as is a document of it if its numbers are finite. -/
theorem writtenAs_toJson (node : Node)
    (finite : node.Everywhere fun part => part.properties.Finite) :
    node.WrittenAs node.toJson := by
  cases node with
  | text value => exact .text (arranged_alone _ _)
  | root children =>
      have all := allWrittenAs_toJsons children finite.children
      exact .root (.given all) (arranged_alone _ _)
  | element tagName properties children content =>
      have here := PropertiesWritten.given (Properties.writtenAs_toJson finite.here)
      have below := ChildrenWritten.given (allWrittenAs_toJsons children finite.children)
      cases content with
      | none => exact .element here below .omitted (arranged_alone _ _)
      | some nodes =>
          have all := allWrittenAs_toJsons nodes (finite.content rfl)
          have root := WrittenAs.root (.given all) (arranged_alone _ _)
          exact .element here below (.given root) (arranged_alone _ _)

private theorem allWrittenAs_toJsons (nodes : List Node)
    (finite : ∀ node ∈ nodes, node.Everywhere fun part => part.properties.Finite) :
    AllWrittenAs nodes (toJsons nodes) := by
  cases nodes with
  | nil => exact .nil
  | cons node rest =>
      rw [List.forall_mem_cons] at finite
      exact .cons (writtenAs_toJson node finite.1) (allWrittenAs_toJsons rest finite.2)

end

/-! Every document of a tree is decoded to the tree. -/

private theorem PropertiesWritten.names {properties : Properties} {own : List (String × Json)}
    (here : PropertiesWritten properties own) : (own.map Prod.fst).Sublist ["properties"] := by
  cases here with
  | given written => exact List.Sublist.refl _
  | omitted => exact List.nil_sublist _

private theorem ChildrenWritten.names {nodes : List Node} {own : List (String × Json)}
    (below : ChildrenWritten nodes own) : (own.map Prod.fst).Sublist ["children"] := by
  cases below with
  | given all => exact List.Sublist.refl _
  | omitted => exact List.nil_sublist _

private theorem ContentWritten.names {content : Option (List Node)} {own : List (String × Json)}
    (inside : ContentWritten content own) : (own.map Prod.fst).Sublist ["content"] := by
  cases inside with
  | given root => exact List.Sublist.refl _
  | null => exact List.Sublist.refl _
  | omitted => exact List.nil_sublist _

private theorem lookup_eq_none_of_sublist {own : List (String × Json)} {single name : String}
    (names : (own.map Prod.fst).Sublist [single]) (other : name ≠ single) :
    own.lookup name = none :=
  lookup_eq_none_of_notMem fun member => other (List.mem_singleton.mp (names.subset member))

/-- The properties among the fields of an element; none are given if there is no such field. -/
def propertiesField? (fields : List (String × Json)) : Option Properties :=
  match fields.lookup "properties" with
  | some given => Properties.ofJson? given
  | none => some .empty

/-- An element is decoded from fields that say what it has. -/
theorem ofFurtherFields?_of_fields {fields : List (String × Json)} {tagName : String}
    {properties : Properties} {children : List Node} {content : Option (List Node)}
    (single : areSingle Kind.element.fieldNames fields = true)
    (named : fields.lookup "tagName" = some (.string tagName))
    (here : propertiesField? fields = some properties)
    (below : childrenField? fields = some children)
    (inside : contentField? fields = some content) :
    ofFurtherFields? .element fields = some (.element tagName properties children content) := by
  unfold propertiesField? at here
  rw [ofFurtherFields?, ofFields?, if_pos single]
  cases given : fields.lookup "properties" with
  | none =>
      rw [given] at here
      obtain rfl := Option.some.inj here
      simp only [named, below, inside]
  | some value =>
      rw [given] at here
      have read : Properties.ofJson? value = some properties := here
      simp only [named, below, inside, read]

section Own

variable {tagName : String} {properties : Properties} {children : List Node}
  {content : Option (List Node)} {ownProperties ownChildren ownContent : List (String × Json)}
  (here : PropertiesWritten properties ownProperties)
  (below : ChildrenWritten children ownChildren) (inside : ContentWritten content ownContent)

include here below inside

private theorem names_own : ((("tagName", Json.string tagName) ::
    (ownProperties ++ ownChildren ++ ownContent)).map Prod.fst).Sublist
      Kind.element.fieldNames := by
  rw [List.map_cons, List.map_append, List.map_append]
  exact ((here.names.append below.names).append inside.names).cons_cons "tagName"

/-- An element is decoded from the fields that it has, if what is in them is decoded. -/
theorem ofFurtherFields?_own (distinct : properties.Distinct)
    (decodedChildren : childrenField? ownChildren = some children)
    (decodedContent : contentField? ownContent = some content) :
    ofFurtherFields? .element
        (("tagName", .string tagName) :: (ownProperties ++ ownChildren ++ ownContent)) =
      some (.element tagName properties children content) := by
  have noChildren {name : String} := @lookup_eq_none_of_sublist _ _ name below.names
  have noContent {name : String} := @lookup_eq_none_of_sublist _ _ name inside.names
  have noProperties {name : String} := @lookup_eq_none_of_sublist _ _ name here.names
  apply ofFurtherFields?_of_fields (areSingle_of_sublist (names_own here below inside)) rfl
  · have own : (("tagName", Json.string tagName) ::
        (ownProperties ++ ownChildren ++ ownContent)).lookup "properties" =
          ownProperties.lookup "properties" := by
      simp [List.lookup_cons, List.lookup_append, noChildren, noContent]
    rw [propertiesField?, own]
    cases here with
    | given written => exact written.ofJson?_eq distinct
    | omitted => rfl
  · rw [childrenField?_eq] at decodedChildren ⊢
    have own : (("tagName", Json.string tagName) ::
        (ownProperties ++ ownChildren ++ ownContent)).lookup "children" =
          ownChildren.lookup "children" := by
      simp [List.lookup_cons, List.lookup_append, noProperties, noContent]
    rw [own, decodedChildren]
  · rw [contentField?_eq] at decodedContent ⊢
    have own : (("tagName", Json.string tagName) ::
        (ownProperties ++ ownChildren ++ ownContent)).lookup "content" =
          ownContent.lookup "content" := by
      simp [List.lookup_cons, List.lookup_append, noProperties, noChildren]
    rw [own, decodedContent]

end Own

private theorem ChildrenWritten.childrenField?_eq {nodes : List Node} {own : List (String × Json)}
    (below : ChildrenWritten nodes own)
    (decoded : ∀ documents, AllWrittenAs nodes documents → ofJsons? documents = some nodes) :
    childrenField? own = some nodes := by
  cases below with
  | given all => exact decoded _ all
  | omitted => rfl

/-- A root is decoded from the field that it has, if what is in it is decoded. -/
theorem ofFurtherFields?_root {nodes : List Node} {own : List (String × Json)}
    (below : ChildrenWritten nodes own)
    (decoded : ∀ documents, AllWrittenAs nodes documents → ofJsons? documents = some nodes) :
    ofFurtherFields? .root own = some (.root nodes) := by
  have single : areSingle Kind.root.fieldNames own = true := areSingle_of_sublist below.names
  rw [ofFurtherFields?, ofFields?, if_pos single, below.childrenField?_eq decoded]
  rfl

/-- The content is decoded from its field, if what is in it is decoded. -/
theorem ContentWritten.contentField?_eq {content : Option (List Node)}
    {own : List (String × Json)} (inside : ContentWritten content own)
    (decoded : ∀ nodes documents, content = some nodes → AllWrittenAs nodes documents →
      ofJsons? documents = some nodes) :
    contentField? own = some content := by
  cases inside with
  | null => rfl
  | omitted => rfl
  | @given nodes document root =>
      cases root with
      | root below arranged =>
          have root := ofFurtherFields?_root below fun documents => decoded nodes documents rfl
          have field : ∀ value, contentField? [("content", value)] = contentOfJson? value :=
            fun value => rfl
          rw [field, contentOfJson?_object, arranged.ofFurtherFields?_eq, root]
          rfl

mutual

/-- **Every document of a tree is decoded to the tree.** -/
theorem WrittenAs.ofJson?_eq {node : Node} {document : Json} (written : node.WrittenAs document)
    (distinct : node.Everywhere fun part => part.properties.Distinct) :
    ofJson? document = some node := by
  -- by recursion on the tree: the content is a document of a root that is no part of it
  cases node with
  | text value =>
      cases written with
      | text arranged =>
          rw [arranged.ofJson?_eq (List.Sublist.refl _)]
          rfl
  | root children =>
      cases written with
      | root below arranged =>
          rw [arranged.ofJson?_eq below.names]
          apply ofFurtherFields?_root below
          intro documents all
          exact all.ofJsons?_eq distinct.children
  | element tagName properties children content =>
      cases written with
      | element here below inside arranged =>
          have decodedChildren := below.childrenField?_eq fun documents all =>
            all.ofJsons?_eq distinct.children
          rw [arranged.ofJson?_eq (names_own here below inside)]
          apply ofFurtherFields?_own here below inside distinct.here decodedChildren
          apply inside.contentField?_eq
          cases content with
          | none =>
              intro nodes documents given
              cases given
          | some content =>
              intro nodes documents given all
              obtain rfl := Option.some.inj given
              exact all.ofJsons?_eq (distinct.content rfl)

private theorem AllWrittenAs.ofJsons?_eq {nodes : List Node} {documents : List Json}
    (all : AllWrittenAs nodes documents)
    (distinct : ∀ node ∈ nodes, node.Everywhere fun part => part.properties.Distinct) :
    ofJsons? documents = some nodes := by
  cases nodes with
  | nil =>
      cases all
      rfl
  | cons node rest =>
      cases all with
      | cons first others =>
          rw [List.forall_mem_cons] at distinct
          rw [ofJsons?, first.ofJson?_eq distinct.1, others.ofJsons?_eq distinct.2]

end

/-! What is read where a document of a tree was written is a document of the tree with its numbers
as they are read. -/

/-- The tree that is read where a tree was written: each number is what is read from its text. -/
def reread (reader : Json.NumberReader) (node : Node) : Node := node.mapNumbers reader.reread

/-- **Read-back of numbers.** The reader reads each number of the tree back. -/
def NumbersReadBack (reader : Json.NumberReader) (node : Node) : Prop :=
  node.Everywhere fun part => ∀ value ∈ part.properties.numbers, reader.ReadsBack value

/-- Where numbers are read back, a tree loses the signs of its zeros and nothing else. -/
theorem NumbersReadBack.reread_eq {reader : Json.NumberReader} {node : Node}
    (back : node.NumbersReadBack reader) : node.reread reader = node.unsignZeros :=
  mapNumbers_congr node fun part member value held => (back part member value held).reread_eq

/-- A reader that rounds correctly reads all numbers back if they are finite. -/
theorem numbersReadBack_nearest {node : Node}
    (finite : node.Everywhere fun part => part.properties.Finite) :
    node.NumbersReadBack .nearest := by
  intro part member value held
  exact Json.NumberReader.readsBack_nearest (finite part member value held)

section Reread

open Json (rereadItems rereadFields)

variable (reader : Json.NumberReader) {own : List (String × Json)}

private theorem PropertiesWritten.reread {properties : Properties}
    (here : PropertiesWritten properties own) (finite : properties.Finite) :
    PropertiesWritten (properties.mapNumbers reader.reread) (rereadFields reader own) := by
  cases here with
  | given written => exact .given (written.reread reader finite)
  | omitted => exact .omitted

private theorem ChildrenWritten.reread {nodes : List Node} (below : ChildrenWritten nodes own)
    (kept : ∀ documents, AllWrittenAs nodes documents →
      AllWrittenAs (mapNumbersAll reader.reread nodes) (rereadItems reader documents)) :
    ChildrenWritten (mapNumbersAll reader.reread nodes) (rereadFields reader own) := by
  cases below with
  | given all => exact .given (kept _ all)
  | omitted => exact .omitted

mutual

/-- **What is read where a document was written is a document of what is read.** -/
theorem WrittenAs.reread {node : Node} {document : Json} (written : node.WrittenAs document)
    (finite : node.Everywhere fun part => part.properties.Finite) :
    (node.reread reader).WrittenAs (document.reread reader) := by
  cases node with
  | text value =>
      cases written with
      | text arranged => exact .text (arranged.reread reader)
  | root children =>
      cases written with
      | root below arranged =>
          have kept := below.reread reader fun documents all =>
            all.reread finite.children
          exact .root kept (arranged.reread reader)
  | element tagName properties children content =>
      cases written with
      | element here below inside arranged =>
          have keptHere := here.reread reader finite.here
          have kept := below.reread reader fun documents all =>
            all.reread finite.children
          have rearranged := arranged.reread reader
          rw [rereadFields, rereadFields_append, rereadFields_append] at rearranged
          cases inside with
          | null => exact .element keptHere kept .null rearranged
          | omitted => exact .element keptHere kept .omitted rearranged
          | given root =>
              cases root with
              | root belowRoot arrangedRoot =>
                  have keptInside := belowRoot.reread reader fun documents all =>
                    all.reread (finite.content rfl)
                  have content :=
                    ContentWritten.given (.root keptInside (arrangedRoot.reread reader))
                  exact .element keptHere kept content rearranged

private theorem AllWrittenAs.reread {nodes : List Node} {documents : List Json}
    (all : AllWrittenAs nodes documents)
    (finite : ∀ node ∈ nodes, node.Everywhere fun part => part.properties.Finite) :
    AllWrittenAs (mapNumbersAll reader.reread nodes) (rereadItems reader documents) := by
  cases nodes with
  | nil =>
      cases all
      exact .nil
  | cons node rest =>
      cases all with
      | cons first others =>
          rw [List.forall_mem_cons] at finite
          exact .cons (first.reread finite.1) (others.reread finite.2)

end

end Reread

/-! Every text of a document is read as the tree. -/

private theorem WrittenAs.exists_arranged {node : Node} {document : Json}
    (written : node.WrittenAs document) :
    ∃ kind own fields, document = .object fields ∧ Arranged kind own fields ∧
      (own.map Prod.fst).Sublist kind.fieldNames := by
  cases written with
  | text arranged => exact ⟨.text, _, _, rfl, arranged, List.Sublist.refl _⟩
  | root below arranged => exact ⟨.root, _, _, rfl, arranged, below.names⟩
  | element here below inside arranged =>
      exact ⟨.element, _, _, rfl, arranged, names_own here below inside⟩

/-- Every piece that has a document of a tree as its value is read as the tree. -/
theorem WrittenAs.readPiece_eq {node : Node} {document : Json} (written : node.WrittenAs document)
    (distinct : node.Everywhere fun part => part.properties.Distinct) {piece : Json.Piece}
    (has : piece.value? Json.depthLimit = some document) : readPiece piece = .ok node := by
  have known := written.ofJson?_eq distinct
  obtain ⟨kind, own, fields, rfl, arranged, names⟩ := written.exists_arranged
  rw [arranged.ofJson?_eq names] at known
  rw [arranged.readPiece_eq names has, known]
  rfl

section Read

variable {reader : Json.NumberReader} {node : Node} {document : Json}
  (written : node.WrittenAs document)
  (distinct : node.Everywhere fun part => part.properties.Distinct)

include written distinct

/-- **Reading depends on the own fields of nodes only.** Let a text have a document of a tree as
its value: in each object of it the kind and the own fields of a node, in any order and with
fields between them that the kind does not have, where empty children and properties and absent
content may be left out. Then the text is read as the tree. -/
theorem WrittenAs.readWith_eq {text : String} (has : Json.ofText? reader text = some document) :
    readWith reader text = .ok node := by
  obtain ⟨piece, only, value⟩ := Json.exists_piece_of_ofText? has
  rw [readWith, Json.readDocument_of_piece only]
  exact written.readPiece_eq distinct value

/-- A document that is written is read as the tree with its numbers as they are read. -/
theorem WrittenAs.readWith_render (finite : node.Everywhere fun part => part.properties.Finite)
    (shallow : document.nesting ≤ Json.depthLimit) (inRange : document.InRange reader) :
    readWith reader document.render = .ok (node.reread reader) :=
  (written.reread reader finite).readWith_eq distinct.distinct_mapNumbers
    (Json.ofText?_render shallow inRange)

end Read

end Node

end MarkupTree
