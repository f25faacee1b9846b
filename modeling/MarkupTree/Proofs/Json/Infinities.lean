import MarkupTree.Proofs.Json.Documents
import MarkupTree.Proofs.Tree.Assembled

/-! # Infinities are written but not read

JSON has no notation for an infinity: it is written as null, which is no property value. So the
JSON value that is read where a tree was written is decoded only if the numbers of the tree are
all finite (`Node.everywhere_finite_of_ofJson?`). What is built from plain values holds nothing
that is not a number, so it is read if it holds no infinity, and with an infinity it never is
(`Node.Assembled.read_render`).
-/

namespace MarkupTree

/-- What is decoded as a whole is decoded one by one. -/
theorem exists_of_mapM_eq_some {α β : Type} {read : α → Option β} {values : List α}
    {results : List β} (all : values.mapM read = some results) :
    ∀ value ∈ values, ∃ result, read value = some result := by
  induction values generalizing results with
  | nil => exact fun _ member => (List.not_mem_nil member).elim
  | cons first rest ih =>
      rw [List.mapM_cons] at all
      obtain ⟨result, here, all⟩ := Option.bind_eq_some_iff.mp all
      obtain ⟨others, later, -⟩ := Option.bind_eq_some_iff.mp all
      intro value member
      rcases List.mem_cons.mp member with rfl | further
      · exact ⟨result, here⟩
      · exact ih later value further

section Decoded

variable {reader : Json.NumberReader}

private theorem Number.isFinite_of_ofJson?_reread {value : Number} {read : ListItem}
    (decoded : ListItem.ofJson? ((Json.ofNumber value).reread reader) = some read) :
    value.isFinite = true := by
  by_contra unknown
  rw [Json.reread_ofNumber_of_not_finite unknown] at decoded
  cases decoded

private theorem PropertyValue.finite_of_ofJson?_reread {value read : PropertyValue}
    (decoded : ofJson? (value.toJson.reread reader) = some read) :
    ∀ held ∈ value.numbers, held.isFinite = true := by
  intro held member
  cases value with
  | boolean value => cases member
  | string value => cases member
  | number value =>
      obtain rfl := List.mem_singleton.mp member
      by_contra unknown
      rw [toJson, Json.reread_ofNumber_of_not_finite unknown] at decoded
      cases decoded
  | list items =>
      rw [mem_numbers_list] at member
      rw [toJson, Json.reread, Json.rereadItems_eq] at decoded
      obtain ⟨results, all, -⟩ := Option.map_eq_some_iff.mp decoded
      obtain ⟨result, single⟩ := exists_of_mapM_eq_some all _
        (List.mem_map_of_mem (List.mem_map_of_mem member))
      exact Number.isFinite_of_ofJson?_reread single

private theorem Properties.finite_empty : Properties.Finite .empty :=
  fun _ member => (List.not_mem_nil member).elim

/-- Properties that are decoded where they were written have finite numbers only. -/
theorem Properties.finite_of_ofJson?_reread {properties read : Properties}
    (decoded : ofJson? (properties.toJson.reread reader) = some read) : properties.Finite := by
  intro value member
  obtain ⟨entry, present, held⟩ := List.mem_flatMap.mp member
  rw [toJson, Json.reread, Json.rereadFields_eq] at decoded
  obtain ⟨results, all, -⟩ := Option.map_eq_some_iff.mp decoded
  obtain ⟨result, single⟩ := exists_of_mapM_eq_some all _
    (List.mem_map_of_mem (List.mem_map_of_mem present))
  obtain ⟨read, decoded, -⟩ := Option.map_eq_some_iff.mp single
  exact PropertyValue.finite_of_ofJson?_reread decoded value held

end Decoded

/-- Some property is an infinity or has one among its items. -/
def Properties.HoldsInfinity (properties : Properties) : Prop :=
  ∃ negative, Number.infinite negative ∈ properties.numbers

instance (properties : Properties) : Decidable properties.HoldsInfinity :=
  inferInstanceAs (Decidable (∃ negative, Number.infinite negative ∈ properties.numbers))

/-- Numbers that are all numbers are finite unless there is an infinity among them. -/
theorem Properties.finite_iff {properties : Properties} (free : properties.NanFree) :
    properties.Finite ↔ ¬ properties.HoldsInfinity := by
  constructor
  · rintro finite ⟨negative, member⟩
    have known := finite _ member
    cases known
  · intro bounded value member
    cases value with
    | nan => cases free _ member
    | infinite negative => exact absurd ⟨negative, member⟩ bounded
    | finite negative magnitude => rfl

namespace Node

/-- The kind of a node. -/
def kind : Node → Kind
  | .text _ => .text
  | .root _ => .root
  | .element .. => .element

/-- The fields of the JSON value of a node behind the one that names its kind. -/
def furtherFields : Node → List (String × Json)
  | .text value => [("value", .string value)]
  | .root children => [("children", .array (toJsons children))]
  | .element tagName properties children content =>
    [("tagName", .string tagName), ("properties", properties.toJson),
      ("children", .array (toJsons children))] ++ contentToJson content

/-- The JSON value of a node is its kind before its further fields. -/
theorem toJson_eq (node : Node) :
    node.toJson = .object (("type", .string node.kind.name) :: node.furtherFields) := by
  cases node <;> rfl

private theorem names_furtherFields (node : Node) :
    (node.furtherFields.map Prod.fst).Sublist node.kind.fieldNames := by
  cases node with
  | text value => exact List.Sublist.refl _
  | root children => exact List.Sublist.refl _
  | element tagName properties children content =>
      cases content with
      | none => exact List.sublist_append_left ["tagName", "properties", "children"] ["content"]
      | some content => exact List.Sublist.refl _

section Reread

open Json (rereadItems rereadFields)

variable {reader : Json.NumberReader}

private theorem arranged_reread (node : Node) :
    ∃ fields, node.toJson.reread reader = .object fields ∧
      Arranged node.kind (rereadFields reader node.furtherFields) fields ∧
      ((rereadFields reader node.furtherFields).map Prod.fst).Sublist node.kind.fieldNames := by
  refine ⟨_, congrArg (Json.reread reader) node.toJson_eq, ?_, ?_⟩
  · exact (arranged_alone _ _).reread reader
  · rw [Json.rereadFields_eq, List.map_map]
    exact node.names_furtherFields

/-- What is read where a node was written is decoded from its further fields. -/
theorem ofJson?_reread_toJson (node : Node) :
    ofJson? (node.toJson.reread reader) =
      ofFurtherFields? node.kind (rereadFields reader node.furtherFields) := by
  obtain ⟨fields, object, arranged, names⟩ := node.arranged_reread
  rw [object, arranged.ofJson?_eq names]

/-- The text of a tree is decoded like the JSON value that is read from it. -/
theorem readWith_render_toJson {node : Node} (shallow : node.toJson.nesting ≤ Json.depthLimit)
    (inRange : node.toJson.InRange reader) :
    readWith reader node.toJson.render = decoded (ofJson? (node.toJson.reread reader)) := by
  obtain ⟨piece, only, value⟩ := Json.exists_piece_of_ofText? (Json.ofText?_render shallow inRange)
  obtain ⟨fields, object, arranged, names⟩ := @arranged_reread reader node
  rw [object] at value
  rw [readWith, Json.readDocument_of_piece only, arranged.readPiece_eq names value,
    ofJson?_reread_toJson]

private theorem ofFurtherFields?_reread_element (tagName : String) (properties : Properties)
    (children : List Node) (content : Option (List Node)) :
    ofFurtherFields? .element
        (rereadFields reader (furtherFields (.element tagName properties children content))) =
      match Properties.ofJson? (properties.toJson.reread reader),
        ofJsons? (rereadItems reader (toJsons children)),
        contentField? (rereadFields reader (contentToJson content)) with
      | some properties, some children, some content =>
        some (.element tagName properties children content)
      | _, _, _ => none := by
  cases content <;> rfl

mutual

/-- **What is decoded where it was written has finite numbers only.** -/
theorem everywhere_finite_of_ofJson? (node : Node) {read : Node}
    (decoded : ofJson? (node.toJson.reread reader) = some read) :
    node.Everywhere fun part => part.properties.Finite := by
  rw [ofJson?_reread_toJson] at decoded
  rw [everywhere_iff]
  cases node with
  | text value => exact ⟨Properties.finite_empty, fun _ below => (List.not_mem_nil below).elim⟩
  | root children =>
      obtain ⟨nodes, below, -⟩ := Option.map_eq_some_iff.mp decoded
      rw [directlyBelow_root]
      exact ⟨Properties.finite_empty, everywhere_finite_of_ofJsons? children below⟩
  | element tagName properties children content =>
      rw [kind, ofFurtherFields?_reread_element] at decoded
      split at decoded
      · next readProperties readChildren readContent =>
          refine ⟨Properties.finite_of_ofJson?_reread readProperties, fun lower directly => ?_⟩
          have finite := everywhere_finite_of_ofJsons? children readChildren
          cases content with
          | none =>
              rw [directlyBelow_element_none] at directly
              exact finite lower directly
          | some content =>
              obtain ⟨nodes, below, -⟩ := Option.map_eq_some_iff.mp readContent
              rcases List.mem_append.mp directly with child | inside
              · exact finite lower child
              · exact everywhere_finite_of_ofJsons? content below lower inside
      · cases decoded

private theorem everywhere_finite_of_ofJsons? (nodes : List Node) {read : List Node}
    (decoded : ofJsons? (rereadItems reader (toJsons nodes)) = some read) :
    ∀ node ∈ nodes, node.Everywhere fun part => part.properties.Finite := by
  cases nodes with
  | nil => exact fun _ member => (List.not_mem_nil member).elim
  | cons node rest =>
      rw [toJsons, rereadItems, ofJsons?] at decoded
      split at decoded
      · next first others =>
          have here := everywhere_finite_of_ofJson? node first
          have later := everywhere_finite_of_ofJsons? rest others
          intro lower member
          rcases List.mem_cons.mp member with rfl | further
          · exact here
          · exact later lower further
      · cases decoded

end

end Reread

/-- **What is built from plain values is read if and only if it holds no infinity**, unless
brackets are nested deeper in its text than the reader allows. Whichever way numbers are read, as
long as they are in range: without an infinity the tree comes back with its numbers as they are
read, and it is the same tree if they are read back (`NumbersReadBack`), as by a reader that rounds
correctly; with an infinity the text is JSON, but not that of a tree. -/
theorem Assembled.read_render {node : Node} (assembled : node.Assembled)
    (shallow : node.toJson.nesting ≤ Json.depthLimit) (reader : Json.NumberReader)
    (inRange : node.toJson.InRange reader) :
    ((node.Everywhere fun part => ¬ part.properties.HoldsInfinity) →
        readWith reader node.toJson.render = .ok (node.reread reader) ∧
          (node.NumbersReadBack reader →
            node.reread reader = node.unsignZeros ∧ node.unsignZeros.same node = true)) ∧
      ((∃ part ∈ node.parts, part.properties.HoldsInfinity) →
        readWith reader node.toJson.render = .error .mismatch) := by
  have free := assembled.reachable.everywhere_proper
  have distinct := assembled.everywhere_distinct
  constructor
  · intro bounded
    have finite : node.Everywhere fun part => part.properties.Finite := fun part member =>
      (Properties.finite_iff (free part member).nanFree).mpr (bounded part member)
    have written := node.writtenAs_toJson finite
    refine ⟨written.readWith_render distinct finite shallow inRange, fun back => ?_⟩
    exact ⟨back.reread_eq, node.same_unsignZeros finite distinct⟩
  · rintro ⟨part, member, infinity⟩
    rw [readWith_render_toJson shallow inRange]
    cases made : ofJson? (node.toJson.reread reader) with
    | none => rfl
    | some back =>
        have finite := everywhere_finite_of_ofJson? node made
        exact absurd infinity
          ((Properties.finite_iff (free part member).nanFree).mp (finite part member))

/-- A root of one table cell with a width. -/
def rootOfCell (width : Number) : Node :=
  .root [.element "td" ⟨[("width", .number width)]⟩ [] none]

/-- The cell as an object that describes it. -/
def describedCell (width : Number) : Value :=
  .object ⟨[("type", .string "element"), ("tagName", .string "td"),
    ("properties", .object ⟨[("width", .number width)]⟩)]⟩

/-- A width of negative zero comes back as zero, and one of negative infinity does not. -/
theorem Assembled.read_render_rootOfCell :
    (rootOfCell (.finite true .zero)).Assembled ∧
      (rootOfCell (.finite true .zero)).toJson.nesting ≤ Json.depthLimit ∧
      (rootOfCell (.finite true .zero)).toJson.InRange .nearest ∧
      (((rootOfCell (.finite true .zero)).Everywhere fun part =>
          ¬ part.properties.HoldsInfinity) ∧
        (rootOfCell (.finite true .zero)).NumbersReadBack .nearest ∧
        read (rootOfCell (.finite true .zero)).toJson.render = .ok (rootOfCell .zero) ∧
          (rootOfCell .zero).same (rootOfCell (.finite true .zero)) = true) ∧
      (rootOfCell (.infinite true)).Assembled ∧
      (rootOfCell (.infinite true)).toJson.nesting ≤ Json.depthLimit ∧
      (rootOfCell (.infinite true)).toJson.InRange .nearest ∧
      ((∃ part ∈ (rootOfCell (.infinite true)).parts, part.properties.HoldsInfinity) ∧
        read (rootOfCell (.infinite true)).toJson.render = .error .mismatch) := by
  have built : h none [describedCell (.finite true .zero)] =
      .ok (rootOfCell (.finite true .zero)) := rfl
  have unbounded : h none [describedCell (.infinite true)] =
      .ok (rootOfCell (.infinite true)) := rfl
  have assembled := Assembled.html rfl built
  have assembledToo := Assembled.html rfl unbounded
  have shallow : (rootOfCell (.finite true .zero)).toJson.nesting ≤ Json.depthLimit := by decide
  have shallowToo : (rootOfCell (.infinite true)).toJson.nesting ≤ Json.depthLimit := by decide
  have inRange := (rootOfCell (.finite true .zero)).toJson.inRange_nearest
  have inRangeToo := (rootOfCell (.infinite true)).toJson.inRange_nearest
  have bounded : (rootOfCell (.finite true .zero)).Everywhere fun part =>
      ¬ part.properties.HoldsInfinity := by decide
  have infinity : ∃ part ∈ (rootOfCell (.infinite true)).parts,
      part.properties.HoldsInfinity := by decide
  have back : (rootOfCell (.finite true .zero)).NumbersReadBack .nearest :=
    numbersReadBack_nearest (by decide)
  obtain ⟨rendered, same⟩ := (assembled.read_render shallow .nearest inRange).1 bounded
  rw [(same back).1] at rendered
  exact ⟨assembled, shallow, inRange, ⟨bounded, back, rendered, (same back).2⟩,
    assembledToo, shallowToo, inRangeToo, infinity,
    (assembledToo.read_render shallowToo .nearest inRangeToo).2 infinity⟩

/-- An infinite width is written, but its text is not read. -/
theorem not_read_render_infinite :
    Value.embeddedAll [describedCell (.infinite false)] = [] ∧
      h none [describedCell (.infinite false)] = .ok (rootOfCell (.infinite false)) ∧
      read (rootOfCell (.infinite false)).toJson.render = .error .mismatch := by
  have shallow : (rootOfCell (.infinite false)).toJson.nesting ≤ Json.depthLimit := by decide
  refine ⟨rfl, rfl, ?_⟩
  rw [read, readWith_render_toJson shallow (Json.inRange_nearest _)]
  rfl

end Node

end MarkupTree
