import MarkupTree.Proofs.Json.Documents

/-! # Trees survive being written and read

What a tree is written as is one of its documents, so it is read back, but for the signs of its
zeros (`Node.read_render_toJson`). Where numbers are rounded correctly, that is what becomes of the
JSON value of the tree as well (`Node.toJson_unsignZeros`), and so the tree that was read is written
as the same text.
-/

namespace MarkupTree

open Json (rereadItems rereadFields)

/-! What reading does to the JSON value of a tree is what losing the signs does. -/

private theorem ListItem.toJson_unsignZero (item : ListItem) :
    (item.mapNumber Number.unsignZero).toJson = item.toJson.reread .nearest := by
  cases item with
  | number value => exact (Json.reread_nearest_ofNumber value).symm
  | string value => rfl

private theorem PropertyValue.toJson_unsignZeros (value : PropertyValue) :
    (value.mapNumbers Number.unsignZero).toJson = value.toJson.reread .nearest := by
  cases value with
  | boolean value => rfl
  | number value => exact (Json.reread_nearest_ofNumber value).symm
  | string value => rfl
  | list items =>
      rw [mapNumbers, toJson, toJson, Json.reread, Json.rereadItems_eq, List.map_map, List.map_map]
      congr 2
      funext item
      exact item.toJson_unsignZero

/-- Reading the JSON value of properties loses the signs of zeros. -/
theorem Properties.toJson_unsignZeros (properties : Properties) :
    (properties.mapNumbers Number.unsignZero).toJson = properties.toJson.reread .nearest := by
  rw [toJson, toJson, Json.reread, Json.rereadFields_eq, mapNumbers, OrderedMap.mapValues,
    List.map_map, List.map_map]
  congr 2
  funext entry
  exact congrArg (Prod.mk entry.1) entry.2.toJson_unsignZeros

namespace Node

mutual

/-- **Reading loses the signs of zeros and nothing else**, if numbers are rounded correctly. -/
theorem toJson_unsignZeros (node : Node) :
    node.unsignZeros.toJson = node.toJson.reread .nearest := by
  cases node with
  | text value => rfl
  | root children =>
      simp only [unsignZeros, mapNumbers, toJson, toJsons_unsignZeros children, Json.reread,
        rereadFields]
  | element tagName properties children content =>
      cases content with
      | none =>
          simp only [unsignZeros, mapNumbers, toJson, toJsons_unsignZeros children,
            properties.toJson_unsignZeros, contentToJson, List.append_nil, Json.reread,
            rereadFields]
      | some content =>
          simp only [unsignZeros, mapNumbers, toJson, toJsons_unsignZeros children,
            toJsons_unsignZeros content, properties.toJson_unsignZeros, contentToJson,
            List.cons_append, List.nil_append, Json.reread, rereadFields]

private theorem toJsons_unsignZeros (nodes : List Node) :
    toJsons (mapNumbersAll Number.unsignZero nodes) = rereadItems .nearest (toJsons nodes) := by
  cases nodes with
  | nil => rfl
  | cons node rest =>
      have first : (mapNumbers Number.unsignZero node).toJson = node.toJson.reread .nearest :=
        toJson_unsignZeros node
      rw [mapNumbersAll, toJsons, toJsons, rereadItems, first, toJsons_unsignZeros rest]

end

/-- **JSON round trip.** A tree whose numbers are all finite is read back from its text, unless
brackets are nested deeper in it than the reader allows. What comes back lacks the signs of
zeros and nothing else: it is the same tree, with the keys of properties in the same order
and with content where there was content, and it is written as the same text.

That no key is given twice is asked for because the type of ordered maps does not say it;
their operations never give a key twice. -/
theorem read_render_toJson (node : Node)
    (finite : node.Everywhere fun part => part.properties.Finite)
    (distinct : node.Everywhere fun part => part.properties.Distinct)
    (shallow : node.toJson.nesting ≤ Json.depthLimit) :
    read node.toJson.render = .ok node.unsignZeros ∧
      node.unsignZeros.same node = true ∧
      node.unsignZeros.parts.map frame = node.parts.map frame ∧
      node.unsignZeros.toJson.render = node.toJson.render := by
  refine ⟨?_, same_unsignZeros node finite distinct, frames_mapNumbers _ node, ?_⟩
  · have written := node.writtenAs_toJson finite
    rw [read, written.readWith_render distinct finite shallow (Json.inRange_nearest _),
      (numbersReadBack_nearest finite).reread_eq]
  · rw [toJson_unsignZeros, Json.render_reread]

/-- A template with empty content around a root, with a text that needs escapes, a key that
names a field of nodes, and a negative zero beside one and a half. -/
def signedTemplate : Node :=
  .element "template"
    ⟨[("type", .string "a\"\n\\"), ("tabIndex", .number (.finite true .zero)),
      ("coords", .list [.number (.finite false ⟨4609434218613702656, by decide⟩), .string ""])]⟩
    [.root [.text "\x01"], .text ""] (some [])

/-- Read-back with a negative zero, a list that is empty and content that is. -/
theorem read_render_toJson_signedTemplate :
    (signedTemplate.Everywhere fun part => part.properties.Finite) ∧
      (signedTemplate.Everywhere fun part => part.properties.Distinct) ∧
      signedTemplate.toJson.nesting ≤ Json.depthLimit ∧
      read signedTemplate.toJson.render = .ok signedTemplate.unsignZeros ∧
      signedTemplate.unsignZeros.same signedTemplate = true ∧
      signedTemplate.unsignZeros.parts.map frame = signedTemplate.parts.map frame ∧
      signedTemplate.unsignZeros.toJson.render = signedTemplate.toJson.render := by
  have finite : signedTemplate.Everywhere fun part => part.properties.Finite := by decide
  have distinct : signedTemplate.Everywhere fun part => part.properties.Distinct := by decide
  have shallow : signedTemplate.toJson.nesting ≤ Json.depthLimit := by decide
  exact ⟨finite, distinct, shallow, read_render_toJson signedTemplate finite distinct shallow⟩

end Node

end MarkupTree
