import Mathlib.Data.List.Induction
import MarkupTree.Proofs.Schema.Records

/-! # What a property bag makes of properties

An entry of a bag is effective unless its value is dropped. Its own value is what it would
store in empty properties. `Properties.Extended` says what any sequence of entries makes
of properties, in terms of these two alone: which keys there are and in which order, the
last own value under each key, and under the classes all own lists one after the other.

The description is an invariant of adding entries: it holds of no entries, and it is
carried from the entries processed so far to one more (`Properties.Extended.add`).
-/

namespace MarkupTree

/-- A further key is dropped if it is there and goes last if it is not. -/
theorem eraseDups_concat (keys : List String) (key : String) :
    (keys ++ [key]).eraseDups =
      if key ∈ keys then keys.eraseDups else keys.eraseDups ++ [key] := by
  rw [List.eraseDups_append]
  split
  · next present => simp [List.removeAll, present]
  · next absent => simp [List.removeAll, absent, List.eraseDups_cons]

private theorem PropertyKind.coerceItem_spaceSeparated (property : String) (item : ListItem) :
    PropertyKind.spaceSeparated.coerceItem property item = item := by
  cases item with
  | number value => rfl
  | string text => rfl

private theorem PropertyKind.coerceItem_plain (property : String) (item : ListItem) :
    PropertyKind.plain.coerceItem property item = item := by
  cases item with
  | number value => rfl
  | string text => rfl

/-- The items of a list of classes are taken as they are. -/
theorem Schema.coerceItem_className (space : Space) (name : String) (item : ListItem)
    (classes : ((Factory.schemaOf space).find name).property = "className") :
    ((Factory.schemaOf space).find name).kind.coerceItem "className" item = item := by
  rcases find_schemaOf space name with plain | ⟨vocabulary, listed, definition, defined, same⟩
  · rw [plain, PropertyKind.coerceItem_plain]
  · rw [same] at classes ⊢
    have kind := space.kind_className vocabulary listed definition defined classes
    simp only [PropertyIndex.infoOf, kind, PropertyKind.coerceItem_spaceSeparated]

namespace Properties

/-- The entries whose value is neither null nor something that is not a number. -/
def effective (entries : List (String × Value)) : List (String × Value) :=
  entries.filter fun entry => !entry.2.isNullish

/-- The canonical key of an entry. -/
def canonicalKey (schema : Schema) (entry : String × Value) : String :=
  (schema.find entry.1).property

/-- What an entry stores in empty properties. -/
def ownValue? (schema : Schema) (entry : String × Value) : Option PropertyValue :=
  (add schema .empty entry.1 entry.2).get? (canonicalKey schema entry)

/-- The effective entries with a canonical key, in order. -/
def entriesOf (schema : Schema) (key : String) (entries : List (String × Value)) :
    List (String × Value) :=
  (effective entries).filter fun entry => canonicalKey schema entry == key

/-- What entries make of properties whose classes are `classes` to begin with. -/
structure Extended (schema : Schema) (initial : Properties) (classes : List ListItem)
    (entries : List (String × Value)) (result : Properties) : Prop where
  /-- The keys that were there come first and in their order, then the others in the order of
  their first effective entry. -/
  keys : result.keys = initial.keys ++
    (((effective entries).map (canonicalKey schema)).filter (· ∉ initial.keys)).eraseDups
  /-- A key without effective entries is as it was. -/
  kept : ∀ key, entriesOf schema key entries = [] → result.get? key = initial.get? key
  /-- Any key but that of the classes holds the own value of its last effective entry. -/
  last : ∀ key ≠ "className", ∀ entry, (entriesOf schema key entries).getLast? = some entry →
    ∃ value, ownValue? schema entry = some value ∧ result.get? key = some value
  /-- The classes that were there come first, then the own lists of all effective entries. -/
  classes : ∃ added : List (List ListItem),
    (entriesOf schema "className" entries).map (ownValue? schema) =
        added.map (fun items => some (.list items)) ∧
      (entriesOf schema "className" entries ≠ [] →
        result.get? "className" = some (.list (classes ++ added.flatten)))

section OneEntry

variable (schema : Schema) (entry : String × Value)

/-- What is nullish is not stored. -/
theorem add_of_isNullish (dropped : entry.2.isNullish = true) (properties : Properties) :
    add schema properties entry.1 entry.2 = properties := by
  simp only [add, stored?, dropped, if_true]

/-- A value that is not dropped can be read under every kind. -/
theorem exists_uncoerced? (kind : PropertyKind) {value : Value}
    (present : value.isNullish = false) : ∃ read, uncoerced? kind value = some read := by
  cases value with
  | null => cases present
  | number value =>
      simp only [Value.isNullish] at present
      exact ⟨.number value, by simp [uncoerced?, PropertyValue.ofValue?, present]⟩
  | string text =>
      simp only [uncoerced?]
      split
      · exact ⟨_, rfl⟩
      · exact ⟨_, rfl⟩
  | boolean value => exact ⟨_, rfl⟩
  | array items => exact ⟨_, rfl⟩
  | object fields => exact ⟨_, rfl⟩
  | node tree => exact ⟨_, rfl⟩

/-- An effective entry stores one and the same value in all properties, unless it adds to
the classes. -/
theorem add_of_ne_className (present : entry.2.isNullish = false)
    (other : canonicalKey schema entry ≠ "className") :
    ∃ value, ownValue? schema entry = some value ∧ ∀ properties : Properties,
      add schema properties entry.1 entry.2 =
        properties.insert (canonicalKey schema entry) value := by
  obtain ⟨read, reads⟩ := exists_uncoerced? (schema.find entry.1).kind present
  have stores : ∃ value, ∀ properties : Properties,
      properties.stored? (schema.find entry.1) entry.2 = some value := by
    simp only [canonicalKey] at other
    simp only [stored?, present, reads, other, Bool.false_eq_true, if_false, Option.map_some]
    split
    · exact ⟨_, fun _ => rfl⟩
    · exact ⟨_, fun _ => rfl⟩
  obtain ⟨value, stores⟩ := stores
  have inserts (properties : Properties) : add schema properties entry.1 entry.2 =
      properties.insert (canonicalKey schema entry) value := by
    simp only [add, stores, canonicalKey]
  refine ⟨value, ?_, inserts⟩
  rw [ownValue?, inserts, OrderedMap.get?_insert, if_pos rfl]

/-- An effective entry for the classes has a list of its own, which it adds to the classes
that are there, provided that the schema keeps classes as they are. -/
theorem add_of_eq_className (present : entry.2.isNullish = false)
    (same : canonicalKey schema entry = "className")
    (keeps : ∀ item, (schema.find entry.1).kind.coerceItem "className" item = item) :
    ∃ items, ownValue? schema entry = some (.list items) ∧ ∀ properties : Properties,
      add schema properties entry.1 entry.2 =
        properties.insert "className" (.list (properties.presentClasses ++ items)) := by
  obtain ⟨read, reads⟩ := exists_uncoerced? (schema.find entry.1).kind present
  have inserts (properties : Properties) : add schema properties entry.1 entry.2 =
      properties.insert "className" (.list (properties.presentClasses ++ classItems read)) := by
    simp only [canonicalKey] at same
    have notStyle : ¬ "className" = "style" := by decide
    have unchanged : (schema.find entry.1).kind.coerceItem "className" = id := funext keeps
    simp only [add, stored?, present, reads, same, notStyle, Bool.false_eq_true, if_false, if_true,
      Option.map_some, coerced, unchanged, List.map_id]
  refine ⟨classItems read, ?_, inserts⟩
  rw [ownValue?, same, inserts, OrderedMap.get?_insert, if_pos rfl]
  rfl

end OneEntry

section OneMore

variable (schema : Schema) (entries : List (String × Value)) (entry : String × Value)

private theorem effective_concat :
    effective (entries ++ [entry]) =
      if entry.2.isNullish then effective entries else effective entries ++ [entry] := by
  cases dropped : entry.2.isNullish <;> simp [effective, dropped]

private theorem entriesOf_concat_of_isNullish (dropped : entry.2.isNullish = true) (key : String) :
    entriesOf schema key (entries ++ [entry]) = entriesOf schema key entries := by
  rw [entriesOf, effective_concat, if_pos dropped, entriesOf]

private theorem entriesOf_concat (present : entry.2.isNullish = false) (key : String) :
    entriesOf schema key (entries ++ [entry]) =
      if canonicalKey schema entry = key then entriesOf schema key entries ++ [entry]
      else entriesOf schema key entries := by
  rw [entriesOf, effective_concat, if_neg (by simp [present])]
  by_cases same : canonicalKey schema entry = key
  · simp [entriesOf, same]
  · simp [entriesOf, same]

end OneMore

namespace Extended

variable {schema : Schema} {initial result : Properties} {classes : List ListItem}
  {entries : List (String × Value)}

/-- No entries change nothing. -/
theorem nil : Extended schema initial classes [] initial where
  keys := (List.append_nil _).symm
  kept := fun _ _ => rfl
  last := fun _ _ _ absent => by cases absent
  classes := ⟨[], rfl, fun some => (some rfl).elim⟩

/-- The classes that are stored are those from before and the own lists so far. -/
theorem presentClasses_eq (extended : Extended schema initial classes entries result)
    (listed : (initial.get? "className").getD (.list []) = .list classes) :
    ∃ added : List (List ListItem),
      (entriesOf schema "className" entries).map (ownValue? schema) =
          added.map (fun items => some (.list items)) ∧
        result.presentClasses = classes ++ added.flatten := by
  obtain ⟨added, own, stored⟩ := extended.classes
  refine ⟨added, own, ?_⟩
  by_cases untouched : entriesOf schema "className" entries = []
  · have none : added = [] := by
      rw [untouched] at own
      exact List.map_eq_nil_iff.mp own.symm
    rw [presentClasses, extended.kept _ untouched, none, List.flatten_nil, List.append_nil]
    cases before : initial.get? "className" with
    | none =>
        rw [before] at listed
        exact PropertyValue.list.inj listed
    | some value =>
        rw [before] at listed
        obtain rfl : value = .list classes := listed
        rfl
  · rw [presentClasses, stored untouched]

/-- One more effective entry, whose value goes where its canonical key stands. -/
theorem insert (extended : Extended schema initial classes entries result)
    {entry : String × Value} (present : entry.2.isNullish = false) {value : PropertyValue}
    (own : canonicalKey schema entry ≠ "className" → ownValue? schema entry = some value)
    (joined : ∃ added : List (List ListItem),
      (entriesOf schema "className" (entries ++ [entry])).map (ownValue? schema) =
          added.map (fun items => some (.list items)) ∧
        (entriesOf schema "className" (entries ++ [entry]) ≠ [] →
          OrderedMap.get? (result.insert (canonicalKey schema entry) value) "className" =
            some (.list (classes ++ added.flatten)))) :
    Extended schema initial classes (entries ++ [entry])
      (result.insert (canonicalKey schema entry) value) where
  keys := by
    have later : effective (entries ++ [entry]) = effective entries ++ [entry] := by
      rw [effective_concat, if_neg (by simp [present])]
    rw [OrderedMap.keys_insert, extended.keys, later, List.map_append, List.filter_append,
      List.map_singleton]
    by_cases before : canonicalKey schema entry ∈ initial.keys
    · simp [before]
    · have single : [canonicalKey schema entry].filter (· ∉ initial.keys) =
          [canonicalKey schema entry] := by simp [before]
      rw [single, eraseDups_concat]
      simp only [List.mem_append, before, List.mem_eraseDups, false_or]
      split
      · rfl
      · rw [List.append_assoc]
  kept key absent := by
    rw [entriesOf_concat schema entries entry present] at absent
    rw [OrderedMap.get?_insert]
    split at absent
    · exact (List.append_ne_nil_of_right_ne_nil _ (List.cons_ne_nil _ _) absent).elim
    · next other => rw [if_neg (Ne.symm other), extended.kept key absent]
  last key notClasses final isFinal := by
    rw [entriesOf_concat schema entries entry present] at isFinal
    rw [OrderedMap.get?_insert]
    split at isFinal
    · next same =>
        rw [List.getLast?_concat] at isFinal
        obtain rfl := Option.some.inj isFinal
        exact ⟨value, own (same ▸ notClasses), if_pos same.symm⟩
    · next other =>
        rw [if_neg (Ne.symm other)]
        exact extended.last key notClasses final isFinal
  classes := joined

/-- What a bag makes of properties, carried from some entries to one more. -/
theorem add {space : Space}
    (extended : Extended (Factory.schemaOf space) initial classes entries result)
    (listed : (initial.get? "className").getD (.list []) = .list classes)
    (entry : String × Value) :
    Extended (Factory.schemaOf space) initial classes (entries ++ [entry])
      (Properties.add (Factory.schemaOf space) result entry.1 entry.2) := by
  cases present : entry.2.isNullish with
  | true =>
      rw [add_of_isNullish _ _ present]
      have same := entriesOf_concat_of_isNullish (Factory.schemaOf space) entries entry present
      refine ⟨?_, ?_, ?_, ?_⟩
      · rw [effective_concat, if_pos present]
        exact extended.keys
      · simpa only [same] using extended.kept
      · simpa only [same] using extended.last
      · simpa only [same] using extended.classes
  | false =>
      have one := entriesOf_concat (Factory.schemaOf space) entries entry present "className"
      by_cases same : canonicalKey (Factory.schemaOf space) entry = "className"
      · obtain ⟨items, own, inserts⟩ := add_of_eq_className _ _ present same
          fun item => Schema.coerceItem_className space entry.1 item same
        obtain ⟨added, before, stored⟩ := extended.presentClasses_eq listed
        rw [inserts, ← same]
        refine extended.insert present (fun other => (other same).elim) ⟨added ++ [items], ?_, ?_⟩
        · rw [one, if_pos same, List.map_append, before, List.map_append, List.map_singleton, own,
            List.map_singleton]
        · intro _
          rw [same, OrderedMap.get?_insert, if_pos rfl, stored]
          simp only [List.flatten_append, List.flatten_singleton, List.append_assoc]
      · obtain ⟨value, own, inserts⟩ := add_of_ne_className _ _ present same
        obtain ⟨added, before, stored⟩ := extended.classes
        rw [inserts]
        refine extended.insert present (fun _ => own) ⟨added, ?_, ?_⟩
        · rw [one, if_neg same, before]
        · intro some
          rw [one, if_neg same] at some
          rw [OrderedMap.get?_insert, if_neg (Ne.symm same), stored some]

end Extended

/-- **The exact result of a whole property bag.** For HTML and for SVG, whatever the entries
are and however their keys are spelled, the properties are those that `Extended` describes,
if the classes that are there to begin with are absent or a list. -/
theorem extend_schemaOf (space : Space) (initial : Properties) (classes : List ListItem)
    (listed : (initial.get? "className").getD (.list []) = .list classes)
    (entries : List (String × Value)) :
    Extended (Factory.schemaOf space) initial classes entries
      (initial.extend (Factory.schemaOf space) entries) := by
  induction entries using List.reverseRecOn with
  | nil => exact .nil
  | append_singleton entries entry ih =>
      rw [extend, List.foldl_append]
      exact ih.add listed entry

/-- Two spellings of the classes and one key twice, on properties with an id and a class. -/
theorem extend_schemaOf_html :
    OrderedMap.get? (⟨[("id", .string "a"), ("className", .strings ["b"])]⟩ : Properties)
          "className" = some (.strings ["b"]) ∧
      Extended (Factory.schemaOf .html)
        ⟨[("id", .string "a"), ("className", .strings ["b"])]⟩ [.string "b"]
        [("CLASS", .string "c d"), ("title", .null), ("ID", .string "e"), ("className", .number .zero),
          ("title", .string "f"), ("id", .boolean true)]
        (extend (Factory.schemaOf .html) ⟨[("id", .string "a"), ("className", .strings ["b"])]⟩
          [("CLASS", .string "c d"), ("title", .null), ("ID", .string "e"),
            ("className", .number .zero), ("title", .string "f"), ("id", .boolean true)]) :=
  ⟨rfl, extend_schemaOf .html _ [.string "b"] rfl _⟩

end Properties

end MarkupTree
