import MarkupTree.Proofs.Number.TextRoundTrip
import MarkupTree.Proofs.Sameness.Properties

/-! # A stored value is stored again

A boolean, a number, a text or a list is resolved to a property value. If that value is given
for the same key, it is stored once more as it is (`Properties.add_again`), whatever the schema
makes of the key.

The second time the value takes another way: what was a text may be a list by now, and what was
read from a text is no text any more. It comes through because reading the texts of a value
leaves nothing that would be read otherwise (`Properties.coerced_coerced`), and because the text
of a number, to which a class is turned first, is read as that number
(`PropertyKind.same_coerceItem_display`).
-/

namespace MarkupTree

namespace PropertyKind

variable (kind : PropertyKind) (property : String)

/-- A text becomes a number if the kind takes numbers, or true, or it is kept. -/
theorem coerce_cases (text : String) :
    (∃ value, kind.coerce property text = .number value ∧ Number.parse text = some value ∧
        (kind.isNumber || kind.isPositiveNumber) = true) ∨
      kind.coerce property text = .boolean true ∨ kind.coerce property text = .string text := by
  unfold coerce
  dsimp only
  split
  · next value read =>
      split at read
      · next numeric => exact .inl ⟨value, rfl, read, numeric⟩
      · cases read
  · split
    · exact .inr (.inl rfl)
    · exact .inr (.inr rfl)

theorem coerceItem_of_parse {text : String} {value : Number}
    (numeric : (kind.isNumber || kind.isPositiveNumber) = true)
    (read : Number.parse text = some value) :
    kind.coerceItem property (.string text) = .number value := by
  simp only [coerceItem, coerce, numeric, ↓reduceIte, read]

theorem coerceItem_cases (text : String) :
    (∃ value, kind.coerceItem property (.string text) = .number value ∧
        Number.parse text = some value ∧ (kind.isNumber || kind.isPositiveNumber) = true) ∨
      kind.coerceItem property (.string text) = .string "true" ∨
      kind.coerceItem property (.string text) = .string text := by
  rcases kind.coerce_cases property text with ⟨value, number, read⟩ | true | kept
  · exact .inl ⟨value, by simp only [coerceItem, number], read⟩
  · refine .inr (.inl ?_)
    simp only [coerceItem, true]
    rfl
  · refine .inr (.inr ?_)
    simp only [coerceItem, kept]
    rfl

/-- The text that stands for true in a list stays what it is. -/
theorem coerceItem_true : kind.coerceItem property (.string "true") = .string "true" := by
  rcases kind.coerceItem_cases property "true" with ⟨value, -, read, -⟩ | true | kept
  · have unread : Number.parse "true" = none := by decide +kernel
    rw [unread] at read
    cases read
  · exact true
  · exact kept

/-- An item that was read is not read otherwise. -/
theorem coerceItem_coerceItem (item : ListItem) :
    kind.coerceItem property (kind.coerceItem property item) = kind.coerceItem property item := by
  cases item with
  | number value => rfl
  | string text =>
      rcases kind.coerceItem_cases property text with ⟨value, number, -⟩ | true | kept
      · rw [number]
        rfl
      · rw [true, coerceItem_true]
      · rw [kept, kept]

/-- An item that was read from a text is the same if it is read from its own text. -/
theorem same_coerceItem_display (text : String) :
    (kind.coerceItem property (.string (kind.coerceItem property (.string text)).display)).same
      (kind.coerceItem property (.string text)) = true := by
  rcases kind.coerceItem_cases property text with ⟨value, number, read, numeric⟩ | true | kept
  · -- The text of the number may spell it otherwise than the text that was read.
    have known := Number.isNan_of_parse read
    have again := kind.coerceItem_of_parse property numeric (Number.parse_display known)
    rw [number, ListItem.display, again]
    exact Number.same_unsignZero known
  · rw [true, ListItem.display, coerceItem_true]
    exact beq_self_eq_true "true"
  · rw [kept, ListItem.display, kept]
    exact beq_self_eq_true text

end PropertyKind

/-- Whether a value is a boolean, a number that is one, a text or a list of anything. -/
def Value.isDirect : Value → Bool
  | .boolean _ | .string _ | .array _ => true
  | .number value => !value.isNan
  | _ => false

theorem Value.isNullish_of_isDirect {value : Value} (direct : value.isDirect = true) :
    value.isNullish = false := by
  cases value with
  | number value => simpa only [isDirect, isNullish, Bool.not_eq_true'] using direct
  | null => cases direct
  | boolean value => rfl
  | string text => rfl
  | array items => rfl
  | object fields => cases direct
  | node tree => cases direct

theorem Value.isDirect_ofPropertyValue {value : PropertyValue} (free : value.NanFree) :
    (Value.ofPropertyValue value).isDirect = true := by
  cases value with
  | number value =>
      rw [PropertyValue.nanFree_number_iff] at free
      simp only [ofPropertyValue, isDirect, free, Bool.not_false]
  | boolean value => rfl
  | string text => rfl
  | list items => rfl

namespace Properties

/-- The value is no text that the kind would split. -/
def Unsplit (kind : PropertyKind) : PropertyValue → Prop
  | .string text => kind.tokens? text = none
  | _ => True

/-- What a boolean, a number, a text or a list is read as is not split any more. -/
theorem exists_unsplit (kind : PropertyKind) {value : Value} (direct : value.isDirect = true) :
    ∃ read, uncoerced? kind value = some read ∧ Unsplit kind read := by
  cases value with
  | boolean value => exact ⟨.boolean value, rfl, trivial⟩
  | array items => exact ⟨.list (ListItem.ofValues items), rfl, trivial⟩
  | number value =>
      simp only [Value.isDirect, Bool.not_eq_true'] at direct
      exact ⟨.number value, by simp [uncoerced?, PropertyValue.ofValue?, direct], trivial⟩
  | string text =>
      simp only [uncoerced?]
      split
      · exact ⟨_, rfl, trivial⟩
      · next whole => exact ⟨.string text, rfl, whole⟩
  | null => cases direct
  | object fields => cases direct
  | node tree => cases direct

/-- A value that is not split is read as itself when it is passed as a value. -/
theorem uncoerced?_ofPropertyValue {kind : PropertyKind} {read : PropertyValue}
    (free : read.NanFree) (unsplit : Unsplit kind read) :
    uncoerced? kind (.ofPropertyValue read) = some read := by
  cases read with
  | string text =>
      have whole : kind.tokens? text = none := unsplit
      simp only [Value.ofPropertyValue, uncoerced?, whole]
  | boolean value => rfl
  | number value => exact PropertyValue.ofValue?_ofPropertyValue free
  | list items => exact PropertyValue.ofValue?_ofPropertyValue free

variable (info : PropertyInfo)

/-- Reading the texts of a value leaves nothing that would be read otherwise. -/
theorem coerced_coerced (read : PropertyValue) :
    coerced info (coerced info read) = coerced info read := by
  cases read with
  | boolean value => rfl
  | number value => rfl
  | string text =>
      simp only [coerced]
      rcases info.kind.coerce_cases info.property text with ⟨value, number, -⟩ | true | kept
      · rw [number]
      · rw [true]
      · rw [kept]
        exact kept
  | list items =>
      simp only [coerced, List.map_map, PropertyValue.list.injEq]
      exact List.map_congr_left fun item _ =>
        info.kind.coerceItem_coerceItem info.property item

/-- A text that is read remains a text only as it is. -/
theorem Unsplit.coerced {read : PropertyValue} (unsplit : Unsplit info.kind read) :
    Unsplit info.kind (coerced info read) := by
  cases read with
  | boolean value => exact unsplit
  | number value => exact unsplit
  | list items => exact unsplit
  | string text =>
      simp only [Properties.coerced]
      rcases info.kind.coerce_cases info.property text with ⟨value, number, -⟩ | true | kept
      · rw [number]
        exact trivial
      · rw [true]
        exact trivial
      · rw [kept]
        exact unsplit

/-- What a value adds to the classes is a list of texts. -/
theorem exists_classItems (read : PropertyValue) :
    ∃ texts : List String, classItems read = texts.map ListItem.string := by
  cases read with
  | list items => exact ⟨items.map ListItem.display, by simp [classItems]⟩
  | boolean value => exact ⟨[(PropertyValue.boolean value).display], rfl⟩
  | number value => exact ⟨[(PropertyValue.number value).display], rfl⟩
  | string text => exact ⟨[(PropertyValue.string text).display], rfl⟩

/-- Classes that were read from texts are the same if they are read from their own texts. -/
theorem same_coerced_classItems (texts : List String) :
    (coerced info (.list (classItems (coerced info (.list (texts.map ListItem.string)))))).same
      (coerced info (.list (texts.map ListItem.string))) = true := by
  simp only [coerced, classItems, List.map_map]
  exact PropertyValue.same_list_map fun text _ =>
    info.kind.same_coerceItem_display info.property text

/-- The value that is stored in empty properties, in whichever way the property reads it. -/
theorem stored?_empty {value : Value} (present : value.isNullish = false)
    (unstyled : info.property ≠ "style") {read : PropertyValue}
    (reads : uncoerced? info.kind value = some read) :
    stored? .empty info value = some (coerced info
      (if info.property = "className" then .list (classItems read) else read)) := by
  simp only [stored?, present, unstyled, reads, Bool.false_eq_true, ↓reduceIte, Option.map_some]
  rfl

/-- A value that was stored in empty properties is stored again if it is given as a value. -/
theorem stored?_ofPropertyValue {value : Value} (direct : value.isDirect = true) :
    ∃ read again, stored? .empty info value = some read ∧
      stored? .empty info (.ofPropertyValue read) = some again ∧ again.same read = true := by
  have present := Value.isNullish_of_isDirect direct
  by_cases style : info.property = "style"
  · refine ⟨.string value.display, .string value.display, ?_, ?_, beq_self_eq_true value.display⟩
    · simp only [stored?, present, style, Bool.false_eq_true, ↓reduceIte]
    · simp only [stored?, style, ↓reduceIte]
      rfl
  · obtain ⟨plain, reads, unsplit⟩ := exists_unsplit info.kind direct
    have stores := stored?_empty info present style reads
    have free := nanFree_of_stored? nanFree_empty stores
    have presentAgain := Value.isNullish_of_isDirect (Value.isDirect_ofPropertyValue free)
    by_cases classes : info.property = "className"
    · simp only [classes, ↓reduceIte] at stores free presentAgain
      obtain ⟨texts, added⟩ := exists_classItems plain
      rw [added] at stores free presentAgain
      have readsAgain : uncoerced? info.kind (.ofPropertyValue _) = some _ :=
        uncoerced?_ofPropertyValue free trivial
      have storesAgain := stored?_empty info presentAgain style readsAgain
      simp only [classes, ↓reduceIte] at storesAgain
      exact ⟨_, _, stores, storesAgain, same_coerced_classItems info texts⟩
    · simp only [classes, ↓reduceIte] at stores free presentAgain
      have readsAgain := uncoerced?_ofPropertyValue free (unsplit.coerced info)
      have storesAgain := stored?_empty info presentAgain style readsAgain
      simp only [classes, ↓reduceIte, coerced_coerced] at storesAgain
      exact ⟨_, _, stores, storesAgain, PropertyValue.same_self_iff.mpr free⟩

theorem add_of_stored? {schema : Schema} {properties : Properties} {key : String} {value : Value}
    {read : PropertyValue} (stores : properties.stored? (schema.find key) value = some read) :
    add schema properties key value = properties.insert (schema.find key).property read := by
  simp only [add, stores]

/-- **A resolved value is resolved already.** Whatever the schema, a key whose value is a
boolean, a number, a text or a list, of whatever items, stores a property value under its
canonical key. Given for the same key, that value is stored once more. -/
theorem add_again (schema : Schema) (key : String) {value : Value}
    (direct : value.isDirect = true) :
    ∃ read again,
      add schema .empty key value = OrderedMap.empty.insert (schema.find key).property read ∧
        add schema .empty key (.ofPropertyValue read) =
          OrderedMap.empty.insert (schema.find key).property again ∧
        again.same read = true := by
  obtain ⟨read, again, stores, storesAgain, same⟩ :=
    stored?_ofPropertyValue (schema.find key) direct
  exact ⟨read, again, add_of_stored? stores, add_of_stored? storesAgain, same⟩

/-- Classes of a schema that reads them as numbers, from a text with a number in base sixteen
and a negative zero, which are written otherwise than they were read. -/
theorem add_again_numericClasses :
    (Value.string "0x10 -0 a").isDirect = true ∧
      ∃ read again,
        add ⟨"numeric", fun _ => some ⟨"className", "class",
              PropertyKind.number.union .spaceSeparated, true, none⟩⟩
            .empty "class" (.string "0x10 -0 a") =
          OrderedMap.empty.insert "className" read ∧
        add ⟨"numeric", fun _ => some ⟨"className", "class",
              PropertyKind.number.union .spaceSeparated, true, none⟩⟩
            .empty "class" (.ofPropertyValue read) =
          OrderedMap.empty.insert "className" again ∧
        again.same read = true :=
  ⟨rfl, add_again ⟨"numeric", fun _ => some ⟨"className", "class",
    PropertyKind.number.union .spaceSeparated, true, none⟩⟩ "class" rfl⟩

end Properties

end MarkupTree
