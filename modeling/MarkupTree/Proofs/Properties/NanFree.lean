import MarkupTree.Proofs.Number.Literals
import MarkupTree.Proofs.Tree.Parts
import MarkupTree.Resolution

/-! # Properties hold what is a number, or no number

Whatever is not a number is dropped before it becomes part of a property, and reading a
text never yields it. So no value that is stored is or holds it (`NanFree`), whichever way
it came in: through a schema, as the plain value of a described element, or as an item.
-/

namespace MarkupTree

private theorem Number.isNan_ofUnits (negative : Bool) (numerator denominator : Nat) :
    (ofUnits negative numerator denominator).isNan = false := by
  unfold ofUnits
  dsimp only
  split
  · rfl
  · rfl

/-- What is read from a text is a number. -/
theorem Number.isNan_of_parse {text : String} {value : Number} (read : parse text = some value) :
    value.isNan = false := by
  simp only [parse, parseChars_eq] at read
  split at read
  · cases read
    rfl
  · split at read
    · split at read
      · cases read
      · obtain ⟨whole, _, rfl⟩ := Option.map_eq_some_iff.mp read
        exact isNan_ofUnits ..
    · obtain ⟨decimal, _, rfl⟩ := Option.map_eq_some_iff.mp read
      exact isNan_ofUnits ..

namespace PropertyValue

/-- Every number that a value holds is one. -/
def NanFree (value : PropertyValue) : Prop := ∀ number ∈ value.numbers, number.isNan = false

/-- A boolean holds no numbers. -/
theorem nanFree_boolean (value : Bool) : (PropertyValue.boolean value).NanFree := by
  simp [NanFree]

/-- A text holds no numbers. -/
theorem nanFree_string (value : String) : (PropertyValue.string value).NanFree := by
  simp [NanFree]

/-- A number holds itself. -/
theorem nanFree_number_iff (value : Number) :
    (PropertyValue.number value).NanFree ↔ value.isNan = false := by
  simp [NanFree]

/-- A list holds the numbers among its items. -/
theorem nanFree_list_iff (items : List ListItem) :
    (PropertyValue.list items).NanFree ↔
      ∀ value, ListItem.number value ∈ items → value.isNan = false := by
  simp [NanFree]

/-- Texts hold no numbers. -/
theorem nanFree_strings (texts : List String) : (PropertyValue.strings texts).NanFree := by
  simp [strings, nanFree_list_iff]

end PropertyValue

/-- Every number that properties hold is one. -/
def Properties.NanFree (properties : Properties) : Prop :=
  ∀ number ∈ properties.numbers, number.isNan = false

instance (properties : Properties) : Decidable properties.NanFree :=
  inferInstanceAs (Decidable (∀ number ∈ properties.numbers, number.isNan = false))

open PropertyValue

private theorem ListItem.nanFree_ofValues (values : List Value) :
    (PropertyValue.list (ListItem.ofValues values)).NanFree := by
  rw [nanFree_list_iff]
  intro number member
  obtain ⟨value, kept, same⟩ := List.mem_map.mp member
  have present := (List.mem_filter.mp kept).2
  cases value <;> simp only [ListItem.ofValue, ListItem.number.injEq, reduceCtorEq] at same
  subst same
  simpa only [Value.isNullish, Bool.not_eq_true'] using present

/-- The plain value of a property holds numbers only: what is not a number is dropped. -/
theorem PropertyValue.nanFree_of_ofValue? {value : Value} {read : PropertyValue}
    (reads : ofValue? value = some read) : read.NanFree := by
  cases value with
  | null => cases reads
  | number value =>
      simp only [ofValue?] at reads
      split at reads
      · cases reads
      · next present =>
          cases reads
          exact (nanFree_number_iff _).mpr (Bool.eq_false_iff.mpr present)
  | boolean value => cases reads; exact nanFree_boolean _
  | string value => cases reads; exact nanFree_string _
  | array items => cases reads; exact ListItem.nanFree_ofValues items
  | object fields => cases reads; exact nanFree_string _
  | node tree => cases reads; exact nanFree_string _

/-- Items that are numbers or texts are kept as they are among values. -/
theorem ListItem.ofValues_map_ofListItem {items : List ListItem}
    (free : (PropertyValue.list items).NanFree) :
    ofValues (items.map Value.ofListItem) = items := by
  rw [nanFree_list_iff] at free
  induction items with
  | nil => rfl
  | cons item rest ih =>
      have others := ih fun value member => free value (List.mem_cons_of_mem _ member)
      unfold ofValues at others ⊢
      cases item with
      | number value =>
          have kept : (Value.number value).isNullish = false := free value List.mem_cons_self
          simp only [List.map_cons, Value.ofListItem, List.filter_cons, kept, Bool.not_false,
            ↓reduceIte, others, ofValue]
      | string text =>
          have kept : (Value.string text).isNullish = false := rfl
          simp only [List.map_cons, Value.ofListItem, List.filter_cons, kept, Bool.not_false,
            ↓reduceIte, others, ofValue]

/-- A property value that is passed as a value is read as itself. -/
theorem PropertyValue.ofValue?_ofPropertyValue {value : PropertyValue} (free : value.NanFree) :
    ofValue? (.ofPropertyValue value) = some value := by
  cases value with
  | boolean value => rfl
  | number value =>
      rw [nanFree_number_iff] at free
      simp only [Value.ofPropertyValue, ofValue?, free, Bool.false_eq_true, ↓reduceIte]
  | string value => rfl
  | list items =>
      simp only [Value.ofPropertyValue, ofValue?, ListItem.ofValues_map_ofListItem free]

namespace PropertyKind

/-- What a text is coerced to holds numbers only. -/
theorem nanFree_coerce (kind : PropertyKind) (property text : String) :
    (kind.coerce property text).NanFree := by
  simp only [coerce]
  split
  · next value read =>
      rw [nanFree_number_iff]
      split at read
      · exact Number.isNan_of_parse read
      · cases read
  · split
    · exact nanFree_boolean _
    · exact nanFree_string _

private theorem nanFree_coerceItem (kind : PropertyKind) (property : String) {items : List ListItem}
    (free : (PropertyValue.list items).NanFree) :
    (PropertyValue.list (items.map (kind.coerceItem property))).NanFree := by
  rw [nanFree_list_iff] at free ⊢
  intro number member
  obtain ⟨item, present, read⟩ := List.mem_map.mp member
  cases item with
  | number value =>
      obtain rfl := ListItem.number.inj read
      exact free _ present
  | string text =>
      have coerced := kind.nanFree_coerce property text
      simp only [coerceItem] at read
      split at read
      · next value same =>
          obtain rfl := ListItem.number.inj read
          rwa [same, nanFree_number_iff] at coerced
      · cases read

end PropertyKind

namespace Properties

/-- Properties hold the numbers that their values hold. -/
theorem nanFree_iff (properties : Properties) :
    properties.NanFree ↔ ∀ entry ∈ properties.entries, entry.2.NanFree := by
  simp only [NanFree, numbers, List.mem_flatMap, PropertyValue.NanFree]
  exact ⟨fun free entry member number inside => free number ⟨entry, member, inside⟩,
    fun free number ⟨entry, member, inside⟩ => free entry member number inside⟩

/-- Without properties there are no numbers. -/
theorem nanFree_empty : NanFree .empty := by simp [NanFree, numbers, OrderedMap.empty]

/-- A value that holds numbers only may be set. -/
theorem NanFree.insert {properties : Properties} (free : properties.NanFree) (key : String)
    {value : PropertyValue} (holds : value.NanFree) : NanFree (properties.insert key value) := by
  rw [nanFree_iff] at free ⊢
  intro entry member
  rcases OrderedMap.mem_setEntry member with rfl | before
  · exact holds
  · exact free entry before

/-- A value that properties are asked for holds numbers only, as they do. -/
theorem NanFree.get? {properties : Properties} (free : properties.NanFree) {key : String}
    {value : PropertyValue} (present : properties.get? key = some value) : value.NanFree :=
  (nanFree_iff properties).mp free (key, value) (OrderedMap.mem_entries_of_get? present)

private theorem nanFree_presentClasses {properties : Properties} (free : properties.NanFree) :
    (PropertyValue.list properties.presentClasses).NanFree := by
  unfold presentClasses
  split
  · next items present => exact free.get? present
  · simp [nanFree_list_iff]

private theorem nanFree_of_uncoerced? {kind : PropertyKind} {value : Value} {read : PropertyValue}
    (reads : uncoerced? kind value = some read) : read.NanFree := by
  unfold uncoerced? at reads
  split at reads
  · split at reads
    · cases reads
      exact nanFree_strings _
    · cases reads
      exact nanFree_string _
  · exact nanFree_of_ofValue? reads

private theorem nanFree_coerced (info : PropertyInfo) {read : PropertyValue} (free : read.NanFree) :
    (coerced info read).NanFree := by
  cases read with
  | boolean value => exact free
  | number value => exact free
  | string text => exact info.kind.nanFree_coerce info.property text
  | list items => exact info.kind.nanFree_coerceItem info.property free

/-- The value that is stored for a key holds numbers only. -/
theorem nanFree_of_stored? {properties : Properties} (free : properties.NanFree)
    {info : PropertyInfo} {value : Value} {read : PropertyValue}
    (stores : properties.stored? info value = some read) : read.NanFree := by
  unfold stored? at stores
  split at stores
  · cases stores
  · split at stores
    · cases stores
      exact nanFree_string _
    · obtain ⟨plain, uncoerced, rfl⟩ := Option.map_eq_some_iff.mp stores
      apply nanFree_coerced
      split
      · have present := nanFree_presentClasses free
        rw [nanFree_list_iff] at present ⊢
        intro number member
        rcases List.mem_append.mp member with before | added
        · exact present number before
        · cases plain <;> simp [classItems] at added
      · exact nanFree_of_uncoerced? uncoerced

/-- Adding an entry of a bag keeps the numbers numbers, whatever is added. -/
theorem NanFree.add {properties : Properties} (free : properties.NanFree) (schema : Schema)
    (key : String) (value : Value) : NanFree (properties.add schema key value) := by
  simp only [Properties.add]
  split
  · next read stores => exact free.insert _ (nanFree_of_stored? free stores)
  · exact free

/-- **Whatever a bag holds, properties hold numbers only** if they did before. -/
theorem NanFree.extend {properties : Properties} (free : properties.NanFree) (schema : Schema)
    (entries : List (String × Value)) : NanFree (properties.extend schema entries) := by
  induction entries generalizing properties with
  | nil => exact free
  | cons entry rest ih => exact ih (free.add schema entry.1 entry.2)

end Properties

end MarkupTree
