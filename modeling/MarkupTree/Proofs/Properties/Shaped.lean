import MarkupTree.Proofs.Creation
import MarkupTree.Proofs.Properties.Bag
import MarkupTree.Proofs.Properties.Settled
import MarkupTree.Proofs.Tree.Assembled

/-! # The shape of the special properties

Of an element that is built for HTML or SVG, the classes are a list of texts that begins with
the classes of the selector, the style is a text, no key occurs twice, and every key comes from
the selector or from an entry of the bag (`Factory.Builds.shaped`). The shape holds of what the
selector gives (`Properties.shaped_selectorProperties`), and every entry of a bag keeps it
(`Properties.Shaped.add`), whatever its value is and however its key is spelled.
-/

namespace MarkupTree

namespace Properties

/-- Properties with distinct keys that are all accounted for, in which the classes are texts,
those of a selector in front, and the style is a text. -/
structure Shaped (classNames : List String) (accounted : String → Prop)
    (properties : Properties) : Prop where
  distinct : properties.Distinct
  classes : ∀ value, properties.get? "className" = some value →
    ∃ added : List String, value = .strings (classNames ++ added)
  /-- The classes of a selector are never dropped. -/
  present : classNames ≠ [] → (properties.get? "className").isSome = true
  style : ∀ value, properties.get? "style" = some value → ∃ text, value = .string text
  accounted : ∀ key ∈ properties.keys, accounted key

section Stored

variable {properties : Properties} {info : PropertyInfo} {value : Value} {read : PropertyValue}

theorem isNullish_of_stored? (stores : properties.stored? info value = some read) :
    value.isNullish = false := by
  unfold stored? at stores
  split at stores
  · cases stores
  · next effective => exact Bool.eq_false_iff.mpr effective

/-- A style is stored as a text. -/
theorem exists_text_of_stored? (stores : properties.stored? info value = some read)
    (style : info.property = "style") : ∃ text, read = .string text := by
  have present := isNullish_of_stored? stores
  rw [stored?, if_neg (Bool.eq_false_iff.mp present), if_pos style] at stores
  exact ⟨_, (Option.some.inj stores).symm⟩

/-- Classes are stored behind those that are there, as texts. -/
theorem exists_classes_of_stored? (stores : properties.stored? info value = some read)
    (classes : info.property = "className")
    (keeps : ∀ item, info.kind.coerceItem "className" item = item) :
    ∃ added : List String,
      read = .list (properties.presentClasses ++ added.map ListItem.string) := by
  have unstyled : ¬info.property = "style" := by
    rw [classes]
    decide
  have unchanged : info.kind.coerceItem "className" = id := funext keeps
  have present := isNullish_of_stored? stores
  rw [stored?, if_neg (Bool.eq_false_iff.mp present), if_neg unstyled] at stores
  obtain ⟨plain, -, rfl⟩ := Option.map_eq_some_iff.mp stores
  obtain ⟨added, texts⟩ := exists_classItems plain
  refine ⟨added, ?_⟩
  rw [if_pos classes, texts, coerced, classes, unchanged, List.map_id]

end Stored

namespace Shaped

variable {classNames : List String} {accounted : String → Prop} {properties : Properties}

/-- The classes that are there are those of the selector and some more. -/
theorem exists_presentClasses (shaped : properties.Shaped classNames accounted) :
    ∃ added : List String,
      properties.presentClasses = (classNames ++ added).map ListItem.string := by
  unfold presentClasses
  cases there : properties.get? "className" with
  | none =>
      have unnamed : classNames = [] := by
        by_contra named
        have kept := shaped.present named
        rw [there] at kept
        cases kept
      exact ⟨[], by rw [unnamed]; rfl⟩
  | some value =>
      obtain ⟨added, rfl⟩ := shaped.classes value there
      exact ⟨added, rfl⟩

/-- A key that is set keeps the shape if its value fits the key. -/
theorem insert (shaped : properties.Shaped classNames accounted) {key : String}
    {value : PropertyValue} (known : accounted key)
    (classes : key = "className" → ∃ added : List String, value = .strings (classNames ++ added))
    (style : key = "style" → ∃ text, value = .string text) :
    Shaped classNames accounted (properties.insert key value) where
  distinct := shaped.distinct.insert key value
  classes stored there := by
    rw [OrderedMap.get?_insert] at there
    split at there
    · next same =>
      obtain rfl := Option.some.inj there
      exact classes same.symm
    · exact shaped.classes stored there
  present named := by
    rw [OrderedMap.get?_insert]
    split
    · rfl
    · exact shaped.present named
  style stored there := by
    rw [OrderedMap.get?_insert] at there
    split at there
    · next same =>
      obtain rfl := Option.some.inj there
      exact style same.symm
    · exact shaped.style stored there
  accounted other member := by
    rw [OrderedMap.keys_insert] at member
    split at member
    · exact shaped.accounted other member
    · rcases List.mem_append.mp member with before | new
      · exact shaped.accounted other before
      · rw [List.mem_singleton.mp new]
        exact known

theorem empty : Shaped [] accounted .empty where
  distinct := OrderedMap.distinct_empty
  classes _ there := nomatch there
  present named := (named rfl).elim
  style _ there := nomatch there
  accounted _ member := nomatch member

/-- The classes of a selector are set where no other classes have to be kept. -/
theorem insertClasses (shaped : properties.Shaped [] accounted) (known : accounted "className")
    (classNames : List String) :
    Shaped classNames accounted (properties.insert "className" (.strings classNames)) where
  distinct := shaped.distinct.insert _ _
  classes stored there := by
    rw [OrderedMap.get?_insert, if_pos rfl] at there
    exact ⟨[], by rw [List.append_nil]; exact (Option.some.inj there).symm⟩
  present _ := by
    rw [OrderedMap.get?_insert, if_pos rfl, Option.isSome_some]
  style stored there := by
    rw [OrderedMap.get?_insert, if_neg (by decide)] at there
    exact shaped.style stored there
  accounted key member := by
    rw [OrderedMap.keys_insert] at member
    split at member
    · exact shaped.accounted key member
    · rcases List.mem_append.mp member with before | new
      · exact shaped.accounted key before
      · rw [List.mem_singleton.mp new]
        exact known

variable {space : Space}

/-- An entry of a bag keeps the shape. -/
theorem add (shaped : properties.Shaped classNames accounted) (entry : String × Value)
    (known : entry.2.isNullish = false →
      accounted ((Factory.schemaOf space).find entry.1).property) :
    Shaped classNames accounted
      (Properties.add (Factory.schemaOf space) properties entry.1 entry.2) := by
  unfold Properties.add
  dsimp only
  split
  · next read stores =>
    apply shaped.insert (known (isNullish_of_stored? stores))
    · intro classes
      obtain ⟨before, there⟩ := shaped.exists_presentClasses
      obtain ⟨added, rfl⟩ := exists_classes_of_stored? stores classes
        fun item => Schema.coerceItem_className space entry.1 item classes
      refine ⟨before ++ added, ?_⟩
      rw [there, ← List.map_append, List.append_assoc]
      rfl
    · exact exists_text_of_stored? stores
  · exact shaped

/-- A bag keeps the shape. -/
theorem extend (shaped : properties.Shaped classNames accounted) (entries : List (String × Value))
    (known : ∀ entry ∈ entries, entry.2.isNullish = false →
      accounted ((Factory.schemaOf space).find entry.1).property) :
    Shaped classNames accounted (properties.extend (Factory.schemaOf space) entries) := by
  induction entries generalizing properties with
  | nil => exact shaped
  | cons entry rest ih =>
      rw [List.forall_mem_cons] at known
      exact ih (shaped.add entry known.1) known.2

end Shaped

end Properties

namespace Factory

/-- A key is that of the id or of the classes of a selector, or of an entry of a bag whose value
is not dropped. -/
def AccountsFor (factory : Factory) (selector : String) (bag : Object) (key : String) : Prop :=
  (key = "id" ∧ (Selector.parse selector factory.defaultTagName).id.isSome = true) ∨
    (key = "className" ∧ (Selector.parse selector factory.defaultTagName).classNames ≠ []) ∨
    ∃ entry ∈ bag.entries, entry.2.isNullish = false ∧
      key = (factory.schema.find entry.1).property

/-- What a selector gives has the shape. -/
theorem shaped_selectorProperties (selector : Selector) {accounted : String → Prop}
    (known : selector.id.isSome = true → accounted "id")
    (named : selector.classNames ≠ [] → accounted "className") :
    (selectorProperties selector).Shaped selector.classNames accounted := by
  obtain ⟨tagName, identity, classNames⟩ := selector
  have identified : (selectorProperties ⟨tagName, identity, []⟩).Shaped [] accounted := by
    cases identity with
    | none => exact .empty
    | some text =>
        apply Properties.Shaped.empty.insert (known rfl)
        · intro classes
          exact absurd classes (by decide)
        · intro style
          exact absurd style (by decide)
  cases classNames with
  | nil => exact identified
  | cons first rest => exact identified.insertClasses (named (List.cons_ne_nil _ _)) _

variable {factory : Factory} {selector : String} {bag : Object} {node : Node} {space : Space}

/-- **The special properties of a built element.** Whatever is built for HTML or SVG, through
`element` or through `create`, is an element whose keys are distinct and come from the selector
or from entries of the bag that are not dropped, whose classes are a list of texts with those of
the selector in front, and whose style is a text. -/
theorem Builds.shaped (markup : factory.schema = schemaOf space)
    (built : factory.Builds selector bag node) :
    node.tagName?.isSome = true ∧
      node.properties.Shaped (Selector.parse selector factory.defaultTagName).classNames
        (factory.AccountsFor selector bag) := by
  have start : (factory.draft selector).properties.Shaped
      (Selector.parse selector factory.defaultTagName).classNames
        (factory.AccountsFor selector bag) := by
    apply shaped_selectorProperties
    · intro present
      exact .inl ⟨rfl, present⟩
    · intro named
      exact .inr (.inl ⟨rfl, named⟩)
  have known : ∀ entry ∈ bag.entries, entry.2.isNullish = false →
      factory.AccountsFor selector bag ((schemaOf space).find entry.1).property := by
    intro entry member present
    rw [← markup]
    exact .inr (.inr ⟨entry, member, present, rfl⟩)
  obtain ⟨nodes, rfl⟩ := built.exists_withChildren
  constructor
  · rw [Draft.tagName?_withChildren]
    rfl
  · rw [Draft.properties_withChildren, Draft.addBag, markup]
    exact start.extend bag.entries known

/-- Classes under two spellings, one of them a list with a number and a null, behind that of the
selector; a style that is an object; and an entry that is dropped. -/
theorem Builds.shaped_paragraph :
    ∃ bag node, bag = (⟨[("CLASS", .array [.number .zero, .null]), ("className", .string "c d"),
        ("Style", .object ⟨[("color", .string "red")]⟩), ("title", .null)]⟩ : Object) ∧
      html.element "p#a.b" bag [] = .ok node ∧ html.schema = schemaOf .html ∧
      node.tagName?.isSome = true ∧
        node.properties.Shaped ["b"] (html.AccountsFor "p#a.b" bag) := by
  have markup : html.schema = schemaOf .html := rfl
  have classes : (Selector.parse "p#a.b" html.defaultTagName).classNames = ["b"] := by
    decide +kernel
  refine ⟨_, _, rfl, rfl, markup, ?_⟩
  rw [← classes]
  exact Builds.shaped markup (.inl ⟨[], rfl⟩)

end Factory

end MarkupTree
