import MarkupTree.Factory

/-! # Where the records of names come from

A name of HTML or SVG resolves to the record of a definition of a vocabulary, or to a
record of a plain kind that is made from the name (`Schema.find_schemaOf`). A property of
the records of all names is thereby a property of the definitions, which are finitely many.
And a name is known to an index only if a definition is spelled like that, but for capitals
(`PropertyIndex.exists_spells_of_get?`).
-/

namespace MarkupTree

/-- A name in lower case is that of one of the vocabulary's properties or attributes. -/
def Vocabulary.Spells (vocabulary : Vocabulary) (normal : String) : Prop :=
  ∃ definition ∈ vocabulary.definitions,
    normal = definition.property.toLower ∨ normal = (vocabulary.attributeOf definition).toLower

namespace PropertyIndex

/-- Adding a vocabulary adds the records of its definitions. -/
theorem infos_addVocabulary (index : PropertyIndex) (vocabulary : Vocabulary) :
    (index.addVocabulary vocabulary).infos =
      index.infos ++ vocabulary.definitions.map (infoOf vocabulary) := by
  unfold addVocabulary
  generalize vocabulary.definitions = definitions
  induction definitions generalizing index with
  | nil => simp only [List.foldl_nil, List.map_nil, List.append_nil]
  | cons definition rest ih =>
      rw [List.foldl_cons, ih]
      simp only [add, List.append_assoc, List.map_cons, List.cons_append, List.nil_append]

/-- An index holds the records of all definitions in their order. -/
theorem infos_build (vocabularies : List Vocabulary) :
    (build vocabularies).infos =
      vocabularies.flatMap fun vocabulary => vocabulary.definitions.map (infoOf vocabulary) := by
  have from_index (index : PropertyIndex) : (vocabularies.foldl addVocabulary index).infos =
      index.infos ++
        vocabularies.flatMap fun vocabulary => vocabulary.definitions.map (infoOf vocabulary) := by
    induction vocabularies generalizing index with
    | nil => simp only [List.foldl_nil, List.flatMap_nil, List.append_nil]
    | cons vocabulary rest ih =>
        rw [List.foldl_cons, ih, infos_addVocabulary, List.flatMap_cons, List.append_assoc]
  exact from_index empty

/-- What a name is bound to is the record of a definition. -/
theorem exists_definition_of_get? {vocabularies : List Vocabulary} {normal : String}
    {info : PropertyInfo} (found : (build vocabularies).get? normal = some info) :
    ∃ vocabulary ∈ vocabularies, ∃ definition ∈ vocabulary.definitions,
      info = infoOf vocabulary definition := by
  unfold get? at found
  split at found
  · have member := List.mem_of_getElem? found
    rw [infos_build, List.mem_flatMap] at member
    obtain ⟨vocabulary, listed, inside⟩ := member
    obtain ⟨definition, defined, rfl⟩ := List.mem_map.mp inside
    exact ⟨vocabulary, listed, definition, defined, rfl⟩
  · cases found

/-- What holds of the empty index, and after each definition that is added, holds of the
index of the vocabularies. -/
theorem build_induction {motive : PropertyIndex → Prop} {vocabularies : List Vocabulary}
    (start : motive empty)
    (step : ∀ index, motive index → ∀ vocabulary ∈ vocabularies,
      ∀ definition ∈ vocabulary.definitions, motive (index.add (infoOf vocabulary definition))) :
    motive (build vocabularies) := by
  unfold build
  refine List.foldlRecOn _ _ start ?_
  intro index before vocabulary listed
  unfold addVocabulary
  refine List.foldlRecOn _ _ before ?_
  intro index before definition defined
  exact step index before vocabulary listed definition defined

/-- A name that is found is a spelling of a definition, in lower case. -/
theorem exists_spells_of_get? {vocabularies : List Vocabulary} {normal : String}
    {info : PropertyInfo} (found : (build vocabularies).get? normal = some info) :
    ∃ vocabulary ∈ vocabularies, vocabulary.Spells normal := by
  have spelled : ∀ position, (build vocabularies).positions.get? normal = some position →
      ∃ vocabulary ∈ vocabularies, vocabulary.Spells normal := by
    apply build_induction (motive := fun index => ∀ position,
      index.positions.get? normal = some position →
        ∃ vocabulary ∈ vocabularies, vocabulary.Spells normal)
    · intro position numbered
      cases numbered
    · intro index before vocabulary listed definition defined position numbered
      simp only [add, OrderedMap.get?_insert] at numbered
      split at numbered
      · next spelling => exact ⟨vocabulary, listed, definition, defined, .inr spelling⟩
      · split at numbered
        · next spelling => exact ⟨vocabulary, listed, definition, defined, .inl spelling⟩
        · exact before position numbered
  unfold get? at found
  split at found
  · next position numbered => exact spelled position numbered
  · cases found

end PropertyIndex

/-- The vocabularies of a kind of markup, in the order in which they are indexed. -/
def Space.vocabularies : Space → List Vocabulary
  | .html => Vocabulary.shared ++ [Vocabulary.html]
  | .svg => Vocabulary.shared ++ [Vocabulary.svg]

/-- The schema of a space resolves names with the index of its vocabularies. -/
theorem Factory.find_schemaOf (space : Space) (name : String) :
    (schemaOf space).find name =
      resolveName (PropertyIndex.build space.vocabularies).get? name := by
  cases space with
  | html => exact Schema.find_ofIndex "html" PropertyIndex.html name
  | svg => exact Schema.find_ofIndex "svg" PropertyIndex.svg name

/-- A name of HTML or SVG has the record of a definition, or one of a plain kind. -/
theorem Schema.find_schemaOf (space : Space) (name : String) :
    ((Factory.schemaOf space).find name).kind = .plain ∨
      ∃ vocabulary ∈ space.vocabularies, ∃ definition ∈ vocabulary.definitions,
        (Factory.schemaOf space).find name = PropertyIndex.infoOf vocabulary definition := by
  rw [Factory.find_schemaOf]
  unfold resolveName
  split
  · next info found => exact .inr (PropertyIndex.exists_definition_of_get? found)
  · left
    cases made : DataName.info? name with
    | none => rfl
    | some info =>
        obtain ⟨rest, _, rfl⟩ := Option.map_eq_some_iff.mp made
        rfl

/-- The classes of an element are a list between spaces in every vocabulary. -/
theorem Space.kind_className (space : Space) :
    ∀ vocabulary ∈ space.vocabularies, ∀ definition ∈ vocabulary.definitions,
      definition.property = "className" → definition.kind = .spaceSeparated := by
  cases space with
  | html => decide +kernel
  | svg => decide +kernel

end MarkupTree
