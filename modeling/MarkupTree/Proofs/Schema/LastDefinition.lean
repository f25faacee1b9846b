import Mathlib.Algebra.Ring.Nat
import MarkupTree.Proofs.Schema.Records
import MarkupTree.Proofs.Text.AsciiLetters

/-! # The last definition wins

An index numbers the definitions of its vocabularies and keeps two numbered names for each. What
it keeps, definition by definition, is that it finds the last record that is spelled like a name,
and that every number is the position of a record (`PropertyIndex.FindsLast`). So of all
definitions that are spelled like a name the last one is found, vocabulary after vocabulary, and
no name leads beyond the records (`PropertyIndex.get?_build_last`).
-/

namespace MarkupTree

/-- Whether a name in lower case is one of the two spellings of a record. -/
def PropertyInfo.isSpelled (info : PropertyInfo) (normal : String) : Bool :=
  normal == info.property.toLower || normal == info.attributeName.toLower

namespace PropertyIndex

/-- An index finds the last record that is spelled like a name, and all its positions are
positions of records. -/
structure FindsLast (index : PropertyIndex) : Prop where
  valid : ∀ normal position, index.positions.get? normal = some position →
    position < index.infos.length
  last : ∀ normal, index.get? normal = index.infos.reverse.find? (·.isSpelled normal)

/-- A record that is added is found under both its spellings, and nothing else changes. -/
theorem get?_add {index : PropertyIndex} (finds : index.FindsLast) (info : PropertyInfo)
    (normal : String) :
    (index.add info).get? normal =
      if info.isSpelled normal then some info else index.get? normal := by
  have here : (index.infos ++ [info])[index.infos.length]? = some info := by simp
  simp only [get?, add, OrderedMap.get?_insert, PropertyInfo.isSpelled, Bool.or_eq_true, beq_iff_eq]
  by_cases spelled : normal = info.attributeName.toLower
  · simp only [spelled, ↓reduceIte, here, or_true]
  · by_cases property : normal = info.property.toLower
    · simp only [property, ↓reduceIte, here, true_or, ite_self]
    · simp only [spelled, property, ↓reduceIte, or_self]
      cases numbered : index.positions.get? normal with
      | none => rfl
      | some position => exact List.getElem?_append_left (finds.valid normal position numbered)

/-- Adding a record keeps an index finding the last record of a name. -/
theorem FindsLast.add {index : PropertyIndex} (finds : index.FindsLast) (info : PropertyInfo) :
    (index.add info).FindsLast where
  valid normal position numbered := by
    have longer : (index.add info).infos.length = index.infos.length + 1 := by
      simp [PropertyIndex.add]
    simp only [PropertyIndex.add, OrderedMap.get?_insert] at numbered
    rw [longer]
    split at numbered
    · exact Option.some.inj numbered ▸ Nat.lt_succ_self _
    · split at numbered
      · exact Option.some.inj numbered ▸ Nat.lt_succ_self _
      · exact Nat.lt_succ_of_lt (finds.valid normal position numbered)
  last normal := by
    have reversed : (index.add info).infos.reverse = info :: index.infos.reverse := by
      simp [PropertyIndex.add]
    rw [get?_add finds, reversed, List.find?_cons]
    cases info.isSpelled normal with
    | true => rfl
    | false => exact finds.last normal

/-- The index of vocabularies finds the last record of a name. -/
theorem findsLast_build (vocabularies : List Vocabulary) : (build vocabularies).FindsLast := by
  apply build_induction
  · refine ⟨?_, fun _ => rfl⟩
    intro normal position numbered
    cases numbered
  · intro index finds vocabulary _ definition _
    exact finds.add (infoOf vocabulary definition)

/-- A name is bound to the last record that is spelled so. -/
theorem get?_build (vocabularies : List Vocabulary) (normal : String) :
    (build vocabularies).get? normal =
      (build vocabularies).infos.reverse.find? (·.isSpelled normal) :=
  (findsLast_build vocabularies).last normal

/-- No name has two positions. -/
theorem distinct_positions_build (vocabularies : List Vocabulary) :
    (build vocabularies).positions.Distinct := by
  apply build_induction (motive := fun index => index.positions.Distinct)
  · exact OrderedMap.distinct_empty
  · intro index distinct vocabulary _ definition _
    exact (distinct.insert _ _).insert _ _

end PropertyIndex

/-- A name in lower case is that of the property or of the attribute of a definition. -/
def Vocabulary.Names (vocabulary : Vocabulary) (definition : Definition) (normal : String) : Prop :=
  normal = definition.property.toLower ∨ normal = (vocabulary.attributeOf definition).toLower

private theorem PropertyInfo.isSpelled_infoOf_iff {vocabulary : Vocabulary}
    {definition : Definition} {normal : String} :
    (PropertyIndex.infoOf vocabulary definition).isSpelled normal = true ↔
      vocabulary.Names definition normal := by
  rw [isSpelled, Bool.or_eq_true, beq_iff_eq, beq_iff_eq]
  rfl

namespace PropertyIndex

/-- The definitions of several vocabularies in their order, each with its vocabulary. -/
def definitionsOf (vocabularies : List Vocabulary) : List (Vocabulary × Definition) :=
  vocabularies.flatMap fun vocabulary =>
    vocabulary.definitions.map fun definition => (vocabulary, definition)

/-- A definition has a name, and none of those behind it has. -/
def IsLastNamed (vocabularies : List Vocabulary) (normal : String) (vocabulary : Vocabulary)
    (definition : Definition) : Prop :=
  ∃ before after, definitionsOf vocabularies = before ++ (vocabulary, definition) :: after ∧
    vocabulary.Names definition normal ∧ ∀ later ∈ after, ¬ later.1.Names later.2 normal

section Build

variable (vocabularies : List Vocabulary)

/-- The records are those of the definitions, in their order. -/
theorem infos_build_eq : (build vocabularies).infos =
    (definitionsOf vocabularies).map fun listed => infoOf listed.1 listed.2 := by
  rw [infos_build, definitionsOf, List.map_flatMap]
  simp only [List.map_map]
  rfl

/-- A name is bound to the record of the last definition that it names. -/
theorem get?_build_eq_some_iff (normal : String) (info : PropertyInfo) :
    (build vocabularies).get? normal = some info ↔
      ∃ vocabulary definition, IsLastNamed vocabularies normal vocabulary definition ∧
        info = infoOf vocabulary definition := by
  rw [get?_build, infos_build_eq, ← List.map_reverse, List.find?_map, Option.map_eq_some_iff]
  constructor
  · rintro ⟨⟨vocabulary, definition⟩, found, rfl⟩
    obtain ⟨named, after, before, split, others⟩ := List.find?_eq_some_iff_append.mp found
    refine ⟨vocabulary, definition, ⟨before.reverse, after.reverse, ?_, ?_, ?_⟩, rfl⟩
    · rw [← List.reverse_reverse (definitionsOf vocabularies), split]
      simp
    · exact PropertyInfo.isSpelled_infoOf_iff.mp named
    · intro later member again
      have other := others later (List.mem_reverse.mp member)
      rw [Function.comp, PropertyInfo.isSpelled_infoOf_iff.mpr again] at other
      cases other
  · rintro ⟨vocabulary, definition, ⟨before, after, split, named, others⟩, rfl⟩
    refine ⟨(vocabulary, definition), List.find?_eq_some_iff_append.mpr ?_, rfl⟩
    refine ⟨PropertyInfo.isSpelled_infoOf_iff.mpr named, after.reverse, before.reverse, ?_, ?_⟩
    · rw [split]
      simp
    · intro later member
      have other := others later (List.mem_reverse.mp member)
      rw [← PropertyInfo.isSpelled_infoOf_iff, Bool.not_eq_true] at other
      rw [Function.comp, other]
      rfl

/-- A name is bound to nothing if it names no definition. -/
theorem get?_build_eq_none_iff (normal : String) :
    (build vocabularies).get? normal = none ↔
      ∀ listed ∈ definitionsOf vocabularies, ¬ listed.1.Names listed.2 normal := by
  rw [get?_build, infos_build_eq, List.find?_eq_none]
  simp only [List.mem_reverse, List.forall_mem_map, PropertyInfo.isSpelled_infoOf_iff]

/-- Every position is that of a record. -/
theorem position_lt_of_mem {entry : String × Nat}
    (member : entry ∈ (build vocabularies).positions.entries) :
    entry.2 < (build vocabularies).infos.length := by
  have numbered := (distinct_positions_build vocabularies).get?_of_mem member
  exact (findsLast_build vocabularies).valid entry.1 entry.2 numbered

/-- There are as many records as definitions. -/
theorem size_build : (build vocabularies).size =
    (vocabularies.map fun vocabulary => vocabulary.definitions.length).sum := by
  rw [size, infos_build, List.length_flatMap]
  simp only [List.length_map]

/-- **The last definition wins.** An index finds a name at the record of the last definition whose
property or attribute has that name in lower case, and at nothing if there is none. All its
positions are positions of records, and it has as many records as there are definitions. -/
theorem get?_build_last :
    (∀ normal info, (build vocabularies).get? normal = some info ↔
      ∃ vocabulary definition, IsLastNamed vocabularies normal vocabulary definition ∧
        info = infoOf vocabulary definition) ∧
      (∀ normal, (build vocabularies).get? normal = none ↔
        ∀ listed ∈ definitionsOf vocabularies, ¬ listed.1.Names listed.2 normal) ∧
      (∀ entry ∈ (build vocabularies).positions.entries,
        entry.2 < (build vocabularies).infos.length) ∧
      (build vocabularies).size =
        (vocabularies.map fun vocabulary => vocabulary.definitions.length).sum :=
  ⟨get?_build_eq_some_iff vocabularies, get?_build_eq_none_iff vocabularies,
    fun _ => position_lt_of_mem vocabularies, size_build vocabularies⟩

end Build

/-- Three definitions of two vocabularies with a name in common: the attribute of the first, and
the property of the second, which is the last of them. The third one has other names. -/
theorem get?_build_last_clash :
    let first : Vocabulary := ⟨"first", String.toLower, [.spelled .boolean ("ref", "HREF")]⟩
    let second : Vocabulary := ⟨"second", id, [.regular .plain "hRef", .regular .number "width"]⟩
    (IsLastNamed [first, second] "href" second (.regular .plain "hRef") ∧
        (build [first, second]).get? "href" = some (infoOf second (.regular .plain "hRef"))) ∧
      ((∀ listed ∈ definitionsOf [first, second], ¬ listed.1.Names listed.2 "height") ∧
        (build [first, second]).get? "height" = none) ∧
      ("href", 1) ∈ (build [first, second]).positions.entries ∧
        1 < (build [first, second]).infos.length := by
  intro first second
  obtain ⟨found, absent, valid, -⟩ := get?_build_last [first, second]
  have ref : "ref".toLower = "ref" := Ascii.toLower_eq_iff.mpr rfl
  have spelled : "HREF".toLower = "href" := Ascii.toLower_eq_iff.mpr rfl
  have property : "hRef".toLower = "href" := Ascii.toLower_eq_iff.mpr rfl
  have width : "width".toLower = "width" := Ascii.toLower_eq_iff.mpr rfl
  have last : IsLastNamed [first, second] "href" second (.regular .plain "hRef") := by
    refine ⟨[(first, .spelled .boolean ("ref", "HREF"))], [(second, .regular .number "width")], rfl,
      .inl property.symm, ?_⟩
    rw [List.forall_mem_singleton]
    rintro (named | named)
    · exact absurd (named.trans width) (by decide)
    · exact absurd (named.trans width) (by decide)
  have unnamed : ∀ listed ∈ definitionsOf [first, second], ¬ listed.1.Names listed.2 "height" := by
    simp [definitionsOf, Vocabulary.Names, Vocabulary.attributeOf, Definition.regular,
      Definition.spelled, first, second, ref, spelled, property, width]
  have positions : (build [first, second]).positions.entries =
      [("ref", 0), ("href", 1), ("width", 2)] := by
    change ((((((OrderedMap.empty.insert "ref".toLower 0).insert "HREF".toLower 0).insert
      "hRef".toLower 1).insert "hRef".toLower 1).insert "width".toLower 2).insert
      "width".toLower 2).entries = _
    rw [ref, spelled, property, width]
    rfl
  have listed : ("href", 1) ∈ (build [first, second]).positions.entries := by
    rw [positions]
    exact List.mem_cons_of_mem _ List.mem_cons_self
  have located := (found "href" (infoOf second (.regular .plain "hRef"))).mpr ⟨_, _, last, rfl⟩
  exact ⟨⟨last, located⟩, ⟨unnamed, (absent "height").mpr unnamed⟩, listed,
    valid ("href", 1) listed⟩

end PropertyIndex

end MarkupTree
