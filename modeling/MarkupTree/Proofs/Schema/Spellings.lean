import Mathlib.Data.List.Lattice
import Mathlib.Data.List.Nodup
import Mathlib.Data.List.Pairwise
import MarkupTree.Proofs.Schema.LastDefinition
import MarkupTree.Proofs.Text.Lowercase

/-! # One spelling, one record

In the vocabularies of HTML and of SVG no two definitions share a spelling, not even but for
capitals (`Space.eq_of_isSpelled`), so a known name is found at the one record that is spelled
like it (`Space.get?_eq_some_iff`), and so are both spellings of that record.

Comparing every two spellings takes long, so each one is given a small number that does not see
the case of letters (`caselessCode`), and the numbers are marked off one after the other.
-/

namespace MarkupTree

/-- The bytes of a text, each with the bit in which a capital differs from its small letter. -/
def caselessBytes (bytes : List UInt8) : List Nat := bytes.map fun byte => byte.toNat ||| 32

/-- A number for a name that is the same in capitals and in small letters. -/
def caselessCode (name : String) : Nat :=
  (caselessBytes name.toByteArray.data.toList).foldl (fun code digit => code * 256 + digit) 0 % 23226

private theorem caselessBytes_toLower (char : Char) :
    caselessBytes (String.utf8EncodeChar char.toLower) =
      caselessBytes (String.utf8EncodeChar char) := by
  by_cases upper : char.isUpper = true
  · apply Ascii.forall_isUpper _ upper
    decide
  · rw [Ascii.toLower_of_not_isUpper upper]

/-- The code of a name does not depend on its case. -/
theorem caselessCode_toLower (name : String) : caselessCode name.toLower = caselessCode name := by
  have bytes (text : String) : text.toByteArray.data.toList =
      text.toList.flatMap String.utf8EncodeChar := by
    simp [← String.utf8Encode_toList, List.utf8Encode]
  have same (chars : List Char) :
      caselessBytes ((chars.map Char.toLower).flatMap String.utf8EncodeChar) =
        caselessBytes (chars.flatMap String.utf8EncodeChar) := by
    induction chars with
    | nil => rfl
    | cons char rest ih =>
        simp only [List.map_cons, List.flatMap_cons, caselessBytes, List.map_append] at ih ⊢
        rw [ih]
        congr 1
        exact caselessBytes_toLower char
  rw [caselessCode, caselessCode, bytes, bytes, Ascii.toList_toLower, same]

/-- Whether no number occurs twice, or is a digit that is set in the mask. -/
def areFresh : Nat → List Nat → Bool
  | _, [] => true
  | mask, code :: rest => !mask.testBit code && areFresh (mask ||| 2 ^ code) rest

/-- Codes that are each fresh when they come are distinct. -/
theorem nodup_of_areFresh {mask : Nat} {codes : List Nat} (fresh : areFresh mask codes = true) :
    codes.Nodup ∧ ∀ code ∈ codes, mask.testBit code = false := by
  induction codes generalizing mask with
  | nil => exact ⟨List.nodup_nil, fun _ member => nomatch member⟩
  | cons code rest ih =>
      rw [areFresh, Bool.and_eq_true, Bool.not_eq_true'] at fresh
      obtain ⟨here, behind⟩ := fresh
      obtain ⟨distinct, unmarked⟩ := ih behind
      simp only [Nat.testBit_or, Nat.testBit_two_pow, Bool.or_eq_false_iff,
        decide_eq_false_iff_not] at unmarked
      refine ⟨List.nodup_cons.mpr ⟨?_, distinct⟩, ?_⟩
      · intro again
        exact (unmarked code again).2 rfl
      · rw [List.forall_mem_cons]
        exact ⟨here, fun other member => (unmarked other member).1⟩

/-- The numbers of both spellings of a record, or the one number of both. -/
def PropertyInfo.codes (info : PropertyInfo) : List Nat :=
  if caselessCode info.attributeName = caselessCode info.property then [caselessCode info.property]
  else [caselessCode info.property, caselessCode info.attributeName]

private theorem PropertyInfo.caselessCode_mem_codes {info : PropertyInfo} {normal : String}
    (spelled : info.isSpelled normal = true) : caselessCode normal ∈ info.codes := by
  rw [isSpelled, Bool.or_eq_true, beq_iff_eq, beq_iff_eq] at spelled
  unfold codes
  rcases spelled with rfl | rfl
  · rw [caselessCode_toLower]
    split <;> exact List.mem_cons_self
  · rw [caselessCode_toLower]
    split
    · next same => rw [same]; exact List.mem_cons_self
    · exact List.mem_cons_of_mem _ List.mem_cons_self

namespace Vocabulary

/-- The numbers of the spellings of all definitions. -/
def codes (vocabulary : Vocabulary) : List Nat :=
  vocabulary.definitions.flatMap fun definition =>
    (PropertyIndex.infoOf vocabulary definition).codes

/-- The vocabulary with the rule to spell attributes like their properties. -/
def unruled (vocabulary : Vocabulary) : Vocabulary := { vocabulary with spell := id }

/-- The numbers do not tell whether a rule makes small letters of capitals. -/
theorem codes_unruled {vocabulary : Vocabulary} (rule : vocabulary.spell = String.toLower) :
    vocabulary.unruled.codes = vocabulary.codes := by
  have same (definition : Definition) : caselessCode (vocabulary.unruled.attributeOf definition) =
      caselessCode (vocabulary.attributeOf definition) := by
    unfold attributeOf
    cases definition.attributeName with
    | none =>
        rw [rule]
        exact (caselessCode_toLower definition.property).symm
    | some spelling => rfl
  unfold codes PropertyInfo.codes PropertyIndex.infoOf
  simp only [same]
  rfl

end Vocabulary

namespace Space

/-- The vocabularies without the rule that makes small letters, which takes long to follow. -/
def unruledVocabularies : Space → List Vocabulary
  | .html => [.xml, .xlink, Vocabulary.xmlns.unruled, .aria, Vocabulary.html.unruled]
  | .svg => [.xml, .xlink, Vocabulary.xmlns.unruled, .aria, .svg]

private theorem areFresh_codes (space : Space) :
    areFresh 0 (space.unruledVocabularies.flatMap Vocabulary.codes) = true := by
  cases space with
  | html => decide +kernel
  | svg => decide +kernel

private theorem codes_unruledVocabularies (space : Space) :
    space.unruledVocabularies.flatMap Vocabulary.codes =
      space.vocabularies.flatMap Vocabulary.codes := by
  have xmlns : Vocabulary.xmlns.unruled.codes = Vocabulary.xmlns.codes :=
    Vocabulary.codes_unruled rfl
  have html : Vocabulary.html.unruled.codes = Vocabulary.html.codes := Vocabulary.codes_unruled rfl
  cases space with
  | html =>
      simp only [unruledVocabularies, vocabularies, Vocabulary.shared, List.flatMap_cons,
        List.cons_append, List.nil_append, xmlns, html]
  | svg =>
      simp only [unruledVocabularies, vocabularies, Vocabulary.shared, List.flatMap_cons,
        List.cons_append, List.nil_append, xmlns]

/-- **No two spellings of a space have one code.** -/
theorem nodup_codes (space : Space) :
    ((PropertyIndex.build space.vocabularies).infos.flatMap PropertyInfo.codes).Nodup := by
  have numbers : (PropertyIndex.build space.vocabularies).infos.flatMap PropertyInfo.codes =
      space.unruledVocabularies.flatMap Vocabulary.codes := by
    rw [codes_unruledVocabularies, PropertyIndex.infos_build, List.flatMap_assoc]
    simp only [List.flatMap_map]
    rfl
  rw [numbers]
  exact (nodup_of_areFresh space.areFresh_codes).1

/-- No two records share a spelling. -/
theorem eq_of_isSpelled {space : Space} {first second : PropertyInfo} {normal : String}
    (here : first ∈ (PropertyIndex.build space.vocabularies).infos)
    (there : second ∈ (PropertyIndex.build space.vocabularies).infos)
    (spelled : first.isSpelled normal = true) (again : second.isSpelled normal = true) :
    first = second := by
  have pairwise := (List.nodup_flatMap.mp space.nodup_codes).2
  have symmetric : Std.Symm (Function.onFun List.Disjoint PropertyInfo.codes) :=
    ⟨fun _ _ apart => List.Disjoint.symm apart⟩
  by_contra different
  have apart : first.codes.Disjoint second.codes := pairwise.forall here there different
  exact apart (PropertyInfo.caselessCode_mem_codes spelled)
    (PropertyInfo.caselessCode_mem_codes again)

/-- A name in lower case is found at the record that is spelled like it. -/
theorem get?_eq_some_iff {space : Space} {normal : String} {info : PropertyInfo} :
    (PropertyIndex.build space.vocabularies).get? normal = some info ↔
      info ∈ (PropertyIndex.build space.vocabularies).infos ∧ info.isSpelled normal = true := by
  have inside {other : PropertyInfo}
      (found : (PropertyIndex.build space.vocabularies).get? normal = some other) :
      other ∈ (PropertyIndex.build space.vocabularies).infos ∧ other.isSpelled normal = true := by
    rw [PropertyIndex.get?_build] at found
    exact ⟨List.mem_reverse.mp (List.mem_of_find?_eq_some found),
      List.find?_some (p := fun info => PropertyInfo.isSpelled info normal) found⟩
  refine ⟨inside, ?_⟩
  rintro ⟨listed, spelled⟩
  have present : ((PropertyIndex.build space.vocabularies).get? normal).isSome := by
    rw [PropertyIndex.get?_build, List.find?_isSome]
    exact ⟨info, List.mem_reverse.mpr listed, spelled⟩
  obtain ⟨other, found⟩ := Option.isSome_iff_exists.mp present
  obtain ⟨member, again⟩ := inside found
  rw [found, eq_of_isSpelled member listed again spelled]

/-- What a known name is found at is found under both its own spellings. -/
theorem get?_spellings {space : Space} {normal : String} {info : PropertyInfo}
    (known : (PropertyIndex.build space.vocabularies).get? normal = some info) :
    (PropertyIndex.build space.vocabularies).get? info.property.toLower = some info ∧
      (PropertyIndex.build space.vocabularies).get? info.attributeName.toLower = some info := by
  obtain ⟨listed, -⟩ := get?_eq_some_iff.mp known
  constructor
  · apply get?_eq_some_iff.mpr
    refine ⟨listed, ?_⟩
    rw [PropertyInfo.isSpelled, beq_self_eq_true, Bool.true_or]
  · apply get?_eq_some_iff.mpr
    refine ⟨listed, ?_⟩
    rw [PropertyInfo.isSpelled, beq_self_eq_true, Bool.or_true]

end Space

end MarkupTree
