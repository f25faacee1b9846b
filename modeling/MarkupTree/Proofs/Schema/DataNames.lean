import MarkupTree.Proofs.Schema.Records
import MarkupTree.Proofs.Text.AsciiLetters

/-! # Data attributes have keys of their own

The property key of a data attribute is made from its name (`DataName.key`), and from the key
the same record is made again (`DataName.info?_key`). A schema that knows no name longer than
the word `data` with that word in front (`Schema.NamesNoData`) thereby keeps data attributes
apart: each is found again from its key, and none overwrites what another has stored
(`Schema.KeepsDataNames`). The schema of HTML is such a schema. That of SVG is not, for it has
a property `dataType`.
-/

namespace MarkupTree

namespace DataName

/-- The characters of a data attribute behind its first hyphen. -/
def isAttributeChar (char : Char) : Bool :=
  char.isLower || char.isDigit || char == '_' || char == '.' || char == ':' || char == '-'

/-- What stands behind the first hyphen of a data attribute; another hyphen does not begin
it. -/
structure IsAttributeRest (rest : String) : Prop where
  present : rest ≠ ""
  chars : ∀ char ∈ rest.toList, isAttributeChar char = true
  unhyphenated : rest.toList.head? ≠ some '-'

section Characters

variable {char : Char}

private theorem isAttributeChar_cases (inside : isAttributeChar char = true) :
    char.isLower = true ∨ char.isDigit = true ∨
      char = '_' ∨ char = '.' ∨ char = ':' ∨ char = '-' := by
  simpa [isAttributeChar, or_assoc] using inside

private theorem isUpper_of_isAttributeChar (inside : isAttributeChar char = true) :
    char.isUpper = false := by
  rcases isAttributeChar_cases inside with lower | digit | sign
  · exact Bool.eq_false_iff.mpr (Ascii.not_isUpper_of_isLower lower)
  · simp only [Char.isDigit, Bool.and_eq_true, decide_eq_true_eq] at digit
    apply decide_eq_false
    intro upper
    exact absurd (UInt32.le_trans upper.1 digit.2) (by decide)
  · rcases sign with rfl | rfl | rfl | rfl <;> decide

private theorem isNameChar_of_isAttributeChar (inside : isAttributeChar char = true) :
    isNameChar char = true := by
  rcases isAttributeChar_cases inside with lower | digit | sign
  · simp [isNameChar, Char.isAlphanum, Ascii.isAlpha_eq, lower]
  · simp [isNameChar, Char.isAlphanum, digit]
  · rcases sign with rfl | rfl | rfl | rfl <;> decide

/-- Names may be capitalized. -/
theorem isNameChar_toUpper (inside : isNameChar char = true) : isNameChar char.toUpper = true := by
  by_cases lower : char.isLower = true
  · simp [isNameChar, Char.isAlphanum, Ascii.isAlpha_eq, Ascii.isUpper_toUpper lower]
  · rw [Ascii.toUpper_of_not_isLower lower]
    exact inside

/-- A hyphen is no capital. -/
theorem ne_hyphen_of_isUpper (upper : char.isUpper = true) : char ≠ '-' := by
  rintro rfl
  exact absurd upper (by decide)

/-- Only a hyphen has a hyphen for its capital. -/
theorem toUpper_ne_hyphen (visible : char ≠ '-') : char.toUpper ≠ '-' := by
  by_cases lower : char.isLower = true
  · exact ne_hyphen_of_isUpper (Ascii.isUpper_toUpper lower)
  · rw [Ascii.toUpper_of_not_isLower lower]
    exact visible

end Characters

/-- No hyphen is put before a character that is no capital. -/
theorem hyphenated_cons {char : Char} (small : char.isUpper = false) (rest : List Char) :
    hyphenated (char :: rest) = char :: hyphenated rest := by
  simp [hyphenated, small]

/-- A capital that stands for a small letter gives its hyphen back. -/
theorem hyphenated_toUpper {char : Char} (lower : char.isLower = true) (rest : List Char) :
    hyphenated (char.toUpper :: rest) = '-' :: char :: hyphenated rest := by
  simp [hyphenated, Ascii.isUpper_toUpper lower, Ascii.toLower_toUpper lower]

/-- A character that is no hyphen stays. -/
theorem camelCase_cons {first : Char} (visible : first ≠ '-') (rest : List Char) :
    camelCase (first :: rest) = first :: camelCase rest := by
  cases rest with
  | nil => rfl
  | cons next rest => simp [camelCase, visible]

/-- Without capitals to begin with, each capital marks a hyphen that was taken out. -/
theorem hyphenated_camelCase {chars : List Char} (small : ∀ char ∈ chars, char.isUpper = false) :
    hyphenated (camelCase chars) = chars := by
  fun_induction camelCase chars with
  | case1 => rfl
  | case2 char => exact hyphenated_cons (small char List.mem_cons_self) []
  | case3 char next rest letter ih =>
      obtain ⟨rfl, lower⟩ := letter
      rw [List.forall_mem_cons, List.forall_mem_cons] at small
      obtain ⟨-, -, behind⟩ := small
      rw [hyphenated_toUpper lower, ih behind]
  | case4 char next rest letter ih =>
      rw [List.forall_mem_cons] at small
      obtain ⟨here, behind⟩ := small
      rw [hyphenated_cons here, ih behind]

/-- A key gives its hyphens back, and one more in front if it begins with a letter. -/
theorem hyphenated_capital {first : Char} {tail : List Char}
    (small : ∀ char ∈ first :: tail, char.isUpper = false) :
    hyphenated (first.toUpper :: camelCase tail) = '-' :: first :: tail ∨
      hyphenated (first.toUpper :: camelCase tail) = first :: tail := by
  rw [List.forall_mem_cons] at small
  obtain ⟨front, behind⟩ := small
  by_cases lower : first.isLower = true
  · left
    rw [hyphenated_toUpper lower, hyphenated_camelCase behind]
  · right
    rw [Ascii.toUpper_of_not_isLower lower, hyphenated_cons front, hyphenated_camelCase behind]

private theorem isLower_head_camelCase {first : Char} {rest : List Char} {char : Char}
    (head : (camelCase (first :: rest)).head? = some char) (lower : char.isLower = true) :
    char = first := by
  cases rest with
  | nil => exact (Option.some.inj head).symm
  | cons next rest =>
      rw [camelCase] at head
      split at head
      · obtain rfl := Option.some.inj head
        rw [Ascii.isLower_toUpper] at lower
        cases lower
      · exact (Option.some.inj head).symm

private theorem hasHyphenatedLetter_cons {char : Char} {rest : List Char}
    (apart : char = '-' → ∀ next ∈ rest.head?, next.isLower = false) :
    hasHyphenatedLetter (char :: rest) = hasHyphenatedLetter rest := by
  cases rest with
  | nil => rfl
  | cons next rest =>
      by_cases hyphen : char = '-'
      · simp [hasHyphenatedLetter, apart hyphen next rfl]
      · simp [hasHyphenatedLetter, hyphen]

/-- No hyphen is left before a small letter. -/
theorem hasHyphenatedLetter_camelCase (chars : List Char) :
    hasHyphenatedLetter (camelCase chars) = false := by
  fun_induction camelCase chars with
  | case1 => rfl
  | case2 char => rfl
  | case3 char next rest letter ih =>
      rw [hasHyphenatedLetter_cons, ih]
      intro hyphen
      exact absurd hyphen (ne_hyphen_of_isUpper (Ascii.isUpper_toUpper letter.2))
  | case4 char next rest letter ih =>
      rw [hasHyphenatedLetter_cons, ih]
      intro hyphen front head
      apply Bool.eq_false_iff.mpr
      intro lower
      obtain rfl := isLower_head_camelCase head lower
      exact letter ⟨hyphen, lower⟩

/-- Taking hyphens out keeps a name. -/
theorem isNameChar_camelCase {chars : List Char} (all : ∀ char ∈ chars, isNameChar char = true) :
    ∀ char ∈ camelCase chars, isNameChar char = true := by
  fun_induction camelCase chars with
  | case1 => exact all
  | case2 char => exact all
  | case3 char next rest letter ih =>
      rw [List.forall_mem_cons, List.forall_mem_cons] at all
      obtain ⟨-, second, behind⟩ := all
      rw [List.forall_mem_cons]
      exact ⟨isNameChar_toUpper second, ih behind⟩
  | case4 char next rest letter ih =>
      rw [List.forall_mem_cons] at all ⊢
      exact ⟨all.1, ih all.2⟩

/-- The property key of a data attribute, given what follows its first hyphen. -/
def key (rest : String) : String := "data" ++ String.ofList (capitalized (camelCase rest.toList))

/-- The record of a data attribute and of its property. -/
def record (rest : String) : PropertyInfo := ⟨key rest, "data-" ++ rest, .plain, true, none⟩

private theorem map_toLower_word : "data".toList.map Char.toLower = "data".toList := by decide

/-- What stands behind the word in a data name is read. -/
theorem rest?_append {rest : List Char} (present : rest ≠ [])
    (chars : ∀ char ∈ rest, isNameChar char = true) :
    rest? ("data".toList ++ rest) = some rest := by
  have word : ("data".toList ++ rest).take 4 = "data".toList := rfl
  have behind : ("data".toList ++ rest).drop 4 = rest := rfl
  have all : rest.all isNameChar = true := List.all_eq_true.mpr chars
  simp only [rest?, word, behind, map_toLower_word, all, present, ne_eq, not_false_eq_true,
    and_self, ↓reduceIte]

/-- A data name begins with the word and is longer. -/
theorem word_of_rest? {name rest : List Char} (read : rest? name = some rest) :
    (name.take 4).map Char.toLower = "data".toList ∧ 4 < name.length := by
  unfold rest? at read
  dsimp only at read
  split at read
  · next holds =>
    obtain ⟨word, present, -⟩ := holds
    exact ⟨word, by simpa using present⟩
  · cases read

namespace IsAttributeRest

variable {rest : String} (proper : IsAttributeRest rest)

include proper

private theorem exists_cons : ∃ first tail, rest.toList = first :: tail ∧ first ≠ '-' ∧
    ∀ char ∈ first :: tail, isAttributeChar char = true := by
  have unhyphenated := proper.unhyphenated
  have inside := proper.chars
  cases chars : rest.toList with
  | nil => exact absurd (String.toList_eq_nil_iff.mp chars) proper.present
  | cons first tail =>
      rw [chars] at unhyphenated inside
      refine ⟨first, tail, rfl, ?_, inside⟩
      rintro rfl
      exact unhyphenated rfl

/-- The attribute resolves to its record. -/
theorem info?_attribute : info? ("data-" ++ rest) = some (record rest) := by
  have name : ("data-" ++ rest).toList = "data".toList ++ '-' :: rest.toList := by simp
  have chars : ∀ char ∈ '-' :: rest.toList, isNameChar char = true := by
    rw [List.forall_mem_cons]
    exact ⟨by decide, fun char member =>
      isNameChar_of_isAttributeChar (proper.chars char member)⟩
  have hyphen : ('-' :: rest.toList).head? = some '-' := rfl
  rw [info?, name, rest?_append (List.cons_ne_nil _ _) chars, Option.map_some]
  simp only [property, attributeName, hyphen, true_or, ↓reduceIte]
  rfl

/-- Putting the hyphens of a key back gives the attribute. -/
theorem attributeName_key (name : String) :
    attributeName name (capitalized (camelCase rest.toList)) = "data-" ++ rest := by
  obtain ⟨first, tail, chars, visible, inside⟩ := proper.exists_cons
  have small : ∀ char ∈ first :: tail, char.isUpper = false :=
    fun char member => isUpper_of_isAttributeChar (inside char member)
  have front : first.toUpper ≠ '-' := toUpper_ne_hyphen visible
  have apart : hasHyphenatedLetter (first.toUpper :: camelCase tail) = false := by
    rw [hasHyphenatedLetter_cons fun hyphen => absurd hyphen front, hasHyphenatedLetter_camelCase]
  have text : "data-" ++ rest = "data" ++ String.ofList ('-' :: first :: tail) := by
    apply String.toList_inj.mp
    simp [chars]
  rw [chars, camelCase_cons visible, capitalized, text]
  rcases hyphenated_capital small with spelled | spelled
  · simp [attributeName, front, apart, spelled]
  · simp [attributeName, front, apart, spelled, visible]

/-- The key of an attribute resolves to the record of the attribute. -/
theorem info?_key : info? (key rest) = some (record rest) := by
  obtain ⟨first, tail, chars, visible, inside⟩ := proper.exists_cons
  have spelled := proper.attributeName_key (key rest)
  have named : ∀ char ∈ first :: tail, isNameChar char = true :=
    fun char member => isNameChar_of_isAttributeChar (inside char member)
  have all : ∀ char ∈ first.toUpper :: camelCase tail, isNameChar char = true := by
    rw [List.forall_mem_cons] at named ⊢
    exact ⟨isNameChar_toUpper named.1, isNameChar_camelCase named.2⟩
  have name : (key rest).toList = "data".toList ++ (first.toUpper :: camelCase tail) := by
    simp [key, chars, camelCase_cons visible, capitalized]
  rw [chars, camelCase_cons visible, capitalized] at spelled
  rw [info?, name, rest?_append (List.cons_ne_nil _ _) all, Option.map_some, spelled]
  unfold property
  split
  · next hyphen => exact absurd (List.cons.inj hyphen).1 (toUpper_ne_hyphen visible)
  · rfl

end IsAttributeRest

end DataName

namespace Schema

/-- A schema resolves names in the usual way and knows none that is longer than the word
`data` and begins with it. -/
structure NamesNoData (schema : Schema) : Prop where
  usual : ∀ name, schema.find name = resolveName schema.lookup name
  unknown : ∀ name : String, "data".toList <+: name.toList → 4 < name.length →
    schema.lookup name = none

/-- **A schema keeps data attributes apart.** Each attribute is found again from its property
key, so two of them never share a key, and a bag of other data attributes leaves what is stored
under the key as it is. -/
structure KeepsDataNames (schema : Schema) : Prop where
  readBack : ∀ rest, DataName.IsAttributeRest rest →
    (schema.find (schema.find ("data-" ++ rest)).property).property =
        (schema.find ("data-" ++ rest)).property ∧
      (schema.find (schema.find ("data-" ++ rest)).property).attributeName = "data-" ++ rest
  apart : ∀ first second, DataName.IsAttributeRest first → DataName.IsAttributeRest second →
    first ≠ second →
      (schema.find ("data-" ++ first)).property ≠ (schema.find ("data-" ++ second)).property
  kept : ∀ rest, DataName.IsAttributeRest rest →
    ∀ (properties : Properties) (entries : List (String × Value)),
      (∀ entry ∈ entries, ∃ other, DataName.IsAttributeRest other ∧ other ≠ rest ∧
        entry.1 = "data-" ++ other) →
        (properties.extend schema entries).get? (schema.find ("data-" ++ rest)).property =
          properties.get? (schema.find ("data-" ++ rest)).property

end Schema

namespace Properties

variable {schema : Schema} {properties : Properties} {wanted : String}

/-- An entry leaves what is stored under another key than its own. -/
theorem get?_add_of_ne {entry : String × Value} (other : wanted ≠ (schema.find entry.1).property) :
    (properties.add schema entry.1 entry.2).get? wanted = properties.get? wanted := by
  unfold add
  dsimp only
  split
  · rw [OrderedMap.get?_insert, if_neg other]
  · rfl

/-- Entries leave what is stored under another key than theirs. -/
theorem get?_extend_of_ne {entries : List (String × Value)}
    (others : ∀ entry ∈ entries, wanted ≠ (schema.find entry.1).property) :
    (properties.extend schema entries).get? wanted = properties.get? wanted := by
  unfold extend
  induction entries generalizing properties with
  | nil => rfl
  | cons entry rest ih =>
      rw [List.forall_mem_cons] at others
      rw [List.foldl_cons, ih others.2, get?_add_of_ne others.1]

end Properties

namespace Schema

section NamesNoData

variable {schema : Schema} (unnamed : schema.NamesNoData) {rest : String}
  (proper : DataName.IsAttributeRest rest)

include unnamed

/-- What is read as a data name is found as one. -/
theorem NamesNoData.find_of_info? {name : String} {info : PropertyInfo}
    (made : DataName.info? name = some info) : schema.find name = info := by
  obtain ⟨behind, read, -⟩ := Option.map_eq_some_iff.mp made
  obtain ⟨word, long⟩ := DataName.word_of_rest? read
  have unknown : schema.lookup name.toLower = none := by
    apply unnamed.unknown
    · rw [Ascii.toList_toLower, ← word]
      exact (List.take_prefix 4 name.toList).map Char.toLower
    · rw [Ascii.length_toLower, ← String.length_toList]
      exact long
  rw [unnamed.usual, resolveName, unknown, made, Option.getD_some]

include proper

/-- A data attribute is found as its record. -/
theorem NamesNoData.find_attribute : schema.find ("data-" ++ rest) = DataName.record rest :=
  unnamed.find_of_info? proper.info?_attribute

/-- The key of a data attribute is found as the record of the attribute. -/
theorem NamesNoData.find_key : schema.find (DataName.key rest) = DataName.record rest :=
  unnamed.find_of_info? proper.info?_key

end NamesNoData

/-- A schema that knows no data name keeps data attributes apart. -/
theorem NamesNoData.keepsDataNames {schema : Schema} (unnamed : schema.NamesNoData) :
    schema.KeepsDataNames := by
  have apart (first second : String) (here : DataName.IsAttributeRest first)
      (there : DataName.IsAttributeRest second) (different : first ≠ second) :
      DataName.key first ≠ DataName.key second := by
    intro shared
    have same := unnamed.find_key here
    rw [shared, unnamed.find_key there] at same
    have names : "data-" ++ second = "data-" ++ first := congrArg PropertyInfo.attributeName same
    exact different (String.append_right_inj "data-" |>.mp names).symm
  constructor
  · intro rest proper
    have key : (DataName.record rest).property = DataName.key rest := rfl
    rw [unnamed.find_attribute proper, key, unnamed.find_key proper]
    exact ⟨rfl, rfl⟩
  · intro first second here there different
    rw [unnamed.find_attribute here, unnamed.find_attribute there]
    exact apart first second here there different
  · intro rest proper properties entries others
    rw [unnamed.find_attribute proper]
    apply Properties.get?_extend_of_ne
    intro entry member
    obtain ⟨other, present, different, named⟩ := others entry member
    rw [named, unnamed.find_attribute present]
    exact apart rest other proper present different.symm

end Schema

namespace DataName

/-- Whether a name is longer than the word `data` and begins with it, in any case. -/
def extendsWord (name : String) : Bool :=
  "data".toList.isPrefixOf (name.toList.map Char.toLower) && decide (4 < name.length)

private theorem extendsWord_of_head {name : String} {first : Char} {rest : List Char}
    (chars : name.toList = first :: rest) (other : first.toLower ≠ 'd') :
    extendsWord name = false := by
  have different : ('d' == first.toLower) = false := beq_eq_false_iff_ne.mpr other.symm
  have word : "data".toList = ['d', 'a', 't', 'a'] := rfl
  simp only [extendsWord, word, chars, List.map_cons, List.isPrefixOf, different, Bool.false_and]

private theorem extendsWord_replaceBeginning {beginning : String} {first : Char} {rest : List Char}
    (chars : beginning.toList = first :: rest) (other : first.toLower ≠ 'd') (length : Nat)
    (property : String) : extendsWord (replaceBeginning length beginning property) = false := by
  have front : (replaceBeginning length beginning property).toList =
      first :: (rest ++ (property.toList.drop length).map Char.toLower) := by
    simp [replaceBeginning, chars]
  exact extendsWord_of_head front other

/-- Whether the first byte of a name is that of a `d`, small or capital. -/
def beginsLikeWord (name : String) : Bool :=
  name.toByteArray.data.toList.head?.any fun byte => byte == 100 || byte == 68

/-- A name whose first character is a small or capital d begins like the word. -/
theorem beginsLikeWord_of_head {name : String} {first : Char} {rest : List Char}
    (chars : name.toList = first :: rest) (word : first.toLower = 'd') :
    beginsLikeWord name = true := by
  have letter : first = 'd' ∨ first = 'D' := by
    by_cases upper : first.isUpper = true
    · rw [← Ascii.toUpper_toLower_of_isUpper upper, word]
      exact .inr rfl
    · rw [Ascii.toLower_of_not_isUpper upper] at word
      exact .inl word
  have bytes : name.toByteArray.data.toList =
      String.utf8EncodeChar first ++ rest.flatMap String.utf8EncodeChar := by
    simp [← String.utf8Encode_toList, chars, List.utf8Encode]
  rw [beginsLikeWord, bytes]
  rcases letter with rfl | rfl <;> rfl

private theorem extendsWord_of_begins {name : String}
    (begun : beginsLikeWord name = true → extendsWord name = false) :
    extendsWord name = false := by
  cases chars : name.toList with
  | nil => simp [extendsWord, chars]
  | cons first rest =>
      by_cases word : first.toLower = 'd'
      · exact begun (beginsLikeWord_of_head chars word)
      · exact extendsWord_of_head chars word

/-- Whether a name extends the word does not depend on its case. -/
theorem extendsWord_toLower (name : String) : extendsWord name.toLower = extendsWord name := by
  simp only [extendsWord, Ascii.toList_toLower, Ascii.length_toLower, List.map_map,
    Function.comp_def, Ascii.toLower_toLower]

/-- A longer name that begins with the word extends it. -/
theorem extendsWord_of_prefix {name : String} (begins : "data".toList <+: name.toList)
    (long : 4 < name.length) : extendsWord name = true := by
  have lowered := begins.map Char.toLower
  rw [map_toLower_word] at lowered
  simp only [extendsWord, List.isPrefixOf_iff_prefix.mpr lowered, long, decide_true, Bool.and_self]

end DataName

namespace Space

/-- The rules of the vocabularies of HTML make no data name of a property that is none. -/
theorem extendsWord_spell_html {vocabulary : Vocabulary}
    (listed : vocabulary ∈ Space.html.vocabularies) {property : String}
    (short : DataName.extendsWord property = false) :
    DataName.extendsWord (vocabulary.spell property) = false := by
  have cases : vocabulary = .xml ∨ vocabulary = .xlink ∨ vocabulary = .xmlns ∨
      vocabulary = .aria ∨ vocabulary = .html := by
    simpa [Space.vocabularies, Vocabulary.shared] using listed
  rcases cases with rfl | rfl | rfl | rfl | rfl
  · have chars : "xml:".toList = ['x', 'm', 'l', ':'] := rfl
    exact DataName.extendsWord_replaceBeginning chars (by decide) 3 property
  · have chars : "xlink:".toList = ['x', 'l', 'i', 'n', 'k', ':'] := rfl
    exact DataName.extendsWord_replaceBeginning chars (by decide) 5 property
  · exact (DataName.extendsWord_toLower property).trans short
  · have chars : "aria-".toList = ['a', 'r', 'i', 'a', '-'] := rfl
    simp only [Vocabulary.aria, Vocabulary.spellAria]
    split
    · exact DataName.extendsWord_replaceBeginning chars (by decide) 4 property
    · exact short
  · exact (DataName.extendsWord_toLower property).trans short

/-- No property of HTML and no attribute that its definitions spell out extends the word. -/
theorem extendsWord_definitions_html :
    ∀ vocabulary ∈ Space.html.vocabularies, ∀ definition ∈ vocabulary.definitions,
      DataName.extendsWord definition.property = false ∧
        ∀ spelling ∈ definition.attributeName, DataName.extendsWord spelling = false := by
  -- Taking the characters of all names costs much more than looking at their first bytes.
  have begun : ∀ vocabulary ∈ Space.html.vocabularies, ∀ definition ∈ vocabulary.definitions,
      (DataName.beginsLikeWord definition.property = true →
        DataName.extendsWord definition.property = false) ∧
      ∀ spelling ∈ definition.attributeName, DataName.beginsLikeWord spelling = true →
        DataName.extendsWord spelling = false := by
    decide +kernel
  intro vocabulary listed definition defined
  obtain ⟨property, given⟩ := begun vocabulary listed definition defined
  exact ⟨DataName.extendsWord_of_begins property,
    fun spelling present => DataName.extendsWord_of_begins (given spelling present)⟩

/-- No name that a vocabulary of HTML spells extends the word. -/
theorem extendsWord_of_spells_html {vocabulary : Vocabulary}
    (listed : vocabulary ∈ Space.html.vocabularies) {name : String}
    (spelled : vocabulary.Spells name) : DataName.extendsWord name = false := by
  obtain ⟨definition, defined, spelling⟩ := spelled
  obtain ⟨property, given⟩ := extendsWord_definitions_html vocabulary listed definition defined
  rcases spelling with rfl | rfl
  · rw [DataName.extendsWord_toLower, property]
  · rw [DataName.extendsWord_toLower, Vocabulary.attributeOf]
    cases spelled : definition.attributeName with
    | none => exact extendsWord_spell_html listed property
    | some spelling => exact given spelling spelled

end Space

namespace Schema

/-- A schema of an index knows the names of the index. -/
theorem lookup_ofIndex (space : String) (index : PropertyIndex) :
    (ofIndex space index).lookup = index.get? := rfl

private theorem lookup_html : html.lookup = (PropertyIndex.build Space.html.vocabularies).get? :=
  lookup_ofIndex "html" PropertyIndex.html

/-- HTML knows the property `data`, but no longer name that begins like it. -/
theorem namesNoData_html : html.NamesNoData := by
  constructor
  · rw [lookup_html]
    exact find_ofIndex "html" PropertyIndex.html
  · rw [lookup_html]
    intro name begins long
    cases found : (PropertyIndex.build Space.html.vocabularies).get? name with
    | none => rfl
    | some info =>
        obtain ⟨vocabulary, listed, spelled⟩ := PropertyIndex.exists_spells_of_get? found
        have short := Space.extendsWord_of_spells_html listed spelled
        rw [DataName.extendsWord_of_prefix begins long] at short
        cases short

/-- **Data attributes round-trip through their property keys**, in HTML and in every schema
that knows no data name itself. -/
theorem data_attributes_round_trip :
    Schema.html.KeepsDataNames ∧ ∀ schema : Schema, schema.NamesNoData → schema.KeepsDataNames :=
  ⟨namesNoData_html.keepsDataNames, fun _ => NamesNoData.keepsDataNames⟩

/-- A schema of the one property `data`. -/
def dataOnly : Schema :=
  ⟨"object", fun name => if name = "data" then some (.unknown "data") else none⟩

/-- A data attribute with two hyphens and a digit, in a schema that knows the word. -/
theorem data_attributes_round_trip_dataOnly :
    dataOnly.NamesNoData ∧ (dataOnly.find "data-x--1-y").property = "dataX--1Y" ∧
      (dataOnly.find "dataX--1Y").property = "dataX--1Y" ∧
        (dataOnly.find "dataX--1Y").attributeName = "data-x--1-y" := by
  have unnamed : dataOnly.NamesNoData := by
    refine ⟨fun _ => rfl, ?_⟩
    intro name begins long
    have other : name ≠ "data" := by
      rintro rfl
      exact absurd long (by decide)
    exact if_neg other
  have proper : DataName.IsAttributeRest "x--1-y" :=
    ⟨by simp, by simp [DataName.isAttributeChar], by simp⟩
  have key : DataName.key "x--1-y" = "dataX--1Y" := by decide +kernel
  have name : "data-" ++ "x--1-y" = "data-x--1-y" := by simp
  have property := congrArg PropertyInfo.property (unnamed.find_attribute proper)
  have back := (data_attributes_round_trip.2 dataOnly unnamed).readBack "x--1-y" proper
  rw [name, DataName.record, key] at property
  rw [name, property] at back
  exact ⟨unnamed, property, back⟩

end Schema

end MarkupTree
