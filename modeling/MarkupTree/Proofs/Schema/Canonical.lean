import MarkupTree.Proofs.Schema.DataNames
import MarkupTree.Proofs.Schema.Spellings

/-! # Which spellings lead back to their key

A name resolves to a property key and to an attribute spelling. For a known name both resolve
to the same key again, and an unknown name that is no data name is its own key. Data names are
another matter (`Factory.find_again`): a key that keeps a hyphen behind the word `data` is read
as an attribute itself, a key of SVG may be a spelling of the known property `dataType`, and a
name that was not written as keys are gets an attribute with another key.
-/

namespace MarkupTree

namespace DataName

/-- Whether a data attribute keeps a hyphen behind the word in its key, given what follows the
word: a hyphen stands behind the first one, and no small letter behind both. -/
def keepsHyphen : List Char → Bool
  | '-' :: '-' :: rest => !rest.head?.any Char.isLower
  | _ => false

private theorem length_camelCase_le (chars : List Char) :
    (camelCase chars).length ≤ chars.length := by
  fun_induction camelCase chars with
  | case1 => exact Nat.le_refl _
  | case2 char => exact Nat.le_refl _
  | case3 char next rest letter ih =>
      rw [List.length_cons, List.length_cons, List.length_cons]
      omega
  | case4 char next rest letter ih =>
      rw [List.length_cons, List.length_cons]
      exact Nat.succ_le_succ ih

private theorem length_capitalized (chars : List Char) :
    (capitalized chars).length = chars.length := by
  cases chars with
  | nil => rfl
  | cons first rest => rfl

private theorem toUpper_eq_hyphen_iff {char : Char} : char.toUpper = '-' ↔ char = '-' := by
  constructor
  · intro hyphen
    by_contra visible
    exact toUpper_ne_hyphen visible hyphen
  · rintro rfl
    rfl

/-- Only small letters have another capital. -/
theorem toUpper_eq_self_iff {char : Char} : char.toUpper = char ↔ char.isLower = false := by
  constructor
  · intro capital
    rw [← capital]
    exact Ascii.isLower_toUpper char
  · intro capital
    exact Ascii.toUpper_of_not_isLower (Bool.eq_false_iff.mp capital)

private theorem toLower_ne_hyphen {char : Char} (visible : char ≠ '-') : char.toLower ≠ '-' := by
  intro hyphen
  have upper := congrArg Char.toUpper hyphen
  rw [Ascii.toUpper_toLower] at upper
  exact toUpper_ne_hyphen visible upper

private theorem head?_capitalized_camelCase (rest : List Char) :
    (capitalized (camelCase rest)).head? = some '-' ↔ keepsHyphen ('-' :: rest) = true := by
  fun_cases camelCase rest with
  | case1 => simp [capitalized, keepsHyphen]
  | case2 char =>
      by_cases hyphen : char = '-'
      · subst hyphen
        decide
      · simp [capitalized, toUpper_eq_hyphen_iff, hyphen, keepsHyphen]
  | case3 char next rest letter =>
      obtain ⟨rfl, lower⟩ := letter
      have visible : next ≠ '-' := by
        rintro rfl
        cases lower
      simp [capitalized, toUpper_eq_hyphen_iff, visible, keepsHyphen, lower]
  | case4 char next rest letter =>
      by_cases hyphen : char = '-'
      · subst hyphen
        have capital : next.isLower = false := by simpa using letter
        simp [capitalized, keepsHyphen, capital]
      · simp [capitalized, toUpper_eq_hyphen_iff, hyphen, keepsHyphen]

private theorem hasHyphenatedLetter_tail {char : Char} {rest : List Char}
    (apart : hasHyphenatedLetter (char :: rest) = false) : hasHyphenatedLetter rest = false := by
  cases rest with
  | nil => rfl
  | cons next rest =>
      rw [hasHyphenatedLetter, Bool.or_eq_false_iff] at apart
      exact apart.2

/-- A small letter behind a hyphen takes its place as a capital. -/
theorem camelCase_hyphen_letter {char : Char} (lower : char.isLower = true) (rest : List Char) :
    camelCase ('-' :: char :: rest) = char.toUpper :: camelCase rest := by
  simp [camelCase, lower]

private theorem camelCase_cons_of_head {char : Char} {rest : List Char}
    (apart : char = '-' → ∀ next ∈ rest.head?, next.isLower = false) :
    camelCase (char :: rest) = char :: camelCase rest := by
  cases rest with
  | nil => rfl
  | cons next rest =>
      have kept : ¬(char = '-' ∧ next.isLower = true) := by
        rintro ⟨hyphen, lower⟩
        rw [apart hyphen next rfl] at lower
        cases lower
      rw [camelCase, if_neg kept]

/-- Hyphens before capitals are taken out again where none stands before a small letter. -/
theorem camelCase_hyphenated {chars : List Char} (apart : hasHyphenatedLetter chars = false) :
    camelCase (hyphenated chars) = chars := by
  induction chars with
  | nil => rfl
  | cons char rest ih =>
      have behind := ih (hasHyphenatedLetter_tail apart)
      by_cases upper : char.isUpper = true
      · have lower := Ascii.isLower_toLower upper
        have capital := Ascii.toUpper_toLower_of_isUpper upper
        have front : hyphenated (char :: rest) = '-' :: char.toLower :: hyphenated rest := by
          simp [hyphenated, upper]
        rw [front, camelCase_hyphen_letter lower, capital, behind]
      · rw [hyphenated_cons (Bool.eq_false_iff.mpr upper), camelCase_cons_of_head, behind]
        intro hyphen next head
        cases rest with
        | nil => cases head
        | cons second rest =>
            by_cases capital : second.isUpper = true
            · have front : next = '-' := by simpa [hyphenated, capital] using head.symm
              rw [front]
              decide
            · rw [hyphenated_cons (Bool.eq_false_iff.mpr capital)] at head
              obtain rfl := Option.some.inj head
              simp [hasHyphenatedLetter, hyphen] at apart
              exact apart.1

/-- The attribute that is made of a name without a hyphen behind the word. -/
theorem attributeName_of_visible (name : String) {first : Char} {rest : List Char}
    (visible : first ≠ '-') (apart : hasHyphenatedLetter (first :: rest) = false) :
    attributeName name (first :: rest) =
      "data" ++ String.ofList ('-' :: first.toLower :: hyphenated rest) := by
  have written : ¬((first :: rest).head? = some '-' ∨
      hasHyphenatedLetter (first :: rest) = true) := by
    simp [visible, apart]
  rw [attributeName, if_neg written]
  by_cases upper : first.isUpper = true
  · have spelled : hyphenated (first :: rest) = '-' :: first.toLower :: hyphenated rest := by
      simp [hyphenated, upper]
    simp [spelled]
  · have small : first.toLower = first := Ascii.toLower_of_not_isUpper upper
    rw [hyphenated_cons (Bool.eq_false_iff.mpr upper), small]
    simp [visible]

/-- Names may be lower-cased. -/
theorem isNameChar_toLower {char : Char} (inside : isNameChar char = true) :
    isNameChar char.toLower = true := by
  by_cases upper : char.isUpper = true
  · simp [isNameChar, Char.isAlphanum, Ascii.isAlpha_eq, Ascii.isLower_toLower upper]
  · rw [Ascii.toLower_of_not_isUpper upper]
    exact inside

private theorem isNameChar_hyphenated {chars : List Char}
    (all : ∀ char ∈ chars, isNameChar char = true) :
    ∀ char ∈ hyphenated chars, isNameChar char = true := by
  intro char member
  obtain ⟨source, listed, made⟩ := List.mem_flatMap.mp member
  by_cases upper : source.isUpper = true
  · rw [if_pos upper, List.mem_cons, List.mem_singleton] at made
    rcases made with rfl | rfl
    · decide
    · exact isNameChar_toLower (all source listed)
  · rw [if_neg upper, List.mem_singleton] at made
    rw [made]
    exact all source listed

/-- What follows the word of a data name are at least one and only characters of data names. -/
theorem split_of_rest? {name rest : List Char} (read : rest? name = some rest) :
    name = name.take 4 ++ rest ∧ rest ≠ [] ∧ ∀ char ∈ rest, isNameChar char = true := by
  unfold rest? at read
  dsimp only at read
  split at read
  · next holds =>
    obtain ⟨-, present, chars⟩ := holds
    obtain rfl := Option.some.inj read
    exact ⟨(List.take_append_drop 4 name).symm, present, List.all_eq_true.mp chars⟩
  · cases read

private theorem isNameChar_key {rest : List Char}
    (named : ∀ char ∈ '-' :: rest, isNameChar char = true) :
    ∀ char ∈ capitalized (camelCase rest), isNameChar char = true := by
  have inside := isNameChar_camelCase (List.forall_mem_cons.mp named).2
  cases chars : camelCase rest with
  | nil =>
      intro char member
      cases member
  | cons first tail =>
      rw [chars, List.forall_mem_cons] at inside
      rw [capitalized, List.forall_mem_cons]
      exact ⟨isNameChar_toUpper inside.1, inside.2⟩

/-- A data name is, in small letters, the word and what stands behind it. -/
theorem toLower_of_rest? {name : String} {rest : List Char}
    (read : rest? name.toList = some rest) :
    name.toLower.toList = "data".toList ++ rest.map Char.toLower := by
  obtain ⟨split, -, -⟩ := split_of_rest? read
  obtain ⟨word, -⟩ := word_of_rest? read
  rw [Ascii.toList_toLower, split, List.map_append, word]

/-- A data name begins with the word, in any case. -/
theorem begins_of_rest? {name : String} {rest : List Char}
    (read : rest? name.toList = some rest) : "data".toList <+: name.toLower.toList :=
  ⟨_, (toLower_of_rest? read).symm⟩

/-- The key of a data attribute is shorter than the attribute. -/
theorem property_ne_of_hyphen {name : String} {rest : List Char}
    (chars : name.toList = "data".toList ++ '-' :: rest) : property name ('-' :: rest) ≠ name := by
  intro same
  have lengths := congrArg (fun text => text.toList.length) same
  have shorter := length_camelCase_le rest
  simp only [property, chars, String.toList_append, String.toList_ofList, List.length_append,
    length_capitalized, List.length_cons] at lengths
  omega

/-- Whether a name has the word `data` in front, in any case. -/
def hasWord (name : String) : Bool :=
  beginsLikeWord name && "data".toList.isPrefixOf (name.toList.map Char.toLower)

private theorem hasWord_of_prefix {name : String} (begins : "data".toList <+: name.toLower.toList) :
    hasWord name = true := by
  rw [Ascii.toList_toLower] at begins
  rw [hasWord, List.isPrefixOf_iff_prefix.mpr begins, Bool.and_true]
  cases chars : name.toList with
  | nil => simp [chars] at begins
  | cons first rest =>
      rw [chars] at begins
      exact beginsLikeWord_of_head chars (List.cons_prefix_cons.mp begins).1.symm

/-- Whether the name is a data attribute that keeps a hyphen in its key. -/
def isHyphenKeeper (name : String) : Bool := (rest? name.toList).any keepsHyphen

private theorem exists_rest_of_isHyphenKeeper {name : String} (keeps : isHyphenKeeper name = true) :
    ∃ rest, rest? name.toList = some ('-' :: rest) := by
  cases read : rest? name.toList with
  | none =>
      rw [isHyphenKeeper, read] at keeps
      cases keeps
  | some rest =>
      rw [isHyphenKeeper, read, Option.any_some] at keeps
      unfold keepsHyphen at keeps
      split at keeps
      · exact ⟨_, rfl⟩
      · cases keeps

/-- Whether the name is a data name without a hyphen behind the word or before a small letter,
and is not spelled as keys are, which begin with the word in small letters and no small letter
behind it. -/
def isMisspelledKey (name : String) : Bool :=
  (rest? name.toList).any fun rest =>
    rest.head? != some '-' && !hasHyphenatedLetter rest &&
      (name.toList.take 4 != "data".toList || rest.head?.any Char.isLower)

private theorem isMisspelledKey_of_written {name : String} {rest : List Char}
    (read : rest? name.toList = some rest)
    (written : rest.head? = some '-' ∨ hasHyphenatedLetter rest = true) :
    isMisspelledKey name = false := by
  rw [isMisspelledKey, read, Option.any_some]
  rcases written with hyphen | letter
  · simp [hyphen]
  · simp [letter]

/-- A name without a hyphen behind the word is spelled like a key if it has the word in small
letters in front and no small letter behind it. -/
theorem isMisspelledKey_of_visible {name : String} {first : Char} {rest : List Char}
    (read : rest? name.toList = some (first :: rest)) (visible : first ≠ '-')
    (apart : hasHyphenatedLetter (first :: rest) = false) :
    isMisspelledKey name = true ↔ "data" ++ String.ofList (first.toUpper :: rest) ≠ name := by
  obtain ⟨split, -, -⟩ := split_of_rest? read
  obtain ⟨word, -⟩ := word_of_rest? read
  have length : "data".toList.length = (name.toList.take 4).length := by
    rw [← word, List.length_map]
  have text : ("data" ++ String.ofList (first.toUpper :: rest)).toList =
      "data".toList ++ first.toUpper :: rest := by
    simp
  have same : "data" ++ String.ofList (first.toUpper :: rest) = name ↔
      name.toList.take 4 = "data".toList ∧ first.isLower = false := by
    calc
      _ ↔ "data".toList ++ first.toUpper :: rest = name.toList.take 4 ++ first :: rest := by
          rw [← String.toList_inj, text, ← split]
      _ ↔ "data".toList = name.toList.take 4 ∧ first.toUpper :: rest = first :: rest :=
          List.append_eq_append_iff_of_size_eq_left length
      _ ↔ _ := by
          rw [List.cons.injEq, toUpper_eq_self_iff, eq_self, and_true]
          exact and_congr_left fun _ => eq_comm
  have cases : isMisspelledKey name = true ↔
      name.toList.take 4 ≠ "data".toList ∨ first.isLower = true := by
    simp [isMisspelledKey, read, visible, apart]
  rw [cases, ne_eq, ne_eq, same, not_and_or, Bool.not_eq_false]

end DataName

namespace Space

/-- Whether a key of SVG is a spelling of the known property `dataType`, but not its key. -/
def IsShadowed (space : Space) (key : String) : Prop :=
  space = .svg ∧ key.toLower = "datatype" ∧ key ≠ "dataType"

/-- The property `data` of HTML. -/
def data : PropertyInfo := ⟨"data", "data", .plain, true, some "html"⟩

/-- The one property of SVG that is named like a data attribute. -/
def dataType : PropertyInfo := ⟨"dataType", "datatype", .plain, true, some "svg"⟩

private theorem toLower_data : "data".toLower = "data" := Ascii.toLower_eq_iff.mpr rfl

private theorem toLower_dataType : "dataType".toLower = "datatype" := Ascii.toLower_eq_iff.mpr rfl

private theorem toLower_datatype : "datatype".toLower = "datatype" := Ascii.toLower_eq_iff.mpr rfl

private theorem isSpelled_data : data.isSpelled "data" = true := by
  rw [PropertyInfo.isSpelled, data, toLower_data]
  rfl

private theorem isSpelled_dataType : dataType.isSpelled "datatype" = true := by
  rw [PropertyInfo.isSpelled, dataType, toLower_dataType]
  rfl

/-- The records of a space are those of the definitions in its vocabularies. -/
theorem mem_infos_iff {space : Space} {info : PropertyInfo} :
    info ∈ (PropertyIndex.build space.vocabularies).infos ↔
      ∃ vocabulary ∈ space.vocabularies, ∃ definition ∈ vocabulary.definitions,
        PropertyIndex.infoOf vocabulary definition = info := by
  simp only [PropertyIndex.infos_build, List.mem_flatMap, List.mem_map]

private theorem data_mem_infos : data ∈ (PropertyIndex.build Space.html.vocabularies).infos := by
  have listed : Vocabulary.html ∈ Space.html.vocabularies := by simp [vocabularies]
  have defined : Definition.regular .plain "data" ∈ Vocabulary.html.definitions := by decide
  have spelled : Vocabulary.html.attributeOf (.regular .plain "data") = "data" := toLower_data
  refine mem_infos_iff.mpr ⟨.html, listed, _, defined, ?_⟩
  rw [PropertyIndex.infoOf, spelled]
  rfl

private theorem dataType_mem_infos :
    dataType ∈ (PropertyIndex.build Space.svg.vocabularies).infos := by
  have listed : Vocabulary.svg ∈ Space.svg.vocabularies := by simp [vocabularies]
  have defined :
      Definition.spelled .plain ("dataType", "datatype") ∈ Vocabulary.svg.definitions := by
    decide
  exact mem_infos_iff.mpr ⟨.svg, listed, _, defined, rfl⟩

private theorem spells_of_isSpelled {vocabulary : Vocabulary} {definition : Definition}
    {normal : String} (defined : definition ∈ vocabulary.definitions)
    (spelled : (PropertyIndex.infoOf vocabulary definition).isSpelled normal = true) :
    vocabulary.Spells normal := by
  rw [PropertyInfo.isSpelled, Bool.or_eq_true, beq_iff_eq, beq_iff_eq] at spelled
  exact ⟨definition, defined, spelled⟩

/-- Where the definitions of SVG have the word `data` in front, they are those of `dataType`. -/
theorem definitions_svg : ∀ definition ∈ Vocabulary.svg.definitions,
    (DataName.hasWord definition.property = true → definition.property = "dataType") ∧
      ∀ spelling ∈ definition.attributeName,
        DataName.hasWord spelling = true → spelling = "datatype" := by
  decide +kernel

/-- Only one name of SVG begins with the word. -/
theorem eq_datatype_of_spells_svg {normal : String} (spelled : Vocabulary.svg.Spells normal)
    (begins : "data".toList <+: normal.toList) : normal = "datatype" := by
  obtain ⟨definition, defined, spelling⟩ := spelled
  obtain ⟨property, given⟩ := definitions_svg definition defined
  rcases spelling with rfl | rfl
  · rw [property (DataName.hasWord_of_prefix begins), toLower_dataType]
  · have word := DataName.hasWord_of_prefix begins
    have spell : Vocabulary.svg.attributeOf definition =
        definition.attributeName.getD definition.property := rfl
    rw [spell] at word ⊢
    cases spelled : definition.attributeName with
    | none =>
        rw [spelled, Option.getD_none] at word
        rw [Option.getD_none, property word, toLower_dataType]
    | some spelling =>
        rw [spelled, Option.getD_some] at word
        rw [Option.getD_some, given spelling spelled word, toLower_datatype]

/-- Only the name of the property `data` of HTML begins with the word. -/
theorem eq_data_of_isSpelled_html {normal : String} {info : PropertyInfo}
    (listed : info ∈ (PropertyIndex.build Space.html.vocabularies).infos)
    (spelled : info.isSpelled normal = true) (begins : "data".toList <+: normal.toList) :
    normal = "data" ∧ info = data := by
  obtain ⟨vocabulary, member, definition, defined, rfl⟩ := mem_infos_iff.mp listed
  have short := extendsWord_of_spells_html member (spells_of_isSpelled defined spelled)
  have length : normal.toList.length ≤ "data".toList.length := by
    by_contra long
    rw [String.length_toList, String.length_toList, Nat.not_le] at long
    rw [DataName.extendsWord_of_prefix begins long] at short
    cases short
  have word : normal = "data" := String.toList_inj.mp (begins.eq_of_length_le length).symm
  have known : data.isSpelled normal = true := by
    rw [word, isSpelled_data]
  exact ⟨word, eq_of_isSpelled listed data_mem_infos spelled known⟩

/-- A known name that begins with the word `data` is that word, or `dataType` in SVG. -/
theorem cases_of_data {space : Space} {normal : String} {info : PropertyInfo}
    (known : (PropertyIndex.build space.vocabularies).get? normal = some info)
    (begins : "data".toList <+: normal.toList) :
    normal = "data" ∧ info = data ∨ space = .svg ∧ normal = "datatype" ∧ info = dataType := by
  obtain ⟨listed, spelled⟩ := get?_eq_some_iff.mp known
  cases space with
  | html => exact .inl (eq_data_of_isSpelled_html listed spelled begins)
  | svg =>
      obtain ⟨vocabulary, member, definition, defined, rfl⟩ := mem_infos_iff.mp listed
      rw [vocabularies, List.mem_append, List.mem_singleton] at member
      rcases member with shared | rfl
      · left
        have again : vocabulary ∈ Space.html.vocabularies := List.mem_append_left _ shared
        have inside := mem_infos_iff.mpr ⟨vocabulary, again, definition, defined, rfl⟩
        exact eq_data_of_isSpelled_html inside spelled begins
      · right
        have word := eq_datatype_of_spells_svg (spells_of_isSpelled defined spelled) begins
        have also : dataType.isSpelled normal = true := by
          rw [word, isSpelled_dataType]
        exact ⟨rfl, word, eq_of_isSpelled listed dataType_mem_infos spelled also⟩

/-- A data attribute is no known name. -/
theorem get?_eq_none_of_hyphen {space : Space} {name : String} {rest : List Char}
    (read : DataName.rest? name.toList = some ('-' :: rest)) :
    (PropertyIndex.build space.vocabularies).get? name.toLower = none := by
  cases known : (PropertyIndex.build space.vocabularies).get? name.toLower with
  | none => rfl
  | some info =>
      have chars := DataName.toLower_of_rest? read
      rcases cases_of_data known (DataName.begins_of_rest? read) with ⟨word, -⟩ | ⟨-, word, -⟩
      · rw [word] at chars
        cases chars
      · rw [word] at chars
        cases chars

end Space

namespace Factory

variable {space : Space} {name : String}

private theorem lookup_schemaOf (space : Space) :
    (schemaOf space).lookup = (PropertyIndex.build space.vocabularies).get? := by
  cases space with
  | html => exact Schema.lookup_ofIndex "html" PropertyIndex.html
  | svg => exact Schema.lookup_ofIndex "svg" PropertyIndex.svg

/-- A known name is found as its record. -/
theorem find_of_known {info : PropertyInfo}
    (known : (schemaOf space).lookup name.toLower = some info) :
    (schemaOf space).find name = info := by
  rw [lookup_schemaOf] at known
  rw [find_schemaOf, resolveName, known]

/-- An unknown name is resolved as a data name or passed through. -/
theorem find_of_unknown (unknown : (schemaOf space).lookup name.toLower = none) :
    (schemaOf space).find name = (DataName.info? name).getD (.unknown name) := by
  rw [lookup_schemaOf] at unknown
  rw [find_schemaOf, resolveName, unknown]

/-- A data name that is not known is resolved to its key and its attribute. -/
theorem find_of_rest? {rest : List Char} (unknown : (schemaOf space).lookup name.toLower = none)
    (read : DataName.rest? name.toList = some rest) :
    (schemaOf space).find name =
      ⟨DataName.property name rest, DataName.attributeName name rest, .plain, true, none⟩ := by
  rw [find_of_unknown unknown, DataName.info?, read, Option.map_some, Option.getD_some]

/-- The name itself is the key unless the name is known or a data attribute. -/
theorem property_of_unhyphenated (unknown : (schemaOf space).lookup name.toLower = none)
    (unhyphenated : ∀ rest, DataName.rest? name.toList ≠ some ('-' :: rest)) :
    ((schemaOf space).find name).property = name := by
  cases read : DataName.rest? name.toList with
  | none => rw [find_of_unknown unknown, DataName.info?, read, Option.map_none]; rfl
  | some rest =>
      rw [find_of_rest? unknown read]
      unfold DataName.property
      split
      · next tail => exact absurd read (unhyphenated tail)
      · rfl

/-- A shadowed name is known as that of the property `dataType`. -/
theorem lookup_of_isShadowed (shadowed : space.IsShadowed name) :
    (schemaOf space).lookup name.toLower = some Space.dataType := by
  obtain ⟨rfl, spelled, -⟩ := shadowed
  rw [lookup_schemaOf, spelled]
  exact Space.get?_eq_some_iff.mpr ⟨Space.dataType_mem_infos, Space.isSpelled_dataType⟩

/-- An unknown name is not shadowed. -/
theorem not_isShadowed_of_unknown (unknown : (schemaOf space).lookup name.toLower = none) :
    ¬space.IsShadowed name := by
  intro shadowed
  rw [lookup_of_isShadowed shadowed] at unknown
  cases unknown

/-- Whether `data` is known or not, it is its own key. -/
theorem find_data : ((schemaOf space).find "data").property = "data" := by
  cases known : (schemaOf space).lookup "data".toLower with
  | none =>
      apply property_of_unhyphenated known
      intro rest read
      cases read
  | some info =>
      rw [find_of_known known]
      rw [Space.toLower_data, lookup_schemaOf] at known
      rcases Space.cases_of_data known (List.prefix_refl _) with ⟨-, rfl⟩ | ⟨-, other, -⟩
      · rfl
      · exact absurd other (by decide)

/-- A name with the word in small letters in front is its own key unless a hyphen stands behind
the word or the name is a spelling of another key. -/
theorem find_data_append {chars : List Char}
    (named : ∀ char ∈ chars, DataName.isNameChar char = true) :
    ((schemaOf space).find ("data" ++ String.ofList chars)).property =
        "data" ++ String.ofList chars ↔
      ¬(chars.head? = some '-' ∨ space.IsShadowed ("data" ++ String.ofList chars)) := by
  have text : ("data" ++ String.ofList chars).toList = "data".toList ++ chars := by simp
  cases chars with
  | nil =>
      have unshadowed : ¬space.IsShadowed "data" := by
        rintro ⟨-, spelled, -⟩
        rw [Space.toLower_data] at spelled
        exact absurd spelled (by decide)
      simpa [find_data] using unshadowed
  | cons front rest =>
      have read : DataName.rest? ("data" ++ String.ofList (front :: rest)).toList =
          some (front :: rest) := by
        rw [text]
        exact DataName.rest?_append (List.cons_ne_nil _ _) named
      generalize "data" ++ String.ofList (front :: rest) = name at *
      by_cases hyphen : front = '-'
      · subst hyphen
        have unknown : (schemaOf space).lookup name.toLower = none := by
          rw [lookup_schemaOf]
          exact Space.get?_eq_none_of_hyphen read
        have changed : DataName.property name ('-' :: rest) ≠ name :=
          DataName.property_ne_of_hyphen text
        rw [find_of_rest? unknown read]
        simpa using changed
      · have visible : (front :: rest).head? ≠ some '-' := by simpa using hyphen
        have other : ∀ tail, DataName.rest? name.toList ≠ some ('-' :: tail) := by
          intro tail again
          rw [read] at again
          exact hyphen (List.cons.inj (Option.some.inj again)).1
        simp only [visible, false_or]
        cases known : (schemaOf space).lookup name.toLower with
        | none =>
            have unshadowed := not_isShadowed_of_unknown known
            simp only [property_of_unhyphenated known other, unshadowed, not_false_eq_true]
        | some info =>
            rw [find_of_known known]
            rw [lookup_schemaOf] at known
            have spelled := DataName.toLower_of_rest? read
            rcases Space.cases_of_data known (DataName.begins_of_rest? read) with
              ⟨word, -⟩ | ⟨svg, word, rfl⟩
            · rw [word] at spelled
              cases spelled
            · simp only [Space.IsShadowed, svg, word, true_and, ne_eq, not_not]
              exact eq_comm

/-- The key of a name is its own key with the exceptions of data names. -/
theorem find_property_iff (space : Space) (name : String) :
    ((schemaOf space).find ((schemaOf space).find name).property).property =
        ((schemaOf space).find name).property ↔
      ¬(DataName.isHyphenKeeper name = true ∨
        space.IsShadowed ((schemaOf space).find name).property) := by
  by_cases hyphenated : ∃ rest, DataName.rest? name.toList = some ('-' :: rest)
  · obtain ⟨rest, read⟩ := hyphenated
    have unknown : (schemaOf space).lookup name.toLower = none := by
      rw [lookup_schemaOf]
      exact Space.get?_eq_none_of_hyphen read
    have named := DataName.isNameChar_key (DataName.split_of_rest? read).2.2
    have keeper : DataName.isHyphenKeeper name = DataName.keepsHyphen ('-' :: rest) := by
      rw [DataName.isHyphenKeeper, read, Option.any_some]
    rw [find_of_rest? unknown read, keeper, ← DataName.head?_capitalized_camelCase]
    exact find_data_append named
  · have unkept : DataName.isHyphenKeeper name = false := by
      apply Bool.eq_false_iff.mpr
      intro keeps
      exact hyphenated (DataName.exists_rest_of_isHyphenKeeper keeps)
    have unhyphenated : ∀ rest, DataName.rest? name.toList ≠ some ('-' :: rest) :=
      fun rest read => hyphenated ⟨rest, read⟩
    cases known : (schemaOf space).lookup name.toLower with
    | none =>
        have same : ((schemaOf space).find name).property = name :=
          property_of_unhyphenated known unhyphenated
        have unshadowed := not_isShadowed_of_unknown known
        simp [same, unkept, unshadowed]
    | some info =>
        have found : (schemaOf space).find name = info := find_of_known known
        rw [lookup_schemaOf] at known
        have again : (schemaOf space).lookup info.property.toLower = some info := by
          rw [lookup_schemaOf]
          exact (Space.get?_spellings known).1
        have unshadowed : ¬space.IsShadowed info.property := by
          intro shadowed
          have same := lookup_of_isShadowed shadowed
          rw [again] at same
          obtain rfl := Option.some.inj same
          exact shadowed.2.2 rfl
        simp [found, find_of_known again, unkept, unshadowed]

/-- The key of a data attribute is the word with what stands behind the hyphen in camel case. -/
theorem find_hyphenated {chars : List Char}
    (named : ∀ char ∈ '-' :: chars, DataName.isNameChar char = true) :
    ((schemaOf space).find ("data" ++ String.ofList ('-' :: chars))).property =
      "data" ++ String.ofList (DataName.capitalized (DataName.camelCase chars)) := by
  have text : ("data" ++ String.ofList ('-' :: chars)).toList = "data".toList ++ '-' :: chars := by
    simp
  have read : DataName.rest? ("data" ++ String.ofList ('-' :: chars)).toList =
      some ('-' :: chars) := by
    rw [text]
    exact DataName.rest?_append (List.cons_ne_nil _ _) named
  generalize "data" ++ String.ofList ('-' :: chars) = name at *
  have unknown : (schemaOf space).lookup name.toLower = none := by
    rw [lookup_schemaOf]
    exact Space.get?_eq_none_of_hyphen read
  rw [find_of_rest? unknown read]
  rfl

/-- The attribute that is made of a data name without a hyphen behind the word leads to the name
if the name is spelled as keys are. -/
theorem find_attributeName_of_visible {first : Char} {rest : List Char} (visible : first ≠ '-')
    (named : ∀ char ∈ first :: rest, DataName.isNameChar char = true)
    (apart : DataName.hasHyphenatedLetter (first :: rest) = false) :
    ((schemaOf space).find (DataName.attributeName name (first :: rest))).property =
      "data" ++ String.ofList (first.toUpper :: rest) := by
  have small : first.toLower ≠ '-' := DataName.toLower_ne_hyphen visible
  have behind := DataName.camelCase_hyphenated (DataName.hasHyphenatedLetter_tail apart)
  rw [List.forall_mem_cons] at named
  have inside : ∀ char ∈ '-' :: first.toLower :: DataName.hyphenated rest,
      DataName.isNameChar char = true := by
    rw [List.forall_mem_cons, List.forall_mem_cons]
    exact ⟨by decide, DataName.isNameChar_toLower named.1, DataName.isNameChar_hyphenated named.2⟩
  rw [DataName.attributeName_of_visible name visible apart, find_hyphenated inside,
    DataName.camelCase_cons small, behind, DataName.capitalized, Ascii.toUpper_toLower]

/-- The attribute of a name leads back to its key with the exceptions of data names. -/
theorem find_attributeName_iff (space : Space) (name : String) :
    ((schemaOf space).find ((schemaOf space).find name).attributeName).property =
        ((schemaOf space).find name).property ↔
      ¬((schemaOf space).lookup name.toLower = none ∧ DataName.isMisspelledKey name = true) := by
  cases known : (schemaOf space).lookup name.toLower with
  | some info =>
      have found : (schemaOf space).find name = info := find_of_known known
      rw [lookup_schemaOf] at known
      have again : (schemaOf space).lookup info.attributeName.toLower = some info := by
        rw [lookup_schemaOf]
        exact (Space.get?_spellings known).2
      simp [found, find_of_known again]
  | none =>
      cases read : DataName.rest? name.toList with
      | none =>
          have found : (schemaOf space).find name = .unknown name := by
            rw [find_of_unknown known, DataName.info?, read, Option.map_none, Option.getD_none]
          have same : ((schemaOf space).find name).attributeName = name := by rw [found]; rfl
          simp [same, DataName.isMisspelledKey, read]
      | some rest =>
          have spelled : ((schemaOf space).find name).attributeName =
              DataName.attributeName name rest := by
            rw [find_of_rest? known read]
          by_cases written : rest.head? = some '-' ∨ DataName.hasHyphenatedLetter rest = true
          · have same : DataName.attributeName name rest = name := if_pos written
            have proper : DataName.isMisspelledKey name = false :=
              DataName.isMisspelledKey_of_written read written
            simp [spelled, same, proper]
          · rw [not_or, Bool.not_eq_true] at written
            obtain ⟨visible, apart⟩ := written
            obtain ⟨-, present, named⟩ := DataName.split_of_rest? read
            obtain ⟨first, tail, rfl⟩ := List.exists_cons_of_ne_nil present
            have unhyphenated : ∀ tail, DataName.rest? name.toList ≠ some ('-' :: tail) := by
              rintro tail again
              rw [read] at again
              exact visible (congrArg List.head? (Option.some.inj again))
            have own : ((schemaOf space).find name).property = name :=
              property_of_unhyphenated known unhyphenated
            have front : first ≠ '-' := by simpa using visible
            rw [spelled, own, find_attributeName_of_visible front named apart,
              DataName.isMisspelledKey_of_visible read front apart]
            simp

/-- **Both spellings of a name lead back to its key**, in HTML and in SVG and for every name,
except where the name is a data name of one of three kinds: an attribute that keeps a hyphen in
its key, in SVG a name whose key is a spelling of `dataType`, and a name that stands for itself
without being spelled as keys are, whose attribute has another key. -/
theorem find_again (space : Space) (name : String) :
    (((schemaOf space).find ((schemaOf space).find name).property).property =
        ((schemaOf space).find name).property ↔
      ¬(DataName.isHyphenKeeper name = true ∨
        space.IsShadowed ((schemaOf space).find name).property)) ∧
    (((schemaOf space).find ((schemaOf space).find name).attributeName).property =
        ((schemaOf space).find name).property ↔
      ¬((schemaOf space).lookup name.toLower = none ∧ DataName.isMisspelledKey name = true)) :=
  ⟨find_property_iff space name, find_attributeName_iff space name⟩

/-- In HTML the key of `data--1` has the key `data1`, and the attribute of `datafoo` has the key
`dataFoo`. -/
theorem not_find_again :
    (((schemaOf .html).find "data--1").property = "data-1" ∧
      ((schemaOf .html).find "data-1").property = "data1") ∧
    (((schemaOf .html).find "datafoo").property = "datafoo" ∧
      ((schemaOf .html).find "datafoo").attributeName = "data-foo" ∧
      ((schemaOf .html).find "data-foo").property = "dataFoo") ∧
    ¬∀ (space : Space) (name : String),
      ((schemaOf space).find ((schemaOf space).find name).property).property =
          ((schemaOf space).find name).property ∧
        ((schemaOf space).find ((schemaOf space).find name).attributeName).property =
          ((schemaOf space).find name).property := by
  have hyphens : (schemaOf .html).find "data--1" = ⟨"data-1", "data--1", .plain, true, none⟩ :=
    Schema.namesNoData_html.find_of_info? rfl
  have hyphen : (schemaOf .html).find "data-1" = ⟨"data1", "data-1", .plain, true, none⟩ :=
    Schema.namesNoData_html.find_of_info? rfl
  have small : (schemaOf .html).find "datafoo" = ⟨"datafoo", "data-foo", .plain, true, none⟩ :=
    Schema.namesNoData_html.find_of_info? rfl
  have spelled : (schemaOf .html).find "data-foo" = ⟨"dataFoo", "data-foo", .plain, true, none⟩ :=
    Schema.namesNoData_html.find_of_info? rfl
  rw [hyphens, hyphen, small, spelled]
  refine ⟨⟨rfl, rfl⟩, ⟨rfl, rfl, rfl⟩, ?_⟩
  intro always
  have same := (always .html "data--1").1
  rw [hyphens, hyphen] at same
  exact absurd same (by decide)

end Factory

end MarkupTree
