import Mathlib.Data.List.TakeWhile
import MarkupTree.Proofs.Creation
import MarkupTree.Proofs.Selector.Runs
import MarkupTree.Proofs.Text.Lowercase
import MarkupTree.Proofs.Tree.Assembled

/-! # Tag names are canonical

The tag name that a selector builds is in lower case, or is the listed spelling of its lower
case. Either way it is made of name characters, for lower-casing neither makes nor removes one
(`Selector.isNameChar_smallLetter`). Read as a selector it is therefore one tag name, and the
same tag name is built from it (`Factory.tagName_tagName`). The case of ASCII letters makes no
difference to what is built (`Factory.tagName_toLower`), and a table has the last listed name
with a given lower case (`CaseTable.get?_ofNames`).
-/

namespace MarkupTree

open Text

private theorem OrderedMap.get?_insertAll {α : Type} (map : OrderedMap α)
    (pairs : List (String × α)) (key : String) : (map.insertAll pairs).get? key =
      ((pairs.reverse.find? (·.1 == key)).map Prod.snd).or (map.get? key) := by
  induction pairs generalizing map with
  | nil => rfl
  | cons pair rest ih =>
      have inserted :
          map.insertAll (pair :: rest) = (map.insert pair.1 pair.2).insertAll rest := rfl
      rw [inserted, ih, OrderedMap.get?_insert, List.reverse_cons, List.find?_append]
      cases rest.reverse.find? (·.1 == key) with
      | some found => rfl
      | none =>
          by_cases same : pair.1 = key
          · simp [same]
          · have other : key ≠ pair.1 := fun equal => same equal.symm
            simp [same, other]

namespace CaseTable

/-- The names of a table with a given lower case; the last one counts. -/
theorem get?_ofNames (names : List String) (lower : String) :
    (ofNames names).get? lower = names.reverse.find? fun name => lowercase name == lower := by
  rw [get?, ofNames, OrderedMap.ofList, OrderedMap.get?_insertAll, OrderedMap.get?_empty,
    Option.or_none, ← List.map_reverse, List.find?_map, Option.map_map]
  -- a name is put under its lower case and taken out again
  exact Option.map_id_apply

end CaseTable

namespace Selector

/-- Whether the capitals of a range lie behind ASCII, and their lower cases as well or there is
only one and it may stand in a name. -/
def isNamedRange (range : CaseRange) : Bool :=
  decide (0x7F ≤ range.first) &&
    (decide (0x7F ≤ range.lower range.first) ||
      range.first == range.last && isNameChar (Char.ofNat (range.lower range.first)))

private theorem isNamedRange_lowerRanges :
    ∀ range ∈ lowerRanges, range = ⟨0x41, 0x5A, 1, 32⟩ ∨ isNamedRange range = true := by
  decide +kernel

section Characters

variable {char : Char}

private theorem isNameChar_of_large (large : 0x7F ≤ char.toNat) : isNameChar char = true := by
  simp [isNameChar, large]

/-- The lower case of a character may stand in a name if the character may. -/
theorem isNameChar_smallLetter : isNameChar (smallLetter char) = isNameChar char := by
  rcases smallLetter_cases char with ⟨same, -⟩ | ⟨range, listed, held, small⟩
  · rw [same]
  · obtain ⟨above, below, -⟩ := CaseRange.holds_iff.mp held
    rcases isNamedRange_lowerRanges range listed with rfl | named
    · have upper : char.isUpper = true :=
        decide_eq_true ⟨UInt32.le_iff_toNat_le.mpr above, UInt32.le_iff_toNat_le.mpr below⟩
      apply Ascii.forall_isUpper _ upper
      decide
    · rw [isNamedRange, Bool.and_eq_true, Bool.or_eq_true, Bool.and_eq_true, decide_eq_true_eq,
        decide_eq_true_eq, beq_iff_eq] at named
      obtain ⟨capital, lowered⟩ := named
      rw [isNameChar_of_large (Nat.le_trans capital above), small]
      rcases lowered with large | ⟨single, inside⟩
      · apply isNameChar_of_large
        rw [toNat_ofNat_lower listed held]
        exact Nat.le_trans large (CaseRange.lower_bounds held).1
      · have only : char.toNat = range.first := Nat.le_antisymm (single ▸ below) above
        rw [only]
        exact inside

/-- Names may be lower-cased. -/
theorem isNameChar_toLower : isNameChar char.toLower = isNameChar char := by
  by_cases upper : char.isUpper = true
  · apply Ascii.forall_isUpper _ upper
    decide
  · rw [Ascii.toLower_of_not_isUpper upper]

/-- A character that may stand in a name is no sign. -/
theorem marked?_of_isNameChar (inside : isNameChar char = true) : marked? char = none := by
  unfold marked?
  split
  · exact absurd inside (by decide)
  · exact absurd inside (by decide)
  · rfl

private theorem marked?_toLower : marked? char.toLower = marked? char := by
  by_cases upper : char.isUpper = true
  · have inside : isNameChar char = true := by
      simp [isNameChar, Char.isAlphanum, Ascii.isAlpha_eq, upper]
    rw [marked?_of_isNameChar inside, marked?_of_isNameChar (isNameChar_toLower.trans inside)]
  · rw [Ascii.toLower_of_not_isUpper upper]

private theorem all_isNameChar_lowercaseAt (before after : List Char) :
    (lowercaseAt before char after).all isNameChar = isNameChar char := by
  unfold lowercaseAt
  split
  · next sigma =>
    rw [sigma]
    split <;> decide
  · split
    · next dotted =>
      rw [dotted]
      decide
    · rw [List.all_cons, List.all_nil, Bool.and_true, isNameChar_smallLetter]

end Characters

/-- Lower-casing neither makes nor removes a character that may stand in no name. -/
theorem all_isNameChar_lowercaseAfter (before text : List Char) :
    (lowercaseAfter before text).all isNameChar = text.all isNameChar := by
  induction text generalizing before with
  | nil => rfl
  | cons char rest ih =>
      rw [lowercaseAfter, List.all_append, all_isNameChar_lowercaseAt, ih, List.all_cons]

/-- Lower-casing a text keeps whether it is a name. -/
theorem all_isNameChar_lowercase (text : String) :
    (lowercase text).toList.all isNameChar = text.toList.all isNameChar := by
  rw [lowercase, String.toList_ofList, all_isNameChar_lowercaseAfter]

/-- A piece with its ASCII letters made small. -/
def Piece.toLower : Piece → Piece
  | .tagName name => .tagName (name.map Char.toLower)
  | .id name => .id (name.map Char.toLower)
  | .className name => .className (name.map Char.toLower)

private theorem Piece.toLower_of_marked? {sign : Char} {make : List Char → Piece}
    (marks : marked? sign = some make) (name : List Char) :
    (make name).toLower = make (name.map Char.toLower) := by
  unfold marked? at marks
  split at marks
  · cases marks
    rfl
  · cases marks
    rfl
  · cases marks

section Pieces

variable {char : Char} {rest : List Char}

/-- A mark with a name behind it is one piece. -/
theorem pieces_of_marked {make : List Char → Piece} {first : Char} {name : List Char}
    (outside : isNameChar char = false) (marks : marked? char = some make)
    (found : rest.takeWhile isNameChar = first :: name) :
    pieces (char :: rest) = make (first :: name) :: pieces (rest.dropWhile isNameChar) := by
  rw [pieces, if_neg (Bool.eq_false_iff.mp outside)]
  simp only [marks, found]

private theorem pieces_of_skipped (outside : isNameChar char = false)
    (skipped : marked? char = none ∨ rest.takeWhile isNameChar = []) :
    pieces (char :: rest) = pieces rest := by
  rw [pieces, if_neg (Bool.eq_false_iff.mp outside)]
  rcases skipped with unmarked | unnamed
  · simp only [unmarked]
  · cases marked? char with
    | none => rfl
    | some make => simp only [unnamed]

end Pieces

/-- The pieces of a text are lower-cased with it. -/
theorem pieces_toLower (text : List Char) :
    pieces (text.map Char.toLower) = (pieces text).map Piece.toLower := by
  have named : isNameChar ∘ Char.toLower = isNameChar := by
    funext char
    exact isNameChar_toLower
  induction text using pieces.induct with
  | case1 => simp [pieces]
  | case2 char rest inside ih =>
      have front : isNameChar char.toLower = true := isNameChar_toLower.trans inside
      rw [List.map_cons, pieces, if_pos front, pieces, if_pos inside, List.takeWhile_map,
        List.dropWhile_map, named, ih]
      rfl
  | case3 char rest outside make first name found marks ih =>
      have skipped : isNameChar char = false := Bool.eq_false_iff.mpr outside
      have small : (rest.map Char.toLower).takeWhile isNameChar =
          first.toLower :: name.map Char.toLower := by
        rw [List.takeWhile_map, named, found, List.map_cons]
      rw [List.map_cons, pieces_of_marked skipped marks found, List.map_cons,
        pieces_of_marked (isNameChar_toLower.trans skipped) (marked?_toLower.trans marks) small,
        List.dropWhile_map, named, ih, Piece.toLower_of_marked? marks, List.map_cons]
  | case4 char rest outside nothing ih =>
      have skipped : isNameChar char = false := Bool.eq_false_iff.mpr outside
      have unmarked : marked? char = none ∨ rest.takeWhile isNameChar = [] := by
        cases marks : marked? char with
        | none => exact .inl rfl
        | some make =>
            cases found : rest.takeWhile isNameChar with
            | nil => exact .inr rfl
            | cons first name => exact (nothing make first name marks found).elim
      rw [List.map_cons, pieces_of_skipped skipped unmarked, ← ih]
      apply pieces_of_skipped (isNameChar_toLower.trans skipped)
      rw [marked?_toLower, List.takeWhile_map, named, List.map_eq_nil_iff]
      exact unmarked

/-- The case of ASCII letters makes no difference to the tag name. -/
theorem tagName_parse_toLower (selector defaultTagName : String) :
    (parse selector.toLower defaultTagName).tagName = (parse selector defaultTagName).tagName := by
  have small (piece : Piece) : piece.toLower.tagName? = piece.tagName?.map String.toLower := by
    cases piece with
    | tagName name =>
        have lowered : (String.ofList name).toLower = String.ofList (name.map Char.toLower) := by
          apply String.toList_inj.mp
          rw [Ascii.toList_toLower, String.toList_ofList, String.toList_ofList]
        exact congrArg some lowered.symm
    | id name => rfl
    | className name => rfl
  have names (found : List Piece) : (found.map Piece.toLower).filterMap Piece.tagName? =
      (found.filterMap Piece.tagName?).map String.toLower := by
    rw [List.filterMap_map, List.map_filterMap]
    exact List.filterMap_congr fun piece _ => small piece
  simp only [parse, Ascii.toList_toLower, pieces_toLower, names, List.getLast?_map]
  cases ((pieces selector.toList).filterMap Piece.tagName?).getLast? with
  | none => rfl
  | some name => exact lowercase_toLower name

/-- A selector has a run that is a tag name. -/
def NamesTag (selector : String) : Prop :=
  ∃ run : Run, run.IsMaximal isNameChar selector.toList ∧ isTagName run = true

/-- The tag name of a selector with such a run is the lower case of the last one. -/
theorem NamesTag.exists_name {selector : String} (named : NamesTag selector)
    (defaultTagName : String) :
    ∃ name, name ≠ "" ∧ name.toList.all isNameChar = true ∧
      (parse selector defaultTagName).tagName = lowercase name := by
  obtain ⟨run, maximal, tag⟩ := named
  have names := filterMap_map_pieceOf tagName?_pieceOf (runs isNameChar selector.toList)
  have present : run ∈ (runs isNameChar selector.toList).filter isTagName :=
    List.mem_filter.mpr ⟨(mem_runs_iff _ run).mpr maximal, tag⟩
  obtain ⟨last, found⟩ : ∃ last,
      ((runs isNameChar selector.toList).filter isTagName).getLast? = some last :=
    ⟨_, List.getLast?_eq_some_getLast (List.ne_nil_of_mem present)⟩
  have member := (List.mem_filter.mp (List.mem_of_getLast? found)).1
  obtain ⟨-, nonempty, inside, -, -⟩ := (mem_runs_iff _ last).mp member
  refine ⟨last.text, ?_, ?_, ?_⟩
  · intro empty
    apply nonempty
    rw [Run.text] at empty
    exact String.ofList_eq_empty_iff.mp empty
  · rw [Run.text, String.toList_ofList]
    exact List.all_eq_true.mpr inside
  · simp only [parse, pieces_eq_map_runs, names, List.getLast?_map, found, Option.map_some,
      Option.getD_some]

/-- A text of name characters is one tag name. -/
theorem parse_of_named {text : String} (present : text ≠ "")
    (named : text.toList.all isNameChar = true) (defaultTagName : String) :
    parse text defaultTagName = ⟨lowercase text, none, []⟩ := by
  have read : pieces text.toList = [.tagName text.toList] := by
    cases chars : text.toList with
    | nil => exact absurd (String.toList_eq_nil_iff.mp chars) present
    | cons first rest =>
        rw [chars, List.all_cons, Bool.and_eq_true, List.all_eq_true] at named
        obtain ⟨front, behind⟩ := named
        rw [pieces, if_pos front, List.takeWhile_eq_self_iff.mpr behind,
          List.dropWhile_eq_nil_iff.mpr behind, pieces]
  simp [parse, read, Piece.tagName?, Piece.id?, Piece.className?]

end Selector

namespace CaseTable

/-- A name is listed, and no other name behind it has its lower case. -/
def Lists (names : List String) (name : String) : Prop :=
  ∃ before after, names = before ++ name :: after ∧
    ∀ later ∈ after, lowercase later = lowercase name → later = name

/-- The lower-cased form of a listed name is bound to the name. -/
theorem Lists.get?_ofNames {names : List String} {name : String} (listed : Lists names name) :
    (ofNames names).get? (lowercase name) = some name := by
  obtain ⟨before, after, rfl, alone⟩ := listed
  rw [CaseTable.get?_ofNames, List.reverse_append, List.reverse_cons, List.append_assoc,
    List.find?_append]
  cases found : after.reverse.find? fun later => lowercase later == lowercase name with
  | none => simp
  | some later =>
      have member := List.mem_reverse.mp (List.mem_of_find?_eq_some found)
      have same := List.find?_some (p := fun later => lowercase later == lowercase name) found
      exact congrArg some (alone later member (beq_iff_eq.mp same))

end CaseTable

namespace Factory

/-- A tag name alone builds an element with that tag name and no property. -/
def Keeps (factory : Factory) (tagName : String) : Prop :=
  ∃ node, factory.create (some tagName) [] = .ok node ∧ node.tagName? = some tagName ∧
    node.properties = .empty

section TagNames

variable {schema : Schema} {defaultTagName : String} {names : Option (List String)}

private theorem lowercase_adjust {lower : String} (small : lowercase lower = lower) :
    lowercase ((make schema defaultTagName names).adjust lower) = lower := by
  cases names with
  | none => exact small
  | some listed =>
      have table : (make schema defaultTagName (some listed)).adjust lower =
          ((CaseTable.ofNames listed).get? lower).getD lower := rfl
      rw [table, CaseTable.get?_ofNames]
      cases found : listed.reverse.find? fun name => lowercase name == lower with
      | none => exact small
      | some name =>
          have same := List.find?_some (p := fun name => lowercase name == lower) found
          exact beq_iff_eq.mp same

/-- The tag of a selector that is a name is the name, lower-cased and adjusted. -/
theorem tagName_of_named {factory : Factory} {text : String} (present : text ≠ "")
    (named : text.toList.all Selector.isNameChar = true) :
    factory.tagName text = factory.adjust (lowercase text) := by
  rw [tagName, Selector.parse_of_named present named]

/-- The tag name that a selector builds is built from itself. -/
theorem tagName_tagName {selector : String} (named : Selector.NamesTag selector) :
    let factory := make schema defaultTagName names
    factory.tagName selector ≠ "" ∧
      (factory.tagName selector).toList.all Selector.isNameChar = true ∧
      factory.tagName (factory.tagName selector) = factory.tagName selector := by
  intro factory
  obtain ⟨name, present, inside, read⟩ := named.exists_name factory.defaultTagName
  have adjusted : factory.tagName selector = factory.adjust (lowercase name) := by
    rw [tagName, read]
  have small : lowercase (factory.tagName selector) = lowercase name := by
    rw [adjusted]
    exact lowercase_adjust (lowercase_lowercase name)
  have nonempty : factory.tagName selector ≠ "" := by
    intro empty
    rw [empty] at small
    exact present (eq_empty_of_lowercase small.symm)
  have all : (factory.tagName selector).toList.all Selector.isNameChar = true := by
    rw [← Selector.all_isNameChar_lowercase, small, Selector.all_isNameChar_lowercase, inside]
  refine ⟨nonempty, all, ?_⟩
  rw [tagName_of_named nonempty all, small, adjusted]

/-- The tag of a selector does not depend on the case of its ASCII letters. -/
theorem tagName_toLower (factory : Factory) (selector : String) :
    factory.tagName selector.toLower = factory.tagName selector := by
  rw [tagName, tagName, Selector.tagName_parse_toLower]

private theorem toLower_eq_of_chars {first second : String}
    (same : first.toList.map Char.toLower = second.toList.map Char.toLower) :
    first.toLower = second.toLower := by
  rw [← String.toList_inj, Ascii.toList_toLower, Ascii.toList_toLower, same]

/-- A listed name is built from every spelling of it. -/
theorem tagName_of_lists {listed : List String} {name variant : String}
    (lists : CaseTable.Lists listed name) (present : name ≠ "")
    (named : name.toList.all Selector.isNameChar = true)
    (same : variant.toLower = name.toLower) :
    (make schema defaultTagName (some listed)).tagName variant = name := by
  have table : (make schema defaultTagName (some listed)).adjust (lowercase name) =
      ((CaseTable.ofNames listed).get? (lowercase name)).getD (lowercase name) := rfl
  rw [← tagName_toLower, same, tagName_toLower, tagName_of_named present named, table,
    lists.get?_ofNames, Option.getD_some]

end TagNames

/-- What is built has the tag of its selector. -/
theorem Builds.tagName?_eq {factory : Factory} {selector : String} {bag : Object} {node : Node}
    (built : factory.Builds selector bag node) :
    node.tagName? = some (factory.tagName selector) := by
  obtain ⟨nodes, rfl⟩ := built.exists_withChildren
  exact Draft.tagName?_withChildren _ nodes

private theorem create_alone (factory : Factory) (selector : String) :
    factory.create (some selector) [] = .ok ((factory.draft selector).withChildren []) := rfl

private theorem builds_alone (factory : Factory) (selector : String) :
    factory.Builds selector .empty ((factory.draft selector).withChildren []) :=
  .inr ⟨[], create_alone factory selector, rfl⟩

/-- A name that is its own tag is kept. -/
theorem keeps_of_named {factory : Factory} {text : String} (present : text ≠ "")
    (named : text.toList.all Selector.isNameChar = true) (same : factory.tagName text = text) :
    factory.Keeps text := by
  have read : Selector.parse text factory.defaultTagName = ⟨lowercase text, none, []⟩ :=
    Selector.parse_of_named present named factory.defaultTagName
  have draft : factory.draft text = ⟨text, .empty⟩ := by
    rw [Factory.draft, same, read]
    rfl
  refine ⟨_, create_alone factory text, ?_, ?_⟩
  · rw [draft, Draft.tagName?_withChildren]
  · rw [draft, Draft.properties_withChildren]

/-- **Tag names are stable, do not depend on the case of letters, and are canonical.** For every
factory without a case table or with one of any list of names: what is built from a selector
with a run that is a tag name has a tag name that is not empty and alone builds itself; selectors
that differ in nothing but the case of ASCII letters build the same tag name; and a table has the
last listed name of a lower case, so that every spelling of a listed name of name characters
builds that name unless another one with its lower case follows it. -/
theorem tagNames_canonical (schema : Schema) (defaultTagName : String)
    (names : Option (List String)) :
    (∀ selector bag node, (make schema defaultTagName names).Builds selector bag node →
      Selector.NamesTag selector →
        ∃ tagName, node.tagName? = some tagName ∧ tagName ≠ "" ∧
          (make schema defaultTagName names).Keeps tagName) ∧
    (∀ first second bag otherBag node other,
      first.toLower = second.toLower →
        (make schema defaultTagName names).Builds first bag node →
          (make schema defaultTagName names).Builds second otherBag other →
            node.tagName? = other.tagName?) ∧
    (∀ listed lower, (CaseTable.ofNames listed).get? lower =
      listed.reverse.find? fun name => lowercase name == lower) ∧
    ∀ listed name variant bag node, names = some listed → CaseTable.Lists listed name →
      name ≠ "" → name.toList.all Selector.isNameChar = true → variant.toLower = name.toLower →
        (make schema defaultTagName names).Builds variant bag node →
          node.tagName? = some name := by
  refine ⟨?_, ?_, CaseTable.get?_ofNames, ?_⟩
  · intro selector bag node built named
    obtain ⟨present, inside, same⟩ := tagName_tagName named
    exact ⟨_, built.tagName?_eq, present, keeps_of_named present inside same⟩
  · intro first second bag otherBag node other same built again
    rw [built.tagName?_eq, again.tagName?_eq, ← tagName_toLower, same, tagName_toLower]
  · rintro listed name variant bag node rfl lists present named same built
    rw [built.tagName?_eq, tagName_of_lists lists present named same]

/-- The listed name `textPath` in other letters, alone and behind an id. -/
theorem tagNames_canonical_textPath :
    ∃ plain marked again, svg.create (some "TEXTpath") [] = .ok plain ∧
      svg.create (some "#a textPATH") [] = .ok marked ∧
      svg.create (some "#A textpath") [] = .ok again ∧
      plain.tagName? = some "textPath" ∧
      (∃ tagName, marked.tagName? = some tagName ∧ tagName ≠ "" ∧ svg.Keeps tagName) ∧
      marked.tagName? = again.tagName? := by
  have canonical := tagNames_canonical Schema.svg "g" (some svgMixedCaseTagNames)
  have made : make Schema.svg "g" (some svgMixedCaseTagNames) = svg := rfl
  rw [made] at canonical
  obtain ⟨stable, same, -, listed⟩ := canonical
  have run : Selector.NamesTag "#a textPATH" := by
    refine ⟨⟨"#a ".toList, "textPATH".toList, []⟩, (mem_runs_iff _ _).mp ?_, ?_⟩
    · decide
    · decide
  have lists : CaseTable.Lists svgMixedCaseTagNames "textPath" :=
    ⟨svgMixedCaseTagNames.dropLast, [], by decide, fun _ member => nomatch member⟩
  have spelled : "TEXTpath".toLower = "textPath".toLower := toLower_eq_of_chars (by decide)
  have letters : "#a textPATH".toLower = "#A textpath".toLower := toLower_eq_of_chars (by decide)
  refine ⟨_, _, _, create_alone svg _, create_alone svg _, create_alone svg _, ?_, ?_, ?_⟩
  · exact listed _ _ _ .empty _ rfl lists (by decide) (by decide) spelled
      (builds_alone svg _)
  · exact stable _ .empty _ (builds_alone svg _) run
  · exact same _ _ .empty .empty _ _ letters (builds_alone svg _) (builds_alone svg _)

end Factory

end MarkupTree
