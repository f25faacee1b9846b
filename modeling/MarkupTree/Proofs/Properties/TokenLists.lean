import MarkupTree.Proofs.Number.TextLayout
import MarkupTree.Proofs.Properties.Settled
import MarkupTree.Proofs.Text.Tokens

/-! # A text is the list of its tokens

Where the values of a property are lists, a text is read as the list of its tokens, and it makes
no difference whether the text is given or the array of them
(`Properties.stored?_string_eq_array`).

The text of a stored list has a space between its items. It is read as the same list wherever
spaces separate tokens, alone or beside commas (`Properties.stored?_display_items`): an item
that was read from a token is shown as a token of such a list again, for it is the token itself,
the word for true or a number, whose text is a word (`Number.isWord_display`). Classes are stored
behind those that are there already, which may be no tokens; only such as a text stores are read
again with the others (`Properties.add_string_tokens`).
-/

namespace MarkupTree

open Text (IsToken IsTokenList IsWord)

/-- What stands between the tokens of a list in a text. -/
inductive Separation where
  | spaces
  | commas
  | commasOrSpaces
deriving Repr, DecidableEq

namespace Separation

def tokens : Separation → String → List String
  | .spaces => Text.spaceSeparated
  | .commas => Text.commaSeparated
  | .commasOrSpaces => Text.commaOrSpaceSeparated

private theorem tokens_empty (separation : Separation) : separation.tokens "" = [] := by
  cases separation <;> decide

/-- Whether lists of a kind are separated in this way. -/
def separates (kind : PropertyKind) : Separation → Bool
  | .spaces => kind.isSpaceSeparated
  | .commas => kind.isCommaSeparated
  | .commasOrSpaces => kind.isCommaOrSpaceSeparated

/-- The items that the tokens of a text are read as. -/
def items (separation : Separation) (info : PropertyInfo) (text : String) : List ListItem :=
  (separation.tokens text).map fun token => info.kind.coerceItem info.property (.string token)

/-- What makes tokens be read again when they are written out with spaces. Where only commas
separate, spaces make one token of all. -/
def Rereadable : Separation → List String → Prop
  | .spaces, tokens => ∀ token ∈ tokens, IsToken token.toList
  | .commas, _ => False
  | .commasOrSpaces, tokens => IsTokenList (tokens.map String.toList)

variable {separation : Separation}

/-- The tokens of a text are read again, but for those between commas. -/
theorem rereadable_tokens (spaced : separation ≠ .commas) (text : String) :
    separation.Rereadable (separation.tokens text) := by
  cases separation with
  | spaces =>
      simp only [Rereadable, tokens, Text.spaceSeparated, List.forall_mem_map,
        String.toList_ofList]
      exact fun token => Text.isToken_of_mem_spaceTokens
  | commas => exact absurd rfl spaced
  | commasOrSpaces =>
      rw [Rereadable, tokens, Text.commaOrSpaceSeparated, Text.map_toList_map_ofList]
      exact Text.isTokenList_commaOrSpaceTokens text.toList

namespace Rereadable

/-- Two lists that are read again make one that is. -/
theorem append {tokens others : List String} (first : separation.Rereadable tokens)
    (second : separation.Rereadable others) : separation.Rereadable (tokens ++ others) := by
  cases separation with
  | spaces => exact List.forall_mem_append.mpr ⟨first, second⟩
  | commas => exact first
  | commasOrSpaces =>
      rw [Rereadable, List.map_append]
      exact IsTokenList.append first second

/-- The list stays readable if each token is kept or becomes a word. -/
theorem map {change : String → String} {tokens : List String}
    (readable : separation.Rereadable tokens)
    (each : ∀ token, change token = token ∨ IsWord (change token).toList) :
    separation.Rereadable (tokens.map change) := by
  cases separation with
  | spaces =>
      rw [Rereadable, List.forall_mem_map]
      intro token member
      rcases each token with same | word
      · rw [same]
        exact readable token member
      · exact word.isToken
  | commas => exact readable
  | commasOrSpaces =>
      rw [Rereadable, List.map_map]
      apply IsTokenList.map readable
      intro token _
      rcases each token with same | word
      · exact .inl (congrArg String.toList same)
      · exact .inr word

/-- Written out with spaces, the tokens are read again. -/
theorem tokens_intercalate {tokens : List String} (readable : separation.Rereadable tokens) :
    separation.tokens (" ".intercalate tokens) = tokens := by
  have space : " ".toList = [' '] := by decide
  cases separation with
  | spaces =>
      have areTokens : ∀ token ∈ tokens.map String.toList, IsToken token :=
        List.forall_mem_map.mpr readable
      rw [Separation.tokens, Text.spaceSeparated, String.toList_intercalate, space,
        Text.spaceTokens_intercalate_tokens areTokens, Text.map_ofList_map_toList]
  | commas => exact readable.elim
  | commasOrSpaces =>
      rw [Separation.tokens, Text.commaOrSpaceSeparated, String.toList_intercalate, space,
        IsTokenList.commaOrSpaceTokens_intercalate readable, Text.map_ofList_map_toList]

end Rereadable

end Separation

namespace PropertyKind

variable (kind : PropertyKind)

/-- How the lists of a kind are separated: in the first of the three ways that it has. -/
def separation? : Option Separation :=
  [Separation.spaces, .commas, .commasOrSpaces].find? (Separation.separates kind)

/-- The tokens of a kind are those of its separation. -/
theorem tokens?_eq (text : String) :
    kind.tokens? text = kind.separation?.map fun separation => separation.tokens text := by
  unfold tokens? separation?
  cases spaces : kind.isSpaceSeparated <;> cases commas : kind.isCommaSeparated <;>
    cases either : kind.isCommaOrSpaceSeparated <;>
      simp [Separation.separates, Separation.tokens, spaces, commas, either]

/-- A kind with one of the three flags has a separation. -/
theorem exists_separation
    (listed : (kind.isSpaceSeparated || kind.isCommaSeparated || kind.isCommaOrSpaceSeparated) =
      true) : ∃ separation, kind.separation? = some separation := by
  apply Option.isSome_iff_exists.mp
  rw [separation?, List.find?_isSome]
  simpa [Separation.separates, or_assoc] using listed

end PropertyKind

namespace Number

/-- The text of a number that is not zero has characters of decimals only. -/
theorem isDecimalChar_of_mem_display {negative : Bool} {magnitude : Magnitude}
    (nonzero : magnitude.rank ≠ 0) :
    ∀ char ∈ (finite negative magnitude).display.toList, isDecimalChar char = true := by
  obtain ⟨numeral, -, text⟩ :=
    Layout.text.exists_numeral (digits_shortest_ne_zero Layout.text.tie nonzero)
  rw [toList_display negative nonzero, text]
  intro char member
  cases negative with
  | false => exact Json.Numeral.isDecimalChar_of_mem_charsWith member
  | true =>
      rcases List.mem_cons.mp member with rfl | further
      · rfl
      · exact Json.Numeral.isDecimalChar_of_mem_charsWith further

/-- The text of a number is a word, whatever number it is. -/
theorem isWord_display (value : Number) : IsWord value.display.toList := by
  cases value with
  | nan => exact .of_all (by decide) (by decide)
  | infinite negative => cases negative <;> exact .of_all (by decide) (by decide)
  | finite negative magnitude =>
      by_cases zero : magnitude.rank = 0
      · simp only [display, displayChars, zero, ↓reduceIte, String.toList_ofList]
        exact .of_all (by decide) (by decide)
      · have decimal := @isDecimalChar_of_mem_display negative magnitude zero
        refine ⟨?_, fun char member => ⟨Text.isBlank_of_isDecimalChar (decimal char member), ?_⟩⟩
        · have significant := Magnitude.isSignificant_shortest Layout.text.tie zero
          obtain ⟨first, rest, chars, -⟩ := (Layout.inText_write _).isDigit_head significant
          rw [toList_display negative zero, chars]
          cases negative <;> exact List.cons_ne_nil _ _
        · rintro rfl
          exact absurd (decimal ',' member) (by decide)

end Number

/-- A token that is read and shown is the same token or a word. -/
theorem PropertyKind.display_coerceItem (kind : PropertyKind) (property token : String) :
    (kind.coerceItem property (.string token)).display = token ∨
      IsWord (kind.coerceItem property (.string token)).display.toList := by
  rcases kind.coerceItem_cases property token with ⟨value, number, -⟩ | true | kept
  · rw [number]
    exact .inr value.isWord_display
  · rw [true]
    exact .inr (.of_all (by decide) (by decide))
  · rw [kept]
    exact .inl rfl

private theorem ListItem.ofValues_strings (texts : List String) :
    ofValues (texts.map Value.string) = texts.map ListItem.string := by
  induction texts with
  | nil => rfl
  | cons text rest ih => exact congrArg (ListItem.string text :: ·) ih

namespace Properties

section Lists

variable {info : PropertyInfo} {separation : Separation}

/-- Under a key of lists a text is stored as its tokens. -/
theorem uncoerced?_string (listed : info.kind.separation? = some separation) (text : String) :
    uncoerced? info.kind (.string text) =
      some (.list ((separation.tokens text).map ListItem.string)) := by
  simp only [uncoerced?, PropertyKind.tokens?_eq, listed, Option.map_some]

/-- An array of texts is stored as its texts. -/
theorem uncoerced?_array (texts : List String) :
    uncoerced? info.kind (.array (texts.map Value.string)) =
      some (.list (texts.map ListItem.string)) := by
  simp only [uncoerced?, PropertyValue.ofValue?, ListItem.ofValues_strings]

/-- A text stores what the array of its tokens stores. -/
theorem stored?_string_eq_array (listed : info.kind.separation? = some separation)
    (unstyled : info.property ≠ "style") (properties : Properties) (text : String) :
    properties.stored? info (.string text) =
      properties.stored? info (.array ((separation.tokens text).map Value.string)) := by
  have reads : uncoerced? info.kind (.string text) =
      uncoerced? info.kind (.array ((separation.tokens text).map Value.string)) := by
    rw [uncoerced?_string listed, uncoerced?_array]
  simp only [stored?, unstyled, reads]
  rfl

/-- The items that are there already where a text is added: those of the classes. -/
def held (properties : Properties) (info : PropertyInfo) : List ListItem :=
  if info.property = "className" then properties.presentClasses else []

/-- A text stores its items behind those that are there, which are read once more. -/
theorem stored?_string (listed : info.kind.separation? = some separation)
    (unstyled : info.property ≠ "style") (properties : Properties) (text : String) :
    properties.stored? info (.string text) =
      some (.list ((properties.held info).map (info.kind.coerceItem info.property) ++
        separation.items info text)) := by
  have texts : classItems (.list ((separation.tokens text).map ListItem.string)) =
      (separation.tokens text).map ListItem.string := by
    rw [classItems, List.map_map]
    rfl
  simp only [stored?, Value.isNullish, unstyled, uncoerced?_string listed, held, texts,
    Bool.false_eq_true, ↓reduceIte, Option.map_some]
  split
  · simp only [coerced, List.map_append, List.map_map, Separation.items]
    rfl
  · simp only [coerced, List.map_nil, List.nil_append, List.map_map, Separation.items]
    rfl

/-- **The text of a list of items that were read from tokens is read as the same list.** -/
theorem stored?_display_items (listed : info.kind.separation? = some separation)
    (unstyled : info.property ≠ "style") {tokens : List String}
    (readable : separation.Rereadable tokens) :
    let items := tokens.map fun token => info.kind.coerceItem info.property (.string token)
    ∃ again, stored? .empty info (.string (PropertyValue.list items).display) =
        some (.list again) ∧ (PropertyValue.list again).same (.list items) = true := by
  intro items
  have shown : (PropertyValue.list items).display = " ".intercalate (tokens.map fun token =>
      (info.kind.coerceItem info.property (.string token)).display) := by
    rw [PropertyValue.display, List.map_map]
    rfl
  have again := readable.map (info.kind.display_coerceItem info.property)
  have held : Properties.held .empty info = [] := by
    unfold Properties.held
    split
    · rfl
    · rfl
  rw [shown, stored?_string listed unstyled, held, List.map_nil, List.nil_append,
    Separation.items, again.tokens_intercalate, List.map_map]
  exact ⟨_, rfl, PropertyValue.same_list_map fun token _ =>
    info.kind.same_coerceItem_display info.property token⟩

end Lists

/-- Whether the text of the list that a text stores, added to empty properties, stores the same
list again. -/
def RereadsList (schema : Schema) (properties : Properties) (key text : String) : Prop :=
  ∃ items again,
    add schema properties key (.string text) =
        properties.insert (schema.find key).property (.list items) ∧
      add schema .empty key (.string (PropertyValue.list items).display) =
        OrderedMap.empty.insert (schema.find key).property (.list again) ∧
      (PropertyValue.list again).same (.list items) = true

/-- **A text is the list of its tokens.** Where the values of a property are lists and the
property is no style, a text stores what the array of its tokens stores. Unless only commas
separate the tokens, the text of the stored list stores the same list again. Of classes that are
there before, it takes that they are such as a text stores. -/
theorem add_string_tokens (schema : Schema) (key : String)
    (listed : ((schema.find key).kind.isSpaceSeparated ||
      (schema.find key).kind.isCommaSeparated ||
        (schema.find key).kind.isCommaOrSpaceSeparated) = true)
    (unstyled : (schema.find key).property ≠ "style") :
    ∃ separation, (schema.find key).kind.separation? = some separation ∧
      ∀ (properties : Properties) (text : String),
        add schema properties key (.string text) =
          add schema properties key (.array ((separation.tokens text).map Value.string)) ∧
        (separation ≠ .commas →
          ((schema.find key).property = "className" →
            ∃ earlier, properties.presentClasses = separation.items (schema.find key) earlier) →
          RereadsList schema properties key text) := by
  generalize found : schema.find key = info at listed unstyled ⊢
  obtain ⟨separation, separated⟩ := info.kind.exists_separation listed
  refine ⟨separation, separated, fun properties text => ⟨?_, fun spaced classes => ?_⟩⟩
  · simp only [add, found, stored?_string_eq_array separated unstyled properties text]
  · -- The items that are there were read from tokens as well, so all of them are one list.
    obtain ⟨earlier, readable, held⟩ : ∃ earlier, separation.Rereadable earlier ∧
        properties.held info = earlier.map fun token =>
          info.kind.coerceItem info.property (.string token) := by
      by_cases className : info.property = "className"
      · obtain ⟨before, stored⟩ := classes className
        refine ⟨_, Separation.rereadable_tokens spaced before, ?_⟩
        rw [held, if_pos className, stored]
        rfl
      · refine ⟨_, Separation.rereadable_tokens spaced "", ?_⟩
        rw [held, if_neg className, separation.tokens_empty]
        rfl
    have whole := readable.append (Separation.rereadable_tokens spaced text)
    have stores := stored?_string separated unstyled properties text
    have settled : (properties.held info).map (info.kind.coerceItem info.property) =
        properties.held info := by
      rw [held, List.map_map]
      exact List.map_congr_left fun token _ =>
        info.kind.coerceItem_coerceItem info.property (.string token)
    rw [settled, held, Separation.items, ← List.map_append] at stores
    obtain ⟨again, storesAgain, same⟩ := stored?_display_items separated unstyled whole
    rw [← found] at stores storesAgain
    subst found
    exact ⟨_, again, add_of_stored? stores, add_of_stored? storesAgain, same⟩

/-- Numbers, one of them in base sixteen, the name of the property and a negative zero, behind
classes that a text stored. -/
theorem add_string_tokens_numericClasses :
    let schema : Schema := ⟨"numeric", fun _ => some ⟨"className", "class",
      (PropertyKind.number.union .boolean).union .commaOrSpaceSeparated, true, none⟩⟩
    let info := schema.find "class"
    let properties := add schema .empty "class" (.string "1, x")
    (info.kind.isSpaceSeparated || info.kind.isCommaSeparated ||
        info.kind.isCommaOrSpaceSeparated) = true ∧ info.property ≠ "style" ∧
      add schema properties "class" (.string "0x10, CLASSNAME -0") =
        add schema properties "class"
          (.array [.string "0x10", .string "CLASSNAME", .string "-0"]) ∧
      Separation.commasOrSpaces ≠ .commas ∧
      properties.presentClasses = Separation.commasOrSpaces.items info "1, x" ∧
      RereadsList schema properties "class" "0x10, CLASSNAME -0" := by
  intro schema info properties
  have listed : (info.kind.isSpaceSeparated || info.kind.isCommaSeparated ||
      info.kind.isCommaOrSpaceSeparated) = true := rfl
  have unstyled : info.property ≠ "style" := by decide
  have before : properties.presentClasses = Separation.commasOrSpaces.items info "1, x" := by
    decide +kernel
  have tokens : Separation.commasOrSpaces.tokens "0x10, CLASSNAME -0" =
      ["0x10", "CLASSNAME", "-0"] := by decide +kernel
  obtain ⟨separation, separated, reads⟩ := add_string_tokens schema "class" listed unstyled
  obtain rfl : Separation.commasOrSpaces = separation := Option.some.inj separated
  obtain ⟨same, rereads⟩ := reads properties "0x10, CLASSNAME -0"
  rw [tokens] at same
  exact ⟨listed, unstyled, same, by decide, before, rereads (by decide) fun _ => ⟨"1, x", before⟩⟩

/-- A class with a space in it, which a list may hold, is two classes where the text of the list
is read. -/
theorem not_rereadsList_spacedClass :
    let schema : Schema :=
      ⟨"classes", fun _ => some ⟨"className", "class", .spaceSeparated, true, none⟩⟩
    let properties := add schema .empty "class" (.array [.string "a b"])
    (schema.find "class").kind.separation? = some .spaces ∧
      (schema.find "class").property ≠ "style" ∧ ¬ RereadsList schema properties "class" "c" := by
  intro schema properties
  refine ⟨rfl, by decide, ?_⟩
  rintro ⟨items, again, stores, storesAgain, same⟩
  have inserted {before : Properties} {value other : PropertyValue}
      (maps : before.insert "className" value = before.insert "className" other) :
      value = other := by
    have found := congrArg (OrderedMap.get? · "className") maps
    simpa only [OrderedMap.get?_insert, ↓reduceIte, Option.some.injEq] using found
  have first : add schema properties "class" (.string "c") =
      properties.insert "className" (.strings ["a b", "c"]) := by decide +kernel
  have held : PropertyValue.strings ["a b", "c"] = .list items := inserted (first.symm.trans stores)
  have second : add schema .empty "class" (.string (PropertyValue.strings ["a b", "c"]).display) =
      OrderedMap.empty.insert "className" (.strings ["a", "b", "c"]) := by decide +kernel
  rw [← held] at storesAgain same
  have read : PropertyValue.strings ["a", "b", "c"] = .list again :=
    inserted (second.symm.trans storesAgain)
  rw [← read] at same
  exact absurd same (by decide)

end Properties

end MarkupTree
