import MarkupTree.Proofs.Sameness.Nodes
import MarkupTree.Proofs.ValueParts

/-! # Comparing values

Values are the same if they are of one kind and hold the same (`Value.Alike`). As with nodes, the
comparison is an equivalence on the values without anything that is not a number, and how objects
and properties are ordered, at any depth, is not seen (`Value.Rearranged.same_eq`). What holds of
both comparisons is put together in `IsSameness`.

Maps have no key twice, which their type does not say. Where the order of entries or their number
matters, it is said of all maps in a value (`Value.KeysDistinct`).
-/

namespace MarkupTree

namespace Value

/-- An object has no name twice, and no element of a tree has a property twice. -/
def KeysDistinctHere : Value → Prop
  | .object fields => fields.Distinct
  | .node tree => tree.KeysDistinct
  | _ => True

/-- A number is one, and so is every number in the properties of a tree. -/
def NanFreeHere : Value → Prop
  | .number value => value.isNan = false
  | .node tree => tree.NanFree
  | _ => True

instance : DecidablePred KeysDistinctHere
  | .object fields => inferInstanceAs (Decidable fields.Distinct)
  | .node tree => inferInstanceAs (Decidable tree.KeysDistinct)
  | .null | .boolean _ | .number _ | .string _ | .array _ => isTrue trivial

instance : DecidablePred NanFreeHere
  | .number value => inferInstanceAs (Decidable (value.isNan = false))
  | .node tree => inferInstanceAs (Decidable tree.NanFree)
  | .null | .boolean _ | .string _ | .array _ | .object _ => isTrue trivial

/-- No object anywhere in a value has a name twice, and no element a property. -/
def KeysDistinct (value : Value) : Prop := value.Everywhere KeysDistinctHere

/-- No number anywhere in a value, or in the properties of a tree in it, is not a number. -/
def NanFree (value : Value) : Prop := value.Everywhere NanFreeHere

instance (value : Value) : Decidable value.KeysDistinct :=
  inferInstanceAs (Decidable (value.Everywhere KeysDistinctHere))

instance (value : Value) : Decidable value.NanFree :=
  inferInstanceAs (Decidable (value.Everywhere NanFreeHere))

/-- The keys of a value are distinct if its own are and those of the values directly inside. -/
theorem keysDistinct_iff (value : Value) :
    value.KeysDistinct ↔
      value.KeysDistinctHere ∧ ∀ inner ∈ value.directlyInside, inner.KeysDistinct :=
  everywhere_iff value

/-- A value holds only numbers if it does itself and the values directly inside. -/
theorem nanFree_iff (value : Value) :
    value.NanFree ↔ value.NanFreeHere ∧ ∀ inner ∈ value.directlyInside, inner.NanFree :=
  everywhere_iff value

private theorem sameItems_eq (first second : List Value) :
    sameItems first second = first.isEqv second same := by
  induction first generalizing second with
  | nil =>
      cases second with
      | nil => simp only [sameItems, List.isEqv]
      | cons other others => simp only [sameItems, List.isEqv]
  | cons value rest ih =>
      cases second with
      | nil => simp only [sameItems, List.isEqv]
      | cons other others => simp only [sameItems, List.isEqv, ih]

private theorem sameFields_iff (entries : List (String × Value)) (others : OrderedMap Value) :
    sameFields entries others.entries = true ↔
      ∀ entry ∈ entries,
        ∃ value, others.get? entry.1 = some value ∧ same entry.2 value = true := by
  induction entries with
  | nil => exact iff_of_true (by rw [sameFields]) nofun
  | cons entry rest ih =>
      rw [sameFields, Bool.and_eq_true, ih, List.forall_mem_cons]
      refine and_congr_left fun _ => ?_
      rw [OrderedMap.get?]
      cases others.entries.lookup entry.1 with
      | none => simp
      | some value => simp

/-- Objects are compared as maps, by the comparison of their values. -/
theorem same_object (first second : OrderedMap Value) :
    (object first).same (object second) = first.equalBy same second := by
  rw [Bool.eq_iff_iff, OrderedMap.equalBy_eq_true_iff, same, Bool.and_eq_true, beq_iff_eq,
    sameFields_iff]
  rfl

/-- What it takes that two values are the same. -/
inductive Alike : Value → Value → Prop
  | null : Alike .null .null
  | boolean (value : Bool) : Alike (.boolean value) (.boolean value)
  | number {first second : Number} (alike : first.same second = true) :
      Alike (.number first) (.number second)
  | string (text : String) : Alike (.string text) (.string text)
  | array {first second : List Value} (alike : first.isEqv second same = true) :
      Alike (.array first) (.array second)
  | object {first second : OrderedMap Value} (alike : first.equalBy same second = true) :
      Alike (.object first) (.object second)
  | node {first second : Node} (alike : first.same second = true) :
      Alike (.node first) (.node second)

variable {first second third : Value}

/-- Values that are alike are the same. -/
theorem same_of_alike (alike : first.Alike second) : first.same second = true := by
  cases alike with
  | null => simp only [same]
  | boolean value => simp only [same, beq_self_eq_true]
  | number alike => simpa only [same] using alike
  | string text => simp only [same, beq_self_eq_true]
  | array alike => simpa only [same, sameItems_eq] using alike
  | object alike => simpa only [same_object] using alike
  | node alike => simpa only [same] using alike

/-- Values that are the same are alike. -/
theorem alike_of_same (equal : first.same second = true) : first.Alike second := by
  cases first with
  | null =>
      cases second with
      | null => exact .null
      | _ => cases equal
  | boolean value =>
      cases second with
      | boolean other =>
          simp only [same, beq_iff_eq] at equal
          exact equal ▸ .boolean value
      | _ => cases equal
  | number value =>
      cases second with
      | number other => exact .number (by simpa only [same] using equal)
      | _ => cases equal
  | string text =>
      cases second with
      | string other =>
          simp only [same, beq_iff_eq] at equal
          exact equal ▸ .string text
      | _ => cases equal
  | array items =>
      cases second with
      | array others => exact .array (by simpa only [same, sameItems_eq] using equal)
      | _ => cases equal
  | object fields =>
      cases second with
      | object others => exact .object (by simpa only [same_object] using equal)
      | _ => cases equal
  | node tree =>
      cases second with
      | node other => exact .node (by simpa only [same] using equal)
      | _ => cases equal

private theorem mem_directlyInside_object {fields : OrderedMap Value} {entry : String × Value}
    (member : entry ∈ fields.entries) : entry.2 ∈ (object fields).directlyInside :=
  List.mem_map_of_mem member

/-- The comparison of values is symmetric, provided that no key occurs twice in the first one. -/
theorem same_symm (distinct : first.KeysDistinct) (equal : first.same second = true) :
    second.same first = true := by
  induction first using induction_inside generalizing second with
  | step first ih =>
      obtain ⟨here, inside⟩ := (keysDistinct_iff first).mp distinct
      have each : ∀ inner ∈ first.directlyInside, ∀ other,
          inner.same other = true → other.same inner = true :=
        fun inner directly other => ih inner directly (inside inner directly)
      refine same_of_alike ?_
      cases alike_of_same equal with
      | null => exact .null
      | boolean value => exact .boolean value
      | number alike => exact .number (Number.same_symm alike)
      | string text => exact .string text
      | array alike => exact .array (isEqv_symm each alike)
      | object alike =>
          exact .object (OrderedMap.equalBy_symm here
            (fun entry member => each entry.2 (mem_directlyInside_object member)) alike)
      | node alike => exact .node (Node.same_symm here alike)

/-- The comparison of values is transitive. -/
theorem same_trans (equal : first.same second = true) (equalNext : second.same third = true) :
    first.same third = true := by
  induction first using induction_inside generalizing second third with
  | step first ih =>
      refine same_of_alike ?_
      cases alike_of_same equal with
      | null => exact alike_of_same equalNext
      | boolean value => exact alike_of_same equalNext
      | string text => exact alike_of_same equalNext
      | number alike =>
          cases alike_of_same equalNext with
          | number alikeNext => exact .number (Number.same_trans alike alikeNext)
      | array alike =>
          cases alike_of_same equalNext with
          | array alikeNext =>
              exact .array (isEqv_trans (fun item member _ _ => ih item member) alike alikeNext)
      | object alike =>
          cases alike_of_same equalNext with
          | object alikeNext =>
              exact .object (OrderedMap.equalBy_trans
                (fun entry member _ _ => ih entry.2 (mem_directlyInside_object member))
                alike alikeNext)
      | node alike =>
          cases alike_of_same equalNext with
          | node alikeNext => exact .node (Node.same_trans alike alikeNext)

/-- A value is the same as itself exactly when nothing in it is not a number. -/
theorem same_self_iff {value : Value} (distinct : value.KeysDistinct) :
    value.same value = true ↔ value.NanFree := by
  induction value using induction_inside with
  | step value ih =>
      obtain ⟨here, inside⟩ := (keysDistinct_iff value).mp distinct
      have below : (∀ inner ∈ value.directlyInside, inner.same inner = true) ↔
          ∀ inner ∈ value.directlyInside, inner.NanFree :=
        forall₂_congr fun inner directly => ih inner directly (inside inner directly)
      rw [nanFree_iff, ← below]
      cases value with
      | null => simp [same, NanFreeHere, directlyInside]
      | boolean value => simp [same, NanFreeHere, directlyInside]
      | number value => simp [same, NanFreeHere, directlyInside, Number.same_self_iff]
      | string text => simp [same, NanFreeHere, directlyInside]
      | array items => simp [same, sameItems_eq, isEqv_self_iff, NanFreeHere, directlyInside]
      | object fields =>
          rw [same_object, OrderedMap.equalBy_self_iff here, directlyInside, List.forall_mem_map]
          exact (and_iff_right trivial).symm
      | node tree =>
          have self : tree.same tree = true ↔ tree.NanFree := Node.same_self_iff here
          simp [same, NanFreeHere, directlyInside, self]

/-- Permuting the entries of objects and the properties of elements, anywhere in a value and any
number of times, leads from one value to the other. -/
inductive Rearranged : Value → Value → Prop
  | refl (value : Value) : Rearranged value value
  | trans {first second third : Value} (rearranged : Rearranged first second)
      (further : Rearranged second third) : Rearranged first third
  | entries {entries others : List (String × Value)} (perm : entries.Perm others) :
      Rearranged (object ⟨entries⟩) (object ⟨others⟩)
  | inArray {one other : Value} (rearranged : Rearranged one other) (before after : List Value) :
      Rearranged (array (before ++ one :: after)) (array (before ++ other :: after))
  | inObject {one other : Value} (rearranged : Rearranged one other)
      (before after : List (String × Value)) (name : String) :
      Rearranged (object ⟨before ++ (name, one) :: after⟩)
        (object ⟨before ++ (name, other) :: after⟩)
  | inNode {tree other : Node} (rearranged : tree.Rearranged other) :
      Rearranged (node tree) (node other)

namespace Rearranged

variable {other : Value}

/-- A rearranged value is the same as what the value itself is the same as. -/
theorem same_eq (rearranged : first.Rearranged other) (third : Value) :
    other.same third = first.same third := by
  induction rearranged generalizing third with
  | refl value => rfl
  | trans _ _ ih ihNext => rw [ihNext, ih]
  | entries perm =>
      cases third with
      | object fields => simp only [same_object, OrderedMap.equalBy_perm perm]
      | _ => simp only [same]
  | inArray _ before after ih =>
      cases third with
      | array items => simp only [same, sameItems_eq, isEqv_replace ih]
      | _ => simp only [same]
  | inObject _ before after name ih =>
      cases third with
      | object fields => simp only [same_object, OrderedMap.equalBy_replace ih]
      | _ => simp only [same]
  | inNode rearranged =>
      cases third with
      | node tree => simp only [same, rearranged.same_eq]
      | _ => simp only [same]

/-- Rearranging objects keeps the keys distinct. -/
theorem keysDistinct (rearranged : first.Rearranged other) (distinct : first.KeysDistinct) :
    other.KeysDistinct := by
  induction rearranged with
  | refl value => exact distinct
  | trans _ _ ih ihNext => exact ihNext (ih distinct)
  | entries perm =>
      obtain ⟨here, inside⟩ := (keysDistinct_iff _).mp distinct
      have permValues := perm.map Prod.snd
      exact (keysDistinct_iff _).mpr ⟨(perm.map Prod.fst).nodup_iff.mp here,
        fun inner directly => inside inner (permValues.mem_iff.mpr directly)⟩
  | inArray _ before after ih =>
      obtain ⟨here, inside⟩ := (keysDistinct_iff _).mp distinct
      refine (keysDistinct_iff _).mpr ⟨here, ?_⟩
      simp only [directlyInside, List.forall_mem_append, List.forall_mem_cons] at inside ⊢
      exact ⟨inside.1, ih inside.2.1, inside.2.2⟩
  | inObject _ before after name ih =>
      obtain ⟨here, inside⟩ := (keysDistinct_iff _).mp distinct
      refine (keysDistinct_iff _).mpr ⟨?_, ?_⟩
      · simpa only [KeysDistinctHere, OrderedMap.Distinct, OrderedMap.keys, List.map_append,
          List.map_cons] using here
      · simp only [directlyInside, List.map_append, List.map_cons, List.forall_mem_append,
          List.forall_mem_cons] at inside ⊢
        exact ⟨inside.1, ih inside.2.1, inside.2.2⟩
  | inNode rearranged =>
      obtain ⟨here, inside⟩ := (keysDistinct_iff _).mp distinct
      exact (keysDistinct_iff _).mpr ⟨rearranged.keysDistinct here, inside⟩

end Rearranged

end Value

/-- What a comparison satisfies that is numeric and without regard to the order of entries, as far
as keys are distinct: it is symmetric and transitive, a thing is the same as itself unless it holds
what is not a number, and rearranging either side makes no difference. -/
structure IsSameness {α : Type} (same : α → α → Bool) (keysDistinct nanFree : α → Prop)
    (rearranged : α → α → Prop) : Prop where
  symm {first second : α} : keysDistinct first → same first second = true →
    same second first = true
  trans {first second third : α} : same first second = true → same second third = true →
    same first third = true
  self_iff {value : α} : keysDistinct value → (same value value = true ↔ nanFree value)
  unordered {first other second another : α} : keysDistinct first → keysDistinct second →
    rearranged first other → rearranged second another → same other another = same first second

/-- A symmetric comparison that does not see how its left side is arranged does not see how its
right side is arranged either. -/
theorem IsSameness.of_same_eq {α : Type} {same : α → α → Bool} {keysDistinct nanFree : α → Prop}
    {rearranged : α → α → Prop}
    (symm : ∀ {first second}, keysDistinct first → same first second = true →
      same second first = true)
    (trans : ∀ {first second third}, same first second = true → same second third = true →
      same first third = true)
    (self_iff : ∀ {value}, keysDistinct value → (same value value = true ↔ nanFree value))
    (same_eq : ∀ {first other}, rearranged first other → ∀ third,
      same other third = same first third)
    (kept : ∀ {first other}, rearranged first other → keysDistinct first → keysDistinct other) :
    IsSameness same keysDistinct nanFree rearranged where
  symm := symm
  trans := trans
  self_iff := self_iff
  unordered {first other second another} distinct distinctSecond moved movedSecond := by
    have comm {one two : α} (distinctOne : keysDistinct one) (distinctTwo : keysDistinct two) :
        same one two = same two one :=
      Bool.eq_iff_iff.mpr ⟨symm distinctOne, symm distinctTwo⟩
    calc same other another
        = same first another := same_eq moved another
      _ = same another first := comm distinct (kept movedSecond distinctSecond)
      _ = same second first := same_eq movedSecond first
      _ = same first second := comm distinctSecond distinct

/-- **The comparisons of values and of nodes are samenesses.** Each is symmetric and transitive, a
value or node is the same as itself exactly when nothing in it is not a number, and permuting the
entries of objects and the properties of elements, at any depth and on either side, does not change
what is the same. -/
theorem same_isSameness :
    IsSameness Value.same Value.KeysDistinct Value.NanFree Value.Rearranged ∧
      IsSameness Node.same Node.KeysDistinct Node.NanFree Node.Rearranged := by
  constructor
  · exact .of_same_eq Value.same_symm Value.same_trans Value.same_self_iff
      Value.Rearranged.same_eq Value.Rearranged.keysDistinct
  · exact .of_same_eq Node.same_symm Node.same_trans Node.same_self_iff
      Node.Rearranged.same_eq Node.Rearranged.keysDistinct

/-- A list of one object, which holds a number and a paragraph with a list among its properties. -/
def Value.listing (value : Number) : Value :=
  .array [.object ⟨[("size", .number .zero),
    ("tree", .node (.element "p" ⟨[("id", .string "a"), ("sizes", .list [.number value])]⟩
      [] none))]⟩]

/-- The same list with the object and the properties of the paragraph in the other order. -/
def Value.turnedListing (value : Number) : Value :=
  .array [.object ⟨[("tree", .node (.element "p" ⟨[("sizes", .list [.number value]),
    ("id", .string "a")]⟩ [] none)), ("size", .number .zero)]⟩]

private theorem Value.rearranged_listing (value : Number) :
    (listing value).Rearranged (turnedListing value) :=
  .trans
    (.inArray (.inObject (.inNode (.properties (.swap ..) ..)) [("size", _)] [] "tree") [] [])
    (.inArray (.entries (.swap ..)) [] [])

/-- A list with an object inside, once with a zero and once with what is not a number. -/
theorem same_isSameness_listing :
    ((Value.listing .zero).KeysDistinct ∧ (Value.listing .zero).NanFree ∧
      (Value.turnedListing .zero).same (Value.listing .zero) = true) ∧
    ((Value.listing .nan).KeysDistinct ∧ ¬ (Value.listing .nan).NanFree ∧
      (Value.turnedListing .nan).same (Value.listing .nan) = false) := by
  have whole : (Value.listing .zero).KeysDistinct := by decide
  have free : (Value.listing .zero).NanFree := by decide
  have broken : (Value.listing .nan).KeysDistinct := by decide
  have held : ¬ (Value.listing .nan).NanFree := by decide
  refine ⟨⟨whole, free, ?_⟩, ⟨broken, held, ?_⟩⟩
  · rw [same_isSameness.1.unordered whole whole (Value.rearranged_listing _) (.refl _)]
    exact (same_isSameness.1.self_iff whole).mpr free
  · rw [same_isSameness.1.unordered broken broken (Value.rearranged_listing _) (.refl _)]
    exact Bool.eq_false_iff.mpr fun equal => held ((same_isSameness.1.self_iff broken).mp equal)

end MarkupTree
