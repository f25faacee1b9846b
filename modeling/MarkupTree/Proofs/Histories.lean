import MarkupTree.Tree.Property
import Mathlib.Data.List.DropRight
import Mathlib.Data.List.Induction

/-! # Maps and their histories

A map that is changed again and again, such as properties or an object, holds what its history
tells. The history is the list of the insertions and removals so far. A map that is there to begin
with, or that is made of pairs, counts as made by inserting its entries one after the other.

Of each key a history tells the last value inserted for it since its last removal
(`OrderedMap.lastValue?`) and the place of its first insertion since then
(`OrderedMap.firstPlace?`). A map follows a history (`OrderedMap.Follows`) if these are the values
that it holds and the order in which it lists its keys. One change keeps a map in step with its
history (`OrderedMap.Follows.perform`), and no two maps follow the same one
(`OrderedMap.Follows.unique`). So whatever is done to a map, it is the one that follows its
history (`OrderedMap.follows_history_iff`).
-/

namespace MarkupTree.OrderedMap

variable {α : Type}

/-- A change of a map. -/
inductive Change (α : Type) where
  | insert (key : String) (value : α)
  | erase (key : String)

namespace Change

def key : Change α → String
  | .insert key _ => key
  | .erase key => key

/-- The value that a change inserts for a key. -/
def value? (wanted : String) : Change α → Option α
  | .insert key value => if wanted = key then some value else none
  | .erase _ => none

def erases (wanted : String) : Change α → Bool
  | .insert _ _ => false
  | .erase key => wanted == key

end Change

/-- What a change hands back, the value that the key had, and the map after it. -/
def perform (map : OrderedMap α) : Change α → Option α × OrderedMap α
  | .insert key value => map.exchange key value
  | .erase key => map.take key

section Histories

variable (history : List (Change α)) (change : Change α) (key : String)

/-- The changes up to the last removal of a key, none if it has not been removed. -/
def untilErased : List (Change α) := history.rdropWhile fun change => !change.erases key

/-- The changes since the last removal of a key, all if it has not been removed. -/
def sinceErased : List (Change α) := history.rtakeWhile fun change => !change.erases key

/-- The last value inserted for a key since its last removal. -/
def lastValue? : Option α := ((sinceErased history key).filterMap (Change.value? key)).getLast?

/-- The place in the history of the first insertion of a key since its last removal. -/
def firstPlace? : Option Nat :=
  ((sinceErased history key).findIdx? fun change => (change.value? key).isSome).map
    ((untilErased history key).length + ·)

/-- Both keys are inserted and have not been removed since, one of them before the other. -/
def EntersBefore (first second : String) : Prop :=
  ∃ place later, firstPlace? history first = some place ∧
    firstPlace? history second = some later ∧ place < later

private theorem length_untilErased_add :
    (untilErased history key).length + (sinceErased history key).length = history.length := by
  rw [← List.length_append, untilErased, sinceErased, List.rdropWhile_append_rtakeWhile]

private theorem sinceErased_concat :
    sinceErased (history ++ [change]) key =
      if change.erases key then [] else sinceErased history key ++ [change] := by
  rw [sinceErased, List.rtakeWhile_concat]
  cases change.erases key with
  | true => rfl
  | false => rfl

private theorem untilErased_concat (stays : change.erases key = false) :
    untilErased (history ++ [change]) key = untilErased history key := by
  rw [untilErased, List.rdropWhile_concat, stays]
  rfl

/-- The value that a key was set to last, after one more change. -/
theorem lastValue?_concat :
    lastValue? (history ++ [change]) key =
      if change.erases key then none else (change.value? key).or (lastValue? history key) := by
  rw [lastValue?, sinceErased_concat]
  cases change.erases key with
  | true => rfl
  | false =>
      simp only [Bool.false_eq_true, ↓reduceIte, List.filterMap_append, List.getLast?_append]
      cases inserted : change.value? key with
      | none => simp [inserted, lastValue?]
      | some value => simp [inserted]

/-- The place where a key came in, after one more change. -/
theorem firstPlace?_concat :
    firstPlace? (history ++ [change]) key =
      if change.erases key then none
      else (firstPlace? history key).or
        (if (change.value? key).isSome then some history.length else none) := by
  rw [firstPlace?, sinceErased_concat]
  cases stays : change.erases key with
  | true => rfl
  | false =>
      have places := length_untilErased_add history key
      simp only [Bool.false_eq_true, ↓reduceIte, untilErased_concat history change key stays,
        List.findIdx?_append, Option.map_or, List.findIdx?_singleton]
      cases change.value? key with
      | none => rfl
      | some value => simp [firstPlace?, places]

private theorem isSome_firstPlace? :
    (firstPlace? history key).isSome = (lastValue? history key).isSome := by
  -- on the history from its end, as the last change is the one that may remove the key
  induction history using List.reverseRecOn with
  | nil => rfl
  | append_singleton history change ih =>
      rw [firstPlace?_concat, lastValue?_concat]
      cases change.erases key with
      | true => rfl
      | false =>
          simp only [Bool.false_eq_true, ↓reduceIte, Option.isSome_or, ih]
          cases change.value? key with
          | none => simp
          | some value => simp

variable {history key}

private theorem firstPlace?_lt {place : Nat} (placed : firstPlace? history key = some place) :
    place < history.length := by
  obtain ⟨index, found, rfl⟩ := Option.map_eq_some_iff.mp placed
  obtain ⟨inside, _⟩ := List.findIdx?_eq_some_iff_getElem.mp found
  have places := length_untilErased_add history key
  omega

/-- A place stays what it is until the key is removed. -/
theorem firstPlace?_concat_of_some {place : Nat} (placed : firstPlace? history key = some place)
    (stays : change.erases key = false) : firstPlace? (history ++ [change]) key = some place := by
  rw [firstPlace?_concat, stays, placed]
  rfl

/-- A key that is not there enters at the end. -/
theorem firstPlace?_concat_of_none (absent : firstPlace? history key = none) (value : α) :
    firstPlace? (history ++ [.insert key value]) key = some history.length := by
  rw [firstPlace?_concat, absent]
  simp [Change.erases, Change.value?]

private theorem EntersBefore.concat {first second : String}
    (before : EntersBefore history first second) (firstStays : change.erases first = false)
    (secondStays : change.erases second = false) :
    EntersBefore (history ++ [change]) first second := by
  obtain ⟨place, later, placed, placedLater, earlier⟩ := before
  exact ⟨place, later, firstPlace?_concat_of_some change placed firstStays,
    firstPlace?_concat_of_some change placedLater secondStays, earlier⟩

/-- If one key came in before another, then not the other way round. -/
theorem EntersBefore.asymm {first second : String} (before : EntersBefore history first second) :
    ¬ EntersBefore history second first := by
  obtain ⟨place, later, placed, placedLater, earlier⟩ := before
  rintro ⟨otherLater, otherPlace, otherPlacedLater, otherPlaced, later_lt⟩
  obtain rfl := Option.some.inj (placed.symm.trans otherPlaced)
  obtain rfl := Option.some.inj (placedLater.symm.trans otherPlacedLater)
  exact earlier.asymm later_lt

/-- A key does not come in before itself. -/
theorem EntersBefore.ne {first second : String} (before : EntersBefore history first second) :
    first ≠ second := by
  rintro rfl
  exact before.asymm before

end Histories

/-- A map holds what its history tells, in the order that its history tells. -/
structure Follows (map : OrderedMap α) (history : List (Change α)) : Prop where
  distinct : map.Distinct
  value : ∀ key, map.get? key = lastValue? history key
  present : ∀ key, map.contains key = (lastValue? history key).isSome
  /-- What the next change hands back is the value before it. -/
  former : ∀ change, (map.perform change).1 = lastValue? history change.key
  /-- The keys are those that have a place in the history. -/
  placed : ∀ key, key ∈ map.keys ↔ (firstPlace? history key).isSome = true
  /-- They stand in the order of their places. -/
  ordered : map.keys.Pairwise (EntersBefore history)
  listed : ∀ entry ∈ map.entries, lastValue? history entry.1 = some entry.2

section Changes

variable {map : OrderedMap α} {history : List (Change α)}

/-- The values and the order of the keys determine all the rest. -/
theorem Follows.of_value (value : ∀ key, map.get? key = lastValue? history key)
    (ordered : map.keys.Pairwise (EntersBefore history)) : map.Follows history := by
  have distinct : map.Distinct := ordered.imp EntersBefore.ne
  refine ⟨distinct, value, fun key => ?_, fun change => ?_, fun key => ?_, ordered,
    fun entry member => ?_⟩
  · rw [contains_eq_isSome_get?, value]
  · cases change with
    | insert key _ => exact value key
    | erase key => exact value key
  · rw [mem_keys_iff, value, isSome_firstPlace?]
  · rw [← value]
    exact distinct.get?_of_mem member

private theorem Follows.map_entries (follows : map.Follows history) :
    map.entries.map some = map.keys.map fun key => (lastValue? history key).map (key, ·) := by
  rw [keys, List.map_map]
  refine List.map_congr_left fun entry member => ?_
  rw [Function.comp, follows.listed entry member]
  rfl

/-- A history determines the map that follows it. -/
theorem Follows.unique {other : OrderedMap α} (others : other.Follows history)
    (follows : map.Follows history) : other = map := by
  have sameKeys (key : String) : key ∈ other.keys ↔ key ∈ map.keys :=
    (others.placed key).trans (follows.placed key).symm
  have perm := (List.perm_ext_iff_of_nodup others.distinct follows.distinct).mpr sameKeys
  have keys : other.keys = map.keys := by
    refine perm.eq_of_pairwise (fun first second _ _ before after => ?_) others.ordered
      follows.ordered
    exact (before.asymm after).elim
  have entries : other.entries.map some = map.entries.map some := by
    rw [others.map_entries, follows.map_entries, keys]
  exact congrArg OrderedMap.mk (List.map_injective_iff.mpr (fun _ _ => Option.some.inj) entries)

/-- The empty map follows the empty history. -/
theorem follows_empty : (empty : OrderedMap α).Follows [] :=
  .of_value (fun _ => rfl) .nil

/-- What a key is bound to after a change. -/
theorem get?_perform (map : OrderedMap α) (change : Change α) (key : String) :
    (map.perform change).2.get? key =
      if change.erases key then none else (change.value? key).or (map.get? key) := by
  cases change with
  | insert name value =>
      refine (get?_insert map name key value).trans ?_
      by_cases same : key = name <;> simp [Change.erases, Change.value?, same]
  | erase name =>
      refine (get?_erase map name key).trans ?_
      by_cases same : key = name <;> simp [Change.erases, Change.value?, same]

/-- A key that is set keeps its place or enters at the end, and a key that is removed leaves the
others as they stand. -/
theorem Follows.ordered_perform (follows : map.Follows history) (change : Change α) :
    (map.perform change).2.keys.Pairwise (EntersBefore (history ++ [change])) := by
  cases change with
  | insert name value =>
      have kept : map.keys.Pairwise (EntersBefore (history ++ [.insert name value])) :=
        follows.ordered.imp fun before => before.concat _ rfl rfl
      have keys : (map.perform (.insert name value)).2.keys = _ := keys_insert map name value
      rw [keys]
      split
      · exact kept
      · next absent =>
          have unplaced : firstPlace? history name = none := by
            rwa [follows.placed, Option.not_isSome_iff_eq_none] at absent
          -- The new key enters at the end of the history, behind the places of all the others.
          have entered := firstPlace?_concat_of_none unplaced value
          refine List.pairwise_append.mpr ⟨kept, List.pairwise_singleton _ _, ?_⟩
          intro key member last single
          obtain rfl := List.mem_singleton.mp single
          obtain ⟨place, placed⟩ := Option.isSome_iff_exists.mp ((follows.placed key).mp member)
          exact ⟨place, history.length, firstPlace?_concat_of_some _ placed rfl, entered,
            firstPlace?_lt placed⟩
  | erase name =>
      have keys : (map.perform (.erase name)).2.keys = _ := keys_erase map name
      rw [keys, List.pairwise_filter]
      refine follows.ordered.imp fun before firstStays secondStays => before.concat _ ?_ ?_
      · exact beq_false_of_ne (bne_iff_ne.mp firstStays)
      · exact beq_false_of_ne (bne_iff_ne.mp secondStays)

/-- A change keeps a map in step with its history. -/
theorem Follows.perform (follows : map.Follows history) (change : Change α) :
    (map.perform change).2.Follows (history ++ [change]) := by
  refine .of_value (fun key => ?_) (follows.ordered_perform change)
  rw [get?_perform, follows.value, lastValue?_concat]

end Changes

/-- The history of inserting pairs one after the other. -/
def insertions (pairs : List (String × α)) : List (Change α) :=
  pairs.map fun pair => .insert pair.1 pair.2

/-- Setting several keys follows the history that sets them one by one. -/
theorem Follows.insertAll {map : OrderedMap α} {history : List (Change α)}
    (follows : map.Follows history) (pairs : List (String × α)) :
    (map.insertAll pairs).Follows (history ++ insertions pairs) := by
  induction pairs generalizing map history with
  | nil => rwa [insertions, List.map_nil, List.append_nil]
  | cons pair rest ih =>
      have later := ih (follows.perform (.insert pair.1 pair.2))
      rwa [List.append_assoc, List.singleton_append] at later

/-- The map of a list of pairs follows the history that sets them one by one. -/
theorem follows_ofList (pairs : List (String × α)) : (ofList pairs).Follows (insertions pairs) :=
  follows_empty.insertAll pairs

/-- A step alters a map, or puts a new one made of pairs in its place. -/
inductive Step (α : Type) where
  | alter (change : Change α)
  | collect (pairs : List (String × α))

namespace Step

/-- The map after a step. -/
def apply (map : OrderedMap α) : Step α → OrderedMap α
  | .alter change => (map.perform change).2
  | .collect pairs => ofList pairs

/-- The history after a step. A new map has a history of its own. -/
def record (history : List (Change α)) : Step α → List (Change α)
  | .alter change => history ++ [change]
  | .collect pairs => insertions pairs

end Step

/-- The map after several steps. -/
def run (map : OrderedMap α) (steps : List (Step α)) : OrderedMap α := steps.foldl Step.apply map

/-- The history of a map to which several steps are applied. -/
def history (initial : OrderedMap α) (steps : List (Step α)) : List (Change α) :=
  steps.foldl Step.record (insertions initial.entries)

/-- One step keeps a map and its history together. -/
theorem Follows.apply {map : OrderedMap α} {history : List (Change α)}
    (follows : map.Follows history) (step : Step α) :
    (step.apply map).Follows (step.record history) := by
  cases step with
  | alter change => exact follows.perform change
  | collect pairs => exact follows_ofList pairs

/-- **A run keeps a map and its history together.** -/
theorem Follows.run {map : OrderedMap α} {history : List (Change α)}
    (follows : map.Follows history) (steps : List (Step α)) :
    (map.run steps).Follows (steps.foldl Step.record history) := by
  induction steps generalizing map history with
  | nil => exact follows
  | cons step rest ih => exact ih (follows.apply step)

/-- A map with distinct keys follows the history that sets its entries. -/
theorem Distinct.follows {map : OrderedMap α} (distinct : map.Distinct) :
    map.Follows (insertions map.entries) := by
  have follows := follows_ofList map.entries
  rwa [distinct.ofList_entries] at follows

/-- Making a map of pairs is inserting them one by one into the empty map. -/
theorem ofList_eq_run (pairs : List (String × α)) :
    ofList pairs = empty.run ((insertions pairs).map .alter) := by
  rw [run, insertions, List.map_map, List.foldl_map]
  rfl

/-- **A map follows its history.** Whatever changes are made to a map with distinct keys, and
however often a new one is made of pairs, the map after it is the one that follows the history: its
keys are distinct, each holds the last value inserted for it since its last removal, a change hands
that value back, and the keys stand in the order of their first insertion since then. So setting a
key that is there moves none, a new key goes last, and removing a key leaves the others in order.
Making a map of pairs is inserting them one by one into the empty map. -/
theorem follows_history_iff (initial : OrderedMap α) (distinct : initial.Distinct)
    (steps : List (Step α)) :
    (∀ map : OrderedMap α, map.Follows (initial.history steps) ↔ map = initial.run steps) ∧
      (∀ key value, ((initial.run steps).insert key value).keys =
        if key ∈ (initial.run steps).keys then (initial.run steps).keys
        else (initial.run steps).keys ++ [key]) ∧
      (∀ key, ((initial.run steps).erase key).keys =
        (initial.run steps).keys.filter (· != key)) ∧
      ∀ pairs : List (String × α), ofList pairs = empty.run ((insertions pairs).map .alter) := by
  have follows : (initial.run steps).Follows (initial.history steps) := distinct.follows.run steps
  refine ⟨fun map => ⟨fun other => other.unique follows, ?_⟩, keys_insert _, keys_erase _,
    ofList_eq_run⟩
  rintro rfl
  exact follows

/-- Of three properties the second is set again and keeps its place. The first is removed and, set
again, goes last. -/
theorem follows_history_iff_again :
    let initial : Properties :=
      ⟨[("id", .string "a"), ("title", .string "b"), ("lang", .string "c")]⟩
    let steps : List (Step PropertyValue) := [.alter (.insert "title" (.string "d")),
      .alter (.erase "id"), .alter (.insert "hidden" (.boolean true)),
      .alter (.insert "id" (.string "e"))]
    initial.Distinct ∧ (initial.run steps).Follows (initial.history steps) ∧
      (initial.run steps).keys = ["title", "lang", "hidden", "id"] ∧
      EntersBefore (initial.history steps) "title" "id" ∧
      ((initial.run steps).take "title").1 = some (.string "d") ∧
      ((initial.run steps).erase "lang").keys = ["title", "hidden", "id"] := by
  intro initial steps
  have distinct : initial.Distinct := by decide
  have keys : (initial.run steps).keys = ["title", "lang", "hidden", "id"] := by decide
  obtain ⟨alone, -, erased, -⟩ := follows_history_iff initial distinct steps
  have follows := (alone _).mpr rfl
  have last : lastValue? (initial.history steps) "title" = some (.string "d") := by decide
  refine ⟨distinct, follows, keys, ⟨1, 6, by decide, by decide, by decide⟩,
    (follows.former (.erase "title")).trans last, ?_⟩
  rw [erased, keys]
  decide

end MarkupTree.OrderedMap
