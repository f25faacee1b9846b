/-! # Maps that remember the order of their keys

An ordered map holds its entries as a list. Setting a key that is present replaces
the value where it stands, a new key goes last, and erasing a key keeps the order of
the others. Two maps are compared without regard to order (`OrderedMap.equalBy`).

The type itself allows a key twice; `OrderedMap.Distinct` says that none is. The empty
map has distinct keys and every operation keeps them distinct.
-/

namespace MarkupTree

/-- A map from text keys to values, as the list of its entries in order. -/
structure OrderedMap (α : Type) where
  entries : List (String × α)
deriving Repr, DecidableEq, Inhabited

namespace OrderedMap

variable {α β : Type}

def empty : OrderedMap α := ⟨[]⟩

def keys (map : OrderedMap α) : List String := map.entries.map Prod.fst

def size (map : OrderedMap α) : Nat := map.entries.length

def isEmpty (map : OrderedMap α) : Bool := map.entries.isEmpty

def get? (map : OrderedMap α) (key : String) : Option α := map.entries.lookup key

def contains (map : OrderedMap α) (key : String) : Bool := map.keys.contains key

/-- No key occurs twice. -/
def Distinct (map : OrderedMap α) : Prop := map.keys.Nodup

instance (map : OrderedMap α) : Decidable map.Distinct :=
  inferInstanceAs (Decidable map.keys.Nodup)

/-- Sets a key in a list of entries: in place when it is there, at the end when not. -/
def setEntry (key : String) (value : α) : List (String × α) → List (String × α)
  | [] => [(key, value)]
  | (present, old) :: rest =>
    if present = key then (key, value) :: rest else (present, old) :: setEntry key value rest

/-- The map with `key` set to `value`. -/
def insert (map : OrderedMap α) (key : String) (value : α) : OrderedMap α :=
  ⟨setEntry key value map.entries⟩

/-- The map without `key`; the other entries keep their order. -/
def erase (map : OrderedMap α) (key : String) : OrderedMap α :=
  ⟨map.entries.filter fun entry => entry.1 != key⟩

/-- Sets a key and hands back the value that it had. -/
def exchange (map : OrderedMap α) (key : String) (value : α) : Option α × OrderedMap α :=
  (map.get? key, map.insert key value)

/-- Removes a key and hands back the value that it had. -/
def take (map : OrderedMap α) (key : String) : Option α × OrderedMap α :=
  (map.get? key, map.erase key)

/-- Sets the entries of a list one after the other. -/
def insertAll (map : OrderedMap α) (pairs : List (String × α)) : OrderedMap α :=
  pairs.foldl (fun built pair => built.insert pair.1 pair.2) map

/-- The map of a list of pairs: a repeated key keeps its first place and its last value. -/
def ofList (pairs : List (String × α)) : OrderedMap α := empty.insertAll pairs

/-- The map with every value changed by `change`. -/
def mapValues (map : OrderedMap α) (change : α → β) : OrderedMap β :=
  ⟨map.entries.map fun entry => (entry.1, change entry.2)⟩

/-- Whether two maps hold the same keys with related values, in whatever order. -/
def equalBy (same : α → β → Bool) (first : OrderedMap α) (second : OrderedMap β) : Bool :=
  first.size == second.size &&
    first.entries.all fun entry =>
      match second.get? entry.1 with
      | some value => same entry.2 value
      | none => false

/-- The empty map binds nothing. -/
theorem get?_empty (key : String) : (empty : OrderedMap α).get? key = none := rfl

private theorem lookup_setEntry (key wanted : String) (value : α) (entries : List (String × α)) :
    (setEntry key value entries).lookup wanted =
      if wanted = key then some value else entries.lookup wanted := by
  induction entries with
  | nil => simp only [setEntry, List.lookup_cons, List.lookup_nil]; split <;> simp_all
  | cons entry rest hypothesis =>
    obtain ⟨present, old⟩ := entry
    simp only [setEntry]
    split
    · next same => subst same; simp only [List.lookup_cons]; split <;> simp_all
    · next other =>
      simp only [List.lookup_cons, hypothesis]
      split <;> simp_all

/-- After setting a key, it is bound to the new value and all others are as before. -/
theorem get?_insert (map : OrderedMap α) (key wanted : String) (value : α) :
    (map.insert key value).get? wanted = if wanted = key then some value else map.get? wanted :=
  lookup_setEntry key wanted value map.entries

private theorem fst_setEntry (key : String) (value : α) (entries : List (String × α)) :
    (setEntry key value entries).map Prod.fst =
      if key ∈ entries.map Prod.fst then entries.map Prod.fst
        else entries.map Prod.fst ++ [key] := by
  induction entries with
  | nil => simp [setEntry]
  | cons entry rest hypothesis =>
    obtain ⟨present, old⟩ := entry
    by_cases same : present = key
    · subst same; simp [setEntry]
    · have other : ¬ key = present := fun equal => same equal.symm
      simp only [setEntry, same, if_false, List.map_cons, hypothesis, List.mem_cons, other,
        false_or]
      split <;> simp

/-- Setting a key keeps the keys and their order; a new key goes last. -/
theorem keys_insert (map : OrderedMap α) (key : String) (value : α) :
    (map.insert key value).keys = if key ∈ map.keys then map.keys else map.keys ++ [key] :=
  fst_setEntry key value map.entries

/-- Setting a key keeps the keys distinct. -/
theorem Distinct.insert {map : OrderedMap α} (distinct : map.Distinct) (key : String) (value : α) :
    (map.insert key value).Distinct := by
  unfold Distinct at *
  rw [keys_insert]
  split
  · exact distinct
  · next absent =>
    rw [List.nodup_append]
    refine ⟨distinct, by simp, ?_⟩
    intro first member second single
    rw [List.mem_singleton] at single
    subst single
    exact fun equal => absent (equal ▸ member)

/-- Erasing a key keeps the others in their order. -/
theorem keys_erase (map : OrderedMap α) (key : String) :
    (map.erase key).keys = map.keys.filter (· != key) := by
  simp only [keys, erase, List.filter_map]
  rfl

/-- Erasing a key keeps the keys distinct. -/
theorem Distinct.erase {map : OrderedMap α} (distinct : map.Distinct) (key : String) :
    (map.erase key).Distinct := by
  unfold Distinct at *
  rw [keys_erase]
  exact distinct.sublist List.filter_sublist

private theorem lookup_filter_ne (key wanted : String) (entries : List (String × α)) :
    (entries.filter fun entry => entry.1 != key).lookup wanted =
      if wanted = key then none else entries.lookup wanted := by
  induction entries with
  | nil => simp
  | cons entry rest ih =>
      by_cases erased : entry.1 = key
      · rw [List.filter_cons_of_neg (by simp [erased]), ih, List.lookup_cons]
        split
        · rfl
        · next other => rw [erased, beq_false_of_ne other]
      · rw [List.filter_cons_of_pos (by simp [erased]), List.lookup_cons, List.lookup_cons, ih]
        split
        · next found => rw [if_neg (eq_of_beq found ▸ erased)]
        · rfl

/-- After erasing a key, it is bound to nothing and all others are as before. -/
theorem get?_erase (map : OrderedMap α) (key wanted : String) :
    (map.erase key).get? wanted = if wanted = key then none else map.get? wanted :=
  lookup_filter_ne key wanted map.entries

/-- The keys of a map are those that are bound. -/
theorem mem_keys_iff {map : OrderedMap α} {key : String} :
    key ∈ map.keys ↔ (map.get? key).isSome = true := by
  rw [get?, List.lookup_isSome_iff, keys, List.mem_map]
  refine exists_congr fun entry => and_congr_right fun _ => ?_
  rw [beq_iff_eq, eq_comm]

/-- A map contains the keys that it binds. -/
theorem contains_eq_isSome_get? (map : OrderedMap α) (key : String) :
    map.contains key = (map.get? key).isSome := by
  rw [Bool.eq_iff_iff, contains, List.contains_iff_mem, mem_keys_iff]

/-- The entries after setting a key are the new one and some of those before. -/
theorem mem_setEntry {key : String} {value : α} {entries : List (String × α)}
    {entry : String × α} (member : entry ∈ setEntry key value entries) :
    entry = (key, value) ∨ entry ∈ entries := by
  induction entries with
  | nil => exact .inl (List.mem_singleton.mp member)
  | cons present rest hypothesis =>
    simp only [setEntry] at member
    split at member <;> simp only [List.mem_cons] at member ⊢
    · exact member.imp_right .inr
    · rcases member with same | later
      · exact .inr (.inl same)
      · exact (hypothesis later).imp_right .inr

/-- The entries after setting several keys are new ones and some of those before. -/
theorem mem_entries_insertAll {map : OrderedMap α} {pairs : List (String × α)}
    {entry : String × α} (member : entry ∈ (map.insertAll pairs).entries) :
    entry ∈ map.entries ∨ entry ∈ pairs := by
  induction pairs generalizing map with
  | nil => exact .inl member
  | cons pair rest hypothesis =>
    have reached : entry ∈ ((map.insert pair.1 pair.2).insertAll rest).entries := member
    rcases hypothesis reached with before | later
    · exact (mem_setEntry before).elim (fun same => .inr (by simp [same])) .inl
    · exact .inr (List.mem_cons_of_mem _ later)

/-- The entries of a map made of a list of pairs are among the pairs. -/
theorem mem_entries_ofList {pairs : List (String × α)} {entry : String × α}
    (member : entry ∈ (ofList pairs).entries) : entry ∈ pairs :=
  (mem_entries_insertAll member).resolve_left List.not_mem_nil

/-- The empty map has no key twice. -/
theorem distinct_empty : (empty : OrderedMap α).Distinct := List.nodup_nil

/-- Setting several keys keeps the keys distinct. -/
theorem Distinct.insertAll {map : OrderedMap α} (distinct : map.Distinct)
    (pairs : List (String × α)) : (map.insertAll pairs).Distinct := by
  induction pairs generalizing map with
  | nil => exact distinct
  | cons pair rest hypothesis => exact hypothesis (distinct.insert pair.1 pair.2)

private theorem setEntry_of_absent {key : String} {value : α} {entries : List (String × α)}
    (absent : key ∉ entries.map Prod.fst) :
    setEntry key value entries = entries ++ [(key, value)] := by
  induction entries with
  | nil => rfl
  | cons entry rest ih =>
      rw [List.map_cons, List.mem_cons, not_or] at absent
      have other : ¬ entry.1 = key := fun same => absent.1 same.symm
      simp only [setEntry, other, ↓reduceIte, ih absent.2, List.cons_append]

/-- Setting new keys puts their entries last. -/
theorem insertAll_of_distinct {map : OrderedMap α} {pairs : List (String × α)}
    (distinct : (map.entries ++ pairs).map Prod.fst |>.Nodup) :
    map.insertAll pairs = ⟨map.entries ++ pairs⟩ := by
  induction pairs generalizing map with
  | nil => rw [List.append_nil]; rfl
  | cons pair rest ih =>
      have absent : pair.1 ∉ map.entries.map Prod.fst := by
        rw [List.map_append, List.map_cons, List.nodup_append] at distinct
        exact fun present => distinct.2.2 _ present _ List.mem_cons_self rfl
      have inserted : map.insert pair.1 pair.2 = ⟨map.entries ++ [pair]⟩ :=
        congrArg OrderedMap.mk (setEntry_of_absent absent)
      have regrouped : map.entries ++ pair :: rest = map.entries ++ [pair] ++ rest := by simp
      have later := @ih (map.insert pair.1 pair.2)
      rw [inserted, ← regrouped] at later
      exact (congrArg (insertAll · rest) inserted).trans (later distinct)

/-- A map with distinct keys is the map of its entries. -/
theorem Distinct.ofList_entries {map : OrderedMap α} (distinct : map.Distinct) :
    ofList map.entries = map :=
  insertAll_of_distinct distinct

/-- What a key is bound to is an entry. -/
theorem mem_entries_of_get? {map : OrderedMap α} {key : String} {value : α}
    (found : map.get? key = some value) : (key, value) ∈ map.entries := by
  obtain ⟨before, after, entries, _⟩ := List.lookup_eq_some_iff.mp found
  rw [entries]
  exact List.mem_append_right _ List.mem_cons_self

/-- If the keys are distinct, each entry is what its key is bound to. -/
theorem Distinct.get?_of_mem {map : OrderedMap α} (distinct : map.Distinct) {entry : String × α}
    (member : entry ∈ map.entries) : map.get? entry.1 = some entry.2 := by
  obtain ⟨entries⟩ := map
  unfold Distinct keys at distinct
  unfold get?
  dsimp only at *
  induction entries with
  | nil => cases member
  | cons first rest ih =>
      rw [List.map_cons, List.nodup_cons] at distinct
      rcases List.mem_cons.mp member with rfl | later
      · rw [List.lookup_cons, beq_self_eq_true]
      · have other : entry.1 ≠ first.1 := by
          intro same
          exact distinct.1 (same ▸ List.mem_map_of_mem later)
        rw [List.lookup_cons, beq_false_of_ne other]
        exact ih distinct.2 later

/-- Changing the values keeps the keys. -/
@[simp] theorem keys_mapValues (map : OrderedMap α) (change : α → β) :
    (map.mapValues change).keys = map.keys := by
  simp [keys, mapValues]

/-- Changing the values keeps the keys distinct. -/
theorem Distinct.mapValues {map : OrderedMap α} (distinct : map.Distinct) (change : α → β) :
    (map.mapValues change).Distinct := by
  unfold Distinct
  rw [keys_mapValues]
  exact distinct

/-- A map of a list of pairs has no key twice. -/
theorem distinct_ofList (pairs : List (String × α)) : (ofList pairs).Distinct :=
  distinct_empty.insertAll pairs

end OrderedMap

end MarkupTree
