import MarkupTree.OrderedMap
import Mathlib.Data.List.Perm.Subperm

/-! # Comparing lists and maps

Lists are compared member by member in order (`List.isEqv`), maps by their size and by what the
second one holds under each key of the first (`OrderedMap.equalBy`). What a comparison of members
satisfies carries over to both: symmetry, transitivity, and when a thing is the same as itself.

A map is looked through from one side only. That the other side holds no further keys follows by
counting, and needs that no key occurs twice (`OrderedMap.equalBy_symm`).
-/

namespace MarkupTree

section Lists

variable {α : Type} {same : α → α → Bool} {first second third : List α}

/-- The comparison of lists is symmetric if that of members is. -/
theorem isEqv_symm
    (each : ∀ one ∈ first, ∀ other, same one other = true → same other one = true)
    (equal : first.isEqv second same = true) : second.isEqv first same = true := by
  induction first generalizing second with
  | nil =>
      cases second with
      | nil => rfl
      | cons other others => cases equal
  | cons one rest ih =>
      cases second with
      | nil => cases equal
      | cons other others =>
          rw [List.forall_mem_cons] at each
          rw [List.isEqv_cons_cons, Bool.and_eq_true] at equal ⊢
          exact ⟨each.1 other equal.1, ih each.2 equal.2⟩

/-- The comparison of lists is transitive if that of members is. -/
theorem isEqv_trans
    (each : ∀ one ∈ first, ∀ middle other,
      same one middle = true → same middle other = true → same one other = true)
    (equal : first.isEqv second same = true) (equalNext : second.isEqv third same = true) :
    first.isEqv third same = true := by
  induction first generalizing second third with
  | nil =>
      cases second with
      | nil => exact equalNext
      | cons middle others => cases equal
  | cons one rest ih =>
      cases second with
      | nil => cases equal
      | cons middle others =>
          cases third with
          | nil => cases equalNext
          | cons other further =>
              rw [List.forall_mem_cons] at each
              rw [List.isEqv_cons_cons, Bool.and_eq_true] at equal equalNext ⊢
              exact ⟨each.1 middle other equal.1 equalNext.1, ih each.2 equal.2 equalNext.2⟩

/-- A list is the same as itself if its members are. -/
theorem isEqv_self_iff : first.isEqv first same = true ↔ ∀ one ∈ first, same one one = true := by
  induction first with
  | nil => exact ⟨nofun, fun _ => rfl⟩
  | cons one rest ih =>
      rw [List.isEqv_cons_cons, Bool.and_eq_true, ih, List.forall_mem_cons]

/-- A member may be replaced by one that is compared alike. -/
theorem isEqv_replace {one other : α} (alike : ∀ third, same other third = same one third)
    (before after : List α) :
    (before ++ other :: after).isEqv third same = (before ++ one :: after).isEqv third same := by
  induction before generalizing third with
  | nil =>
      cases third with
      | nil => rfl
      | cons next rest => rw [List.nil_append, List.nil_append, List.isEqv_cons_cons,
          List.isEqv_cons_cons, alike]
  | cons leading before ih =>
      cases third with
      | nil => rfl
      | cons next rest => rw [List.cons_append, List.cons_append, List.isEqv_cons_cons,
          List.isEqv_cons_cons, ih]

end Lists

namespace OrderedMap

variable {α : Type} {same : α → α → Bool} {first second third : OrderedMap α}

private theorem mem_keys_of_mem {map : OrderedMap α} {entry : String × α}
    (member : entry ∈ map.entries) : entry.1 ∈ map.keys :=
  List.mem_map_of_mem member

/-- Maps compare equal if they have the same size and each entry of the first is found in the
second. -/
theorem equalBy_eq_true_iff :
    first.equalBy same second = true ↔
      first.size = second.size ∧ ∀ entry ∈ first.entries,
        ∃ value, second.get? entry.1 = some value ∧ same entry.2 value = true := by
  rw [equalBy, Bool.and_eq_true, beq_iff_eq, List.all_eq_true]
  refine and_congr_right fun _ => forall₂_congr fun entry _ => ?_
  cases second.get? entry.1 with
  | none => simp
  | some value => simp

/-- The keys of a map are all those of a map with which it compares equal. -/
theorem keys_perm_of_equalBy (distinct : first.Distinct)
    (equal : first.equalBy same second = true) : first.keys.Perm second.keys := by
  obtain ⟨sizes, found⟩ := equalBy_eq_true_iff.mp equal
  have present : first.keys ⊆ second.keys := by
    intro key member
    obtain ⟨entry, inside, rfl⟩ := List.mem_map.mp member
    obtain ⟨value, held, _⟩ := found entry inside
    have named := mem_keys_of_mem (mem_entries_of_get? held)
    exact named
  have counted : second.keys.length ≤ first.keys.length := by
    rw [keys, keys, List.length_map, List.length_map]
    exact Nat.le_of_eq sizes.symm
  exact (distinct.subperm present).perm_of_length_le counted

/-- The comparison of maps is symmetric if that of values is, provided that no key occurs twice. -/
theorem equalBy_symm (distinct : first.Distinct)
    (each : ∀ entry ∈ first.entries, ∀ value,
      same entry.2 value = true → same value entry.2 = true)
    (equal : first.equalBy same second = true) : second.equalBy same first = true := by
  have perm := keys_perm_of_equalBy distinct equal
  have distinctSecond : second.Distinct := perm.nodup_iff.mp distinct
  obtain ⟨sizes, found⟩ := equalBy_eq_true_iff.mp equal
  refine equalBy_eq_true_iff.mpr ⟨sizes.symm, fun other member => ?_⟩
  obtain ⟨entry, inside, named⟩ := List.mem_map.mp (perm.mem_iff.mpr (mem_keys_of_mem member))
  obtain ⟨value, held, alike⟩ := found entry inside
  have single : value = other.2 := by
    rw [named, distinctSecond.get?_of_mem member] at held
    exact (Option.some.inj held).symm
  refine ⟨entry.2, ?_, ?_⟩
  · rw [← named]
    exact distinct.get?_of_mem inside
  · rw [← single]
    exact each entry inside value alike

/-- The comparison of maps is transitive if that of values is. -/
theorem equalBy_trans
    (each : ∀ entry ∈ first.entries, ∀ middle other,
      same entry.2 middle = true → same middle other = true → same entry.2 other = true)
    (equal : first.equalBy same second = true) (equalNext : second.equalBy same third = true) :
    first.equalBy same third = true := by
  obtain ⟨sizes, found⟩ := equalBy_eq_true_iff.mp equal
  obtain ⟨sizesNext, foundNext⟩ := equalBy_eq_true_iff.mp equalNext
  refine equalBy_eq_true_iff.mpr ⟨sizes.trans sizesNext, fun entry member => ?_⟩
  obtain ⟨middle, held, alike⟩ := found entry member
  obtain ⟨other, heldNext, alikeNext⟩ := foundNext _ (mem_entries_of_get? held)
  exact ⟨other, heldNext, each entry member middle other alike alikeNext⟩

/-- A map is the same as itself if its values are, provided that no key occurs twice. -/
theorem equalBy_self_iff (distinct : first.Distinct) :
    first.equalBy same first = true ↔ ∀ entry ∈ first.entries, same entry.2 entry.2 = true := by
  rw [equalBy_eq_true_iff]
  constructor
  · rintro ⟨_, found⟩ entry member
    obtain ⟨value, held, alike⟩ := found entry member
    rw [distinct.get?_of_mem member] at held
    exact Option.some.inj held ▸ alike
  · intro each
    exact ⟨rfl, fun entry member => ⟨entry.2, distinct.get?_of_mem member, each entry member⟩⟩

/-- The order of the entries that are looked through does not count. -/
theorem equalBy_perm {entries others : List (String × α)} (perm : entries.Perm others) :
    equalBy same ⟨others⟩ third = equalBy same ⟨entries⟩ third := by
  simp only [equalBy, size, perm.length_eq, perm.all_eq]

/-- A value may be replaced by one that is compared alike. -/
theorem equalBy_replace {one other : α} (alike : ∀ third, same other third = same one third)
    (before after : List (String × α)) (key : String) :
    equalBy same ⟨before ++ (key, other) :: after⟩ third =
      equalBy same ⟨before ++ (key, one) :: after⟩ third := by
  simp only [equalBy, size, List.length_append, List.length_cons, List.all_append, List.all_cons,
    alike]

end OrderedMap

end MarkupTree
