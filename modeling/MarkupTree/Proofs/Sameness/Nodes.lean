import MarkupTree.Proofs.Sameness.Properties

/-! # Comparing nodes

Two nodes are the same if they agree in all but their properties and what is below them
(`Node.label`), and have the same properties, children and content (`Node.same_iff`). By induction
over what is directly below, the comparison is an equivalence on the trees without anything that is
not a number, and it does not see how properties are ordered anywhere in a tree
(`Node.Rearranged.same_eq`).
-/

namespace MarkupTree

namespace Node

/-- No element anywhere in a tree has a property twice. -/
def KeysDistinct (node : Node) : Prop := node.Everywhere fun part => part.properties.Distinct

/-- No element anywhere in a tree has a property that is or holds what is not a number. -/
def NanFree (node : Node) : Prop := node.Everywhere fun part => part.properties.NanFree

/-- The keys of a node are distinct if its own are and those of the nodes directly below. -/
theorem keysDistinct_iff (node : Node) :
    node.KeysDistinct ↔
      node.properties.Distinct ∧ ∀ lower ∈ node.directlyBelow, lower.KeysDistinct :=
  everywhere_iff node

/-- A node holds only numbers if its properties do and the nodes directly below. -/
theorem nanFree_iff (node : Node) :
    node.NanFree ↔ node.properties.NanFree ∧ ∀ lower ∈ node.directlyBelow, lower.NanFree :=
  everywhere_iff node

instance (node : Node) : Decidable node.KeysDistinct :=
  inferInstanceAs (Decidable (node.Everywhere _))

instance (node : Node) : Decidable node.NanFree := inferInstanceAs (Decidable (node.Everywhere _))

/-- What there is to a node beside its properties and what is below it: its kind, its text or
tag name, and whether it has content. -/
def label (node : Node) : String × Option String × Option String × Bool :=
  (node.typeName, node.value?, node.tagName?, node.content?.isSome)

private theorem sameAll_eq (first second : List Node) :
    sameAll first second = first.isEqv second same := by
  induction first generalizing second with
  | nil =>
      cases second with
      | nil => simp only [sameAll, List.isEqv]
      | cons other others => simp only [sameAll, List.isEqv]
  | cons node rest ih =>
      cases second with
      | nil => simp only [sameAll, List.isEqv]
      | cons other others => simp only [sameAll, List.isEqv, ih]

variable {first second third : Node}

/-- Two nodes are the same if their labels, properties, children and contents are. -/
theorem same_iff :
    first.same second = true ↔
      first.label = second.label ∧ first.properties.same second.properties = true ∧
        first.children.isEqv second.children same = true ∧
        (first.content?.getD []).isEqv (second.content?.getD []) same = true := by
  have bare : Properties.same .empty .empty = true := rfl
  cases first with
  | text value =>
      cases second <;>
        simp [same, label, typeName, value?, tagName?, content?, properties, children, bare]
  | root nodes =>
      cases second <;>
        simp [same, label, typeName, value?, tagName?, content?, properties, children, bare,
          sameAll_eq]
  | element tagName held nodes content =>
      cases second with
      | element otherName others otherNodes otherContent =>
          cases content <;> cases otherContent <;>
            simp [same, label, typeName, value?, tagName?, content?, properties, children,
              sameContent, sameAll_eq, and_assoc]
      | _ => simp [same, label, typeName]

/-- The comparison of nodes is symmetric, provided that no key occurs twice in the first one. -/
theorem same_symm (distinct : first.KeysDistinct) (equal : first.same second = true) :
    second.same first = true := by
  induction first using induction_below generalizing second with
  | step first ih =>
      obtain ⟨labels, properties, children, content⟩ := same_iff.mp equal
      have each : ∀ lower ∈ first.directlyBelow, ∀ other,
          lower.same other = true → other.same lower = true :=
        fun lower directly other => ih lower directly (distinct.below directly)
      obtain ⟨eachChild, eachInContent⟩ := List.forall_mem_append.mp each
      exact same_iff.mpr ⟨labels.symm, Properties.same_symm distinct.here properties,
        isEqv_symm eachChild children, isEqv_symm eachInContent content⟩

/-- The comparison of nodes is transitive. -/
theorem same_trans (equal : first.same second = true) (equalNext : second.same third = true) :
    first.same third = true := by
  induction first using induction_below generalizing second third with
  | step first ih =>
      obtain ⟨labels, properties, children, content⟩ := same_iff.mp equal
      obtain ⟨labelsNext, propertiesNext, childrenNext, contentNext⟩ := same_iff.mp equalNext
      have each : ∀ lower ∈ first.directlyBelow, ∀ middle other,
          lower.same middle = true → middle.same other = true → lower.same other = true :=
        fun lower directly _ _ => ih lower directly
      obtain ⟨eachChild, eachInContent⟩ := List.forall_mem_append.mp each
      exact same_iff.mpr ⟨labels.trans labelsNext, Properties.same_trans properties propertiesNext,
        isEqv_trans eachChild children childrenNext,
        isEqv_trans eachInContent content contentNext⟩

/-- A tree is the same as itself exactly when nothing in it is not a number. -/
theorem same_self_iff {node : Node} (distinct : node.KeysDistinct) :
    node.same node = true ↔ node.NanFree := by
  induction node using induction_below with
  | step node ih =>
      have below : (∀ lower ∈ node.directlyBelow, lower.same lower = true) ↔
          ∀ lower ∈ node.directlyBelow, lower.NanFree :=
        forall₂_congr fun lower directly => ih lower directly (distinct.below directly)
      rw [directlyBelow, List.forall_mem_append] at below
      rw [same_iff, eq_self_iff_true, true_and, Properties.same_self_iff distinct.here,
        isEqv_self_iff, isEqv_self_iff, below, nanFree_iff, directlyBelow]

/-- Permuting the properties of elements, anywhere in a tree and any number of times, leads from
one tree to the other. -/
inductive Rearranged : Node → Node → Prop
  | refl (node : Node) : Rearranged node node
  | trans {first second third : Node} (rearranged : Rearranged first second)
      (further : Rearranged second third) : Rearranged first third
  | properties {entries others : List (String × PropertyValue)} (perm : entries.Perm others)
      (tagName : String) (children : List Node) (content : Option (List Node)) :
      Rearranged (element tagName ⟨entries⟩ children content)
        (element tagName ⟨others⟩ children content)
  | inRoot {one other : Node} (rearranged : Rearranged one other) (before after : List Node) :
      Rearranged (root (before ++ one :: after)) (root (before ++ other :: after))
  | inChildren {one other : Node} (rearranged : Rearranged one other) (before after : List Node)
      (tagName : String) (properties : Properties) (content : Option (List Node)) :
      Rearranged (element tagName properties (before ++ one :: after) content)
        (element tagName properties (before ++ other :: after) content)
  | inContent {one other : Node} (rearranged : Rearranged one other) (before after : List Node)
      (tagName : String) (properties : Properties) (children : List Node) :
      Rearranged (element tagName properties children (some (before ++ one :: after)))
        (element tagName properties children (some (before ++ other :: after)))

namespace Rearranged

variable {other : Node}

/-- A rearranged tree is the same as what the tree itself is the same as. -/
theorem same_eq (rearranged : first.Rearranged other) (third : Node) :
    other.same third = first.same third := by
  induction rearranged generalizing third with
  | refl node => rfl
  | trans _ _ ih ihNext => rw [ihNext, ih]
  | properties perm =>
      cases third with
      | element => simp only [same, Properties.same_perm perm]
      | _ => simp only [same]
  | inRoot _ before after ih =>
      cases third with
      | root => simp only [same, sameAll_eq, isEqv_replace ih]
      | _ => simp only [same]
  | inChildren _ before after _ _ _ ih =>
      cases third with
      | element => simp only [same, sameAll_eq, isEqv_replace ih]
      | _ => simp only [same]
  | inContent _ before after _ _ _ ih =>
      cases third with
      | element tagName properties children content =>
          cases content with
          | none => simp only [same, sameContent]
          | some content => simp only [same, sameContent, sameAll_eq, isEqv_replace ih]
      | _ => simp only [same]

/-- Rearranging properties keeps the keys distinct. -/
theorem keysDistinct (rearranged : first.Rearranged other) (distinct : first.KeysDistinct) :
    other.KeysDistinct := by
  induction rearranged with
  | refl node => exact distinct
  | trans _ _ ih ihNext => exact ihNext (ih distinct)
  | properties perm =>
      obtain ⟨here, below⟩ := (keysDistinct_iff _).mp distinct
      exact (keysDistinct_iff _).mpr ⟨(perm.map Prod.fst).nodup_iff.mp here, below⟩
  | inRoot _ before after ih =>
      obtain ⟨here, below⟩ := (keysDistinct_iff _).mp distinct
      refine (keysDistinct_iff _).mpr ⟨here, ?_⟩
      simp only [directlyBelow_root, List.forall_mem_append, List.forall_mem_cons] at below ⊢
      exact ⟨below.1, ih below.2.1, below.2.2⟩
  | inChildren _ before after _ _ content ih =>
      obtain ⟨here, below⟩ := (keysDistinct_iff _).mp distinct
      refine (keysDistinct_iff _).mpr ⟨here, ?_⟩
      simp only [directlyBelow, children, content?, List.forall_mem_append,
        List.forall_mem_cons] at below ⊢
      exact ⟨⟨below.1.1, ih below.1.2.1, below.1.2.2⟩, below.2⟩
  | inContent _ before after _ _ nodes ih =>
      obtain ⟨here, below⟩ := (keysDistinct_iff _).mp distinct
      refine (keysDistinct_iff _).mpr ⟨here, ?_⟩
      simp only [directlyBelow, children, content?, Option.getD_some, List.forall_mem_append,
        List.forall_mem_cons] at below ⊢
      exact ⟨below.1, below.2.1, ih below.2.2.1, below.2.2.2⟩

end Rearranged

end Node

end MarkupTree
