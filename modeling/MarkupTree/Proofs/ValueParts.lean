import MarkupTree.Proofs.Tree.Parts
import MarkupTree.Value

/-! # The parts of a value

The parts of a value are the value itself and the parts of every value directly inside it: the
items of a list and what an object holds. A node has no values inside it; what is claimed of a
node as a value is claimed of the tree.
-/

namespace MarkupTree

namespace Value

/-- The values directly inside a value: the items of a list, or those that an object holds. -/
def directlyInside : Value → List Value
  | .array items => items
  | .object fields => fields.entries.map Prod.snd
  | _ => []

/-- A value is larger than those directly inside. -/
theorem sizeOf_lt_of_mem_directlyInside {value inner : Value}
    (directly : inner ∈ value.directlyInside) : sizeOf inner < sizeOf value := by
  cases value with
  | array items =>
      have smaller : sizeOf inner < sizeOf items := List.sizeOf_lt_of_mem directly
      rw [array.sizeOf_spec]
      omega
  | object fields =>
      obtain ⟨entries⟩ := fields
      obtain ⟨⟨name, held⟩, member, rfl⟩ := List.mem_map.mp directly
      have smaller : sizeOf (name, held) < sizeOf entries := List.sizeOf_lt_of_mem member
      rw [Prod.mk.sizeOf_spec] at smaller
      rw [object.sizeOf_spec, OrderedMap.mk.sizeOf_spec]
      dsimp only
      omega
  | _ => cases directly

/-- What holds of a value if it holds of all values directly inside it holds of every value. -/
@[elab_as_elim]
theorem induction_inside {motive : Value → Prop}
    (step : ∀ value, (∀ inner ∈ value.directlyInside, motive inner) → motive value)
    (value : Value) : motive value :=
  step value fun inner directly =>
    have : sizeOf inner < sizeOf value := sizeOf_lt_of_mem_directlyInside directly
    induction_inside step inner
termination_by value

mutual

/-- A value and everything inside it, in order. -/
def parts : Value → List Value
  | .null => [.null]
  | .boolean value => [.boolean value]
  | .number value => [.number value]
  | .string value => [.string value]
  | .array items => .array items :: partsAll items
  | .object ⟨entries⟩ => .object ⟨entries⟩ :: partsFields entries
  | .node tree => [.node tree]

/-- The parts of several values, one after the other. -/
def partsAll : List Value → List Value
  | [] => []
  | value :: rest => parts value ++ partsAll rest

/-- The parts of named values, one after the other. -/
def partsFields : List (String × Value) → List Value
  | [] => []
  | (_, value) :: rest => parts value ++ partsFields rest

end

/-- The parts of several values are those of each. -/
theorem mem_partsAll (values : List Value) (part : Value) :
    part ∈ partsAll values ↔ ∃ value ∈ values, part ∈ value.parts := by
  induction values with
  | nil => simp only [partsAll, List.not_mem_nil, false_and, exists_false]
  | cons value rest ih =>
      simp only [partsAll, List.mem_append, ih, List.mem_cons, exists_eq_or_imp]

/-- The parts of fields are those of their values. -/
theorem partsFields_eq (entries : List (String × Value)) :
    partsFields entries = partsAll (entries.map Prod.snd) := by
  induction entries with
  | nil => rfl
  | cons entry rest ih => simp only [partsFields, partsAll, List.map_cons, ih]

/-- The parts of a value are the value and the parts of what is directly inside it. -/
theorem mem_parts (value part : Value) :
    part ∈ value.parts ↔ part = value ∨ ∃ inner ∈ value.directlyInside, part ∈ inner.parts := by
  cases value with
  | array items => simp only [parts, directlyInside, List.mem_cons, mem_partsAll]
  | object fields =>
      simp only [parts, directlyInside, List.mem_cons, partsFields_eq, mem_partsAll]
  | _ =>
      simp only [parts, directlyInside, List.mem_singleton, List.not_mem_nil, false_and,
        exists_false, or_false]

/-- Something holds of a value and of everything inside it. -/
def Everywhere (holds : Value → Prop) (value : Value) : Prop := ∀ part ∈ value.parts, holds part

instance (holds : Value → Prop) [DecidablePred holds] (value : Value) :
    Decidable (value.Everywhere holds) :=
  inferInstanceAs (Decidable (∀ part ∈ value.parts, holds part))

/-- What holds everywhere in a value holds of the value and everywhere directly inside it. -/
theorem everywhere_iff {holds : Value → Prop} (value : Value) :
    value.Everywhere holds ↔
      holds value ∧ ∀ inner ∈ value.directlyInside, inner.Everywhere holds :=
  forall_mem_parts_iff (mem_parts value)

end Value

end MarkupTree
