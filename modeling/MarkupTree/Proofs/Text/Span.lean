/-! # The longest stretch at the front of a text

If all characters of a stretch pass a test and the text behind it does not begin with one that
does, the stretch is what `takeWhile` takes and the text behind it what `dropWhile` leaves.
-/

namespace MarkupTree

variable {test : Char → Bool} {stretch after : List Char}

/-- Nothing is taken where the first character fails. -/
theorem takeWhile_of_stops (stops : ∀ char ∈ after.head?, test char = false) :
    after.takeWhile test = [] := by
  cases after with
  | nil => rfl
  | cons first rest => simp [stops first rfl]

/-- Nothing is dropped where the first character fails. -/
theorem dropWhile_of_stops (stops : ∀ char ∈ after.head?, test char = false) :
    after.dropWhile test = after := by
  cases after with
  | nil => rfl
  | cons first rest => simp [stops first rfl]

/-- A stretch that passes is taken up to a character that fails. -/
theorem takeWhile_stretch (pass : ∀ char ∈ stretch, test char = true)
    (stops : ∀ char ∈ after.head?, test char = false) :
    (stretch ++ after).takeWhile test = stretch := by
  rw [List.takeWhile_append_of_pos pass, takeWhile_of_stops stops, List.append_nil]

/-- Behind a stretch that passes is what begins with a character that fails. -/
theorem dropWhile_stretch (pass : ∀ char ∈ stretch, test char = true)
    (stops : ∀ char ∈ after.head?, test char = false) :
    (stretch ++ after).dropWhile test = after := by
  rw [List.dropWhile_append_of_pos pass, dropWhile_of_stops stops]

/-- What `dropWhile` leaves does not begin with a character that passes. -/
theorem head?_dropWhile_stops (test : Char → Bool) (text : List Char) :
    ∀ char ∈ (text.dropWhile test).head?, test char = false := by
  intro char first
  have stops := List.head?_dropWhile_not test text
  rw [Option.mem_def.mp first] at stops
  exact stops

/-- What holds of texts that pass, and of a text with a character that does not if it holds of
what is behind the first such character, holds of every text. -/
theorem stretch_induction (test : Char → Bool) {motive : List Char → Prop}
    (stretch : ∀ run, (∀ char ∈ run, test char = true) → motive run)
    (cut : ∀ run char after, (∀ char ∈ run, test char = true) → test char = false →
      motive after → motive (run ++ char :: after))
    (text : List Char) : motive text := by
  have front : ∀ char ∈ text.takeWhile test, test char = true :=
    List.all_eq_true.mp List.all_takeWhile
  have split := List.takeWhile_append_dropWhile (p := test) (l := text)
  cases rest : text.dropWhile test with
  | nil =>
      rw [rest, List.append_nil] at split
      rw [← split]
      exact stretch _ front
  | cons char after =>
      have fails := head?_dropWhile_stops test text
      rw [rest] at fails split
      have shorter : after.length < text.length := by
        rw [← split, List.length_append, List.length_cons]
        omega
      rw [← split]
      exact cut _ _ _ front (fails char rfl) (stretch_induction test stretch cut after)
termination_by text.length

end MarkupTree
