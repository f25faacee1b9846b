import MarkupTree.Proofs.Text.Span
import Mathlib.Data.List.Basic

/-! # Runs of a text

A run of a text is a longest stretch of characters that pass a test, given with what stands
before and behind it (`Text.Run.IsMaximal`). `Text.runs` finds a run wherever a character that
passes has none in front. These are all the runs of a text (`Text.mem_runs_iff`), in their order
(`Text.pairwise_runsAfter`), and they are what a text leaves that is split at all other characters
(`Text.map_chars_runs`).
-/

namespace MarkupTree.Text

/-- A stretch of a text between what stands before and behind it. -/
structure Run where
  before : List Char
  chars : List Char
  after : List Char
deriving DecidableEq

def Run.text (run : Run) : String := String.ofList run.chars

/-- A run of a text: characters that pass, at least one, that no character that passes adjoins. -/
structure Run.IsMaximal (test : Char → Bool) (run : Run) (text : List Char) : Prop where
  within : run.before ++ run.chars ++ run.after = text
  nonempty : run.chars ≠ []
  pass : ∀ char ∈ run.chars, test char = true
  starts : ∀ char ∈ run.before.getLast?, test char = false
  stops : ∀ char ∈ run.after.head?, test char = false

/-- Whether a run may begin behind a text: no character that passes ends the text. -/
def mayBegin (test : Char → Bool) (before : List Char) : Bool :=
  before.getLast?.all fun char => !test char

/-- The runs of a text from a place on, given what stands before that place: one for each
character that passes and has none in front that does. -/
def runsAfter (test : Char → Bool) (before : List Char) : List Char → List Run
  | [] => []
  | char :: rest =>
    let later := runsAfter test (before ++ [char]) rest
    if test char = true ∧ mayBegin test before = true then
      ⟨before, char :: rest.takeWhile test, rest.dropWhile test⟩ :: later
    else later

def runs (test : Char → Bool) (text : List Char) : List Run := runsAfter test [] text

variable {test : Char → Bool} {before rest : List Char} {run : Run}

/-- A run may begin where the character before it does not pass. -/
theorem mayBegin_iff :
    mayBegin test before = true ↔ ∀ previous ∈ before.getLast?, test previous = false := by
  simp only [mayBegin, Option.all_eq_true, Option.mem_def, Bool.not_eq_true']

private theorem runsAfter_cons_of_starts {char : Char} (passes : test char = true)
    (starts : ∀ previous ∈ before.getLast?, test previous = false) :
    runsAfter test before (char :: rest) =
      ⟨before, char :: rest.takeWhile test, rest.dropWhile test⟩ ::
        runsAfter test (before ++ [char]) rest :=
  if_pos ⟨passes, mayBegin_iff.mpr starts⟩

/-- A character that fails is in no run. -/
theorem runsAfter_cons_of_fails {char : Char} (fails : test char = false) :
    runsAfter test before (char :: rest) = runsAfter test (before ++ [char]) rest :=
  if_neg fun begins => Bool.false_ne_true (fails.symm.trans begins.1)

/-- No run begins behind a character that passes. -/
theorem runsAfter_cons_of_inside {previous char : Char} (inside : test previous = true) :
    runsAfter test (before ++ [previous]) (char :: rest) =
      runsAfter test (before ++ [previous] ++ [char]) rest := by
  apply if_neg
  rintro ⟨-, starts⟩
  have outside := mayBegin_iff.mp starts previous (by simp)
  rw [inside] at outside
  cases outside

/-- The runs behind the first character of a run are those behind the run. -/
theorem runsAfter_inside {previous : Char} (inside : test previous = true) {chars : List Char}
    (pass : ∀ char ∈ chars, test char = true) :
    runsAfter test (before ++ [previous]) (chars ++ rest) =
      runsAfter test (before ++ [previous] ++ chars) rest := by
  induction chars generalizing before previous with
  | nil => rw [List.nil_append, List.append_nil]
  | cons char chars ih =>
      rw [List.forall_mem_cons] at pass
      rw [List.cons_append, runsAfter_cons_of_inside inside, ih pass.1 pass.2]
      simp only [List.append_assoc, List.cons_append, List.nil_append]

/-- The runs from the beginning of a run on: the run, and those behind it. -/
theorem runsAfter_cons_of_run {char : Char} (passes : test char = true)
    (starts : ∀ previous ∈ before.getLast?, test previous = false) :
    runsAfter test before (char :: rest) =
      ⟨before, char :: rest.takeWhile test, rest.dropWhile test⟩ ::
        runsAfter test (before ++ [char] ++ rest.takeWhile test) (rest.dropWhile test) := by
  have behind : runsAfter test (before ++ [char]) (rest.takeWhile test ++ rest.dropWhile test) =
      runsAfter test (before ++ [char] ++ rest.takeWhile test) (rest.dropWhile test) :=
    runsAfter_inside passes (List.all_eq_true.mp List.all_takeWhile)
  rw [List.takeWhile_append_dropWhile] at behind
  rw [runsAfter_cons_of_starts passes starts, behind]

/-- Every run that is found is maximal in the text. -/
theorem isMaximal_of_mem_runsAfter (member : run ∈ runsAfter test before rest) :
    run.IsMaximal test (before ++ rest) := by
  induction rest generalizing before with
  | nil => exact (List.not_mem_nil member).elim
  | cons char rest ih =>
      have regrouped : before ++ [char] ++ rest = before ++ char :: rest := by simp
      simp only [runsAfter] at member
      split at member
      · next begins =>
          rcases List.mem_cons.mp member with rfl | later
          · refine ⟨?_, List.cons_ne_nil _ _, ?_, mayBegin_iff.mp begins.2,
              head?_dropWhile_stops _ _⟩
            · simp only [List.append_assoc, List.cons_append, List.takeWhile_append_dropWhile]
            · rw [List.forall_mem_cons]
              exact ⟨begins.1, List.all_eq_true.mp List.all_takeWhile⟩
          · exact regrouped ▸ ih later
      · exact regrouped ▸ ih member

private theorem length_of_mem_runsAfter (member : run ∈ runsAfter test before rest) :
    before.length ≤ run.before.length := by
  induction rest generalizing before with
  | nil => exact (List.not_mem_nil member).elim
  | cons char rest ih =>
      have shorter : before.length ≤ (before ++ [char]).length := by simp
      simp only [runsAfter] at member
      split at member
      · rcases List.mem_cons.mp member with rfl | later
        · exact Nat.le_refl _
        · exact Nat.le_trans shorter (ih later)
      · exact Nat.le_trans shorter (ih member)

/-- A maximal run that begins at a place is the longest stretch there that passes. -/
theorem Run.IsMaximal.eq_of_length {char : Char}
    (maximal : run.IsMaximal test (before ++ char :: rest))
    (here : run.before.length = before.length) :
    (∀ previous ∈ before.getLast?, test previous = false) ∧ test char = true ∧
      run = ⟨before, char :: rest.takeWhile test, rest.dropWhile test⟩ := by
  obtain ⟨runBefore, chars, after⟩ := run
  obtain ⟨within, nonempty, pass, starts, stops⟩ := maximal
  dsimp only at within nonempty pass starts stops here
  rw [List.append_assoc] at within
  obtain ⟨rfl, following⟩ := List.append_inj within here
  obtain ⟨first, further, rfl⟩ := List.exists_cons_of_ne_nil nonempty
  rw [List.cons_append] at following
  obtain ⟨rfl, rfl⟩ := List.cons.inj following
  rw [List.forall_mem_cons] at pass
  refine ⟨starts, pass.1, ?_⟩
  rw [takeWhile_stretch pass.2 stops, dropWhile_stretch pass.2 stops]

/-- Every maximal run that begins behind `before` is found. -/
theorem mem_runsAfter_of_isMaximal (maximal : run.IsMaximal test (before ++ rest))
    (behind : before.length ≤ run.before.length) : run ∈ runsAfter test before rest := by
  induction rest generalizing before with
  | nil =>
      have lengths := congrArg List.length maximal.within
      have present := List.length_pos_iff.mpr maximal.nonempty
      simp only [List.length_append, List.length_nil] at lengths
      omega
  | cons char rest ih =>
      by_cases here : run.before.length = before.length
      · obtain ⟨begins, passes, same⟩ := maximal.eq_of_length here
        rw [same, runsAfter_cons_of_starts passes begins]
        exact List.mem_cons_self
      · have later : run ∈ runsAfter test (before ++ [char]) rest := by
          apply ih
          · simpa only [List.append_assoc, List.cons_append, List.nil_append] using maximal
          · simp only [List.length_append, List.length_singleton]
            omega
        simp only [runsAfter]
        split
        · exact List.mem_cons_of_mem _ later
        · exact later

/-- The runs of a text are its maximal stretches of characters that pass. -/
theorem mem_runs_iff (text : List Char) (run : Run) :
    run ∈ runs test text ↔ run.IsMaximal test text :=
  ⟨isMaximal_of_mem_runsAfter, fun maximal => mem_runsAfter_of_isMaximal maximal (Nat.zero_le _)⟩

/-- Runs are listed in the order of their beginnings. -/
theorem pairwise_runsAfter (before rest : List Char) :
    (runsAfter test before rest).Pairwise fun first second =>
      first.before.length < second.before.length := by
  induction rest generalizing before with
  | nil => exact List.Pairwise.nil
  | cons char rest ih =>
      simp only [runsAfter]
      split
      · refine List.pairwise_cons.mpr ⟨fun later member => ?_, ih _⟩
        have behind := length_of_mem_runsAfter member
        rw [List.length_append, List.length_singleton] at behind
        exact behind
      · exact ih _

/-- The run that a stretch of characters that pass is, unless it is empty. -/
def stretchRuns (before stretch after : List Char) : List Run :=
  if stretch = [] then [] else [⟨before, stretch, after⟩]

private theorem map_chars_stretchRuns (before stretch after : List Char) :
    (stretchRuns before stretch after).map Run.chars =
      [stretch].filter fun piece => !piece.isEmpty := by
  cases stretch with
  | nil => rfl
  | cons char rest => rfl

/-- A stretch of characters that pass, and then one that does not, is a run before the runs
behind. -/
theorem runsAfter_stretch {stretch after : List Char} (pass : ∀ char ∈ stretch, test char = true)
    (starts : ∀ previous ∈ before.getLast?, test previous = false)
    (stops : ∀ char ∈ after.head?, test char = false) :
    runsAfter test before (stretch ++ after) =
      stretchRuns before stretch after ++ runsAfter test (before ++ stretch) after := by
  cases stretch with
  | nil => simp [stretchRuns]
  | cons char rest =>
      rw [List.forall_mem_cons] at pass
      rw [List.cons_append, runsAfter_cons_of_run pass.1 starts, takeWhile_stretch pass.2 stops,
        dropWhile_stretch pass.2 stops]
      simp [stretchRuns]

/-- From a place on where a run may begin, the runs are what a text leaves that is split at all
characters that do not pass. -/
theorem map_chars_runsAfter (starts : ∀ previous ∈ before.getLast?, test previous = false) :
    (runsAfter test before rest).map Run.chars =
      (rest.splitOnP fun char => !test char).filter fun piece => !piece.isEmpty := by
  induction rest using stretch_induction test generalizing before with
  | stretch run pass =>
      have whole : run.splitOnP (fun char => !test char) = [run] :=
        List.splitOnP_eq_singleton fun char member => by rw [pass char member]; rfl
      have alone : runsAfter test before (run ++ []) =
          stretchRuns before run [] ++ runsAfter test (before ++ run) [] :=
        runsAfter_stretch pass starts nofun
      rw [List.append_nil] at alone
      rw [alone, whole, List.map_append, map_chars_stretchRuns]
      exact List.append_nil _
  | cut run char after pass fails ih =>
      have cut : (run ++ char :: after).splitOnP (fun char => !test char) =
          run :: after.splitOnP fun char => !test char := by
        apply List.splitOnP_append_cons_of_forall_mem
        · exact fun char member => by rw [pass char member]; rfl
        · rw [fails]; rfl
      have begins : ∀ previous ∈ (before ++ run ++ [char]).getLast?, test previous = false := by
        simpa using fails
      have stops : ∀ next ∈ (char :: after).head?, test next = false := by
        simpa using fails
      rw [runsAfter_stretch pass starts stops, runsAfter_cons_of_fails fails, cut,
        List.map_append, map_chars_stretchRuns, ih begins, ← List.filter_append]
      rfl

/-- The runs of a text are what it leaves that is split at all characters that do not pass. -/
theorem map_chars_runs (text : List Char) :
    (runs test text).map Run.chars =
      (text.splitOnP fun char => !test char).filter fun piece => !piece.isEmpty :=
  map_chars_runsAfter nofun

end MarkupTree.Text
