import MarkupTree.Proofs.Text.Runs
import MarkupTree.Selector

/-! # What a selector says, read off its runs

The names in a selector are its runs of name characters. The character in front of a run says
what the run names, and nothing else in a selector counts (`Selector.parse_eq_ofRuns`).

The reader of selectors starts anew behind each piece and each skipped character. It may do so
where no run is cut and no sign is parted from its run (`Selector.Restart`), and from such a
place on its pieces are those of the runs that are left.
-/

namespace MarkupTree

namespace Selector

open Text (Run runs runsAfter)

/-- A run names a class directly behind a point. -/
def isClass (run : Run) : Bool := run.before.getLast? == some '.'

/-- A run names an id directly behind a hash sign. -/
def isId (run : Run) : Bool := run.before.getLast? == some '#'

/-- Every other run is a tag name. -/
def isTagName (run : Run) : Bool := !isClass run && !isId run

/-- The piece of a selector that a run makes. -/
def pieceOf (run : Run) : Piece :=
  if isClass run then .className run.chars
  else if isId run then .id run.chars
  else .tagName run.chars

/-- What runs say: all classes, the last id and the last tag name, the tag name in lower case. -/
def ofRuns (runs : List Run) (defaultTagName : String) : Selector where
  tagName := Text.lowercase (((runs.filter isTagName).getLast?.map Run.text).getD defaultTagName)
  id := (runs.filter isId).getLast?.map Run.text
  classNames := (runs.filter isClass).map Run.text

/-- A place where reading may begin: the character in front of a run that begins there is no
name character, so that the run is whole, and no sign. -/
def Restart (before rest : List Char) : Prop :=
  ∀ char ∈ rest.head?, isNameChar char = true →
    ∀ previous ∈ before.getLast?, isNameChar previous = false ∧ marked? previous = none

private theorem restart_dropWhile (before rest : List Char) :
    Restart before (rest.dropWhile isNameChar) := by
  intro char first named
  rw [head?_dropWhile_stops isNameChar rest char first] at named
  cases named

private theorem pieceOf_of_marked {char : Char} {make : List Char → Piece}
    (marks : marked? char = some make) (before name after : List Char) :
    pieceOf ⟨before ++ [char], name, after⟩ = make name := by
  unfold marked? at marks
  split at marks
  · cases marks
    simp [pieceOf, isClass]
  · cases marks
    simp [pieceOf, isClass, isId]
  · cases marks

private theorem pieceOf_of_unmarked {before : List Char}
    (unmarked : ∀ previous ∈ before.getLast?, marked? previous = none) (name after : List Char) :
    pieceOf ⟨before, name, after⟩ = .tagName name := by
  have noPoint : before.getLast? ≠ some '.' := fun last => nomatch unmarked _ last
  have noHash : before.getLast? ≠ some '#' := fun last => nomatch unmarked _ last
  simp [pieceOf, isClass, isId, noPoint, noHash]

/-- From a place where reading may begin, the pieces that are read are those of the runs. -/
theorem pieces_eq_map_runsAfter {before rest : List Char} (restart : Restart before rest) :
    pieces rest = (runsAfter isNameChar before rest).map pieceOf := by
  induction rest using pieces.induct generalizing before with
  | case1 => simp only [pieces, runsAfter, List.map_nil]
  | case2 char rest named ih =>
      have begins := restart char rfl named
      rw [pieces, if_pos named,
        Text.runsAfter_cons_of_run named fun previous last => (begins previous last).1,
        List.map_cons, pieceOf_of_unmarked fun previous last => (begins previous last).2,
        ih (restart_dropWhile _ rest)]
  | case3 char rest unnamed make first name found marks ih =>
      cases rest with
      | nil => cases found
      | cons next further =>
          have named : isNameChar next = true := by
            by_cases other : isNameChar next = true
            · exact other
            · rw [List.takeWhile_cons_of_neg other] at found
              cases found
          have skipped : isNameChar char = false := Bool.eq_false_iff.mpr unnamed
          have starts : ∀ previous ∈ (before ++ [char]).getLast?, isNameChar previous = false := by
            simpa using skipped
          rw [List.takeWhile_cons_of_pos named] at found
          rw [List.dropWhile_cons_of_pos named] at ih
          rw [pieces, if_neg unnamed, Text.runsAfter_cons_of_fails skipped,
            Text.runsAfter_cons_of_run named starts, List.map_cons, pieceOf_of_marked marks]
          simp only [marks, List.takeWhile_cons_of_pos named, List.dropWhile_cons_of_pos named]
          rw [ih (restart_dropWhile _ further)]
  | case4 char rest unnamed nothing ih =>
      have skipped : isNameChar char = false := Bool.eq_false_iff.mpr unnamed
      have goesOn : Restart (before ++ [char]) rest := by
        intro next first named previous last
        rw [List.getLast?_concat, Option.mem_some_iff] at last
        subst last
        refine ⟨skipped, ?_⟩
        cases rest with
        | nil => cases first
        | cons head further =>
            obtain rfl := Option.some.inj first
            cases marks : marked? char with
            | none => rfl
            | some make =>
                exact (nothing make head _ marks (List.takeWhile_cons_of_pos named)).elim
      rw [pieces, if_neg unnamed, Text.runsAfter_cons_of_fails skipped]
      split
      · next make head name marks found => exact (nothing make head name marks found).elim
      · exact ih goesOn

/-- The pieces of a selector are those of its runs. -/
theorem pieces_eq_map_runs (text : List Char) :
    pieces text = (runs isNameChar text).map pieceOf :=
  pieces_eq_map_runsAfter fun _ _ _ _ none => nomatch none

section Names

variable (run : Run)

theorem isId_of_isClass {run : Run} (named : isClass run = true) : isId run = false := by
  simp only [isClass, beq_iff_eq] at named
  simp [isId, named]

/-- The piece of a run is a tag name if the run is. -/
theorem tagName?_pieceOf :
    (pieceOf run).tagName? = if isTagName run then some run.text else none := by
  unfold pieceOf isTagName
  cases isClass run <;> cases isId run <;> rfl

/-- The piece of a run is an id if the run is. -/
theorem id?_pieceOf : (pieceOf run).id? = if isId run then some run.text else none := by
  unfold pieceOf
  cases named : isClass run with
  | true => simp [isId_of_isClass named, Piece.id?]
  | false => cases isId run <;> rfl

/-- The piece of a run is a class if the run is. -/
theorem className?_pieceOf :
    (pieceOf run).className? = if isClass run then some run.text else none := by
  unfold pieceOf
  cases isClass run <;> cases isId run <;> rfl

/-- The names of one kind among the pieces of runs are the texts of the runs of that kind. -/
theorem filterMap_map_pieceOf {read : Piece → Option String} {holds : Run → Bool}
    (same : ∀ run, read (pieceOf run) = if holds run then some run.text else none)
    (runs : List Run) : (runs.map pieceOf).filterMap read = (runs.filter holds).map Run.text := by
  induction runs with
  | nil => rfl
  | cons run rest ih =>
      rw [List.map_cons, List.filterMap_cons, same, List.filter_cons]
      cases holds run with
      | true => exact congrArg (run.text :: ·) ih
      | false => exact ih

end Names

/-- **A selector says what its runs say.** The runs are the maximal stretches of name
characters from left to right. Those behind a point are the classes, the last one behind a hash
sign is the id, and the last of all others is the tag name, or else the default, in lower case. -/
theorem parse_eq_ofRuns (selector defaultTagName : String) :
    (∀ run, run ∈ runs isNameChar selector.toList ↔ run.IsMaximal isNameChar selector.toList) ∧
      (runs isNameChar selector.toList).Pairwise
        (fun first second => first.before.length < second.before.length) ∧
      parse selector defaultTagName =
        ofRuns (runs isNameChar selector.toList) defaultTagName := by
  refine ⟨Text.mem_runs_iff _, Text.pairwise_runsAfter _ _, ?_⟩
  simp only [parse, ofRuns, pieces_eq_map_runs, filterMap_map_pieceOf tagName?_pieceOf,
    filterMap_map_pieceOf id?_pieceOf, filterMap_map_pieceOf className?_pieceOf,
    List.getLast?_map]

/-- Doubled signs, blanks and brackets name nothing. -/
example : parse "p .a ##b [x]" "div" = ⟨"x", some "b", ["a"]⟩ := by decide +kernel

end Selector

end MarkupTree
