import ProcedureAudit.Proofs.Routine.Line
import ProcedureAudit.Routine.Scan

/-!
# One line of a scan

A scan is determined by what one line does: it moves the scanner to another place, and it
completes at most one statement.  Every law of a whole scan is an induction over these two
functions.

The first consequence is that a line `END;` separates: it brings the scanner outside from every
place.  The second is that the scanner may keep the statements found so far in one list and extend
the last of them in place: the list is never empty when its last entry is wanted.
-/

namespace ProcedureAudit.Routine

namespace Place

/-- Where the scanner is after a line. -/
def next (wanted : Option Text) (line : Text) : Place → Place
  | .outside => if opensBody wanted line then .body else .outside
  | .body =>
    if endsBody line then
      .outside
    else if opensSelect line && !endsStatement line then
      .statement (Text.trim line)
    else
      .body
  | .statement opened =>
    if endsBody line then
      .outside
    else if endsStatement line then
      .body
    else
      .statement (opened ++ ' ' :: Text.trim line)

/-- The statements that a line completes, at most one. -/
def completed (line : Text) : Place → List Text
  | .outside => []
  | .body =>
    if !endsBody line && opensSelect line && endsStatement line then [Text.trim line] else []
  | .statement opened =>
    if endsBody line then
      [opened]
    else if endsStatement line then
      [opened ++ ' ' :: Text.trim line]
    else
      []

/-- The statements that the end of the input completes, at most one. -/
def unfinished : Place → List Text
  | .outside => []
  | .body => []
  | .statement opened => [opened]

end Place

theorem scanLines_nil (wanted : Option Text) (place : Place) :
    scanLines wanted place [] = place.unfinished := by
  cases place <;> rfl

theorem scanLines_cons
    (wanted : Option Text)
    (place : Place)
    (line : Text)
    (rest : List Text) :
    scanLines wanted place (line :: rest) =
      place.completed line ++ scanLines wanted (place.next wanted line) rest := by
  cases place with
  | outside =>
      cases opens : opensBody wanted line <;>
        simp [scanLines, Place.completed, Place.next, opens]
  | body =>
      cases ends : endsBody line <;> cases selects : opensSelect line <;>
        cases marked : endsStatement line <;>
        simp [scanLines, Place.completed, Place.next, ends, selects, marked]
  | statement opened =>
      cases ends : endsBody line <;> cases marked : endsStatement line <;>
        simp [scanLines, Place.completed, Place.next, ends, marked]

/-! ## What a scan keeps -/

/-- One line completes and leaves open only what is kept, if opening and extending keep it. -/
theorem Place.keeps_of_line
    {Kept : Text → Prop}
    {place : Place}
    {line : Text}
    (start : ∀ opened ∈ place.unfinished, Kept opened)
    (opening : Kept (Text.trim line))
    (extending : ∀ opened, Kept opened → Kept (opened ++ ' ' :: Text.trim line))
    (wanted : Option Text) :
    (∀ select ∈ place.completed line, Kept select) ∧
      ∀ opened ∈ (place.next wanted line).unfinished, Kept opened := by
  cases place with
  | outside =>
      rw [Place.completed, Place.next]
      split <;> simp [Place.unfinished]
  | body =>
      rw [Place.completed, Place.next]
      constructor
      · split
        · exact List.forall_mem_singleton.2 opening
        · exact List.forall_mem_nil _
      · split
        · exact List.forall_mem_nil _
        · split
          · exact List.forall_mem_singleton.2 opening
          · exact List.forall_mem_nil _
  | statement opened =>
      have keptOpened : Kept opened := start opened (List.mem_singleton.2 rfl)
      have keptExtended := extending opened keptOpened
      rw [Place.completed, Place.next]
      split
      · exact ⟨List.forall_mem_singleton.2 keptOpened, List.forall_mem_nil _⟩
      · split
        · exact ⟨List.forall_mem_singleton.2 keptExtended, List.forall_mem_nil _⟩
        · exact ⟨List.forall_mem_nil _, List.forall_mem_singleton.2 keptExtended⟩

/-- What single lines have and joining with a line keeps, all scanned statements have. -/
theorem scanLines_keeps
    {Kept : Text → Prop}
    {wanted : Option Text}
    {place : Place}
    {lines : List Text}
    (start : ∀ opened ∈ place.unfinished, Kept opened)
    (opening : ∀ line ∈ lines, Kept (Text.trim line))
    (extending : ∀ line ∈ lines, ∀ opened, Kept opened → Kept (opened ++ ' ' :: Text.trim line)) :
    ∀ select ∈ scanLines wanted place lines, Kept select := by
  induction lines generalizing place with
  | nil =>
      rw [scanLines_nil]
      exact start
  | cons line rest induction =>
      rw [List.forall_mem_cons] at opening extending
      rcases Place.keeps_of_line start opening.1 extending.1 wanted with ⟨completed, unfinished⟩
      rw [scanLines_cons]
      exact List.forall_mem_append.2 ⟨completed, induction unfinished opening.2 extending.2⟩

theorem lineFeed_not_mem_of_mem_codeLines
    {source line : Text}
    (member : line ∈ codeLines source) :
    '\n' ∉ line := by
  rcases List.mem_map.1 member with ⟨written, writtenMember, rfl⟩
  have plain := lineFeed_not_mem_of_mem_sourceLines writtenMember
  rcases eq_beforeComment_append written with ⟨comment, split, -⟩
  rw [stripComment_eq_beforeComment plain]
  intro lineFeed
  have within := List.mem_append_left comment lineFeed
  rw [← split] at within
  exact plain within

/-- A scanned statement stands on one line, whatever its file holds. -/
theorem lineFeed_not_mem_scanSelects (source : Text) (procedure : Option Text) :
    ∀ select ∈ scanSelects source procedure, '\n' ∉ select := by
  have trimmed {line : Text} (lineMember : line ∈ codeLines source) : '\n' ∉ Text.trim line := by
    intro lineFeed
    exact lineFeed_not_mem_of_mem_codeLines lineMember ((Text.trim_infix line).mem lineFeed)
  refine scanLines_keeps ?_ ?_ ?_
  · exact List.forall_mem_nil _
  · intro line lineMember
    exact trimmed lineMember
  · intro line lineMember opened openedPlain lineFeed
    rcases List.mem_append.1 lineFeed with inOpened | inLine
    · exact openedPlain inOpened
    · rcases List.mem_cons.1 inLine with space | inside
      · contradiction
      · exact trimmed lineMember inside

/-! ## The end of a body -/

theorem opensBody_eq_false_of_endsBody
    {line : Text}
    (ends : endsBody line = true)
    (wanted : Option Text) :
    opensBody wanted line = false := by
  have undeclared : declaredName? line = none := by
    cases closing : Text.dropKeyword? "end;".toList line with
    | none =>
        rw [endsBody, closing] at ends
        contradiction
    | some blanks =>
        cases opening : Text.dropKeyword? "create procedure ".toList line with
        | none =>
            rw [declaredName?, opening]
            rfl
        | some after =>
            have first := Text.head?_of_dropKeyword? closing
            have other := Text.head?_of_dropKeyword? opening
            rw [first] at other
            contradiction
  unfold opensBody
  rw [undeclared]

theorem Place.next_of_endsBody
    {line : Text}
    (ends : endsBody line = true)
    (wanted : Option Text)
    (place : Place) :
    place.next wanted line = .outside := by
  cases place with
  | outside => simp [Place.next, opensBody_eq_false_of_endsBody ends]
  | body => simp [Place.next, ends]
  | statement opened => simp [Place.next, ends]

theorem Place.completed_of_endsBody
    {line : Text}
    (ends : endsBody line = true)
    (place : Place) :
    place.completed line = place.unfinished := by
  cases place <;> simp [Place.completed, Place.unfinished, ends]

/-- A line that closes a body separates the statements before it from those after it. -/
theorem scanLines_append_endsBody
    {line : Text}
    (ends : endsBody line = true)
    (wanted : Option Text)
    (place : Place)
    (before after : List Text) :
    scanLines wanted place (before ++ line :: after) =
      scanLines wanted place before ++ scanLines wanted .outside after := by
  induction before generalizing place with
  | nil =>
      rw [List.nil_append, scanLines_cons, scanLines_nil, Place.completed_of_endsBody ends,
        Place.next_of_endsBody ends]
  | cons first before induction =>
      rw [List.cons_append, scanLines_cons, scanLines_cons, induction, List.append_assoc]

/-! ## The statements so far in one list -/

/-- Where the scanner is, without the text of an open statement. -/
inductive Stage where
  | searching
  | inBody
  | inStatement
deriving DecidableEq, Repr

/-- A scan in progress: the statements so far, of which an open one is the last. -/
structure Progress where
  stage : Stage
  selects : List Text
deriving DecidableEq, Repr

namespace Progress

def start : Progress where
  stage := .searching
  selects := []

/-- Extend the last statement by a line; without a statement there is nothing to extend. -/
def extendLast? (line : Text) (selects : List Text) : Option (List Text) :=
  selects.getLast?.map fun last => selects.dropLast ++ [last ++ ' ' :: Text.trim line]

/-- The stage after a line of a statement. -/
def stageAfter (line : Text) : Stage :=
  if endsStatement line then .inBody else .inStatement

/-- The progress after a line, unless a statement is to be extended and there is none. -/
def advance? (wanted : Option Text) (progress : Progress) (line : Text) : Option Progress :=
  match progress.stage with
  | .searching =>
    some { progress with stage := if opensBody wanted line then .inBody else .searching }
  | .inBody =>
    if endsBody line then
      some { progress with stage := .searching }
    else if opensSelect line then
      some { stage := stageAfter line, selects := progress.selects ++ [Text.trim line] }
    else
      some progress
  | .inStatement =>
    if endsBody line then
      some { progress with stage := .searching }
    else
      (extendLast? line progress.selects).map fun selects => { stage := stageAfter line, selects }

def stageOf : Place → Stage
  | .outside => .searching
  | .body => .inBody
  | .statement _ => .inStatement

/-- The progress at a place when the statements before the open one are given. -/
def atPlace (done : List Text) (place : Place) : Progress where
  stage := stageOf place
  selects := done ++ place.unfinished

theorem extendLast?_concat (line : Text) (done : List Text) (opened : Text) :
    extendLast? line (done ++ [opened]) = some (done ++ [opened ++ ' ' :: Text.trim line]) := by
  simp [extendLast?]

/-- A line never finds the list of statements empty when it wants to extend the last one. -/
theorem advance?_atPlace
    (wanted : Option Text)
    (done : List Text)
    (place : Place)
    (line : Text) :
    advance? wanted (atPlace done place) line =
      some (atPlace (done ++ place.completed line) (place.next wanted line)) := by
  cases place with
  | outside =>
      cases opens : opensBody wanted line <;>
        simp [advance?, atPlace, stageOf, Place.unfinished, Place.completed, Place.next, opens]
  | body =>
      cases ends : endsBody line <;> cases selects : opensSelect line <;>
        cases marked : endsStatement line <;>
        simp [advance?, atPlace, stageOf, stageAfter, Place.unfinished, Place.completed,
          Place.next, ends, selects, marked]
  | statement opened =>
      cases ends : endsBody line <;> cases marked : endsStatement line <;>
        simp [advance?, atPlace, stageOf, stageAfter, Place.unfinished, Place.completed,
          Place.next, extendLast?_concat, ends, marked]

/-- A run over lines succeeds and collects exactly what the scanner yields. -/
theorem foldlM_advance?
    (wanted : Option Text)
    (lines done : List Text)
    (place : Place) :
    ∃ stage, lines.foldlM (advance? wanted) (atPlace done place) =
      some { stage, selects := done ++ scanLines wanted place lines } := by
  induction lines generalizing done place with
  | nil =>
      exact ⟨stageOf place, by rw [scanLines_nil]; rfl⟩
  | cons line rest induction =>
      rcases induction (done ++ place.completed line) (place.next wanted line) with ⟨stage, run⟩
      refine ⟨stage, ?_⟩
      rw [List.foldlM_cons, advance?_atPlace, scanLines_cons, ← List.append_assoc]
      exact run

end Progress

end ProcedureAudit.Routine
