import ProcedureAudit.Query.Registry
import ProcedureAudit.Routine.Line

/-!
# Placeholders

Procedure arguments are recognised in a statement by their naming convention alone: `inXxx` or
`xxxArg`, after a space or an opening parenthesis, and optionally between back-ticks.  For either
form a text splits into single characters and placeholders; `pieces` reads it from the left and
always takes the longest placeholder.
-/

namespace ProcedureAudit.Query

open ProcedureAudit.Routine (dropBacktick)

/-- A placeholder at the beginning of a text. -/
structure Placeholder where
  /-- The space or parenthesis in front. -/
  delimiter : Char
  /-- The argument name, without the mark of its form. -/
  name : Text
  /-- What follows the placeholder. -/
  rest : Text
deriving DecidableEq, Repr

/-- Whether a placeholder may follow the character. -/
def isDelimiter (character : Char) : Bool :=
  character = ' ' || character = '('

/-- The rest of a text after its leading letters. -/
def afterLetters (text : Text) : Text :=
  text.dropWhile Text.isLetter

/-- A placeholder `inXxx`: capitalised words after `in`. -/
def leadingForm? : Text → Option Placeholder
  | [] => none
  | delimiter :: text =>
    if !isDelimiter delimiter then
      none
    else
      match Text.dropOpening? "in".toList (dropBacktick text) with
      | none => none
      | some rest =>
        match rest.takeWhile Text.isLetter with
        | first :: second :: more =>
          if Text.isCapital first then
            some { delimiter, name := first :: second :: more
                   rest := dropBacktick (afterLetters rest) }
          else
            none
        | _ => none

/--
The last place after the small letters of a word where `Arg` may close the name.  A capitalised
word of a name has at least two letters, so the place one letter further is left out.
-/
def closingPlace? (capitalised : Text) : Option Nat :=
  ((List.range capitalised.length).reverse.find? fun place =>
    place ≠ 1 && Text.beginsWith "Arg".toList (capitalised.drop place))

/-- A placeholder `xxxArg`: a camel-case name before `Arg`. -/
def trailingForm? : Text → Option Placeholder
  | [] => none
  | delimiter :: text =>
    if !isDelimiter delimiter then
      none
    else
      let body := dropBacktick text
      let word := body.takeWhile Text.isLetter
      let small := word.takeWhile Text.isSmall
      let capitalised := word.dropWhile Text.isSmall
      if small.isEmpty then
        none
      else
        (closingPlace? capitalised).map fun place =>
          { delimiter
            name := small ++ capitalised.take place
            rest := dropBacktick (capitalised.drop (place + 3) ++ afterLetters body) }

theorem dropBacktick_length_le (text : Text) :
    (dropBacktick text).length ≤ text.length := by
  unfold dropBacktick
  split <;> simp

theorem afterLetters_length_le (text : Text) :
    (afterLetters text).length ≤ text.length :=
  (List.dropWhile_sublist Text.isLetter).length_le

theorem dropOpening?_length_le {opening text rest : Text}
    (found : Text.dropOpening? opening text = some rest) :
    rest.length ≤ text.length := by
  induction opening generalizing text with
  | nil =>
    simp only [Text.dropOpening?, Option.some.injEq] at found
    exact found ▸ Nat.le_refl _
  | cons wanted opening induction =>
    cases text with
    | nil => simp [Text.dropOpening?] at found
    | cons character text =>
      simp only [Text.dropOpening?] at found
      split at found
      · exact Nat.le_succ_of_le (induction found)
      · contradiction

theorem leadingForm?_shorter {text : Text} {found : Placeholder}
    (recognised : leadingForm? text = some found) :
    found.rest.length < text.length := by
  cases text with
  | nil => simp [leadingForm?] at recognised
  | cons delimiter text =>
    simp only [leadingForm?] at recognised
    split at recognised
    · contradiction
    · split at recognised
      · contradiction
      · rename_i rest opened
        split at recognised
        · split at recognised
          · injection recognised with recognised
            subst recognised
            have opening := dropOpening?_length_le opened
            have first := dropBacktick_length_le text
            have last := dropBacktick_length_le (afterLetters rest)
            have letters := afterLetters_length_le rest
            simp only [List.length_cons]
            omega
          · contradiction
        · contradiction

theorem trailingForm?_shorter {text : Text} {found : Placeholder}
    (recognised : trailingForm? text = some found) :
    found.rest.length < text.length := by
  cases text with
  | nil => simp [trailingForm?] at recognised
  | cons delimiter text =>
    simp only [trailingForm?] at recognised
    split at recognised
    · contradiction
    · split at recognised
      · contradiction
      · obtain ⟨place, _, rfl⟩ := Option.map_eq_some_iff.1 recognised
        have first := dropBacktick_length_le text
        have last := dropBacktick_length_le
          ((((dropBacktick text).takeWhile Text.isLetter).dropWhile Text.isSmall).drop (place + 3) ++
            afterLetters (dropBacktick text))
        have split := congrArg List.length
          (List.takeWhile_append_dropWhile (p := Text.isLetter) (l := dropBacktick text))
        have word := (List.dropWhile_sublist
          (l := (dropBacktick text).takeWhile Text.isLetter) Text.isSmall).length_le
        simp only [List.length_append, List.length_drop, afterLetters] at *
        simp only [List.length_cons]
        omega

/-- A way to mark arguments: how to recognise one, and that recognising consumes text. -/
structure PlaceholderForm where
  recognise? : Text → Option Placeholder
  shorter :
    ∀ {text : Text} {found : Placeholder},
      recognise? text = some found → found.rest.length < text.length

/-- Arguments written `inXxx`. -/
def PlaceholderForm.leading : PlaceholderForm where
  recognise? := leadingForm?
  shorter := leadingForm?_shorter

/-- Arguments written `xxxArg`. -/
def PlaceholderForm.trailing : PlaceholderForm where
  recognise? := trailingForm?
  shorter := trailingForm?_shorter

/-- A part of a text: one character outside all placeholders, or a placeholder. -/
inductive Piece where
  | plain (character : Char)
  | argument (delimiter : Char) (name : Text)
deriving DecidableEq, Repr

/-- The pieces of a text, with every placeholder of the given form recognised from the left. -/
def pieces (form : PlaceholderForm) (text : Text) : List Piece :=
  match text with
  | [] => []
  | character :: rest =>
    match _found : form.recognise? (character :: rest) with
    | some placeholder =>
      .argument placeholder.delimiter placeholder.name :: pieces form placeholder.rest
    | none => .plain character :: pieces form rest
termination_by text.length
decreasing_by
  · exact form.shorter _found
  · simp

end ProcedureAudit.Query
