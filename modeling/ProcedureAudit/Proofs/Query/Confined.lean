import ProcedureAudit.Proofs.Query.Dissection
import ProcedureAudit.Proofs.Query.Placeholder

/-!
# Placeholders between delimiters

A placeholder begins with a delimiter and ends before the next one, so a text can be cut before
any delimiter and its parts be substituted on their own.  What stands at a delimiter, a placeholder
or not, depends on the segment up to the next delimiter only.
-/

namespace ProcedureAudit.Query

open ProcedureAudit.Routine (dropBacktick dropBacktick_append_stop)

/-! ## Delimiters stop the reading of a placeholder -/

theorem isLetter_eq_false_of_isDelimiter
    {character : Char}
    (delimiter : isDelimiter character = true) :
    Text.isLetter character = false := by
  simp only [isDelimiter, Bool.or_eq_true, decide_eq_true_eq] at delimiter
  rcases delimiter with rfl | rfl <;> decide

theorem ne_backtick_of_isDelimiter
    {character : Char}
    (delimiter : isDelimiter character = true) :
    character ≠ '\x60' := by
  rintro rfl
  contradiction

/-- A placeholder with more text after it. -/
def Placeholder.followedBy (found : Placeholder) (text : Text) : Placeholder :=
  { found with rest := found.rest ++ text }

/-- Placeholders of the form begin with a delimiter and end before the next one. -/
structure PlaceholderForm.Confined (form : PlaceholderForm) : Prop where
  suffix : ∀ {text : Text} {found : Placeholder},
    form.recognise? text = some found → found.rest <:+ text
  begins : ∀ {character : Char} {text : Text} {found : Placeholder},
    form.recognise? (character :: text) = some found →
      found.delimiter = character ∧ isDelimiter character = true
  stops : ∀ {delimiter : Char}, isDelimiter delimiter = true →
    ∀ (character : Char) (before after : Text),
      form.recognise? (character :: (before ++ delimiter :: after)) =
        (form.recognise? (character :: before)).map (·.followedBy (delimiter :: after))

theorem leadingForm?_append_delimiter
    {delimiter : Char}
    (stops : isDelimiter delimiter = true)
    (character : Char)
    (before after : Text) :
    leadingForm? (character :: (before ++ delimiter :: after)) =
      (leadingForm? (character :: before)).map (·.followedBy (delimiter :: after)) := by
  have notLetter := isLetter_eq_false_of_isDelimiter stops
  have notTick := ne_backtick_of_isDelimiter stops
  have body := dropBacktick_append_stop notTick before after
  have marked : delimiter ∉ "in".toList := by
    intro member
    rw [isLetter_of_mem_in delimiter member] at notLetter
    contradiction
  simp only [leadingForm?, body, Text.dropOpening?_append_stop marked]
  split
  · rfl
  · cases Text.dropOpening? "in".toList (dropBacktick before) with
    | none => rfl
    | some rest =>
        simp only [Option.map_some, afterLetters, Text.takeWhile_append_stop notLetter,
          Text.dropWhile_append_stop notLetter, dropBacktick_append_stop notTick]
        split
        · split <;> rfl
        · rfl

theorem trailingForm?_append_delimiter
    {delimiter : Char}
    (stops : isDelimiter delimiter = true)
    (character : Char)
    (before after : Text) :
    trailingForm? (character :: (before ++ delimiter :: after)) =
      (trailingForm? (character :: before)).map (·.followedBy (delimiter :: after)) := by
  have notLetter := isLetter_eq_false_of_isDelimiter stops
  have notTick := ne_backtick_of_isDelimiter stops
  have body := dropBacktick_append_stop notTick before after
  simp only [trailingForm?, body, afterLetters, Text.takeWhile_append_stop notLetter,
    Text.dropWhile_append_stop notLetter, ← List.append_assoc, dropBacktick_append_stop notTick]
  split
  · rfl
  · split
    · rfl
    · rw [Option.map_map]
      rfl

theorem recognise?_leading_iff {text : Text} {found : Placeholder} :
    PlaceholderForm.leading.recognise? text = some found ↔ LeadingAt text found :=
  leadingForm?_eq_some_iff

theorem recognise?_trailing_iff {text : Text} {found : Placeholder} :
    PlaceholderForm.trailing.recognise? text = some found ↔ TrailingAt text found :=
  trailingForm?_eq_some_iff

theorem confined_leading : PlaceholderForm.leading.Confined where
  suffix := by
    intro text found recognised
    exact (recognise?_leading_iff.1 recognised).suffix
  begins := by
    intro character text found recognised
    rw [recognise?_leading_iff] at recognised
    rcases recognised.written with ⟨body, tail, same, -⟩
    obtain ⟨rfl, -⟩ := List.cons.inj same
    exact ⟨rfl, recognised.delimited⟩
  stops := leadingForm?_append_delimiter

theorem confined_trailing : PlaceholderForm.trailing.Confined where
  suffix := by
    intro text found recognised
    exact (recognise?_trailing_iff.1 recognised).suffix
  begins := by
    intro character text found recognised
    rw [recognise?_trailing_iff] at recognised
    rcases recognised.written with ⟨body, content, tail, same, -⟩
    obtain ⟨rfl, -⟩ := List.cons.inj same
    exact ⟨rfl, recognised.delimited⟩
  stops := trailingForm?_append_delimiter

/-! ## Cutting a text before a delimiter -/

theorem substituteForm_nil (form : PlaceholderForm) (registry : Registry) :
    substituteForm form registry [] = [] := by
  rw [substituteForm, pieces]
  rfl

theorem substituteForm_of_eq_none
    {form : PlaceholderForm}
    {character : Char}
    {rest : Text}
    (unrecognised : form.recognise? (character :: rest) = none)
    (registry : Registry) :
    substituteForm form registry (character :: rest) =
      character :: substituteForm form registry rest := by
  rw [substituteForm, pieces_of_eq_none unrecognised]
  rfl

theorem substituteForm_of_eq_some
    {form : PlaceholderForm}
    {text : Text}
    {found : Placeholder}
    (recognised : form.recognise? text = some found)
    (registry : Registry) :
    substituteForm form registry text =
      (Piece.argument found.delimiter found.name).fill registry ++
        substituteForm form registry found.rest := by
  rw [substituteForm, pieces_of_eq_some recognised, List.flatMap_cons]
  rfl

/-- The text up to its first delimiter. -/
def segment (text : Text) : Text :=
  text.takeWhile (!isDelimiter ·)

theorem isDelimiter_eq_false_of_mem_segment
    {text : Text}
    {character : Char}
    (member : character ∈ segment text) :
    isDelimiter character = false := by
  have undelimited := List.mem_takeWhile_imp member
  simpa using undelimited

/-- A text is its first segment, perhaps with a delimiter and more text after it. -/
theorem eq_segment_or_append (text : Text) :
    text = segment text ∨
      ∃ delimiter after, isDelimiter delimiter = true ∧ text = segment text ++ delimiter :: after := by
  have parts := List.takeWhile_append_dropWhile (p := (!isDelimiter ·)) (l := text)
  cases later : text.dropWhile (!isDelimiter ·) with
  | nil =>
      rw [later, List.append_nil] at parts
      exact Or.inl parts.symm
  | cons delimiter after =>
      have stops := List.head?_dropWhile_not (!isDelimiter ·) text
      rw [later] at stops parts
      exact Or.inr ⟨delimiter, after, by simpa using stops, parts.symm⟩

theorem segment_append_of_undelimited
    {part : Text}
    (undelimited : ∀ character ∈ part, isDelimiter character = false)
    (rest : Text) :
    segment (part ++ rest) = part ++ segment rest := by
  refine List.takeWhile_append_of_pos fun character member => ?_
  rw [undelimited character member]
  rfl

theorem segment_cons_delimiter
    {delimiter : Char}
    (stops : isDelimiter delimiter = true)
    (after : Text) :
    segment (delimiter :: after) = [] := by
  rw [segment, List.takeWhile_cons_of_neg]
  simp [stops]

namespace PlaceholderForm.Confined

variable {form : PlaceholderForm} (confined : form.Confined)

include confined

theorem recognise?_eq_none
    {character : Char}
    (undelimited : isDelimiter character = false)
    (text : Text) :
    form.recognise? (character :: text) = none := by
  cases recognised : form.recognise? (character :: text) with
  | none => rfl
  | some found =>
      have delimited := (confined.begins recognised).2
      rw [undelimited] at delimited
      contradiction

/-- The pieces up to a delimiter are those of the text before it, read on its own. -/
theorem pieces_append
    {delimiter : Char}
    (stops : isDelimiter delimiter = true)
    (before after : Text) :
    pieces form (before ++ delimiter :: after) =
      pieces form before ++ pieces form (delimiter :: after) := by
  induction before using pieces.induct form with
  | case1 => simp [pieces]
  | case2 character rest found recognised induction =>
      have extended := confined.stops stops character rest after
      rw [recognised, Option.map_some] at extended
      rw [List.cons_append, pieces_of_eq_some extended, pieces_of_eq_some recognised]
      exact congrArg (List.cons _) induction
  | case3 character rest unrecognised induction =>
      have extended := confined.stops stops character rest after
      rw [unrecognised, Option.map_none] at extended
      rw [List.cons_append, pieces_of_eq_none extended, pieces_of_eq_none unrecognised, induction]
      rfl

theorem substituteForm_append
    {delimiter : Char}
    (stops : isDelimiter delimiter = true)
    (registry : Registry)
    (before after : Text) :
    substituteForm form registry (before ++ delimiter :: after) =
      substituteForm form registry before ++
        substituteForm form registry (delimiter :: after) := by
  rw [substituteForm, confined.pieces_append stops, List.flatMap_append]
  rfl

/-- A text keeps its first character: a placeholder keeps its delimiter. -/
theorem head?_substituteForm (registry : Registry) (text : Text) :
    (substituteForm form registry text).head? = text.head? := by
  cases text with
  | nil => rw [substituteForm_nil]
  | cons character rest =>
      cases recognised : form.recognise? (character :: rest) with
      | none =>
          rw [substituteForm_of_eq_none recognised]
          rfl
      | some found =>
          rw [substituteForm_of_eq_some recognised, (confined.begins recognised).1]
          rfl

/-! ## Segments -/

/-- Without a delimiter in it, the beginning of a text is kept. -/
theorem substituteForm_append_of_undelimited
    {part : Text}
    (undelimited : ∀ character ∈ part, isDelimiter character = false)
    (registry : Registry)
    (rest : Text) :
    substituteForm form registry (part ++ rest) = part ++ substituteForm form registry rest := by
  induction part with
  | nil => rfl
  | cons character part induction =>
      rcases List.forall_mem_cons.1 undelimited with ⟨here, later⟩
      rw [List.cons_append, substituteForm_of_eq_none (confined.recognise?_eq_none here _),
        induction later]
      rfl

/-- The segment at the beginning of a text is kept. -/
theorem segment_substituteForm (registry : Registry) (text : Text) :
    segment (substituteForm form registry text) = segment text := by
  have undelimited (character : Char) (member : character ∈ segment text) :=
    isDelimiter_eq_false_of_mem_segment member
  rcases eq_segment_or_append text with whole | ⟨delimiter, after, stops, split⟩
  · have kept := confined.substituteForm_append_of_undelimited undelimited registry []
    rw [← whole, List.append_nil, substituteForm_nil, List.append_nil] at kept
    rw [kept]
  · -- The segment is kept, and so is the delimiter that ends it.
    have first : (substituteForm form registry (delimiter :: after)).head? = some delimiter :=
      confined.head?_substituteForm registry (delimiter :: after)
    rcases List.head?_eq_some_iff.1 first with ⟨following, shape⟩
    conv => lhs; rw [split]
    rw [confined.substituteForm_append_of_undelimited undelimited, shape,
      segment_append_of_undelimited undelimited, segment_cons_delimiter stops, List.append_nil]

/-- The placeholder that begins at a character has its name from the segment after it. -/
theorem map_name_recognise?_segment (character : Char) (text : Text) :
    (form.recognise? (character :: segment text)).map Placeholder.name =
      (form.recognise? (character :: text)).map Placeholder.name := by
  rcases eq_segment_or_append text with whole | ⟨delimiter, after, stops, split⟩
  · rw [← whole]
  · conv => rhs; rw [split, confined.stops stops, Option.map_map]
    rfl

theorem recognise?_eq_none_of_segment_eq
    {first second : Text}
    (same : segment first = segment second)
    {character : Char}
    (unrecognised : form.recognise? (character :: first) = none) :
    form.recognise? (character :: second) = none := by
  have names := confined.map_name_recognise?_segment character second
  rw [← same, confined.map_name_recognise?_segment, unrecognised] at names
  exact Option.map_eq_none_iff.1 names.symm

end PlaceholderForm.Confined

end ProcedureAudit.Query
