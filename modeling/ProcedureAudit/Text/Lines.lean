import ProcedureAudit.Text.Basic

/-!
# Line ends

Three notions of a line live here.  `unifyLineEnds` turns the two carriage-return conventions
into plain line feeds, as every file is read.  `lines` cuts at every line boundary that Unicode
and ASCII know.  Splitting at line feeds alone is `splitOn '\n'`.
-/

namespace ProcedureAudit.Text

/-- A carriage return, alone or before a line feed, becomes one line feed. -/
def unifyLineEnds : Text → Text
  | [] => []
  | '\r' :: '\n' :: rest => '\n' :: unifyLineEnds rest
  | '\r' :: rest => '\n' :: unifyLineEnds rest
  | character :: rest => character :: unifyLineEnds rest

/-- Whether the character alone ends a line. -/
def endsLine (character : Char) : Bool :=
  character = '\n' || character = '\r' || character = '\x0B' || character = '\x0C' ||
    character = '\x1C' || character = '\x1D' || character = '\x1E' || character = '\u0085' ||
    character = '\u2028' || character = '\u2029'

/-- The text after a line end, which takes the line feed after a carriage return with it. -/
def afterLineEnd (lineEnd : Char) (rest : Text) : Text :=
  match rest with
  | '\n' :: following => if lineEnd = '\r' then following else rest
  | _ => rest

theorem afterLineEnd_length_le (lineEnd : Char) (rest : Text) :
    (afterLineEnd lineEnd rest).length ≤ rest.length := by
  unfold afterLineEnd
  split
  · split <;> simp
  · exact Nat.le_refl _

/-- The lines of a text, without their ends; no line follows a final line end. -/
def lines (text : Text) : List Text :=
  match _ending : text.dropWhile fun character => !endsLine character with
  | [] => if text.isEmpty then [] else [text]
  | lineEnd :: rest =>
    text.takeWhile (fun character => !endsLine character) :: lines (afterLineEnd lineEnd rest)
termination_by text.length
decreasing_by
  have shorter := afterLineEnd_length_le lineEnd rest
  have suffix := (List.dropWhile_sublist (l := text) fun character => !endsLine character).length_le
  rw [_ending] at suffix
  simp only [List.length_cons] at suffix
  omega

end ProcedureAudit.Text
