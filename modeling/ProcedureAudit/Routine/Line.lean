import ProcedureAudit.Text.LetterCase

/-!
# Lines of routine source

The conventions of the source files make every decision a decision about one line: a line may
declare a procedure, close a procedure body, or open a `SELECT` statement, and everything from
the first comment delimiter on is a comment.
-/

namespace ProcedureAudit.Routine

/-- The lines of a source text; carriage returns before a line feed are dropped. -/
def sourceLines (source : Text) : List Text :=
  (Text.splitOn '\n' source).map (Text.dropEndWhile (· = '\r'))

/--
What remains after a comment whose text is `rest`: nothing, or one final line feed.  Text on a
further line means that the comment is not the last thing on the line.
-/
def afterComment? (rest : Text) : Option Text :=
  match rest.dropWhile (· ≠ '\n') with
  | [] => some []
  | ['\n'] => some ['\n']
  | _ => none

/-- The line up to its comment. -/
def stripComment : Text → Text
  | [] => []
  | character :: rest =>
    match (Text.dropOpening? "--".toList (character :: rest)).bind afterComment? with
    | some remainder => remainder
    | none => character :: stripComment rest

/--
The procedure name at the beginning of a text: letters, an underscore, and digits, each part as
long as possible.
-/
def leadingName? (text : Text) : Option Text :=
  let letters := text.takeWhile Text.isLetterVariant
  match text.dropWhile Text.isLetterVariant with
  | '_' :: rest =>
    let digits := rest.takeWhile fun character => '0' ≤ character && character ≤ '9'
    if letters.isEmpty || digits.isEmpty then none else some (letters ++ '_' :: digits)
  | _ => none

/-- The text without one back-tick at its beginning. -/
def dropBacktick : Text → Text
  | '\x60' :: rest => rest
  | text => text

/-- The procedure name that a line declares. -/
def declaredName? (line : Text) : Option Text :=
  (Text.dropKeyword? "create procedure ".toList line).bind fun rest =>
    leadingName? (dropBacktick rest)

/-- Whether the line closes a procedure body. -/
def endsBody (line : Text) : Bool :=
  match Text.dropKeyword? "end;".toList line with
  | some rest => rest.all Text.isBlank
  | none => false

/-- Whether the line opens a statement. -/
def opensSelect (line : Text) : Bool :=
  (Text.dropKeyword? "select".toList (line.dropWhile Text.isBlank)).isSome

/-- Whether the line holds the end mark of a statement. -/
def endsStatement (line : Text) : Bool :=
  ';' ∈ line

end ProcedureAudit.Routine
