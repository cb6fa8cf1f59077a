import ProcedureAudit.Text.Basic

/-!
# Flaws of a configuration

A configuration is checked as a whole: every flaw is reported with the place where it is and with
what should be there instead.
-/

namespace ProcedureAudit.Config

/-- What is wrong at a place. -/
inductive Complaint where
  | text
  | undecodableText
  | list
  | dictionary
  /-- Not a section of the given kind. -/
  | group (kind : Text)
  | addressScheme
  | level
  | integer
  | integerText
  | fraction
  | infinite
  | hugeInteger
  | tooFew
  | tooMany
  | number
  | numberText
deriving DecidableEq, Repr

/-- A complaint in words. -/
def Complaint.message : Complaint → Text
  | .text => "Input should be a valid string"
  | .undecodableText =>
    "Input should be a valid string, unable to parse raw data as a unicode string"
  | .list => "Input should be a valid list"
  | .dictionary => "Input should be a valid dictionary"
  | .group kind => "Input should be a valid dictionary or instance of " ++ kind
  | .addressScheme => "Value error, dsn must start with 'mysql://'"
  | .level => "Input should be 'DEBUG', 'INFO', 'WARNING' or 'ERROR'"
  | .integer => "Input should be a valid integer"
  | .integerText => "Input should be a valid integer, unable to parse string as an integer"
  | .fraction => "Input should be a valid integer, got a number with a fractional part"
  | .infinite => "Input should be a finite number"
  | .hugeInteger => "Unable to parse input string as an integer, exceeded maximum size"
  | .tooFew => "Input should be greater than or equal to 1"
  | .tooMany => "Input should be less than or equal to 10000"
  | .number => "Input should be a valid number"
  | .numberText => "Input should be a valid number, unable to parse string as a number"

/-- A complaint with its place, the names on the way to it. -/
structure Flaw where
  place : List Text
  complaint : Complaint
deriving DecidableEq, Repr

/-- A name on the way to a place, set off by marks if it holds a point itself. -/
def placeName (name : Text) : Text :=
  if '.' ∈ name then '\x60' :: name ++ ['\x60'] else name

/-- A flaw on one or two lines; the whole has no place. -/
def Flaw.lines (flaw : Flaw) : List Text :=
  (if flaw.place.isEmpty then [] else [Text.joinWith ['.'] (flaw.place.map placeName)]) ++
    [' ' :: ' ' :: flaw.complaint.message]

/-- The flaws of a model in words. -/
def flawsMessage (model : Text) (flaws : List Flaw) : Text :=
  let noun : Text :=
    if flaws.length = 1 then " validation error for " else " validation errors for "
  Text.joinWith ['\n'] ((Text.ofNat flaws.length ++ noun ++ model) :: flaws.flatMap Flaw.lines)

/-- A result, or the flaws that stand in its way. -/
abbrev Checked (α : Type) := Except (List Flaw) α

namespace Checked

/-- The flaw that a complaint at a place is. -/
def complain {α : Type} (place : List Text) (complaint : Complaint) : Checked α :=
  .error [{ place, complaint }]

/-- Two results, or the flaws of both. -/
def both {α β : Type} (first : Checked α) (second : Checked β) : Checked (α × β) :=
  match first, second with
  | .ok first, .ok second => .ok (first, second)
  | .ok _, .error flaws => .error flaws
  | .error flaws, .ok _ => .error flaws
  | .error flaws, .error further => .error (flaws ++ further)

/-- All results, or the flaws of all. -/
def all {α : Type} : List (Checked α) → Checked (List α)
  | [] => .ok []
  | result :: results => (both result (all results)).map fun (first, rest) => first :: rest

end Checked

end ProcedureAudit.Config
