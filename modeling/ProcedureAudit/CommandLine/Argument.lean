import ProcedureAudit.CommandLine.Misuse
import ProcedureAudit.Text.Digits

/-!
# Arguments

An argument is a switch, possibly abbreviated and possibly with a value attached to it, or an
operand.  After the separator all arguments are operands.  An argument that looks like a switch
but is none is kept apart.
-/

namespace ProcedureAudit.CommandLine

/-- A value that is attached to a switch. -/
structure Attached where
  value : Text
  /-- Whether the switch is written as a single letter. -/
  lettered : Bool
deriving DecidableEq, Repr

/-- An argument, as a scope understands it. -/
inductive Argument where
  | operand (written : Text)
  | separator
  | named (switch : Switch) (attached : Option Attached)
  | unknown (written : Text)
deriving DecidableEq, Repr

namespace Argument

/-- The separator, after which all arguments are operands. -/
def separatorText : Text :=
  ['-', '-']

/-- All spellings of some switches. -/
def spellingsOf (switches : List Switch) : List (Text × Switch) :=
  switches.flatMap fun switch => switch.spellings.map fun spelling => (spelling, switch)

/-- Split an argument at its first equals sign. -/
def splitValue (written : Text) : Text × Option Attached :=
  match Text.splitAtFirst? ['='] written with
  | some (name, value) =>
    (name, some { value, lettered := !Text.beginsWith separatorText written })
  | none => (written, none)

/-- The switches that an argument may abbreviate, with their spellings. -/
def abbreviated
    (switches : List Switch)
    (written : Text) :
    List (Text × Switch × Option Attached) :=
  if Text.beginsWith separatorText written then
    let (name, attached) := splitValue written
    (spellingsOf switches).filterMap fun (spelling, switch) =>
      if Text.beginsWith name spelling then some (spelling, switch, attached) else none
  else
    (spellingsOf switches).filterMap fun (spelling, switch) =>
      if spelling = written.take 2 then
        some (spelling, switch, some { value := written.drop 2, lettered := true })
      else
        none

/-- Whether a text is empty or has digits only. -/
def hasOnlyDigits (digits : Text) : Bool :=
  digits.all fun digit => (Text.digitValue? digit).isSome

/-- Whether an argument is a negative number, for which a line break at its end does not matter. -/
def isNegativeNumber (written : Text) : Bool :=
  let number := if written.getLast? = some '\n' then written.dropLast else written
  match number with
  | '-' :: number =>
    match Text.splitOn '.' number with
    | [digits] => !digits.isEmpty && hasOnlyDigits digits
    | [whole, fraction] => hasOnlyDigits whole && !fraction.isEmpty && hasOnlyDigits fraction
    | _ => false
  | _ => false

/-- Understand an argument that begins with a hyphen and is no spelling of a switch. -/
def classifyHyphened (switches : List Switch) (written : Text) : Except Misuse Argument :=
  let (name, attached) := splitValue written
  match attached.bind fun _ => (spellingsOf switches).lookup name with
  | some switch => .ok (.named switch attached)
  | none =>
    match abbreviated switches written with
    | [(_, switch, attached)] => .ok (.named switch attached)
    | [] =>
      if isNegativeNumber written || ' ' ∈ written then
        .ok (.operand written)
      else
        .ok (.unknown written)
    | candidates => .error (.ambiguous written (candidates.map Prod.fst))

/-- Understand an argument before the separator. -/
def classify (switches : List Switch) (written : Text) : Except Misuse Argument :=
  match written with
  | '-' :: _ :: _ =>
    match (spellingsOf switches).lookup written with
    | some switch => .ok (.named switch none)
    | none => classifyHyphened switches written
  | _ => .ok (.operand written)

/-- Understand all arguments; the first that cannot be understood is reported. -/
def classifyAll (switches : List Switch) : List Text → Except Misuse (List Argument)
  | [] => .ok []
  | written :: rest =>
    if written = separatorText then
      .ok (.separator :: rest.map .operand)
    else
      match classify switches written with
      | .error misuse => .error misuse
      | .ok argument => (classifyAll switches rest).map (argument :: ·)

end Argument

end ProcedureAudit.CommandLine
