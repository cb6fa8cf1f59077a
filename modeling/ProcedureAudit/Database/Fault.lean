import ProcedureAudit.Text.Lines
import ProcedureAudit.Value

/-!
# Faults

A fault is what a server, the system below it or the library behind it reports: a kind, known by
its name, and details.  The name decides into which of a few categories the fault falls, and the
category decides what the program makes of it.  Not every fault is an error: some are demands on the
program to stop what it does, and nothing that handles errors handles these.
-/

namespace ProcedureAudit

/-- A detail of a fault. -/
inductive Detail where
  | value (content : Value)
  | sequence (items : List Detail)
  | mapping (entries : List (Text × Detail))
deriving Repr

namespace Detail

/-- A detail that is an absent value. -/
def absent : Detail :=
  .value .null

mutual

/-- A detail as part of a message. -/
def quoted : Detail → Text
  | .value content => content.quoted
  | .sequence items => '[' :: Text.joinWith [',', ' '] (quotedAll items) ++ [']']
  | .mapping entries =>
    "\x7b".toList ++ Text.joinWith [',', ' '] (quotedEntries entries) ++ "\x7d".toList

/-- Several details. -/
def quotedAll : List Detail → List Text
  | [] => []
  | item :: items => item.quoted :: quotedAll items

/-- Named details. -/
def quotedEntries : List (Text × Detail) → List Text
  | [] => []
  | (name, detail) :: entries =>
    (Text.quoted name ++ [':', ' '] ++ detail.quoted) :: quotedEntries entries

end

/-- A detail that is a message of its own. -/
def display : Detail → Text
  | .value content => content.display
  | detail => detail.quoted

end Detail

/-- What sort of fault it is. -/
inductive FaultCategory where
  /-- Reported by the database server or by its client. -/
  | database
  /-- Reported by the operating system. -/
  | system
  /-- A look-up that found nothing. -/
  | lookup
  /-- The user wants the program to stop. -/
  | interrupt
  /-- Another demand on the program, such as to exit or to give up what it is waiting for. -/
  | control
  /-- A query that was refused. -/
  | refusal
  /-- Fixture records that could not be created. -/
  | seeding
  | other
deriving DecidableEq, Repr

/-- A fault. -/
structure Fault where
  category : FaultCategory
  name : Text
  details : List Detail
deriving Repr

namespace Fault

/-- The names of the faults of a database. -/
def databaseNames : List String :=
  [ "MySQLError", "Warning", "Error", "InterfaceError", "DatabaseError", "DataError",
    "OperationalError", "IntegrityError", "InternalError", "ProgrammingError",
    "NotSupportedError" ]

/-- The names of the faults of the operating system. -/
def systemNames : List String :=
  [ "OSError", "BlockingIOError", "ChildProcessError", "ConnectionError", "BrokenPipeError",
    "ConnectionAbortedError", "ConnectionRefusedError", "ConnectionResetError",
    "FileExistsError", "FileNotFoundError", "InterruptedError", "IsADirectoryError",
    "NotADirectoryError", "PermissionError", "ProcessLookupError", "TimeoutError" ]

/-- The names of the demands on the program, other than the one of the user. -/
def controlNames : List String :=
  ["BaseException", "BaseExceptionGroup", "CancelledError", "GeneratorExit", "SystemExit"]

/-- The category of a name. -/
def categoryOf (name : Text) : FaultCategory :=
  let name := String.ofList name
  if name ∈ databaseNames then .database
  else if name ∈ systemNames then .system
  else if name = "KeyError" then .lookup
  else if name = "KeyboardInterrupt" then .interrupt
  else if name ∈ controlNames then .control
  else if name = "ExplainError" then .refusal
  else if name = "SeedingError" then .seeding
  else .other

/-- The specific names of numbered system faults. -/
def specificNames : List (Nat × String) :=
  [ (1, "PermissionError"), (2, "FileNotFoundError"), (3, "ProcessLookupError"),
    (4, "InterruptedError"), (10, "ChildProcessError"), (11, "BlockingIOError"),
    (13, "PermissionError"), (17, "FileExistsError"), (20, "NotADirectoryError"),
    (21, "IsADirectoryError"), (32, "BrokenPipeError"), (103, "ConnectionAbortedError"),
    (104, "ConnectionResetError"), (108, "BrokenPipeError"), (110, "TimeoutError"),
    (111, "ConnectionRefusedError"), (114, "BlockingIOError"), (115, "BlockingIOError") ]

/-- The whole number that a detail equals, if it does. -/
def numberOf? : Detail → Option Int
  | .value (.integer number) => some number
  | .value (.boolean truth) => some (if truth then 1 else 0)
  | .value (.real number) => number.toInt?
  | _ => none

/-- Whether there are as many details as a system fault has: two to five. -/
def areSystemDetails (details : List Detail) : Bool :=
  2 ≤ details.length && details.length ≤ 5

/-- A general system fault takes the specific name of its number, if it has a number and words. -/
def specificName (name : Text) (details : List Detail) : Text :=
  if name = "OSError".toList && areSystemDetails details then
    match (details.head?.bind numberOf?).bind fun number =>
        specificNames.find? fun (other, _) => (other : Int) = number with
    | some (_, specific) => specific.toList
    | none => name
  else
    name

/-- The fault of a name with its details. -/
def ofName (name : Text) (details : List Detail) : Fault where
  category := categoryOf name
  name := specificName name details
  details := details

/-- A fault of a kind of which nothing is known but the name. -/
def ofUnknownName (name : Text) (details : List Detail) : Fault where
  category := .other
  name := name
  details := details

/-- The message that follows from the details alone. -/
def detailMessage : List Detail → Text
  | [] => []
  | [detail] => detail.display
  | details => '(' :: Text.joinWith [',', ' '] (Detail.quotedAll details) ++ [')']

/-- Whether a detail is an absent value. -/
def isAbsent : Detail → Bool
  | .value .null => true
  | _ => false

/-- A number, words, and possibly what the fault is about. -/
def numberedMessage (number words : Detail) (subject : Text) : Text :=
  "[Errno ".toList ++ number.display ++ [']', ' '] ++ words.display ++ subject

/--
What the further details of a numbered system fault are about: a file, and the second file after
a detail that does not matter.  If files are `counted`, a number in the place of the first file is
a count instead.
-/
def subjectText (counted : Bool) : List Detail → Text
  | [] => []
  | file :: rest =>
    if isAbsent file || (counted && (numberOf? file).isSome) then
      []
    else
      let other :=
        match rest with
        | [_, second] => if isAbsent second then [] else " -> ".toList ++ second.quoted
        | _ => []
      [':', ' '] ++ file.quoted ++ other

/-- The message of a system fault. -/
def systemMessage (name : Text) (details : List Detail) : Text :=
  match details with
  | number :: words :: rest =>
    if areSystemDetails details then
      numberedMessage number words (subjectText (name = "BlockingIOError".toList) rest)
    else
      detailMessage details
  | details => detailMessage details

/-- The message of a fault. -/
def message (fault : Fault) : Text :=
  match fault.category, fault.details with
  | .system, details => systemMessage fault.name details
  | .lookup, [detail] => detail.quoted
  | _, details => detailMessage details

/-- The first line of the name and the message of a fault. -/
def reason (fault : Fault) : Text :=
  ((Text.lines (fault.name ++ ": ".toList ++ fault.message)).head?).getD []

/-- Whether the fault is an error, and not a demand on the program. -/
def isError (fault : Fault) : Bool :=
  fault.category ≠ .interrupt && fault.category ≠ .control

/-- Whether the fault means that no connection could be made. -/
def preventsConnection (fault : Fault) : Bool :=
  fault.category = .database || fault.category = .system

end Fault

end ProcedureAudit
