import ProcedureAudit.Text.Digits

/-!
# The form of dates and times

A date is a year, a month and a day with hyphens between them.  A time may follow after a letter or
after blanks, with a fraction of a second and with a zone.
-/

namespace ProcedureAudit.Yaml

/-- How a date with or without a time is written: what its parts are, as texts. -/
structure MomentParts where
  year : Text
  month : Text
  day : Text
  /-- Hour, minute, second, and the digits after the point. -/
  time : Option (Text × Text × Text × Text) := none
  /-- A sign with hours and minutes, or nothing of that for universal time. -/
  zone : Option (Option (Bool × Text × Text)) := none

namespace MomentParts

/-- One or two digits at the beginning of a text. -/
def oneOrTwoDigits? : Text → Option (Text × Text)
  | first :: second :: rest =>
    if Text.isAsciiDigit first then
      if Text.isAsciiDigit second then some ([first, second], rest)
      else some ([first], second :: rest)
    else
      none
  | [first] => if Text.isAsciiDigit first then some ([first], []) else none
  | [] => none

/-- Two digits at the beginning of a text. -/
def twoDigits? : Text → Option (Text × Text)
  | first :: second :: rest =>
    if Text.isAsciiDigit first && Text.isAsciiDigit second then some ([first, second], rest)
    else none
  | _ => none

/-- Whether a character is a blank between the parts of a moment. -/
def isBlank (character : Char) : Bool :=
  character = ' ' || character = '\t'

/-- Read a zone. -/
def readZone? (text : Text) : Option (Option (Option (Bool × Text × Text))) :=
  match text.dropWhile isBlank with
  | [] => if text.isEmpty then some none else none
  | ['Z'] => some (some none)
  | sign :: rest =>
    if sign = '-' || sign = '+' then
      match oneOrTwoDigits? rest with
      | some (hours, []) => some (some (some (sign = '-', hours, ['0'])))
      | some (hours, ':' :: rest) =>
        match twoDigits? rest with
        | some (minutes, []) => some (some (some (sign = '-', hours, minutes)))
        | _ => none
      | _ => none
    else
      none

/-- Read a time with its zone. -/
def readTime? (text : Text) :
    Option ((Text × Text × Text × Text) × Option (Option (Bool × Text × Text))) :=
  match oneOrTwoDigits? text with
  | some (hour, ':' :: rest) =>
    match twoDigits? rest with
    | some (minute, ':' :: rest) =>
      match twoDigits? rest with
      | some (second, rest) =>
        let (fraction, rest) :=
          match rest with
          | '.' :: rest =>
            (rest.takeWhile Text.isAsciiDigit, rest.dropWhile Text.isAsciiDigit)
          | rest => ([], rest)
        (readZone? rest).map fun zone => ((hour, minute, second, fraction), zone)
      | none => none
    | _ => none
  | _ => none

/-- Read the blanks or the letter between a date and a time. -/
def readTimeMark? : Text → Option Text
  | 'T' :: rest => some rest
  | 't' :: rest => some rest
  | blank :: rest =>
    if isBlank blank then some (rest.dropWhile isBlank) else none
  | [] => none

/-- The parts of a moment. -/
def read? (text : Text) : Option MomentParts :=
  let year := text.take 4
  if year.length = 4 && year.all Text.isAsciiDigit then
    match text.drop 4 with
    | '-' :: rest =>
      match oneOrTwoDigits? rest with
      | some (month, '-' :: rest) =>
        match oneOrTwoDigits? rest with
        | some (day, []) => some { year, month, day }
        | some (day, rest) =>
          match (readTimeMark? rest).bind readTime? with
          | some (time, zone) => some { year, month, day, time := some time, zone }
          | none => none
        | none => none
      | _ => none
    | _ => none
  else
    none

/-- Whether a plain scalar has the form of a moment; a date alone has no short parts. -/
def isPlain (text : Text) : Bool :=
  match read? text with
  | some parts =>
    parts.time.isSome || (parts.month.length = 2 && parts.day.length = 2)
  | none => false

end MomentParts

end ProcedureAudit.Yaml
