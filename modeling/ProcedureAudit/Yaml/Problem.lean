import ProcedureAudit.Number.Numeral
import ProcedureAudit.Text.CodePoint

/-!
# What can be wrong with a YAML text

Most texts that cannot be read are malformed, with no more to be said here.  Some are well formed
but hold a scalar that cannot be turned into the value it announces; these problems have words of
their own.
-/

namespace ProcedureAudit.Yaml

/-- A part of a date or of a time that lies outside its range. -/
inductive MomentField where
  | year
  | month
  | day
  | hour
  | minute
  | second
deriving DecidableEq, Repr

/-- The words for a part out of range. -/
def MomentField.message : MomentField → Text
  | .year => "year 0 is out of range"
  | .month => "month must be in 1..12"
  | .day => "day is out of range for month"
  | .hour => "hour must be in 0..23"
  | .minute => "minute must be in 0..59"
  | .second => "second must be in 0..59"

/-- Why a text has no value. -/
inductive Problem where
  | malformed
  /-- An escape names a number beyond the last character. -/
  | noCharacter
  /-- An escape names a number beyond thirty-one bits. -/
  | hugeCharacter
  | noInteger (base : Nat) (digits : CodeText)
  | tooManyDigits (count : Nat)
  | noReal (text : CodeText)
  /-- A unit of a number in base sixty that exceeds all doubles. -/
  | hugeUnit
  /-- A whole number without any character. -/
  | emptyNumber
  | noTruth (word : CodeText)
  | noMoment
  /-- A moment that is written as a mapping. -/
  | mappedMoment
  /-- A mapping whose value as a whole is the mapping itself. -/
  | endless
  | momentField (field : MomentField)
  /-- The distance from universal time, in minutes, is a day or more. -/
  | zone (minutes : Int)
deriving DecidableEq, Repr

/-- A distance in minutes as days and seconds. -/
def distanceText (minutes : Int) : Text :=
  let days := minutes / 1440
  let seconds := minutes % 1440 * 60
  let parts :=
    (if days = 0 then [] else ["days=".toList ++ Text.ofInt days]) ++
      if seconds = 0 then [] else ["seconds=".toList ++ Text.ofInt seconds]
  "datetime.timedelta(".toList ++ Text.joinWith [',', ' '] parts ++ [')']

/-- A problem in words; a malformed text has none. -/
def Problem.message : Problem → Text
  | .malformed => []
  | .noCharacter => "chr() arg not in range(0x110000)"
  | .hugeCharacter => "Python int too large to convert to C int"
  | .noInteger base digits => Numeral.malformedMessage base digits.quoted
  | .tooManyDigits count => (Numeral.Problem.tooLong count).message
  | .noReal text => "could not convert string to float: " ++ text.quoted
  | .hugeUnit => "int too large to convert to float"
  | .emptyNumber => "string index out of range"
  | .noTruth word => word.quoted
  | .noMoment => "'NoneType' object has no attribute 'groupdict'"
  | .mappedMoment => "expected string or bytes-like object, got 'list'"
  | .endless => "maximum recursion depth exceeded"
  | .momentField field => field.message
  | .zone minutes =>
    "offset must be a timedelta strictly between -timedelta(hours=24) and " ++
      "timedelta(hours=24), not " ++ distanceText minutes ++ "."

end ProcedureAudit.Yaml
