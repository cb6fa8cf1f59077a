import ProcedureAudit.Yaml.MomentForm
import ProcedureAudit.Yaml.Problem

/-!
# Dates and times

A moment is a date, or a date with a time and possibly a distance from universal time.
-/

namespace ProcedureAudit.Yaml

/-- A time of the day. -/
structure Clock where
  hour : Nat
  minute : Nat
  second : Nat
  microsecond : Nat
  /-- The distance from universal time in minutes, if one is given. -/
  zone : Option Int
deriving DecidableEq, Repr

/-- A date, with or without a time. -/
structure Moment where
  year : Nat
  month : Nat
  day : Nat
  clock : Option Clock
deriving DecidableEq, Repr

namespace Moment

/-- Whether a year has a leap day. -/
def isLeapYear (year : Nat) : Bool :=
  year % 4 = 0 && (year % 100 ≠ 0 || year % 400 = 0)

/-- The number of days of a month. -/
def daysOfMonth (year month : Nat) : Nat :=
  if month = 2 then
    if isLeapYear year then 29 else 28
  else if month = 4 || month = 6 || month = 9 || month = 11 then
    30
  else
    31

/-- The first part of a date that is out of range. -/
def wrongDate? (year month day : Nat) : Option MomentField :=
  if year = 0 then some .year
  else if month = 0 || 12 < month then some .month
  else if day = 0 || daysOfMonth year month < day then some .day
  else none

/-- The first part of a time that is out of range. -/
def wrongTime? (clock : Clock) : Option MomentField :=
  if 23 < clock.hour then some .hour
  else if 59 < clock.minute then some .minute
  else if 59 < clock.second then some .second
  else none

/-- The distance from universal time that a zone denotes. -/
def zoneMinutes? (zone : Option (Option (Bool × Text × Text))) : Except Problem (Option Int) :=
  match zone with
  | none => .ok none
  | some none => .ok (some 0)
  | some (some (negative, hours, minutes)) =>
    let distance : Int := Text.natOfDigits hours * 60 + Text.natOfDigits minutes
    let distance := if negative then -distance else distance
    if distance.natAbs < 24 * 60 then .ok (some distance) else .error (.zone distance)

/-- The time that the parts of a moment denote. -/
def clockOf (parts : MomentParts) : Except Problem (Option Clock) :=
  match parts.time with
  | none => .ok none
  | some (hour, minute, second, fraction) =>
    (zoneMinutes? parts.zone).map fun zone =>
      some
        { hour := Text.natOfDigits hour
          minute := Text.natOfDigits minute
          second := Text.natOfDigits second
          microsecond :=
            Text.natOfDigits (fraction.take 6 ++ List.replicate (6 - fraction.length) '0')
          zone }

/-- The moment that a text denotes; a line feed at its end does not matter. -/
def parse (text : Text) : Except Problem Moment :=
  match MomentParts.read? (if text.getLast? = some '\n' then text.dropLast else text) with
  | none => .error .noMoment
  | some parts =>
    let year := Text.natOfDigits parts.year
    let month := Text.natOfDigits parts.month
    let day := Text.natOfDigits parts.day
    match clockOf parts with
    | .error problem => .error problem
    | .ok clock =>
      match wrongDate? year month day, clock.bind wrongTime? with
      | some field, _ => .error (.momentField field)
      | none, some field => .error (.momentField field)
      | none, none => .ok { year, month, day, clock }

/-- How many days lie before a date. -/
def dayNumber (moment : Moment) : Nat :=
  let years := moment.year - 1
  let months := (List.range (moment.month - 1)).map fun month => daysOfMonth moment.year (month + 1)
  years * 365 + years / 4 - years / 100 + years / 400 + months.foldl (· + ·) 0 + moment.day

/-- The minute of a moment in universal time, if its distance from that is given. -/
def universalMinute? (moment : Moment) : Option Int :=
  match moment.clock with
  | none => none
  | some clock =>
    clock.zone.map fun zone =>
      (moment.dayNumber * 1440 + clock.hour * 60 + clock.minute : Nat) - zone

/-- Seconds and microseconds of a moment. -/
def fineTime (moment : Moment) : Option (Nat × Nat) :=
  moment.clock.map fun clock => (clock.second, clock.microsecond)

/-- Whether two moments are the same, although their distances from universal time may differ. -/
def isSame (left right : Moment) : Bool :=
  match left.universalMinute?, right.universalMinute? with
  | some first, some second => first = second && left.fineTime = right.fineTime
  | _, _ => left = right

/-- The distance from universal time in messages. -/
def zoneText (minutes : Int) : Text :=
  if minutes = 0 then
    "datetime.timezone.utc"
  else
    "datetime.timezone(".toList ++ distanceText minutes ++ [')']

/-- A moment in messages; a time without seconds has none. -/
def quoted (moment : Moment) : Text :=
  let date := [moment.year, moment.month, moment.day]
  match moment.clock with
  | none => "datetime.date(".toList ++ Text.joinWith [',', ' '] (date.map Text.ofNat) ++ [')']
  | some clock =>
    let fine :=
      if clock.microsecond ≠ 0 then [clock.second, clock.microsecond]
      else if clock.second ≠ 0 then [clock.second]
      else []
    let zone :=
      match clock.zone with
      | none => []
      | some minutes => ["tzinfo=".toList ++ zoneText minutes]
    "datetime.datetime(".toList ++
      Text.joinWith [',', ' ']
        ((date ++ [clock.hour, clock.minute] ++ fine).map Text.ofNat ++ zone) ++ [')']

end Moment

end ProcedureAudit.Yaml
