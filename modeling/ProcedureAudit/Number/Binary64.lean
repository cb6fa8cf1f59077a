import ProcedureAudit.Text.Digits

/-!
# Double-precision numbers as exact values

A double is a sign, a significand below `2 ^ 53` and an exponent of two, or infinite, or no
number.  The library reads doubles from decimal text, combines a few of them, and writes them
back; all of it is done exactly on naturals, with one rounding to the nearest double, a half
going to the even neighbour.
-/

namespace ProcedureAudit

/-- A double-precision number. -/
inductive Binary64 where
  | nan
  | infinite (negative : Bool)
  /-- Plus or minus `significand * 2 ^ exponent`. -/
  | finite (negative : Bool) (significand : Nat) (exponent : Int)
deriving DecidableEq, Repr

namespace Binary64

/-- The exponent of the smallest positive double. -/
def leastExponent : Int :=
  -1074

/-- The exponent of the largest finite double. -/
def greatestExponent : Int :=
  971

/-- Zero with a sign. -/
def signedZero (negative : Bool) : Binary64 :=
  .finite negative 0 leastExponent

/-- The quotient rounded to the nearest natural, a half to the even one. -/
def roundedQuotient (numerator denominator : Nat) : Nat :=
  let quotient := numerator / denominator
  let remainder := numerator % denominator
  if 2 * remainder < denominator then
    quotient
  else if denominator < 2 * remainder then
    quotient + 1
  else
    quotient + quotient % 2

/-- Multiply a fraction by a power of two, up or down. -/
def scaleFraction (numerator denominator : Nat) (power : Int) : Nat × Nat :=
  if 0 ≤ power then
    (numerator * Nat.pow 2 power.toNat, denominator)
  else
    (numerator, denominator * Nat.pow 2 (-power).toNat)

/-- The greatest power of two that does not exceed a positive fraction. -/
def fractionLog2 (numerator denominator : Nat) : Int :=
  let estimate : Int := numerator.log2 - denominator.log2
  let (scaled, bound) := scaleFraction numerator denominator (-estimate)
  if scaled < bound then estimate - 1 else estimate

/-- The double nearest to a fraction. -/
def ofFraction (negative : Bool) (numerator denominator : Nat) : Binary64 :=
  if numerator = 0 then
    signedZero negative
  else
    let exponent := max (fractionLog2 numerator denominator - 52) leastExponent
    let (scaled, bound) := scaleFraction numerator denominator (-exponent)
    let rounded := roundedQuotient scaled bound
    let (significand, exponent) :=
      if rounded = Nat.pow 2 53 then (Nat.pow 2 52, exponent + 1) else (rounded, exponent)
    if greatestExponent < exponent then
      .infinite negative
    else
      .finite negative significand exponent

/--
The double nearest to `digits * 10 ^ power`.  Values beyond the range of doubles are recognised
by their number of digits.
-/
def ofDecimal (negative : Bool) (digits : Nat) (power : Int) : Binary64 :=
  let magnitude : Int := (Text.ofNat digits).length + power
  if digits = 0 || magnitude < -400 then
    signedZero negative
  else if 400 < magnitude then
    .infinite negative
  else if 0 ≤ power then
    ofFraction negative (digits * Nat.pow 10 power.toNat) 1
  else
    ofFraction negative digits (Nat.pow 10 (-power).toNat)

/-- The double nearest to an integer. -/
def ofInt (value : Int) : Binary64 :=
  ofFraction (value < 0) value.natAbs 1

/-- The absolute value of a finite double as a fraction. -/
def fractionOf (significand : Nat) (exponent : Int) : Nat × Nat :=
  scaleFraction significand 1 exponent

/-- The exact integer that a double equals, if it does. -/
def toInt? : Binary64 → Option Int
  | .finite negative significand exponent =>
    let (numerator, denominator) := fractionOf significand exponent
    if numerator % denominator = 0 then
      let magnitude : Int := (numerator / denominator : Nat)
      some (if negative then -magnitude else magnitude)
    else
      none
  | _ => none

/-- Whether the double equals zero. -/
def isZero : Binary64 → Bool
  | .finite _ significand _ => significand = 0
  | _ => false

/-- A finite double as a signed numerator over a denominator. -/
def signedFraction? : Binary64 → Option (Int × Nat)
  | .finite negative significand exponent =>
    let (numerator, denominator) := fractionOf significand exponent
    some (if negative then -(numerator : Int) else numerator, denominator)
  | _ => none

/-- Whether the double has a minus sign. -/
def isNegative : Binary64 → Bool
  | .nan => false
  | .infinite negative => negative
  | .finite negative _ _ => negative

/--
The sum of two doubles; opposite infinities have none, and a zero sum is negative only of two
negative zeros.
-/
def add (left right : Binary64) : Binary64 :=
  match left, right with
  | .nan, _ => .nan
  | _, .nan => .nan
  | .infinite first, .infinite second => if first = second then .infinite first else .nan
  | .infinite negative, .finite _ _ _ => .infinite negative
  | .finite _ _ _, .infinite negative => .infinite negative
  | .finite first _ _, .finite second _ _ =>
    match left.signedFraction?, right.signedFraction? with
    | some (leftUnits, leftUnit), some (rightUnits, rightUnit) =>
      let numerator := leftUnits * rightUnit + rightUnits * leftUnit
      if numerator = 0 then
        signedZero (first && second)
      else
        ofFraction (numerator < 0) numerator.natAbs (leftUnit * rightUnit)
    | _, _ => .nan

/-- The product of two doubles; an infinity times zero has none. -/
def mul (left right : Binary64) : Binary64 :=
  let negative := left.isNegative != right.isNegative
  match left, right with
  | .nan, _ => .nan
  | _, .nan => .nan
  | .infinite _, right => if right.isZero then .nan else .infinite negative
  | left, .infinite _ => if left.isZero then .nan else .infinite negative
  | .finite _ first firstExponent, .finite _ second secondExponent =>
    let (numerator, denominator) :=
      scaleFraction (first * second) 1 (firstExponent + secondExponent)
    ofFraction negative numerator denominator

/-- The whole number that is left of a double without its fraction; infinities have none. -/
def truncate? : Binary64 → Option Int
  | .finite negative significand exponent =>
    let (numerator, denominator) := fractionOf significand exponent
    let magnitude : Int := (numerator / denominator : Nat)
    some (if negative then -magnitude else magnitude)
  | _ => none

/-- The double with its sign reversed. -/
def neg : Binary64 → Binary64
  | .nan => .nan
  | .infinite negative => .infinite (!negative)
  | .finite negative significand exponent => .finite (!negative) significand exponent

end Binary64

end ProcedureAudit
