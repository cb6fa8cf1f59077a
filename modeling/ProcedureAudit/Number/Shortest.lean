import ProcedureAudit.Number.Binary64

/-!
# The shortest decimal text of a double

Among the decimals that read back as a given double there is a least number of digits, and among
those with that many digits a nearest one.  These digits are found by trying one digit, two
digits, and so on: on each decimal grid only the two neighbours of the exact value can qualify.

The written form is positional when the decimal exponent lies between `-4` and `15`, and keeps
`.0` there for whole numbers; other exponents are written with a sign and at least two digits.
-/

namespace ProcedureAudit.Binary64

/-- How many quarters of a unit of the significand separate a double from its lower limit. -/
def lowerQuarters (significand : Nat) (exponent : Int) : Nat :=
  if significand = Nat.pow 2 52 && leastExponent < exponent then 1 else 2

/--
Whether `candidate / scale` reads back as the double: it lies between the two midpoints to the
neighbouring doubles, which count as inside for an even significand.
-/
def readsBack (significand : Nat) (exponent : Int) (candidate scale : Nat) : Bool :=
  let (lowest, quarter) :=
    fractionOf (4 * significand - lowerQuarters significand exponent) (exponent - 2)
  let (highest, _) := fractionOf (4 * significand + 2) (exponent - 2)
  let value := candidate * quarter
  if significand % 2 = 0 then
    lowest * scale ≤ value && value ≤ highest * scale
  else
    lowest * scale < value && value < highest * scale

/-- The decimal grid on which digits are tried reaches this far below the point. -/
def gridDepth : Nat :=
  400

/-- The position of the point: how many digits the whole part has, negative for small values. -/
def pointPosition (significand : Nat) (exponent : Int) : Int :=
  let (numerator, denominator) := fractionOf significand exponent
  ((Text.ofNat (numerator * Nat.pow 10 gridDepth / denominator)).length : Int) - gridDepth

/--
The digits of a grid point with `count` digits that reads back as the double, the nearer one of
two.  The point stands `position` digits after the first digit.
-/
def digitsOnGrid?
    (significand : Nat)
    (exponent position : Int)
    (count : Nat) :
    Option Nat :=
  let (numerator, denominator) := fractionOf significand exponent
  let power : Int := count - position
  let (scaled, unit) :=
    if 0 ≤ power then
      (numerator * Nat.pow 10 power.toNat, denominator)
    else
      (numerator, denominator * Nat.pow 10 (-power).toNat)
  let below := scaled / unit
  let remainder := scaled % unit
  let fits (candidate : Nat) : Bool :=
    if 0 ≤ power then
      readsBack significand exponent candidate (Nat.pow 10 power.toNat)
    else
      readsBack significand exponent (candidate * Nat.pow 10 (-power).toNat) 1
  match fits below, fits (below + 1) with
  | true, true =>
    if 2 * remainder < unit || (2 * remainder = unit && below % 2 = 0) then
      some below
    else
      some (below + 1)
  | true, false => some below
  | false, true => some (below + 1)
  | false, false => none

/--
Try the grids from `count` digits on; seventeen digits are always enough.  The answer is the grid
point together with the number of digits of its grid.
-/
def digitsFrom (significand : Nat) (exponent position : Int) : (fuel count : Nat) → Nat × Nat
  | 0, count => (significand, count)
  | fuel + 1, count =>
    match digitsOnGrid? significand exponent position count with
    | some digits => (digits, count)
    | none => digitsFrom significand exponent position fuel (count + 1)

/--
The shortest digits of a positive double, and the position of the point among them.  A grid point
that was carried to the next power of ten has one digit more than its grid.
-/
def shortestDigits (significand : Nat) (exponent : Int) : Text × Int :=
  let position := pointPosition significand exponent
  let found := digitsFrom significand exponent position 17 1
  let digits := Text.ofNat found.1
  (Text.dropEndWhile (· = '0') digits, position + digits.length - found.2)

/-- The sign in front of a negative number. -/
def signText (negative : Bool) : Text :=
  if negative then ['-'] else []

/-- Digits with the point written at its place, and `.0` after a whole number. -/
def positional (digits : Text) (position : Int) : Text :=
  if position ≤ 0 then
    "0.".toList ++ List.replicate (-position).toNat '0' ++ digits
  else if digits.length ≤ position.toNat then
    digits ++ List.replicate (position.toNat - digits.length) '0' ++ ".0".toList
  else
    digits.take position.toNat ++ ['.'] ++ digits.drop position.toNat

/-- Digits with the point after the first one, and the exponent. -/
def scientific (digits : Text) (position : Int) : Text :=
  let fraction := if digits.length ≤ 1 then [] else '.' :: digits.drop 1
  let exponent := position - 1
  let sign := if exponent < 0 then '-' else '+'
  digits.take 1 ++ fraction ++ ['e', sign] ++ Text.padZeros 2 (Text.ofNat exponent.natAbs)

/-- The shortest text that reads back as the double. -/
def render : Binary64 → Text
  | .nan => "nan"
  | .infinite negative => signText negative ++ "inf".toList
  | .finite negative significand exponent =>
    if significand = 0 then
      signText negative ++ "0.0".toList
    else
      let (digits, position) := shortestDigits significand exponent
      signText negative ++
        if -4 < position && position ≤ 16 then
          positional digits position
        else
          scientific digits position

end ProcedureAudit.Binary64
