/-!
# Sorted tables of code point ranges

A property of characters is tabulated as a list of ranges in increasing order, both ends
included.  Membership stops at the first range that begins after the code point.
-/

namespace ProcedureAudit.Text

/-- Ranges of code points, sorted and without overlap. -/
abbrev RangeTable := List (Nat × Nat)

/-- Whether the code point lies in one of the ranges. -/
def RangeTable.holds (code : Nat) : RangeTable → Bool
  | [] => false
  | (first, last) :: rest =>
    if code < first then false else code ≤ last || RangeTable.holds code rest

end ProcedureAudit.Text
