import ProcedureAudit.Text.Basic

/-!
# Repair of parentheses

A statement that was cut off or joined from lines may have more parentheses of one kind than of
the other.  The repair removes the surplus: closing ones from the right, opening ones from the
left.  Nesting plays no part, only the counts.
-/

namespace ProcedureAudit.Query

/-- Remove the first `surplus` occurrences of a character. -/
def dropFirst (mark : Char) : (surplus : Nat) → Text → Text
  | 0, text => text
  | _ + 1, [] => []
  | surplus + 1, character :: rest =>
    if character = mark then
      dropFirst mark surplus rest
    else
      character :: dropFirst mark (surplus + 1) rest

/-- Remove the last `surplus` occurrences of a character. -/
def dropLast (mark : Char) (surplus : Nat) (text : Text) : Text :=
  (dropFirst mark surplus text.reverse).reverse

/-- Remove surplus parentheses so that both kinds are equally frequent. -/
def balanceParentheses (select : Text) : Text :=
  let opening := select.count '('
  let closing := select.count ')'
  if opening < closing then
    dropLast ')' (closing - opening) select
  else
    dropFirst '(' (opening - closing) select

end ProcedureAudit.Query
