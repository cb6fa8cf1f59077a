import ProcedureAudit.Text.Digits
import ProcedureAudit.Yaml.Cursor
import ProcedureAudit.Yaml.Problem

/-!
# Texts of scalars

What the five styles of scalars share: the folding of line breaks.  Readers that run over several
lines take the number of characters ahead as fuel, which they cannot use up.
-/

namespace ProcedureAudit.Yaml

namespace Cursor

/-- Fuel for a reader that passes at least one character with every unit. -/
def fuel (cursor : Cursor) : Nat :=
  cursor.rest.length + 1

/-- The content of a line break: a single one is folded into a space. -/
def foldedBreaks (lineBreak breaks : Text) : Text :=
  if lineBreak ≠ ['\n'] then
    lineBreak ++ breaks
  else if breaks.isEmpty then
    [' ']
  else
    breaks

end Cursor

end ProcedureAudit.Yaml
