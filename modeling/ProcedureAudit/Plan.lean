import ProcedureAudit.Text.LetterCase
import ProcedureAudit.Value

/-!
# Plan rows and their smells

A plan is a list of rows, one for each step.  Two columns of a row matter: the join type tells a
scan of a whole table or of a whole index, and the extra information mentions sorting and
temporary tables.  Letter case plays no part in either.
-/

namespace ProcedureAudit

/-- A row of a result: column names and values. -/
abbrev Row := List (Text × Value)

namespace Plan

/-- Something in a plan that deserves a warning. -/
inductive Smell where
  | fullTableScan
  | fullIndexScan
  | filesort
  | temporaryTable
deriving DecidableEq, Repr

/-- The words for a smell. -/
def Smell.label : Smell → Text
  | .fullTableScan => "full table scan"
  | .fullIndexScan => "full index scan"
  | .filesort => "filesort"
  | .temporaryTable => "temporary table"

/--
The text of a column; a missing or absent value is the empty text.  A whole number of a row is taken
to have no more than `Numeral.digitLimit` digits, which no server exceeds.
-/
def column (row : Row) (name : Text) : Text :=
  match row.lookup name with
  | none => []
  | some .null => []
  | some value => value.display

/-- The scan that the join type tells of, at most one. -/
def scanSmell? (joinType : Text) : Option Smell :=
  if Text.isKeywordLine "all".toList joinType then
    some .fullTableScan
  else if Text.isKeywordLine "index".toList joinType then
    some .fullIndexScan
  else
    none

/-- The smells that the extra information mentions. -/
def extraSmells (extra : Text) : List Smell :=
  (if Text.mentions "filesort".toList extra then [.filesort] else []) ++
    if Text.mentions "temporary".toList extra then [.temporaryTable] else []

/-- The smells of one step: the scan first, then sorting, then temporary tables. -/
def rowSmells (row : Row) : List Smell :=
  (scanSmell? (column row "type".toList)).toList ++ extraSmells (column row "Extra".toList)

/-- The smells of a plan, in row order. -/
def smells (rows : List Row) : List Smell :=
  rows.flatMap rowSmells

end Plan

end ProcedureAudit
