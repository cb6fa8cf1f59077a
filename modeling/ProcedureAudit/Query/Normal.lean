import ProcedureAudit.Query.Parentheses
import ProcedureAudit.Query.Placeholder

/-!
# The normal form of a statement

A scanned statement becomes a query on its own by three steps: its parentheses are repaired, its
placeholders are replaced by literals of known values, and the end mark is removed.  Placeholders
marked by `in` are replaced first, those marked by `Arg` second.
-/

namespace ProcedureAudit

/--
A value as a literal of the query language.  Texts are quoted as they stand, doubles that are
whole numbers are written as such, and an absent value as nothing.

Every whole number is written here, also one of more than `Numeral.digitLimit` digits, at which a
run would fail.  No run gets that far with one: beside built-in values and random data its registry
holds known arguments, and a configuration with such a number among them is not `isWritable`.
-/
def Value.literal : Value → Text
  | .null => []
  | .boolean truth => if truth then ['1'] else ['0']
  | .integer number => Text.ofInt number
  | .real number =>
    match number.toInt? with
    | some whole => Text.ofInt whole
    | none => number.render
  | .text content => '\x22' :: content ++ ['\x22']
  | .bytes content => "UNHEX(\"".toList ++ hexText content ++ "\")".toList

namespace Query

/-- A piece with its placeholder replaced by the literal of the registry's value. -/
def Piece.fill (registry : Registry) : Piece → Text
  | .plain character => [character]
  | .argument delimiter name => delimiter :: (registry.getD name .null).literal

/-- Replace the placeholders of one form. -/
def substituteForm (form : PlaceholderForm) (registry : Registry) (select : Text) : Text :=
  (pieces form select).flatMap (Piece.fill registry)

/-- Replace the placeholders of both forms. -/
def substitutePlaceholders (select : Text) (registry : Registry) : Text :=
  substituteForm .trailing registry (substituteForm .leading registry select)

/-- Remove one end mark and the blanks around it from the end of a text. -/
def dropTerminator (query : Text) : Text :=
  match (Text.trimEnd query).reverse with
  | ';' :: before => Text.trimEnd before.reverse
  | _ => query

/-- The query that a scanned statement stands for. -/
def normalizeSelect (select : Text) (registry : Registry) : Text :=
  dropTerminator (substitutePlaceholders (balanceParentheses select) registry)

end Query

end ProcedureAudit
