import ProcedureAudit.Text.LetterCase
import ProcedureAudit.Value

/-!
# The registry of known arguments

A registry maps argument names to fixture values.  Names are compared by their lower-case form,
entries stay in the order of their first write, and a second write to a name has no effect.
-/

namespace ProcedureAudit

/-- Known arguments, keyed by lower-case name, in order of their first write. -/
structure Registry where
  entries : List (Text × Value) := []
deriving DecidableEq, Repr

namespace Registry

/-- The registry without entries. -/
def empty : Registry :=
  {}

/-- The key under which a name is stored. -/
def key (name : Text) : Text :=
  Text.lower name

/-- The value stored for a name in any letter case. -/
def get? (registry : Registry) (name : Text) : Option Value :=
  registry.entries.lookup (key name)

/-- Whether a value is stored for a name in any letter case. -/
def contains (registry : Registry) (name : Text) : Bool :=
  (registry.get? name).isSome

/-- The value stored for a name, or another value where there is none. -/
def getD (registry : Registry) (name : Text) (fallback : Value) : Value :=
  (registry.get? name).getD fallback

/-- Store a value for a name, unless one is stored already. -/
def record (registry : Registry) (name : Text) (value : Value) : Registry :=
  if registry.contains name then
    registry
  else
    { entries := registry.entries ++ [(key name, value)] }

/-- Store several values, in order. -/
def recordAll (registry : Registry) (entries : List (Text × Value)) : Registry :=
  entries.foldl (fun registry (name, value) => registry.record name value) registry

/-- The registry of the given entries; of two spellings of a name the first one counts. -/
def ofList (entries : List (Text × Value)) : Registry :=
  empty.recordAll entries

/-- The stored names, in order. -/
def names (registry : Registry) : List Text :=
  registry.entries.map Prod.fst

/-- The number of stored names. -/
def size (registry : Registry) : Nat :=
  registry.entries.length

/-- Arguments whose values do not depend on seeded records. -/
def fixedArguments : List (Text × Value) :=
  [ ("commandname".toList, .text "foo"),
    ("name".toList, .text "schema-patch-level"),
    ("reminderlimit".toList, .integer 3),
    ("uabrowser".toList, .text "foo"),
    ("uabrowserversion".toList, .text "bar"),
    ("uaos".toList, .text "baz"),
    ("uaosversion".toList, .text "qux"),
    ("uadevicetype".toList, .text "mobile") ]

/-- The given entries followed by the fixed arguments that they do not name. -/
def withFixedArguments (entries : List (Text × Value)) : Registry :=
  (ofList entries).recordAll fixedArguments

end Registry

end ProcedureAudit
