import ProcedureAudit.Files.Glob
import ProcedureAudit.Files.Path

/-!
# Wildcards for whole paths

A wildcard is a path whose parts are globs.  A wildcard with a start of its own must match a path
part by part; any other wildcard must match the last parts of the path.  The slashes at the start
of a path count as a part.
-/

namespace ProcedureAudit

/-- A path of globs. -/
structure Wildcard where
  start : PathStart
  parts : List Glob
deriving DecidableEq, Repr

namespace Wildcard

/-! ## Character sets -/

/--
The pieces of a set between its hyphens.  A hyphen is not looked for in the first two characters
after another one, nor in the first character, nor after the mark of negation.
-/
def piecesFrom (piece : Text) : (skipped : Nat) → Text → List Text
  | _, [] => [piece]
  | 0, character :: rest =>
    if character = '-' then
      piece :: piecesFrom [] 2 rest
    else
      piecesFrom (piece ++ [character]) 0 rest
  | skipped + 1, character :: rest => piecesFrom (piece ++ [character]) skipped rest

/-- A hyphen at the end belongs to the piece before it. -/
def attachLastHyphen : List Text → List Text
  | [] => []
  | [piece, []] => [piece ++ ['-']]
  | piece :: pieces => piece :: attachLastHyphen pieces

/-- Join pieces, from the end on, where they would make a range with its ends in the wrong order. -/
def joinReversed : List Text → List Text
  | [] => []
  | piece :: pieces =>
    match joinReversed pieces with
    | [] => [piece]
    | next :: rest =>
      match piece.getLast?, next.head? with
      | some low, some high =>
        if high < low then (piece.dropLast ++ next.tail) :: rest else piece :: next :: rest
      | _, _ => piece :: next :: rest

/-- The pieces of a set. -/
def setPieces (inside : Text) : List Text :=
  joinReversed (attachLastHyphen
    (piecesFrom [] (if inside.head? = some '!' then 2 else 1) inside))

/-- The ranges of pieces: a hyphen between two of them makes a range, if something is before it. -/
def pieceRanges : List Text → List (Char × Char)
  | [] => []
  | [piece] => piece.map fun character => (character, character)
  | piece :: next :: pieces =>
    let spanned :=
      match piece.getLast?, next.head? with
      | some low, some high => [(low, high)]
      | _, _ => [('-', '-')]
    (piece.map fun character => (character, character)) ++ spanned ++ pieceRanges (next :: pieces)

/--
The set that is written between two brackets.  An exclamation mark negates it that comes first
once ranges with their ends in the wrong order have been left out.
-/
def readSet (inside : Text) : GlobItem :=
  match setPieces inside with
  | ('!' :: piece) :: pieces => .oneOf true (pieceRanges (piece :: pieces))
  | pieces => .oneOf false (pieceRanges pieces)

/-! ## Reading -/

/--
Read one part: a star is a run, a question mark one character, and brackets hold a set.  A bracket
that is not closed stands for itself.
-/
def readGlob : Text → Glob
  | [] => []
  | character :: rest =>
    if character = '*' then
      .run :: readGlob rest
    else if character = '?' then
      .anyOne :: readGlob rest
    else if character = '[' then
      match _found : Glob.splitSet? ['!'] rest with
      | some (inside, after) => readSet inside :: readGlob after
      | none => .literal '[' :: readGlob rest
    else
      .literal character :: readGlob rest
termination_by text => text.length
decreasing_by
  all_goals simp only [List.length_cons]
  all_goals try omega
  have shorter := Glob.splitSet?_shortens _found
  omega

/-- Read a wildcard. -/
def parse (text : Text) : Wildcard :=
  let path := FilePath.parse text
  { start := path.start, parts := path.steps.map readGlob }

/-! ## Matching -/

/-- Whether there is nothing to match. -/
def isEmpty (wildcard : Wildcard) : Bool :=
  wildcard.start = .current && wildcard.parts.isEmpty

/-- Whether a glob stands for a whole part of a path. -/
def matchesPart (glob : Glob) (part : Text) : Bool :=
  Glob.matchesBefore (fun _ => true) List.isEmpty glob part

/-- Whether globs stand for the parts at the beginning of a list. -/
def matchesParts : List Glob → List Text → Bool
  | [], _ => true
  | _ :: _, [] => false
  | glob :: globs, part :: parts => matchesPart glob part && matchesParts globs parts

/-- The parts of a path, its start included. -/
def partsOf (path : FilePath) : List Text :=
  if path.start = .current then path.steps else path.start.render :: path.steps

/-- Whether a wildcard matches a path. -/
def accepts (wildcard : Wildcard) (path : FilePath) : Bool :=
  if wildcard.start = .current then
    matchesParts wildcard.parts.reverse (partsOf path).reverse
  else
    wildcard.start = path.start && wildcard.parts.length = path.steps.length &&
      matchesParts wildcard.parts path.steps

end Wildcard

end ProcedureAudit
