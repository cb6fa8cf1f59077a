import ProcedureAudit.Files.Glob
import ProcedureAudit.Text.Lines
import ProcedureAudit.Text.Quoted

/-!
# Ignore rules

An ignore file lists, one on a line, rules for the paths below its directory.  Each rule says that
the paths it matches are ignored, or, with an exclamation mark, that they are not; the last rule
that matches a path decides.

A rule is a path of segments.  It is anchored at the directory, unless it consists of a single
segment, which may match at any depth.  Two stars as a segment stand for any number of
directories.  A rule that does not end with a slash matches an entry and all that is below it; one
that does matches only what is below.
-/

namespace ProcedureAudit

/-- One segment of a rule. -/
inductive IgnoreSegment where
  /-- Any number of directories. -/
  | directories
  /-- Any one name. -/
  | anyName
  | glob (items : Glob)
deriving DecidableEq, Repr

/-- What a rule matches. -/
inductive IgnoreShape where
  | everything
  /-- Every path with a directory in it. -/
  | insideDirectories
  | segments (path : List IgnoreSegment)
deriving DecidableEq, Repr

/-- A rule: what it matches, and whether it ignores that. -/
structure IgnoreRule where
  ignores : Bool
  shape : IgnoreShape
deriving DecidableEq, Repr

/-- Why a line is no rule. -/
inductive InvalidRule where
  | malformed (line : Text)
  /-- A set has a range with its ends in the wrong order. -/
  | reversedRange (range : Text) (position : Nat)
deriving DecidableEq, Repr

/-- An invalid line in words. -/
def InvalidRule.message : InvalidRule → Text
  | .malformed line => "Invalid git pattern: " ++ Text.quoted line
  | .reversedRange range position =>
    "bad character range " ++ range ++ " at position " ++ Text.ofNat position

namespace IgnoreRule

/-! ## Reading

A rule stands for a regular expression.  What is wrong with a range is said with its position in
that expression, so that reading keeps count of the characters of the expression. -/

/-- Why a segment cannot be read. -/
inductive SegmentProblem where
  | unclosedSet
  | danglingEscape
deriving DecidableEq, Repr

/-- Something that has been read, as part of a regular expression. -/
structure Expressed (α : Type) where
  meaning : α
  /-- How many characters stand for it in the expression. -/
  width : Nat
  /-- The first range with its ends in the wrong order, and where in the expression it is. -/
  reversed : Option (Nat × Text) := none

namespace Expressed

/-- Put one thing in front of others. -/
def cons {α : Type} (first : Expressed α) (rest : Expressed (List α)) : Expressed (List α) where
  meaning := first.meaning :: rest.meaning
  width := first.width + rest.width
  reversed :=
    match first.reversed with
    | some found => some found
    | none => rest.reversed.map fun (position, range) => (first.width + position, range)

/-- Nothing. -/
def nil {α : Type} : Expressed (List α) where
  meaning := []
  width := 0

end Expressed

/-- The characters that a regular expression has an escape for. -/
def escapedCharacters : Text :=
  "()[]\x7B\x7D?*+-|^$\\.&~# \t\n\r\x0B\x0C"

/-- A character that stands for itself. -/
def literal (character : Char) : Expressed GlobItem where
  meaning := .literal character
  width := if character ∈ escapedCharacters then 2 else 1

/-- A character inside a set, as the expression has it. -/
def inSet (character : Char) : Text :=
  if character = '\\' then ['\\', '\\'] else [character]

/-- The first range of a set with its ends in the wrong order, and what stands before it. -/
def reversedRange? : Text → Option (Nat × Text)
  | first :: '-' :: last :: rest =>
    let range := inSet first ++ '-' :: inSet last
    if last < first then
      some (0, range)
    else
      (reversedRange? rest).map fun (position, found) => (range.length + position, found)
  | character :: rest =>
    (reversedRange? rest).map fun (position, found) =>
      ((inSet character).length + position, found)
  | [] => none

/-- The marks that negate a set. -/
def negations : List Char :=
  ['!', '^']

/-- The set that is written between two brackets. -/
def readSet (inside : Text) : Expressed GlobItem :=
  let negated := inside.head?.any (· ∈ negations)
  let body := if negated then inside.tail else inside
  let opening := if negated then 2 else 1
  { meaning := .oneOf negated (Glob.rangesOf body)
    width := opening + (body.flatMap inSet).length + 1
    reversed := (reversedRange? body).map fun (position, range) => (opening + position, range) }

/-- Read the items of a segment; a backslash takes the next character literally. -/
def readGlob : Text → Except SegmentProblem (Expressed Glob)
  | [] => .ok .nil
  | character :: rest =>
    if character = '\\' then
      match rest with
      | [] => .error .danglingEscape
      | escaped :: rest => (readGlob rest).map (literal escaped).cons
    else if character = '*' then
      (readGlob rest).map (Expressed.cons { meaning := .run, width := "[^/]*".length })
    else if character = '?' then
      (readGlob rest).map (Expressed.cons { meaning := .anyOne, width := "[^/]".length })
    else if character = '[' then
      match _found : Glob.splitSet? negations rest with
      | some (inside, after) => (readGlob after).map (readSet inside).cons
      | none => .error .unclosedSet
    else
      (readGlob rest).map (literal character).cons
termination_by text => text.length
decreasing_by
  all_goals simp only [List.length_cons]
  all_goals try omega
  have shorter := Glob.splitSet?_shortens _found
  omega

/-- Read one segment, which is the first one or is not. -/
def readSegment (first : Bool) (text : Text) :
    Except SegmentProblem (Expressed IgnoreSegment) :=
  if text = ['*', '*'] then
    .ok { meaning := .directories, width := (if first then "(?:.+/)?" else "(?:/.+)?").length }
  else
    let slash := if first then 0 else 1
    let read : Except SegmentProblem (Expressed IgnoreSegment) :=
      if text = ['*'] then
        .ok { meaning := .anyName, width := "[^/]+".length }
      else
        (readGlob text).map fun glob => { glob with meaning := .glob glob.meaning }
    read.map fun segment =>
      { segment with
        width := slash + segment.width
        reversed := segment.reversed.map fun (position, range) => (slash + position, range) }

/-- Read all segments; the first problem counts.  No slash is due after leading directories. -/
def readSegments : (first : Bool) → List Text →
    Except SegmentProblem (Expressed (List IgnoreSegment))
  | _, [] => .ok .nil
  | first, text :: texts =>
    match readSegment first text with
    | .error problem => .error problem
    | .ok segment =>
      (readSegments (first && segment.meaning = .directories) texts).map segment.cons

/-- Anchor the segments: a leading slash does so, and a single segment may be at any depth. -/
def anchor : List Text → List Text
  | [] :: segments => segments
  | [segment] => [['*', '*'], segment]
  | [segment, []] => [['*', '*'], segment, []]
  | segments => segments

/-- A slash at the end asks for something below. -/
def replaceLastEmpty : List Text → List Text
  | [] => []
  | [segment] => if segment = [] then [['*', '*']] else [segment]
  | segment :: segments => segment :: replaceLastEmpty segments

/-- Two stars twice in a row say no more than once. -/
def collapse : List Text → List Text
  | [] => []
  | segment :: segments =>
    match collapse segments with
    | [] => [segment]
    | next :: rest =>
      if segment = ['*', '*'] ∧ next = ['*', '*'] then
        next :: rest
      else
        segment :: next :: rest

/-- The segments of a rule as they count. -/
def normalSegments (text : Text) : List Text :=
  collapse (replaceLastEmpty (anchor (Text.splitOn '/' text)))

/-- The shape of the given segments; `endsWithSlash` says how the rule was written. -/
def shapeOf (endsWithSlash : Bool) (segments : List IgnoreSegment) : IgnoreShape :=
  match segments with
  | [.directories] => if endsWithSlash then .insideDirectories else .everything
  | [.directories, .anyName] => .everything
  | [.directories, .anyName, .directories] => .insideDirectories
  | segments => .segments segments

/-- The rule after an exclamation mark, if there is one. -/
def readBody (line : Text) (ignores : Bool) (text : Text) :
    Except InvalidRule (Option IgnoreRule) :=
  match normalSegments text with
  | [] => .error (.malformed line)
  | segments =>
    match readSegments true segments with
    | .error .danglingEscape => .error (.malformed line)
    | .error .unclosedSet => .ok none
    | .ok path =>
      match path.reversed with
      | some (position, range) => .error (.reversedRange range ("^".length + position))
      | none =>
        .ok (some
          { ignores, shape := shapeOf (text.getLast? = some '/' || text = []) path.meaning })

/-- The text of a line that counts: blanks at the end go, unless the last one is escaped. -/
def significant (line : Text) : Text :=
  if line.reverse.take 2 = [' ', '\\'] then line else Text.trimEnd line

/-- Read one line; blank lines, comments and a lone slash are no rules. -/
def readLine (line : Text) : Except InvalidRule (Option IgnoreRule) :=
  match significant line with
  | [] => .ok none
  | '#' :: _ => .ok none
  | ['/'] => .ok none
  | '!' :: text => readBody line false text
  | text => readBody line true text

/-! ## Matching -/

/-- The characters of a name. -/
def inName (character : Char) : Bool :=
  character ≠ '/'

/-- The characters on the way through directories, which are looked for on one line. -/
def onWay (character : Char) : Bool :=
  character ≠ '\n'

/-- Whether nothing is left but a line feed, or only what is below an entry. -/
def atEntryEnd (text : Text) : Bool :=
  text.isEmpty || text = ['\n'] || text.head? = some '/'

/-- Whether at least one character can be dropped such that the rest is accepted. -/
def afterSome (free : Char → Bool) (accepts : Text → Bool) : Text → Bool :=
  Glob.overOne free (Glob.overRun free accepts)

/-- Whether the text goes on with a slash after which the rest is accepted. -/
def afterSlash (accepts : Text → Bool) : Text → Bool :=
  Glob.overOne (· = '/') accepts

/-- Demand a slash, if one is due between two segments. -/
def afterSeparator (due : Bool) (accepts : Text → Bool) : Text → Bool :=
  if due then afterSlash accepts else accepts

/--
Whether the segments after the first one match a text.  `due` says whether a slash is due before
the next name.
-/
def matchesFrom : (due : Bool) → List IgnoreSegment → Text → Bool
  | _, [] => atEntryEnd
  | _, [.directories] => afterSlash fun _ => true
  | _, .directories :: segments => fun text =>
    matchesFrom true segments text ||
      afterSlash (afterSome onWay (matchesFrom true segments)) text
  | due, .anyName :: segments =>
    afterSeparator due (afterSome inName (matchesFrom true segments))
  | due, .glob items :: segments =>
    afterSeparator due (Glob.matchesBefore inName (matchesFrom true segments) items)

/-- Whether all segments match a text; directories at the beginning end with a slash. -/
def matchesSegments : List IgnoreSegment → Text → Bool
  | .directories :: segments => fun text =>
    matchesFrom false segments text ||
      afterSome onWay (afterSlash (matchesFrom false segments)) text
  | segments => matchesFrom false segments

/-- Whether a rule matches a path below its directory. -/
def applies (rule : IgnoreRule) (path : Text) : Bool :=
  match rule.shape with
  | .everything => path.any onWay
  | .insideDirectories => '/' ∈ path
  | .segments segments => matchesSegments segments path

end IgnoreRule

/-- The rules of an ignore file, in order. -/
abbrev IgnoreRules := List IgnoreRule

namespace IgnoreRules

/-- Read the lines of an ignore file; the first invalid one counts. -/
def readLines : List Text → Except InvalidRule IgnoreRules
  | [] => .ok []
  | line :: lines =>
    match IgnoreRule.readLine line with
    | .error invalid => .error invalid
    | .ok rule => (readLines lines).map (rule.toList ++ ·)

/-- Read an ignore file. -/
def parse (text : Text) : Except InvalidRule IgnoreRules :=
  readLines (Text.lines text)

/-- Whether a path is ignored: the last rule that applies decides. -/
def ignores (rules : IgnoreRules) (steps : List Text) : Bool :=
  let path := Text.joinWith ['/'] steps
  match rules.reverse.find? fun rule => rule.applies path with
  | some rule => rule.ignores
  | none => false

end IgnoreRules

end ProcedureAudit
