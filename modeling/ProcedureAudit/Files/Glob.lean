import ProcedureAudit.Text.Basic

/-!
# Globs

A glob is a sequence of items, each of which stands for one character or for a run of characters.
Matching walks over the items; only a run looks ahead in the text.  The caller says which
characters the free items may stand for.

Reading a glob from text differs between its uses, so that only the reading of a character set is
shared here.
-/

namespace ProcedureAudit

/-- One item of a glob. -/
inductive GlobItem where
  | literal (character : Char)
  /-- Any one character. -/
  | anyOne
  /-- Any number of characters. -/
  | run
  /-- One character inside the ranges, or outside all of them. -/
  | oneOf (negated : Bool) (ranges : List (Char × Char))
deriving DecidableEq, Repr

/-- A glob. -/
abbrev Glob := List GlobItem

namespace Glob

/-! ## Matching -/

/-- Whether a character lies in one of the ranges. -/
def inRanges (ranges : List (Char × Char)) (character : Char) : Bool :=
  ranges.any fun (first, last) => first ≤ character && character ≤ last

/-- Whether some number of free characters can be dropped such that the rest is accepted. -/
def overRun (free : Char → Bool) (accepts : Text → Bool) : Text → Bool
  | [] => accepts []
  | character :: rest =>
    accepts (character :: rest) || (free character && overRun free accepts rest)

/-- Whether the first character passes a test and the rest is accepted. -/
def overOne (passes : Char → Bool) (accepts : Text → Bool) : Text → Bool
  | [] => false
  | character :: rest => passes character && accepts rest

/-- Whether a glob stands for a beginning of the text such that the rest is accepted. -/
def matchesBefore (free : Char → Bool) (accepts : Text → Bool) : Glob → Text → Bool
  | [] => accepts
  | .literal character :: items => overOne (· = character) (matchesBefore free accepts items)
  | .anyOne :: items => overOne free (matchesBefore free accepts items)
  | .run :: items => overRun free (matchesBefore free accepts items)
  | .oneOf negated ranges :: items =>
    overOne (fun character => inRanges ranges character != negated)
      (matchesBefore free accepts items)

/-! ## Character sets -/

/-- The ranges between two brackets: a hyphen between two characters makes a range of them. -/
def rangesOf : Text → List (Char × Char)
  | first :: '-' :: last :: rest => (first, last) :: rangesOf rest
  | character :: rest => (character, character) :: rangesOf rest
  | [] => []

/--
What stands between an opening bracket and the one that closes it, and what stands after that.
A closing bracket at the beginning, also after one of the `marks` of negation, belongs to the set.
-/
def splitSet? (marks text : Text) : Option (Text × Text) :=
  let mark := if text.head?.any (· ∈ marks) then text.take 1 else []
  let body := text.drop mark.length
  let first := body.take 1
  let rest := body.drop 1
  match rest.dropWhile (· ≠ ']') with
  | [] => none
  | _ :: after => some (mark ++ first ++ rest.takeWhile (· ≠ ']'), after)

theorem splitSet?_shortens {marks text inside after : Text}
    (found : splitSet? marks text = some (inside, after)) : after.length < text.length := by
  unfold splitSet? at found
  simp only at found
  split at found
  · simp at found
  · next closing rest reached =>
    simp only [Option.some.injEq, Prod.mk.injEq] at found
    have shorter := (List.dropWhile_sublist
      (l := List.drop 1
        (List.drop (if text.head?.any (· ∈ marks) then text.take 1 else []).length text))
      (fun character => decide (character ≠ ']'))).length_le
    rw [reached] at shorter
    have whole : (List.drop 1
        (List.drop (if text.head?.any (· ∈ marks) then text.take 1 else []).length text)).length ≤
        text.length := by
      simp only [List.length_drop]
      omega
    simp only [List.length_cons] at shorter
    rw [← found.2]
    omega

end Glob

end ProcedureAudit
