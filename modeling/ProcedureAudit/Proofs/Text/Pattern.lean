import Mathlib.Data.List.Forall2
import ProcedureAudit.Proofs.Text.Basic

/-!
# Patterns that are tried from left to right

A pattern is a sequence of pieces.  A piece that is a run of characters can be read in several
ways, with a preference for long runs; when the rest of the pattern cannot go on after one of them,
the next one is tried.  A search for a pattern goes on behind what it has found, so that it does
not see a place where the pattern could be read again inside of that.

Two statements say when neither of these matters.  If the rest of a pattern cannot begin with a
character of the run before it, the longest run is the only one.  And if the pattern can never be
read inside of what it was read from, a search finds every place where the pattern can be read.
-/

namespace ProcedureAudit.Text

/-! ## Pieces -/

/-- A piece of a pattern. -/
inductive Piece where
  /-- The word itself. -/
  | word (expected : Text)
  /-- A run of at least so many characters of one kind. -/
  | run (least : Nat) (inside : Char → Bool)

/-- The runs at the beginning of a text, with what follows each, and the longest run first. -/
def runs (inside : Char → Bool) : Nat → Text → List (Text × Text)
  | least, [] => if least = 0 then [([], [])] else []
  | least, character :: rest =>
    (if inside character then
      (runs inside (least - 1) rest).map fun (part, after) => (character :: part, after)
    else
      []) ++
    if least = 0 then [([], character :: rest)] else []

namespace Piece

/-- What the piece can read at the beginning of a text, with the rest, in the order of trying. -/
def readings : Piece → Text → List (Text × Text)
  | .word expected, text => (dropOpening? expected text).toList.map (expected, ·)
  | .run least inside, text => runs inside least text

/-- A part of a text that the piece can stand for. -/
def Fits : Piece → Text → Prop
  | .word expected, part => part = expected
  | .run least inside, part => least ≤ part.length ∧ ∀ character ∈ part, inside character = true

end Piece

theorem fits_of_mem_runs
    {inside : Char → Bool}
    {least : Nat}
    {text part after : Text}
    (member : (part, after) ∈ runs inside least text) :
    text = part ++ after ∧ (Piece.run least inside).Fits part := by
  induction text generalizing least part with
  | nil =>
      rw [runs] at member
      split at member
      · rename_i zero
        obtain ⟨rfl, rfl⟩ := Prod.mk.inj (List.mem_singleton.1 member)
        exact ⟨rfl, Nat.le_of_eq zero, fun _ none => absurd none List.not_mem_nil⟩
      · exact absurd member List.not_mem_nil
  | cons character rest induction =>
      rw [runs] at member
      rcases List.mem_append.1 member with longer | empty
      · split at longer
        · rename_i isInside
          rcases List.mem_map.1 longer with ⟨⟨shorter, behind⟩, read, same⟩
          obtain ⟨rfl, rfl⟩ := Prod.mk.inj same
          obtain ⟨rfl, long, each⟩ := induction read
          exact ⟨rfl, Nat.sub_le_iff_le_add.1 long, List.forall_mem_cons.2 ⟨isInside, each⟩⟩
        · exact absurd longer List.not_mem_nil
      · split at empty
        · rename_i zero
          obtain ⟨rfl, rfl⟩ := Prod.mk.inj (List.mem_singleton.1 empty)
          exact ⟨rfl, Nat.le_of_eq zero, fun _ none => absurd none List.not_mem_nil⟩
        · exact absurd empty List.not_mem_nil

theorem Piece.fits_of_mem_readings
    {piece : Piece}
    {text part after : Text}
    (member : (part, after) ∈ piece.readings text) :
    text = part ++ after ∧ piece.Fits part := by
  cases piece with
  | word expected =>
      rcases List.mem_map.1 member with ⟨rest, opened, same⟩
      obtain ⟨rfl, rfl⟩ := Prod.mk.inj same
      exact ⟨dropOpening?_eq_some_iff.1 (Option.mem_toList.1 opened), rfl⟩
  | run least inside => exact fits_of_mem_runs member

/-- If no way leads on from a run that stops too early, the longest run is what counts. -/
theorem findSome?_runs
    {Result : Type}
    {inside : Char → Bool}
    {next : Text × Text → Option Result}
    (stuck : ∀ part character rest, inside character = true → next (part, character :: rest) = none)
    {least : Nat}
    {part after : Text}
    (fits : (Piece.run least inside).Fits part)
    (stops : ∀ character ∈ after.head?, inside character = false) :
    (runs inside least (part ++ after)).findSome? next = next (part, after) := by
  rcases fits with ⟨long, each⟩
  induction part generalizing least next with
  | nil =>
      obtain rfl := Nat.le_zero.1 long
      cases after with
      | nil => simp [runs]
      | cons stop after => simp [runs, stops stop rfl]
  | cons character part induction =>
      rcases List.forall_mem_cons.1 each with ⟨first, later⟩
      have early := stuck [] character (part ++ after) first
      have further :
          ((runs inside (least - 1) (part ++ after)).map fun (part, after) =>
            (character :: part, after)).findSome? next = next (character :: part, after) := by
        rw [List.findSome?_map]
        exact induction (fun part => stuck (character :: part)) (Nat.sub_le_iff_le_add.2 long) later
      rw [List.cons_append, runs, if_pos first, List.findSome?_append, further]
      -- Should the longer runs fail, the empty one is left, if it is allowed, and it fails too.
      split
      · rw [List.findSome?_singleton, early, Option.or_none]
      · rw [List.findSome?_nil, Option.or_none]

/-! ## Patterns -/

/-- The pieces follow one another in a text. -/
abbrev Pattern := List Piece

namespace Pattern

/-- The parts that the pieces read at the beginning of a text, and the rest of the text. -/
def read? : Pattern → Text → Option (List Text × Text)
  | [], text => some ([], text)
  | piece :: pattern, text =>
    (piece.readings text).findSome? fun (part, rest) =>
      (read? pattern rest).map fun (parts, after) => (part :: parts, after)

/-- The pieces fit the parts that they read, and the parts are the beginning of the text. -/
theorem fits_of_read?
    {pattern : Pattern}
    {text after : Text}
    {parts : List Text}
    (found : pattern.read? text = some (parts, after)) :
    text = parts.flatten ++ after ∧ List.Forall₂ Piece.Fits pattern parts := by
  induction pattern generalizing text parts with
  | nil =>
      obtain ⟨rfl, rfl⟩ := Prod.mk.inj (Option.some.inj found)
      exact ⟨rfl, .nil⟩
  | cons piece pattern induction =>
      rcases List.exists_of_findSome?_eq_some found with ⟨⟨part, rest⟩, member, onward⟩
      rcases Option.map_eq_some_iff.1 onward with ⟨⟨later, last⟩, read, same⟩
      obtain ⟨rfl, rfl⟩ := Prod.mk.inj same
      obtain ⟨rfl, fits⟩ := Piece.fits_of_mem_readings member
      obtain ⟨rfl, laterFit⟩ := induction read
      exact ⟨(List.append_assoc ..).symm, .cons fits laterFit⟩

/-- A run gives back what the word behind it needs. -/
example : Pattern.read? [.run 0 (· = 'a'), .word ['a']] ['a', 'a', 'b'] =
    some ([['a'], ['a']], ['b']) :=
  rfl

/-- The pattern cannot be read where the character stands. -/
def Excludes (pattern : Pattern) (character : Char) : Prop :=
  ∀ rest, pattern.read? (character :: rest) = none

section Pieces

variable {pattern : Pattern} {inside : Char → Bool} {least : Nat}

theorem excludes_word
    {character first : Char}
    (differs : character ≠ first)
    (expected : Text) :
    Excludes (.word (first :: expected) :: pattern) character := by
  intro rest
  have unopened : dropOpening? (first :: expected) (character :: rest) = none :=
    if_neg differs
  rw [read?, Piece.readings, unopened]
  rfl

theorem excludes_run
    {character : Char}
    (outside : inside character = false)
    (excludes : least = 0 → pattern.Excludes character) :
    Excludes (.run least inside :: pattern) character := by
  intro rest
  rw [read?, Piece.readings, runs, outside, if_neg Bool.false_ne_true, List.nil_append]
  split
  · rename_i zero
    rw [List.findSome?_singleton]
    exact Option.map_eq_none_iff.2 (excludes zero rest)
  · rfl

theorem read?_word (expected text : Text) :
    read? (.word expected :: pattern) (expected ++ text) =
      (pattern.read? text).map fun (parts, after) => (expected :: parts, after) := by
  rw [read?, Piece.readings, dropOpening?_eq_some_iff.2 rfl]
  exact List.findSome?_singleton

/-- What is behind the longest run settles whether a pattern can be read from the run on. -/
theorem read?_run
    (excludes : ∀ character, inside character = true → pattern.Excludes character)
    {part text : Text}
    (fits : (Piece.run least inside).Fits part)
    (stops : ∀ character ∈ text.head?, inside character = false) :
    read? (.run least inside :: pattern) (part ++ text) =
      (pattern.read? text).map fun (parts, after) => (part :: parts, after) := by
  rw [read?, Piece.readings]
  refine findSome?_runs (fun part character rest isInside => ?_) fits stops
  exact Option.map_eq_none_iff.2 (excludes character isInside rest)

end Pieces

/-! ## Searching -/

/--
The places from `place` on where a search finds the pattern, with the parts that are read there.
The first characters of the text may have been `passed` by, as a part of what was found before.
-/
def searchFrom (pattern : Pattern) : (place passed : Nat) → Text → List (Nat × List Text)
  | _, _, [] => []
  | place, passed + 1, _ :: rest => searchFrom pattern (place + 1) passed rest
  | place, 0, character :: rest =>
    match pattern.read? (character :: rest) with
    | some (parts, after) =>
      (place, parts) :: searchFrom pattern (place + 1) (rest.length - after.length) rest
    | none => searchFrom pattern (place + 1) 0 rest

/-- The places where a search finds the pattern, with the parts that are read there. -/
def search (pattern : Pattern) (text : Text) : List (Nat × List Text) :=
  pattern.searchFrom 0 0 text

/-- All places from `place` on where the pattern can be read, with the parts that are read. -/
def placesFrom (pattern : Pattern) : (place : Nat) → Text → List (Nat × List Text)
  | _, [] => []
  | place, character :: rest =>
    ((pattern.read? (character :: rest)).map fun (parts, _) => (place, parts)).toList ++
      placesFrom pattern (place + 1) rest

/-- The pattern cannot be read inside of what it was read from. -/
def Apart (pattern : Pattern) : Prop :=
  ∀ text parts after, pattern.read? text = some (parts, after) →
    ∀ inner, inner <:+ text → inner.length < text.length → after.length < inner.length →
      pattern.read? inner = none

section Searching

variable {pattern : Pattern}

/-- As long as the pattern cannot be read in what is passed by, a search misses no place. -/
theorem searchFrom_eq_placesFrom
    (apart : pattern.Apart)
    {place passed : Nat}
    {text : Text}
    (unread : ∀ inner, inner <:+ text → text.length - passed < inner.length →
      pattern.read? inner = none) :
    pattern.searchFrom place passed text = pattern.placesFrom place text := by
  induction text generalizing place passed with
  | nil => rw [searchFrom, placesFrom]
  | cons character rest induction =>
      have within {inner : Text} (suffix : inner <:+ rest) :
          inner <:+ character :: rest ∧ inner.length < (character :: rest).length :=
        ⟨suffix.trans (List.suffix_cons ..), Nat.lt_succ_of_le suffix.length_le⟩
      cases passed with
      | succ passed =>
          -- The text is a part of what was found before, so the pattern cannot be read here.
          have here := unread _ (List.suffix_refl _) (by simp only [List.length_cons]; omega)
          rw [searchFrom, placesFrom, here]
          refine induction fun inner suffix long => unread inner (within suffix).1 ?_
          simp only [List.length_cons]
          omega
      | zero =>
          rw [searchFrom, placesFrom]
          cases here : pattern.read? (character :: rest) with
          | none =>
              refine induction fun inner suffix long => ?_
              have short := suffix.length_le
              omega
          | some found =>
              rcases found with ⟨parts, after⟩
              refine congrArg (List.cons (place, parts)) (induction fun inner suffix long => ?_)
              have short := suffix.length_le
              exact apart _ parts after here inner (within suffix).1 (within suffix).2 (by omega)

/-- A search finds the pattern wherever it can be read. -/
theorem search_eq_placesFrom (apart : pattern.Apart) (text : Text) :
    pattern.search text = pattern.placesFrom 0 text := by
  refine searchFrom_eq_placesFrom apart fun inner suffix long => ?_
  have short := suffix.length_le
  omega

/-- A pattern that overlaps itself is not found everywhere. -/
example :
    Pattern.search [.word ['a', 'a']] ['a', 'a', 'a'] = [(0, [['a', 'a']])] ∧
      Pattern.placesFrom [.word ['a', 'a']] 0 ['a', 'a', 'a'] =
        [(0, [['a', 'a']]), (1, [['a', 'a']])] :=
  ⟨rfl, rfl⟩

theorem mem_placesFrom_iff
    {start place : Nat}
    {text : Text}
    {parts : List Text}
    (readsSomething : pattern.read? [] = none) :
    (place, parts) ∈ pattern.placesFrom start text ↔
      ∃ before here after, text = before ++ here ∧ place = start + before.length ∧
        pattern.read? here = some (parts, after) := by
  induction text generalizing start with
  | nil =>
      rw [placesFrom]
      constructor
      · exact fun none => absurd none List.not_mem_nil
      · rintro ⟨before, here, after, split, -, found⟩
        obtain ⟨-, rfl⟩ := List.append_eq_nil_iff.1 split.symm
        rw [readsSomething] at found
        contradiction
  | cons character rest induction =>
      rw [placesFrom, List.mem_append, induction, Option.mem_toList, Option.map_eq_some_iff]
      constructor
      · rintro (⟨⟨_, after⟩, found, same⟩ | ⟨before, here, after, rfl, rfl, found⟩)
        · obtain ⟨rfl, rfl⟩ := Prod.mk.inj same
          exact ⟨[], _, after, rfl, rfl, found⟩
        · refine ⟨character :: before, here, after, rfl, ?_, found⟩
          rw [List.length_cons]
          omega
      · rintro ⟨before, here, after, split, rfl, found⟩
        cases before with
        | nil => exact .inl ⟨(parts, after), by rw [split]; exact found, rfl⟩
        | cons first before =>
            obtain ⟨rfl, rfl⟩ := List.cons.inj split
            refine .inr ⟨before, here, after, rfl, ?_, found⟩
            rw [List.length_cons]
            omega

theorem le_of_mem_placesFrom
    {start : Nat}
    {text : Text}
    {found : Nat × List Text}
    (member : found ∈ pattern.placesFrom start text) :
    start ≤ found.1 := by
  induction text generalizing start with
  | nil => exact absurd member List.not_mem_nil
  | cons character rest induction =>
      rw [placesFrom] at member
      rcases List.mem_append.1 member with here | later
      · rcases Option.map_eq_some_iff.1 (Option.mem_toList.1 here) with ⟨_, -, rfl⟩
        exact Nat.le_refl _
      · exact Nat.le_of_succ_le (induction later)

/-- The places come in the order in which they are in the text. -/
theorem pairwise_placesFrom (start : Nat) (text : Text) :
    (pattern.placesFrom start text).Pairwise fun earlier later => earlier.1 < later.1 := by
  induction text generalizing start with
  | nil => exact .nil
  | cons character rest induction =>
      rw [placesFrom, List.pairwise_append]
      refine ⟨?_, induction (start + 1), ?_⟩
      · cases pattern.read? (character :: rest) with
        | none => exact .nil
        | some found => exact List.pairwise_singleton ..
      · intro earlier here later inRest
        rcases Option.map_eq_some_iff.1 (Option.mem_toList.1 here) with ⟨_, -, rfl⟩
        exact le_of_mem_placesFrom inRest

end Searching

end Pattern

end ProcedureAudit.Text
