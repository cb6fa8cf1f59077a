import Mathlib.Data.List.TakeWhile
import ProcedureAudit.Proofs.Text.Basic
import ProcedureAudit.Text.Lines

/-!
# Texts and their line ends

A text is either one line, or a line, a line end and another text; which characters end a line is
left to the reader.  By this induction, what is read between the line ends of a file does not
depend on whether a carriage return stands there alone, with a line feed, or not at all.  The last
section is about the lines that a text is cut into and about texts that are made of ended lines.
-/

namespace ProcedureAudit.Text

/-- Induction on the lines of a text, when some characters are taken to end a line. -/
theorem lines_induction
    (ends : Char → Bool)
    {motive : Text → Prop}
    (unbroken : ∀ line, (∀ character ∈ line, ends character = false) → motive line)
    (broken : ∀ line lineEnd rest, (∀ character ∈ line, ends character = false) →
      ends lineEnd = true → motive rest → motive (line ++ lineEnd :: rest))
    (text : Text) :
    motive text := by
  have parts : text.takeWhile (!ends ·) ++ text.dropWhile (!ends ·) = text :=
    List.takeWhile_append_dropWhile
  have line : ∀ character ∈ text.takeWhile (!ends ·), ends character = false := by
    intro character member
    simpa using List.mem_takeWhile_imp member
  cases remaining : text.dropWhile (!ends ·) with
  | nil =>
      rw [remaining, List.append_nil] at parts
      rw [← parts]
      exact unbroken _ line
  | cons lineEnd rest =>
      have stops : ends lineEnd = true := by
        have first := List.head?_dropWhile_not (!ends ·) text
        rw [remaining] at first
        simpa using first
      have shorter : rest.length < text.length := by
        rw [← parts, remaining, List.length_append, List.length_cons]
        omega
      rw [← parts, remaining]
      exact broken _ lineEnd rest line stops (lines_induction ends unbroken broken rest)
termination_by text.length

/-- Induction on the parts of a text between the occurrences of a mark. -/
theorem parts_induction
    (mark : Char)
    {motive : Text → Prop}
    (unbroken : ∀ part, mark ∉ part → motive part)
    (broken : ∀ part rest, mark ∉ part → motive rest → motive (part ++ mark :: rest))
    (text : Text) :
    motive text := by
  have absent {part : Text} (differ : ∀ character ∈ part, decide (character = mark) = false) :
      mark ∉ part :=
    fun member => absurd rfl (of_decide_eq_false (differ mark member))
  refine lines_induction (· = mark) (fun part differ => unbroken part (absent differ)) ?_ text
  intro part lineEnd rest differ same induction
  obtain rfl := of_decide_eq_true same
  exact broken part rest (absent differ) induction

/-! ## Line feeds and carriage returns -/

/-- Whether a character ends a line of a file. -/
def endsFileLine (character : Char) : Bool :=
  character = '\n' || character = '\r'

theorem endsFileLine_iff {character : Char} :
    endsFileLine character = true ↔ character = '\n' ∨ character = '\r' := by
  simp [endsFileLine]

/-- The text has neither line feeds nor carriage returns. -/
def Flat (text : Text) : Prop :=
  ∀ character ∈ text, endsFileLine character = false

instance (text : Text) : Decidable (Flat text) :=
  List.decidableBAll _ text

theorem Flat.lineFeed_not_mem {text : Text} (flat : Flat text) : '\n' ∉ text :=
  fun member => absurd (flat '\n' member) (by decide)

theorem unifyLineEnds_append {line : Text} (flat : Flat line) (text : Text) :
    unifyLineEnds (line ++ text) = line ++ unifyLineEnds text := by
  induction line with
  | nil => rfl
  | cons character line induction =>
      rcases List.forall_mem_cons.1 flat with ⟨first, later⟩
      have noReturn : character ≠ '\r' := by
        rintro rfl
        contradiction
      rw [List.cons_append, unifyLineEnds, induction later, List.cons_append]
      · rintro rest rfl
        exact (noReturn rfl).elim
      · exact noReturn

theorem unifyLineEnds_lineFeed (rest : Text) :
    unifyLineEnds ('\n' :: rest) = '\n' :: unifyLineEnds rest :=
  rfl

/-- A carriage return is a line end of its own unless a line feed follows it. -/
theorem unifyLineEnds_return (rest : Text) :
    unifyLineEnds ('\r' :: rest) =
      if rest.head? = some '\n' then unifyLineEnds rest else '\n' :: unifyLineEnds rest := by
  cases rest with
  | nil => rfl
  | cons first rest =>
      by_cases feed : first = '\n'
      · subst feed
        rfl
      · rw [if_neg (by simpa using feed), unifyLineEnds]
        rintro other same
        exact feed (List.cons.inj same).1

/-- The text with a carriage return before every line feed. -/
def withReturns (text : Text) : Text :=
  replaceChar '\n' ['\r', '\n'] text

theorem withReturns_append (before after : Text) :
    withReturns (before ++ after) = withReturns before ++ withReturns after :=
  List.flatMap_append

theorem withReturns_of_not_mem {line : Text} (plain : '\n' ∉ line) :
    withReturns line = line := by
  induction line with
  | nil => rfl
  | cons character line induction =>
      rw [List.mem_cons, not_or] at plain
      rw [withReturns, replaceChar, List.flatMap_cons, if_neg (Ne.symm plain.1)]
      exact congrArg (character :: ·) (induction plain.2)

theorem withReturns_broken {line : Text} (plain : '\n' ∉ line) (rest : Text) :
    withReturns (line ++ '\n' :: rest) = line ++ '\r' :: '\n' :: withReturns rest := by
  rw [withReturns_append, withReturns_of_not_mem plain]
  rfl

/-! ## Lines that a text is cut into, and lines that it consists of -/

/-- A line is cut off at its end, and none of its characters ends it before. -/
theorem endsLine_eq_false_of_mem_lines
    {text line : Text}
    (member : line ∈ lines text) :
    ∀ character ∈ line, endsLine character = false := by
  have unbroken (text : Text) :
      ∀ character ∈ text.takeWhile (fun character => !endsLine character),
        endsLine character = false := by
    intro character taken
    simpa using List.mem_takeWhile_imp taken
  induction text using lines.induct with
  | case1 text unended empty =>
      rw [List.isEmpty_iff.1 empty, lines] at member
      exact absurd member List.not_mem_nil
  | case2 text unended full =>
      have whole := List.takeWhile_append_dropWhile (p := fun character => !endsLine character)
        (l := text)
      rw [unended, List.append_nil] at whole
      rw [lines] at member
      split at member
      · rw [if_neg full, List.mem_singleton] at member
        rw [member, ← whole]
        exact unbroken text
      · rename_i ended
        rw [unended] at ended
        contradiction
  | case3 text lineEnd rest ended induction =>
      rw [lines] at member
      split at member
      · rename_i unended
        rw [ended] at unended
        contradiction
      · rename_i first later same
        obtain ⟨rfl, rfl⟩ := List.cons.inj (ended.symm.trans same)
        rcases List.mem_cons.1 member with rfl | further
        · exact unbroken text
        · exact induction further

/-- The text consists of the given lines: a line feed ends each of them and stands nowhere else. -/
structure ConsistsOf (text : Text) (parts : List Text) : Prop where
  joined : text = parts.flatMap (· ++ ['\n'])
  unbroken : ∀ part ∈ parts, '\n' ∉ part

theorem ConsistsOf.splitOn_eq
    {text : Text}
    {parts : List Text}
    (consists : ConsistsOf text parts) :
    splitOn '\n' text = parts ++ [[]] := by
  rw [consists.joined, splitOn_flatMap_concat consists.unbroken]

end ProcedureAudit.Text
