import Mathlib.Data.List.Flatten
import Mathlib.Data.List.Perm.Basic
import ProcedureAudit.Proofs.Routine.Grammar

/-!
# Chunks of a source text

A line that closes a body brings the scanner back to where it started, wherever it was, and the
statements that were collected before are not touched again.  A text that ends with such a line
is a chunk: it and whatever follows it are scanned independently of one another, and chunks that
change places only rearrange the statements.
-/

namespace ProcedureAudit.Routine

/-- The last line of the text closes a body, open or not. -/
def EndsClosed (text : Text) : Prop :=
  ∃ line ∈ (uncommentedLines text).getLast?, Closes line

theorem endsClosed_iff {text : Text} :
    EndsClosed text ↔ (uncommentedLines text).getLast?.any endsBody = true := by
  cases last : (uncommentedLines text).getLast? with
  | none => simp [EndsClosed, last]
  | some line => simp [EndsClosed, last, endsBody_iff]

instance (text : Text) : Decidable (EndsClosed text) :=
  decidable_of_iff _ endsClosed_iff.symm

theorem EndsClosed.exists_uncommentedLines_eq {text : Text} (closed : EndsClosed text) :
    ∃ before line, uncommentedLines text = before ++ [line] ∧ endsBody line = true := by
  obtain ⟨line, last, closes⟩ := closed
  obtain ⟨before, lines⟩ := List.getLast?_eq_some_iff.1 last
  exact ⟨before, line, lines, endsBody_iff.2 closes⟩

theorem uncommentedLines_append_lineFeed (first second : Text) :
    uncommentedLines (first ++ '\n' :: second) =
      uncommentedLines first ++ uncommentedLines second := by
  simp only [uncommentedLines, sourceLines, Text.splitOn_append_cons, List.map_append]

/-! ## The scanner after a chunk -/

namespace Progress

/-- In every stage, reached or not, a line that closes a body leaves the statements as they are. -/
theorem advance?_of_endsBody
    {line : Text}
    (ends : endsBody line = true)
    (wanted : Option Text)
    (progress : Progress) :
    advance? wanted progress line = some { progress with stage := .searching } := by
  obtain ⟨stage, selects⟩ := progress
  cases stage with
  | searching => simp [advance?, opensBody_eq_false_of_endsBody ends]
  | inBody => simp [advance?, ends]
  | inStatement => simp [advance?, ends]

/-- After a chunk the scanner is searching, with the statements of the chunk collected. -/
theorem foldlM_advance?_of_endsClosed
    {text : Text}
    (closed : EndsClosed text)
    (wanted : Option Text)
    (done : List Text)
    (place : Place) :
    (uncommentedLines text).foldlM (advance? wanted) (atPlace done place) =
      some { stage := .searching
             selects := done ++ scanLines wanted place (uncommentedLines text) } := by
  obtain ⟨before, line, lines, ends⟩ := closed.exists_uncommentedLines_eq
  obtain ⟨stage, run⟩ := foldlM_advance? wanted before done place
  have collected := scanLines_append_endsBody ends wanted place before []
  rw [scanLines_nil, Place.unfinished, List.append_nil] at collected
  rw [lines, List.foldlM_append, run, collected]
  change advance? wanted _ line >>= pure = _
  rw [advance?_of_endsBody ends]
  rfl

end Progress

/-! ## The statements of chunks -/

theorem scanSelects_append_of_endsClosed
    {first : Text}
    (closed : EndsClosed first)
    (second : Text)
    (procedure : Option Text) :
    scanSelects (first ++ '\n' :: second) procedure =
      scanSelects first procedure ++ scanSelects second procedure := by
  obtain ⟨before, line, lines, ends⟩ := closed.exists_uncommentedLines_eq
  have alone := scanLines_append_endsBody ends (wantedKey procedure) .outside before []
  rw [scanLines_nil, Place.unfinished, List.append_nil] at alone
  simp only [scanSelects, codeLines_eq_uncommentedLines]
  rw [uncommentedLines_append_lineFeed, lines, List.append_assoc, List.singleton_append,
    scanLines_append_endsBody ends, alone]

/-- Chunks are scanned one by one, and then the texts after them, which need not be chunks. -/
theorem scanSelects_joinWith_append
    {chunks : List Text}
    (closed : ∀ chunk ∈ chunks, EndsClosed chunk)
    (others : List Text)
    (procedure : Option Text) :
    scanSelects (Text.joinWith ['\n'] (chunks ++ others)) procedure =
      chunks.flatMap (scanSelects · procedure) ++
        scanSelects (Text.joinWith ['\n'] others) procedure := by
  induction chunks with
  | nil => rfl
  | cons chunk chunks induction =>
      rw [List.forall_mem_cons] at closed
      have later := induction closed.2
      rw [List.cons_append, List.flatMap_cons, List.append_assoc, ← later]
      cases remaining : chunks ++ others with
      | nil =>
          have nothing : scanSelects (Text.joinWith ['\n'] []) procedure = [] := rfl
          rw [nothing, List.append_nil, Text.joinWith]
      | cons next parts =>
          rw [Text.joinWith, List.append_assoc, List.singleton_append]
          exact scanSelects_append_of_endsClosed closed.1 _ procedure

/-- Chunks in another order give the same statements in another order. -/
theorem scanSelects_joinWith_perm
    {chunks others : List Text}
    (rearranged : chunks.Perm others)
    (closed : ∀ chunk ∈ chunks, EndsClosed chunk)
    (after : List Text)
    (procedure : Option Text) :
    (scanSelects (Text.joinWith ['\n'] (chunks ++ after)) procedure).Perm
      (scanSelects (Text.joinWith ['\n'] (others ++ after)) procedure) := by
  have othersClosed : ∀ chunk ∈ others, EndsClosed chunk := fun chunk member =>
    closed chunk (rearranged.mem_iff.2 member)
  rw [scanSelects_joinWith_append closed, scanSelects_joinWith_append othersClosed]
  exact (rearranged.flatMap_right _).append_right _

/--
A closing line isolates what stands before it from what stands after it.  The statements of the
two sides are those that each side has alone, in this order; after the line the scanner is where
it started; whatever is written on one side, the statements of the other side stay; and two
chunks that change places, among other chunks and before any texts, rearrange the statements.
-/
theorem scanSelects_isolated_of_endsClosed
    {first : Text}
    (closed : EndsClosed first)
    (second : Text)
    (procedure : Option Text) :
    scanSelects (first ++ '\n' :: second) procedure =
        scanSelects first procedure ++ scanSelects second procedure ∧
      (uncommentedLines first).foldlM
          (Progress.advance? (wantedKey procedure)) Progress.start =
        some { stage := .searching, selects := scanSelects first procedure } ∧
      (∀ edited,
        scanSelects first procedure <+: scanSelects (first ++ '\n' :: edited) procedure) ∧
      (∀ edited, EndsClosed edited →
        scanSelects second procedure <:+ scanSelects (edited ++ '\n' :: second) procedure) ∧
      (EndsClosed second →
        ∀ before after : List Text, (∀ chunk ∈ before, EndsClosed chunk) →
          (scanSelects (Text.joinWith ['\n'] (before ++ second :: first :: after)) procedure).Perm
            (scanSelects
              (Text.joinWith ['\n'] (before ++ first :: second :: after)) procedure)) := by
  refine ⟨scanSelects_append_of_endsClosed closed second procedure, ?_, ?_, ?_, ?_⟩
  · have run :=
      Progress.foldlM_advance?_of_endsClosed closed (wantedKey procedure) [] .outside
    rw [List.nil_append] at run
    rw [scanSelects, codeLines_eq_uncommentedLines]
    exact run
  · intro edited
    rw [scanSelects_append_of_endsClosed closed]
    exact List.prefix_append _ _
  · intro edited editedClosed
    rw [scanSelects_append_of_endsClosed editedClosed]
    exact List.suffix_append _ _
  · intro secondClosed before after beforeClosed
    have rearranged : (before ++ [second, first]).Perm (before ++ [first, second]) :=
      (List.Perm.swap first second []).append_left before
    have bothClosed : ∀ chunk ∈ before ++ [second, first], EndsClosed chunk := by
      intro chunk member
      rcases List.mem_append.1 member with earlier | swapped
      · exact beforeClosed chunk earlier
      · rcases List.mem_pair.1 swapped with rfl | rfl
        · exact secondClosed
        · exact closed
    have permuted := scanSelects_joinWith_perm rearranged bothClosed after procedure
    simpa only [List.append_assoc, List.cons_append, List.nil_append] using permuted

/-- A chunk with a body of another procedure, a second declaration and an open statement. -/
def openChunk : Text :=
  ("CREATE PROCEDURE b_2 ()\nSELECT 0;\nEND;\n" ++
    "CREATE PROCEDURE a_1 ()\nSELECT 1\nCREATE PROCEDURE a_1 ()\nEnd; --").toList

/-- A chunk with one body. -/
def shortChunk : Text :=
  "create procedure A_1 ()\nSELECT 2;\nSELECT 3\nEND; ".toList

theorem scanSelects_isolated_of_endsClosed_openChunk :
    EndsClosed openChunk ∧ EndsClosed shortChunk ∧
      scanSelects openChunk "a_1".toList = ["SELECT 1 CREATE PROCEDURE a_1 ()".toList] ∧
      scanSelects (openChunk ++ '\n' :: shortChunk) "a_1".toList =
        scanSelects openChunk "a_1".toList ++ ["SELECT 2;".toList, "SELECT 3".toList] ∧
      scanSelects shortChunk "a_1".toList <:+
        scanSelects (shortChunk ++ '\n' :: shortChunk) "a_1".toList ∧
      (scanSelects (Text.joinWith ['\n'] [openChunk, shortChunk, openChunk]) "a_1".toList).Perm
        (scanSelects (Text.joinWith ['\n'] [openChunk, openChunk, shortChunk]) "a_1".toList) := by
  have openClosed : EndsClosed openChunk := by decide +kernel
  have shortClosed : EndsClosed shortChunk := by decide +kernel
  obtain ⟨together, -, -, edited, swapped⟩ :=
    scanSelects_isolated_of_endsClosed openClosed shortChunk (some "a_1".toList)
  have short : scanSelects shortChunk "a_1".toList = ["SELECT 2;".toList, "SELECT 3".toList] := by
    decide +kernel
  refine ⟨openClosed, shortClosed, by decide +kernel, ?_, edited shortChunk shortClosed, ?_⟩
  · rw [together, short]
  · exact swapped shortClosed [openChunk] [] (List.forall_mem_singleton.2 openClosed)

end ProcedureAudit.Routine
