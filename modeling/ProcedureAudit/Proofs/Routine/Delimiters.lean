import ProcedureAudit.Proofs.Query.Parentheses
import ProcedureAudit.Proofs.Routine.Scan
import ProcedureAudit.Routine.Files

/-!
# Comment delimiters in statements

A scanned statement holds no comment delimiter: each of its lines ends before the first one, and
the space between two lines keeps their hyphens apart.  The repair of parentheses has no space to
put in the place of what it removes, so it brings a delimiter back exactly where surplus
parentheses were all that stood between two hyphens.
-/

namespace ProcedureAudit.Routine

/-- The comment delimiter occurs in a text. -/
def Delimited (text : Text) : Prop :=
  "--".toList <:+: text

@[simp]
theorem not_delimited_nil : ¬ Delimited [] := by
  simp [Delimited]

theorem Delimited.mono {part text : Text} (delimited : Delimited part) (within : part <:+: text) :
    Delimited text :=
  delimited.trans within

/-! ## Lines -/

/-- Nothing before the first delimiter is a delimiter. -/
theorem not_delimited_beforeComment (line : Text) :
    ¬ Delimited (beforeComment line) := by
  induction line with
  | nil => exact not_delimited_nil
  | cons character rest induction =>
      rw [beforeComment_cons]
      split
      · exact not_delimited_nil
      · rename_i undelimited
        intro delimited
        rcases List.infix_cons_iff.1 delimited with ⟨after, begins⟩ | inside
        · rcases eq_beforeComment_append rest with ⟨comment, split, -⟩
          have opening : character :: rest = ['-', '-'] ++ (after ++ comment) := by
            rw [split, ← List.cons_append, ← begins, List.append_assoc]
            rfl
          rw [Text.dropOpening?_eq_some_iff.2 opening] at undelimited
          exact undelimited rfl
        · exact induction inside

theorem not_delimited_of_mem_codeLines
    {source line : Text}
    (member : line ∈ codeLines source) :
    ¬ Delimited line := by
  rcases List.mem_map.1 member with ⟨written, writtenMember, rfl⟩
  rw [stripComment_eq_beforeComment (lineFeed_not_mem_of_mem_sourceLines writtenMember)]
  exact not_delimited_beforeComment written

/-! ## Statements -/

theorem not_delimited_trim {line : Text} (undelimited : ¬ Delimited line) :
    ¬ Delimited (Text.trim line) :=
  fun delimited => undelimited (delimited.mono (Text.trim_infix line))

/-- The space between two lines keeps their hyphens apart. -/
theorem not_delimited_append_line
    {opened line : Text}
    (openedUndelimited : ¬ Delimited opened)
    (lineUndelimited : ¬ Delimited line) :
    ¬ Delimited (opened ++ ' ' :: Text.trim line) := by
  intro delimited
  rcases (Text.infix_append_cons_iff (by decide)).1 delimited with left | right
  · exact openedUndelimited left
  · exact not_delimited_trim lineUndelimited right

theorem not_delimited_scanSelects (source : Text) (procedure : Option Text) :
    ∀ select ∈ scanSelects source procedure, ¬ Delimited select := by
  refine scanLines_keeps ?_ ?_ ?_
  · exact List.forall_mem_nil _
  · intro line member
    exact not_delimited_trim (not_delimited_of_mem_codeLines member)
  · intro line member opened openedUndelimited
    exact not_delimited_append_line openedUndelimited (not_delimited_of_mem_codeLines member)

/-! ## Statements of files -/

/--
The statements of a file are the scanned ones, repaired.  No scanned statement holds a comment
delimiter, and a repaired one holds a delimiter exactly if surplus parentheses parted two hyphens.
-/
theorem delimited_selectsOfFile_iff
    {workspace : Workspace}
    {file : FilePath}
    {procedure : Option Text}
    {selects : List Text}
    (found : selectsOfFile workspace file procedure = .ok selects) :
    ∃ source, workspace.readText file = .ok source ∧
      selects = (scanSelects source procedure).map Query.balanceParentheses ∧
      ∀ scanned ∈ scanSelects source procedure,
        ¬ Delimited scanned ∧
          (Delimited (Query.balanceParentheses scanned) ↔
            Query.HyphensPartedBySurplus scanned) := by
  unfold selectsOfFile at found
  split at found
  · contradiction
  · rename_i source read
    refine ⟨source, read, (Except.ok.inj found).symm, fun scanned member => ?_⟩
    have undelimited := not_delimited_scanSelects source procedure scanned member
    refine ⟨undelimited, ?_⟩
    unfold Delimited at undelimited ⊢
    rw [Query.hyphens_infix_balanceParentheses_iff, or_iff_right undelimited]

/-- A file with one procedure, whose statement has a closing parenthesis between two hyphens. -/
def partedWorkspace : Workspace where
  top :=
    .directory
      [ ("x.sql".toList,
          .file
            ("CREATE PROCEDURE a_1 ()\nSELECT 1 -)- 2;\nEND;".toList.map fun character =>
              .ofNat character.toNat)) ]
  current := []

theorem delimited_selectsOfFile_iff_partedWorkspace :
    selectsOfFile partedWorkspace (FilePath.parse "x.sql") none = .ok ["SELECT 1 -- 2;".toList] ∧
      ∃ source, partedWorkspace.readText (FilePath.parse "x.sql") = .ok source ∧
        ["SELECT 1 -- 2;".toList] = (scanSelects source none).map Query.balanceParentheses ∧
        ∀ scanned ∈ scanSelects source none,
          ¬ Delimited scanned ∧
            (Delimited (Query.balanceParentheses scanned) ↔
              Query.HyphensPartedBySurplus scanned) :=
  ⟨rfl, delimited_selectsOfFile_iff rfl⟩

/-- Not every statement of a file is free of delimiters: the repair can bring one back. -/
theorem exists_delimited_select :
    ¬ ∀ (workspace : Workspace) (file : FilePath) (procedure : Option Text) (selects : List Text),
        selectsOfFile workspace file procedure = .ok selects →
          ∀ select ∈ selects, ¬ Delimited select := by
  intro undelimited
  have found : selectsOfFile partedWorkspace (FilePath.parse "x.sql") none =
      .ok ["SELECT 1 -- 2;".toList] := rfl
  have delimited : Delimited "SELECT 1 -- 2;".toList :=
    ⟨"SELECT 1 ".toList, " 2;".toList, rfl⟩
  exact undelimited _ _ _ _ found _ (List.mem_singleton.2 rfl) delimited

end ProcedureAudit.Routine
