import ProcedureAudit.Plan
import ProcedureAudit.Proofs.Text.Basic
import ProcedureAudit.Proofs.Text.LetterCase

/-!
# The labels of a plan

The warnings about a row are spelled out here in terms of its two columns, without letter case: at
most one label for a scan, then one for sorting, then one for a temporary table.  The main
statement says that a plan is warned about with exactly these labels, row after row.
-/

namespace ProcedureAudit.Plan

/-- The join type is a word in any letter case; one line end after it does not count. -/
def HasJoinType (word : Text) (row : Row) : Prop :=
  Text.fold (column row "type".toList) = word ∨
    Text.fold (column row "type".toList) = word ++ ['\n']

instance (word : Text) (row : Row) : Decidable (HasJoinType word row) :=
  inferInstanceAs (Decidable (_ ∨ _))

/-- The extra information contains a word in any letter case. -/
def hasExtra (word : Text) (row : Row) : Bool :=
  Text.contains word (Text.fold (column row "Extra".toList))

/-- The labels of one row: the scan, with the table before the index, then the extra ones. -/
def rowLabels (row : Row) : List Text :=
  (if HasJoinType "all".toList row then
    ["full table scan".toList]
  else if HasJoinType "index".toList row then
    ["full index scan".toList]
  else
    []) ++
  (if hasExtra "filesort".toList row then ["filesort".toList] else []) ++
  (if hasExtra "temporary".toList row then ["temporary table".toList] else [])

theorem isKeywordLine_type_iff {word : Text} {row : Row} :
    Text.isKeywordLine word (column row "type".toList) = true ↔ HasJoinType word row :=
  Text.isKeywordLine_iff

theorem mentions_extra (word : Text) (row : Row) :
    Text.mentions word (column row "Extra".toList) = hasExtra word row := by
  rw [Bool.eq_iff_iff, Text.mentions_iff, hasExtra, Text.contains_iff]

theorem map_label_scanSmell (row : Row) :
    (scanSmell? (column row "type".toList)).toList.map Smell.label =
      if HasJoinType "all".toList row then
        ["full table scan".toList]
      else if HasJoinType "index".toList row then
        ["full index scan".toList]
      else
        [] := by
  unfold scanSmell?
  simp only [isKeywordLine_type_iff]
  by_cases table : HasJoinType "all".toList row
  · simp only [table, if_true]
    rfl
  · by_cases index : HasJoinType "index".toList row
    · simp only [table, index, if_true, if_false]
      rfl
    · simp only [table, index, if_false]
      rfl

theorem map_label_extraSmells (row : Row) :
    (extraSmells (column row "Extra".toList)).map Smell.label =
      (if hasExtra "filesort".toList row then ["filesort".toList] else []) ++
        (if hasExtra "temporary".toList row then ["temporary table".toList] else []) := by
  unfold extraSmells
  rw [mentions_extra, mentions_extra]
  cases hasExtra "filesort".toList row <;> cases hasExtra "temporary".toList row <;> rfl

theorem map_label_rowSmells (row : Row) :
    (rowSmells row).map Smell.label = rowLabels row := by
  rw [rowSmells, List.map_append, map_label_scanSmell, map_label_extraSmells, rowLabels,
    List.append_assoc]

/-- The labels of a plan are those of its rows, in row order. -/
theorem map_label_smells (plan : List Row) :
    (smells plan).map Smell.label = plan.flatMap rowLabels := by
  rw [smells, List.map_flatMap]
  simp only [map_label_rowSmells]

end ProcedureAudit.Plan
