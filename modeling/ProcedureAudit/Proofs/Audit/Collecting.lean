import ProcedureAudit.Audit
import ProcedureAudit.Proofs.Routine.Indexing

/-!
# Collecting after a build

A catalog that was built from a source tree leads only to files that could be read.  So collecting
statements from it never fails, and what is collected is put together name by name: each name that
is not skipped contributes the statements of the one file that declares it, if there is one.
-/

namespace ProcedureAudit.Audit

/-- The text of a file; one that cannot be read has none. -/
def textOf (workspace : Workspace) (file : FilePath) : Text :=
  match workspace.readText file with
  | .ok source => source
  | .error _ => []

/-- The statements of a name: those of the one file that declares it, if there is one. -/
def contribution (workspace : Workspace) (catalog : Catalog) (name : Text) : List CollectedSelect :=
  match catalog.lookup name with
  | .found file =>
    (Routine.scanSelects (textOf workspace file) (some name)).map fun scanned =>
      { procedure := name, file, select := Query.balanceParentheses scanned }
  | _ => []

theorem selectsOf_eq_contribution
    {workspace : Workspace}
    {catalog : Catalog}
    {name : Text}
    (read : ∀ file, catalog.lookup name = .found file →
      workspace.readText file = .ok (textOf workspace file)) :
    selectsOf workspace catalog name = .ok (contribution workspace catalog name) := by
  unfold selectsOf contribution
  cases answer : catalog.lookup name with
  | unknown => rfl
  | ambiguous files => rfl
  | found file =>
      simp only [Routine.selectsOfFile, read file answer, List.map_map]
      rfl

/-- Where each name has its statements, collecting puts them one after the other. -/
theorem collect_eq_flatMap
    {workspace : Workspace}
    {catalog : Catalog}
    {selects : Text → List CollectedSelect}
    (each : ∀ name, selectsOf workspace catalog name = .ok (selects name))
    (skipped names : List Text) :
    collect workspace catalog skipped names =
      .ok ((names.filter fun name => name ∉ skipped).flatMap selects) := by
  induction names with
  | nil => rfl
  | cons name names induction =>
      by_cases member : name ∈ skipped
      · rw [collect, if_pos member, induction]
        simp [member]
      · rw [collect, if_neg member, each, induction]
        simp [member, Except.map]

section Built

variable
    {workspace : Workspace}
    {root ignoreFile : Text}
    {patterns : List Text}
    {catalog : Catalog}
    (built : (Catalog.build workspace root patterns ignoreFile).outcome = .ok catalog)

include built

/-- After a successful build, every file that is found for a name can be read. -/
theorem readText_of_build
    {name : Text}
    {file : FilePath}
    (found : catalog.lookup name = .found file) :
    workspace.readText file = .ok (textOf workspace file) := by
  rcases Catalog.exists_afterFiles_of_build built with ⟨files, rfl⟩
  rcases Catalog.exists_read_of_lookup_eq_found found with ⟨source, equal⟩
  rw [textOf, equal]

theorem selectsOf_of_build (name : Text) :
    selectsOf workspace catalog name = .ok (contribution workspace catalog name) :=
  selectsOf_eq_contribution fun _ found => readText_of_build built found

/--
After a successful build, collecting succeeds for any names and any skip list.  It yields, name by
name, the repaired statements of the names that are not skipped and that exactly one file declares.
-/
theorem collect_of_build :
    (∀ name file, catalog.lookup name = .found file →
        workspace.readText file = .ok (textOf workspace file)) ∧
      ∀ skipped names,
        collect workspace catalog skipped names =
          .ok ((names.filter fun name => name ∉ skipped).flatMap
            (contribution workspace catalog)) := by
  constructor
  · intro name file found
    exact readText_of_build built found
  · exact collect_eq_flatMap (selectsOf_of_build built)

end Built

/-- What is declared by those files of the mixed workspace that can be read. -/
def mixedCatalog : Catalog where
  declarations :=
    [ { key := "a_1".toList
        files := [.absolute ["a.sql".toList], .absolute ["b.sql".toList]] },
      { key := "b_2".toList, files := [.absolute ["a.sql".toList]] } ]
  spellings := ["a_1".toList, "B_2".toList]

theorem build_mixedWorkspace :
    (Catalog.build Catalog.mixedWorkspace ['.'] ["*.sql".toList]
      Catalog.defaultIgnoreFile).outcome = .ok mixedCatalog := by
  decide +kernel

theorem collect_of_build_mixedWorkspace :
    (Catalog.build Catalog.mixedWorkspace ['.'] ["*.sql".toList]
        Catalog.defaultIgnoreFile).outcome = .ok mixedCatalog ∧
      mixedCatalog.lookup "b_2".toList = .found (.absolute ["a.sql".toList]) ∧
      Catalog.mixedWorkspace.readText (.absolute ["a.sql".toList]) =
        .ok (textOf Catalog.mixedWorkspace (.absolute ["a.sql".toList])) ∧
      collect Catalog.mixedWorkspace mixedCatalog ["B_2".toList]
          ["b_2".toList, [], "B_2".toList, "a_1".toList, "b_2".toList] =
        .ok (["b_2".toList, [], "a_1".toList, "b_2".toList].flatMap
          (contribution Catalog.mixedWorkspace mixedCatalog)) := by
  rcases collect_of_build build_mixedWorkspace with ⟨read, collected⟩
  exact ⟨build_mixedWorkspace, rfl, read "b_2".toList _ rfl, collected _ _⟩

end ProcedureAudit.Audit
