import Mathlib.Data.Finset.Card
import Mathlib.Data.Finset.Dedup
import Mathlib.Data.Finset.Filter
import ProcedureAudit.Proofs.Routine.Catalog

/-!
# Answers of a catalog

A catalog that files were added to, one after the other, answers for a name from the set of those
files that can be read and declare the name: with nothing, with the one file, or with all of them.
The order in which the files were added and repetitions do not matter, and neither do files that
cannot be read.
-/

namespace ProcedureAudit

/-! ## The declaring files -/

/-- The file can be read, and one of its lines declares the name. -/
def Workspace.Declares (workspace : Workspace) (name : Text) (file : FilePath) : Prop :=
  match workspace.readText file with
  | .ok source => ∃ line ∈ Routine.sourceLines source, Routine.LineDeclares name line
  | .error _ => False

instance (workspace : Workspace) (name : Text) : DecidablePred (workspace.Declares name) := by
  intro file
  unfold Workspace.Declares
  split
  · infer_instance
  · infer_instance

theorem Workspace.declares_iff_of_read
    {workspace : Workspace}
    {name : Text}
    {file : FilePath}
    {source : Text}
    (read : workspace.readText file = .ok source) :
    workspace.Declares name file ↔
      ∃ line ∈ Routine.sourceLines source, Routine.LineDeclares name line := by
  rw [Workspace.Declares, read]

theorem Workspace.Declares.exists_read
    {workspace : Workspace}
    {name : Text}
    {file : FilePath}
    (declares : workspace.Declares name file) :
    ∃ source, workspace.readText file = .ok source := by
  unfold Workspace.Declares at declares
  split at declares
  · rename_i source read
    exact ⟨source, read⟩
  · exact declares.elim

/-- Those of the files that declare the name, each once. -/
def Workspace.declaringFiles
    (workspace : Workspace)
    (name : Text)
    (files : List FilePath) :
    Finset FilePath :=
  files.toFinset.filter (workspace.Declares name)

theorem Workspace.mem_declaringFiles
    {workspace : Workspace}
    {name : Text}
    {files : List FilePath}
    {file : FilePath} :
    file ∈ workspace.declaringFiles name files ↔ file ∈ files ∧ workspace.Declares name file := by
  rw [Workspace.declaringFiles, Finset.mem_filter, List.mem_toFinset]

namespace Catalog

/-! ## One file after the other -/

/-- The catalog after a file was added; an attempt that fails leaves it as it is. -/
def afterFile (workspace : Workspace) (catalog : Catalog) (file : FilePath) : Catalog :=
  match catalog.addFile workspace file with
  | .ok (extended, _) => extended
  | .error _ => catalog

/-- The catalog after files were added to the empty one. -/
def afterFiles (workspace : Workspace) (files : List FilePath) : Catalog :=
  files.foldl (afterFile workspace) empty

section OneFile

variable
    {workspace : Workspace}
    {file : FilePath}

theorem afterFile_of_addFile
    {catalog extended : Catalog}
    {skipped : Option SkippedFile}
    (added : catalog.addFile workspace file = .ok (extended, skipped)) :
    afterFile workspace catalog file = extended := by
  rw [afterFile, added]

theorem afterFile_of_read
    {source : Text}
    (read : workspace.readText file = .ok source)
    (catalog : Catalog) :
    afterFile workspace catalog file = catalog.declareAll file source := by
  rw [afterFile, addFile, read]

theorem afterFile_of_unreadable
    (unreadable : ∀ source, workspace.readText file ≠ .ok source)
    (catalog : Catalog) :
    afterFile workspace catalog file = catalog := by
  rw [afterFile, addFile]
  cases read : workspace.readText file with
  | ok source => exact (unreadable source read).elim
  | error problem => cases problem <;> rfl

/-- What all declarations of one file keep is kept when a file is added, readable or not. -/
theorem afterFile_keeps
    {Kept : Catalog → Prop}
    (step : ∀ catalog source, Kept catalog → Kept (catalog.declareAll file source))
    {catalog : Catalog}
    (start : Kept catalog) :
    Kept (afterFile workspace catalog file) := by
  by_cases readable : ∃ source, workspace.readText file = .ok source
  · rcases readable with ⟨source, read⟩
    rw [afterFile_of_read read]
    exact step catalog source start
  · rw [afterFile_of_unreadable (not_exists.1 readable)]
    exact start

/-- A file is listed for a name exactly if it was so before or declares the name. -/
theorem mem_filesOf_afterFile
    {catalog : Catalog}
    {other : FilePath}
    {name : Text} :
    other ∈ (afterFile workspace catalog file).filesOf name ↔
      other ∈ catalog.filesOf name ∨ (other = file ∧ workspace.Declares name file) := by
  by_cases readable : ∃ source, workspace.readText file = .ok source
  · rcases readable with ⟨source, read⟩
    rw [afterFile_of_read read, declareAll, mem_filesOf_foldl_declare, declaredNames,
      exists_mem_declared_iff, Workspace.declares_iff_of_read read, and_comm]
  · have silent : ¬ workspace.Declares name file := fun declares =>
      readable declares.exists_read
    rw [afterFile_of_unreadable (not_exists.1 readable)]
    simp [silent]

end OneFile

/-! ## All files -/

/-- What one file keeps is kept by any sequence of files. -/
theorem afterFiles_keeps
    {workspace : Workspace}
    {Kept : Catalog → Prop}
    (start : Kept empty)
    (step : ∀ catalog file, Kept catalog → Kept (afterFile workspace catalog file))
    (files : List FilePath) :
    Kept (afterFiles workspace files) := by
  unfold afterFiles
  generalize empty = catalog at start ⊢
  induction files generalizing catalog with
  | nil => exact start
  | cons file files induction => exact induction _ (step catalog file start)

theorem keyed_afterFiles (workspace : Workspace) (files : List FilePath) :
    Keyed (afterFiles workspace files) :=
  afterFiles_keeps keyed_empty
    (fun _ file keyed => afterFile_keeps (fun _ source known => known.declareAll file source) keyed)
    files

theorem filed_afterFiles (workspace : Workspace) (files : List FilePath) :
    Filed (afterFiles workspace files) :=
  afterFiles_keeps filed_empty
    (fun _ file filed => afterFile_keeps (fun _ source known => known.declareAll file source) filed)
    files

theorem mem_filesOf_foldl_afterFile
    {workspace : Workspace}
    {files : List FilePath}
    {catalog : Catalog}
    {other : FilePath}
    {name : Text} :
    other ∈ (files.foldl (afterFile workspace) catalog).filesOf name ↔
      other ∈ catalog.filesOf name ∨ (other ∈ files ∧ workspace.Declares name other) := by
  induction files generalizing catalog with
  | nil => simp
  | cons file files induction =>
      rw [List.foldl_cons, induction, mem_filesOf_afterFile, or_assoc, List.mem_cons, or_and_right]
      refine or_congr_right (or_congr_left ?_)
      constructor
      · rintro ⟨rfl, declares⟩
        exact ⟨rfl, declares⟩
      · rintro ⟨rfl, declares⟩
        exact ⟨rfl, declares⟩

theorem mem_filesOf_afterFiles
    {workspace : Workspace}
    {files : List FilePath}
    {other : FilePath}
    {name : Text} :
    other ∈ (afterFiles workspace files).filesOf name ↔
      other ∈ files ∧ workspace.Declares name other := by
  have nothing : other ∉ empty.filesOf name := List.not_mem_nil
  rw [afterFiles, mem_filesOf_foldl_afterFile, or_iff_right nothing]

theorem toFinset_filesOf_afterFiles
    (workspace : Workspace)
    (files : List FilePath)
    (name : Text) :
    ((afterFiles workspace files).filesOf name).toFinset = workspace.declaringFiles name files := by
  ext file
  rw [List.mem_toFinset, mem_filesOf_afterFiles, Workspace.mem_declaringFiles]

/-! ## Built catalogs -/

/-- A catalog that was extended by the selected ones of some files is one of those files in turn. -/
theorem exists_foldl_afterFile_of_addFiles
    {workspace : Workspace}
    {patterns : List Wildcard}
    {files : List FilePath}
    {catalog built : Catalog}
    (success : (addFiles workspace patterns catalog files).outcome = .ok built) :
    ∃ added : List FilePath,
      added.Sublist files ∧ built = added.foldl (afterFile workspace) catalog := by
  induction files generalizing catalog with
  | nil =>
      exact ⟨[], List.Sublist.refl [], (Except.ok.inj success).symm⟩
  | cons file files induction =>
      rw [addFiles] at success
      cases selected : selects patterns file with
      | error problem =>
          rw [selected] at success
          contradiction
      | ok matched =>
          rw [selected] at success
          cases matched with
          | false =>
              rcases induction success with ⟨added, within, equal⟩
              exact ⟨added, within.cons file, equal⟩
          | true =>
              cases attempt : addFile workspace file catalog with
              | error problem =>
                  simp only [attempt] at success
                  contradiction
              | ok result =>
                  simp only [attempt] at success
                  rcases induction success with ⟨added, within, equal⟩
                  refine ⟨file :: added, within.cons_cons file, ?_⟩
                  rw [List.foldl_cons, afterFile_of_addFile attempt]
                  exact equal

/-- The files of a built catalog are visible files below the root. -/
theorem exists_visible_of_build
    {workspace : Workspace}
    {root ignoreFile : Text}
    {patterns : List Text}
    {catalog : Catalog}
    (built : (build workspace root patterns ignoreFile).outcome = .ok catalog) :
    ∃ rules node files,
      workspace.find? (workspace.resolve (FilePath.parse root)) = .ok (some node) ∧
      files.Sublist (visibleFiles rules (workspace.resolve (FilePath.parse root)) node) ∧
      catalog = afterFiles workspace files := by
  unfold build at built
  dsimp only at built
  split at built
  · contradiction
  · split at built
    · contradiction
    · contradiction
    · rename_i node located
      split at built
      · contradiction
      · split at built
        · contradiction
        · rename_i rules _
          rcases exists_foldl_afterFile_of_addFiles built with ⟨added, within, equal⟩
          exact ⟨rules, node, added, located, within, equal⟩

theorem exists_afterFiles_of_build
    {workspace : Workspace}
    {root ignoreFile : Text}
    {patterns : List Text}
    {catalog : Catalog}
    (built : (build workspace root patterns ignoreFile).outcome = .ok catalog) :
    ∃ files, catalog = afterFiles workspace files := by
  rcases exists_visible_of_build built with ⟨-, -, files, -, -, equal⟩
  exact ⟨files, equal⟩

/-! ## Answers -/

/-- The answer says which files declare a name, when these are the given ones. -/
structure Answers (answer : Lookup) (declaring : Finset FilePath) : Prop where
  unknown : answer = .unknown ↔ declaring.card = 0
  found : (∃ file, answer = .found file) ↔ declaring.card = 1
  ambiguous : (∃ files, answer = .ambiguous files) ↔ 1 < declaring.card
  path : ∀ file, answer.file? = some file ↔ declaring = {file}
  candidates : answer.candidates.toFinset = declaring
  distinct : answer.candidates.Nodup

theorem answers_lookup
    {catalog : Catalog}
    (filed : Filed catalog)
    (name : Text) :
    Answers (catalog.lookup name) (catalog.filesOf name).toFinset := by
  have distinct := filed.nodup_filesOf name
  have count := List.toFinset_card_of_nodup distinct
  unfold lookup
  cases files : catalog.filesOf name with
  | nil =>
      constructor <;> simp [Lookup.file?, Lookup.candidates]
  | cons first rest =>
      cases rest with
      | nil =>
          constructor <;> simp [Lookup.file?, Lookup.candidates]
      | cons second rest =>
          rw [files] at distinct count
          have several : 1 < (first :: second :: rest).toFinset.card := by
            rw [count]
            simp
          constructor
          · exact iff_of_false (fun equal => nomatch equal) (by omega)
          · exact iff_of_false (fun ⟨_, equal⟩ => nomatch equal) (by omega)
          · exact iff_of_true ⟨_, rfl⟩ several
          · intro file
            refine iff_of_false (fun equal => nomatch equal) fun single => ?_
            rw [single, Finset.card_singleton] at several
            omega
          · rfl
          · exact distinct

theorem answers_afterFiles (workspace : Workspace) (files : List FilePath) (name : Text) :
    Answers ((afterFiles workspace files).lookup name) (workspace.declaringFiles name files) := by
  rw [← toFinset_filesOf_afterFiles]
  exact answers_lookup (filed_afterFiles workspace files) name

/-- A file that is found was added, and it declares the name. -/
theorem mem_declaringFiles_of_lookup_eq_found
    {workspace : Workspace}
    {files : List FilePath}
    {name : Text}
    {file : FilePath}
    (found : (afterFiles workspace files).lookup name = .found file) :
    file ∈ workspace.declaringFiles name files := by
  have path : ((afterFiles workspace files).lookup name).file? = some file := by
    rw [found]
    rfl
  have single := ((answers_afterFiles workspace files name).path file).1 path
  exact single ▸ Finset.mem_singleton_self file

/-- A file that is found could be read when it was added. -/
theorem exists_read_of_lookup_eq_found
    {workspace : Workspace}
    {files : List FilePath}
    {name : Text}
    {file : FilePath}
    (found : (afterFiles workspace files).lookup name = .found file) :
    ∃ source, workspace.readText file = .ok source := by
  have declaring := mem_declaringFiles_of_lookup_eq_found found
  exact (Workspace.mem_declaringFiles.1 declaring).2.exists_read

/-- Two answers agree in what they say, in the one file, and in the set of files. -/
structure Agree (answer other : Lookup) : Prop where
  status : answer.status = other.status
  path : answer.file? = other.file?
  candidates : answer.candidates.toFinset = other.candidates.toFinset

/-- An answer is determined by the files that declare the name, up to their order. -/
theorem Answers.agree
    {answer other : Lookup}
    {declaring : Finset FilePath}
    (answers : Answers answer declaring)
    (others : Answers other declaring) :
    Agree answer other where
  status := by
    cases answer with
    | unknown =>
        rw [others.unknown.2 (answers.unknown.1 rfl)]
    | found file =>
        rcases others.found.2 (answers.found.1 ⟨file, rfl⟩) with ⟨same, equal⟩
        rw [equal]
        rfl
    | ambiguous files =>
        rcases others.ambiguous.2 (answers.ambiguous.1 ⟨files, rfl⟩) with ⟨same, equal⟩
        rw [equal]
        rfl
  path := by
    refine Option.ext fun file => ?_
    exact (answers.path file).trans (others.path file).symm
  candidates := answers.candidates.trans others.candidates.symm

/--
What a catalog knows after files were added in turn.  The names, in lower case, are its keys, each
once; under each key there are files, each once; files that cannot be read leave it as it is; and
the answer for a name is given by the set of the files that declare it.  So neither the order of
the files nor repetitions change an answer, and a declared name is never unknown.
-/
theorem afterFiles_indexes (workspace : Workspace) (files : List FilePath) :
    (afterFiles workspace files).names.map Text.lower = (afterFiles workspace files).keys ∧
      (afterFiles workspace files).keys.Nodup ∧
      (∀ declaration ∈ (afterFiles workspace files).declarations,
        declaration.files ≠ [] ∧ declaration.files.Nodup) ∧
      (∀ file, (∀ source, workspace.readText file ≠ .ok source) →
        afterFile workspace (afterFiles workspace files) file = afterFiles workspace files) ∧
      (∀ name,
        Answers ((afterFiles workspace files).lookup name)
          (workspace.declaringFiles name files)) ∧
      (∀ others, (∀ file, file ∈ others ↔ file ∈ files) →
        ∀ name,
          Agree ((afterFiles workspace others).lookup name)
            ((afterFiles workspace files).lookup name)) ∧
      ∀ name ∈ (afterFiles workspace files).names,
        (afterFiles workspace files).lookup name ≠ .unknown := by
  have keyed := keyed_afterFiles workspace files
  have filed := filed_afterFiles workspace files
  refine ⟨keyed.lowered, keyed.distinct, ?_, ?_, answers_afterFiles workspace files, ?_, ?_⟩
  · intro declaration member
    exact ⟨filed.nonempty declaration member, filed.distinct declaration member⟩
  · intro file unreadable
    exact afterFile_of_unreadable unreadable _
  · intro others same name
    have declaring : workspace.declaringFiles name others =
        workspace.declaringFiles name files := by
      ext file
      rw [Workspace.mem_declaringFiles, Workspace.mem_declaringFiles, same]
    exact (declaring ▸ answers_afterFiles workspace others name).agree
      (answers_afterFiles workspace files name)
  · intro name member unknown
    have key : Text.lower name ∈ (afterFiles workspace files).keys := by
      rw [← keyed.lowered]
      exact List.mem_map_of_mem member
    have listed := filed.filesOf_ne_nil_iff.2 key
    have none := (answers_lookup filed name).unknown.1 unknown
    exact listed (List.toFinset_eq_empty_iff _ |>.1 (Finset.card_eq_zero.1 none))

/-- Two files that declare one procedure, and one that is not UTF-8. -/
def mixedWorkspace : Workspace :=
  .ofTexts
    [ ("a.sql".toList,
        "CREATE PROCEDURE a_1 ()\nSELECT 1;\nEND;\nCREATE PROCEDURE B_2 ()\nSELECT (2;\nEND;".toList),
      ("b.sql".toList, "create procedure A_1 ()\nEND;".toList),
      ("c.sql".toList, "CREATE PROCEDURE c_3 ()\n\xFF".toList) ]

/-- The paths of those files, one of them twice, and a path to no file. -/
def mixedFiles : List FilePath :=
  ["a.sql".toList, "c.sql".toList, "b.sql".toList, "d.sql".toList, "a.sql".toList].map FilePath.parse

theorem afterFiles_indexes_mixedFiles :
    (∀ source, mixedWorkspace.readText (FilePath.parse "c.sql".toList) ≠ .ok source) ∧
      afterFile mixedWorkspace (afterFiles mixedWorkspace mixedFiles)
          (FilePath.parse "c.sql".toList) =
        afterFiles mixedWorkspace mixedFiles ∧
      (∀ file, file ∈ mixedFiles.tail.reverse ↔ file ∈ mixedFiles) ∧
      Agree ((afterFiles mixedWorkspace mixedFiles.tail.reverse).lookup "A_1".toList)
        ((afterFiles mixedWorkspace mixedFiles).lookup "A_1".toList) ∧
      (afterFiles mixedWorkspace mixedFiles).lookup "A_1".toList =
        .ambiguous [FilePath.parse "a.sql".toList, FilePath.parse "b.sql".toList] ∧
      "B_2".toList ∈ (afterFiles mixedWorkspace mixedFiles).names ∧
      (afterFiles mixedWorkspace mixedFiles).lookup "B_2".toList ≠ .unknown := by
  rcases afterFiles_indexes mixedWorkspace mixedFiles with ⟨-, -, -, skips, -, agrees, known⟩
  have unreadable :
      ∀ source, mixedWorkspace.readText (FilePath.parse "c.sql".toList) ≠ .ok source := by
    intro source read
    have failed : (mixedWorkspace.readText (FilePath.parse "c.sql".toList)).toBool = false := by
      decide +kernel
    rw [read] at failed
    contradiction
  have same : ∀ file, file ∈ mixedFiles.tail.reverse ↔ file ∈ mixedFiles := by
    intro file
    rw [List.mem_reverse]
    refine ⟨List.mem_of_mem_tail, fun member => ?_⟩
    rcases List.mem_cons.1 member with rfl | later
    · decide +kernel
    · exact later
  have member : "B_2".toList ∈ (afterFiles mixedWorkspace mixedFiles).names := by
    decide +kernel
  exact ⟨unreadable, skips _ unreadable, same, agrees _ same _, by decide +kernel, member,
    known _ member⟩

end Catalog

end ProcedureAudit
