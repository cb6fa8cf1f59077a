import Mathlib.Data.List.Basic
import ProcedureAudit.Proofs.Routine.Bodies
import ProcedureAudit.Proofs.Routine.Catalog

/-!
# Procedure by procedure

The keys of a catalog partition the bodies of a file: each body belongs to exactly one key.  Asking
for the procedures one after the other therefore yields each statement of the file exactly once,
with the statements of the procedures rearranged and those of one procedure in source order.
-/

namespace ProcedureAudit.Routine

/-- Items sorted by keys, when each has exactly one of the keys, are the items rearranged. -/
theorem flatMap_filter_eq_perm
    {Item Key : Type}
    [DecidableEq Key]
    (keyOf : Item → Key)
    {keys : List Key}
    (distinct : keys.Nodup)
    {items : List Item}
    (covered : ∀ item ∈ items, keyOf item ∈ keys) :
    (keys.flatMap fun key => items.filter fun item => keyOf item = key).Perm items := by
  induction keys generalizing items with
  | nil =>
      have none : items = [] :=
        List.eq_nil_iff_forall_not_mem.2 fun item member => List.not_mem_nil (covered item member)
      rw [none]
      exact List.Perm.nil
  | cons key keys induction =>
      rcases List.nodup_cons.1 distinct with ⟨fresh, distinct⟩
      -- The items of the later keys are all found among those that do not have the first key.
      have remain : (keys.flatMap fun later => items.filter fun item => keyOf item = later) =
          keys.flatMap fun later =>
            (items.filter fun item => !decide (keyOf item = key)).filter fun item =>
              keyOf item = later := by
        refine List.flatMap_congr fun later member => ?_
        have differs : later ≠ key := fun same => fresh (same ▸ member)
        rw [List.filter_filter]
        refine List.filter_congr fun item _ => ?_
        by_cases same : keyOf item = later
        · simp [same, differs]
        · simp [same]
      have remainCovered : ∀ item ∈ items.filter fun item => !decide (keyOf item = key),
          keyOf item ∈ keys := by
        intro item member
        rcases List.mem_filter.1 member with ⟨member, differs⟩
        have other : keyOf item ≠ key := by simpa using differs
        exact List.mem_of_ne_of_mem other (covered item member)
      rw [List.flatMap_cons, remain]
      exact ((induction distinct remainCovered).append_left _).trans
        (List.filter_append_perm (fun item => decide (keyOf item = key)) items)

theorem exists_declaredName?_of_mem_bodies
    {lines : List Text}
    {body : Body}
    (member : body ∈ bodies lines) :
    ∃ line ∈ lines, declaredName? line = some body.name := by
  induction lines using bodies.induct with
  | case1 =>
      rw [bodies] at member
      contradiction
  | case2 line rest undeclared induction =>
      rw [bodies, undeclared] at member
      rcases induction member with ⟨other, inRest, declared⟩
      exact ⟨other, List.mem_cons_of_mem _ inRest, declared⟩
  | case3 line rest name declared induction =>
      rw [bodies, declared] at member
      rcases List.mem_cons.1 member with rfl | later
      · exact ⟨line, List.mem_cons_self .., declared⟩
      · rcases induction later with ⟨other, inRest, declared⟩
        have kept := (List.dropWhile_suffix fun line => !endsBody line).mem inRest
        exact ⟨other, List.mem_cons_of_mem _ kept, declared⟩

theorem name_mem_declaredNames
    {source : Text}
    {body : Body}
    (member : body ∈ bodies (uncommentedLines source)) :
    body.name ∈ Catalog.declaredNames source := by
  rw [Catalog.declaredNames_eq_filterMap]
  exact List.mem_filterMap.2 (exists_declaredName?_of_mem_bodies member)

/-- A declared name is not empty, so that asking for it asks for its key. -/
theorem wantedKey_of_mem_declaredNames
    {source name : Text}
    (member : name ∈ Catalog.declaredNames source) :
    wantedKey (some name) = some (Text.lower name) := by
  rcases List.mem_filterMap.1 member with ⟨line, -, declared⟩
  cases name with
  | nil => exact (ne_nil_of_declaredName? declared rfl).elim
  | cons => rfl

/-- The statements of one procedure stand among those of all procedures in the same order. -/
theorem scanLines_sublist
    {lines : List Text}
    (separated : Separated lines)
    (wanted : Option Text) :
    (scanLines wanted .outside lines).Sublist (scanLines none .outside lines) := by
  cases wanted with
  | none => exact List.Sublist.refl _
  | some key =>
      rw [scanLines_some_eq_flatMap_bodies separated, scanLines_eq_flatMap_bodies]
      exact List.filter_sublist.flatMap Body.selects

/-- The statements of the procedures in a catalog of one file are those of the file rearranged. -/
theorem flatMap_scanSelects_names_perm
    (file : FilePath)
    {source : Text}
    (separated : Separated (uncommentedLines source)) :
    ((Catalog.empty.declareAll file source).names.flatMap fun name =>
      scanSelects source (some name)).Perm (scanSelects source none) := by
  have keyed := Catalog.keyed_empty.declareAll file source
  have covered : ∀ body ∈ bodies (uncommentedLines source),
      Text.lower body.name ∈ (Catalog.empty.declareAll file source).keys := fun body member =>
    Catalog.mem_keys_declareAll.2 (Or.inr ⟨body.name, name_mem_declaredNames member, rfl⟩)
  have byName : ∀ name ∈ (Catalog.empty.declareAll file source).names,
      scanSelects source (some name) =
        ((bodies (uncommentedLines source)).filter fun body =>
          Text.lower body.name = Text.lower name).flatMap Body.selects := by
    intro name member
    rcases Catalog.mem_names_declareAll member with known | declared
    · exact (List.not_mem_nil known).elim
    · rw [scanSelects, codeLines_eq_uncommentedLines, wantedKey_of_mem_declaredNames declared]
      exact scanLines_some_eq_flatMap_bodies separated (Text.lower name)
  have byKey : ((Catalog.empty.declareAll file source).names.flatMap fun name =>
        scanSelects source (some name)) =
      ((Catalog.empty.declareAll file source).keys.flatMap fun key =>
        (bodies (uncommentedLines source)).filter fun body =>
          Text.lower body.name = key).flatMap Body.selects := by
    rw [List.flatMap_congr byName, ← keyed.lowered, List.flatMap_map, List.flatMap_assoc]
  have all : scanSelects source none =
      (bodies (uncommentedLines source)).flatMap Body.selects := by
    rw [scanSelects, codeLines_eq_uncommentedLines]
    exact scanLines_eq_flatMap_bodies (uncommentedLines source)
  rw [byKey, all]
  exact (flatMap_filter_eq_perm (fun body => Text.lower body.name) keyed.distinct
    covered).flatMap_right Body.selects

/--
Where each body ends before the next declaration, asking for the names of the catalog one after
the other loses and repeats no statement, and keeps the order within each procedure.
-/
theorem scanSelects_of_names_partition
    {workspace : Workspace}
    {file : FilePath}
    {source : Text}
    (read : workspace.readText file = .ok source)
    (separated : Separated (uncommentedLines source)) :
    ∃ catalog, Catalog.addFile workspace file Catalog.empty = .ok (catalog, none) ∧
      (catalog.names.flatMap fun name => scanSelects source (some name)).Perm
        (scanSelects source none) ∧
      ∀ procedure, (scanSelects source procedure).Sublist (scanSelects source none) := by
  refine ⟨Catalog.empty.declareAll file source, ?_, ?_, ?_⟩
  · rw [Catalog.addFile, read]
  · exact flatMap_scanSelects_names_perm file separated
  · intro procedure
    rw [scanSelects, scanSelects, codeLines_eq_uncommentedLines]
    exact scanLines_sublist separated (wantedKey procedure)

/-- A text that declares one procedure twice, in different letter case. -/
def twiceDeclared : Text :=
  "CREATE PROCEDURE a_1\nSELECT 1;\nEND;\ncreate procedure A_1\nSELECT 2;\nEND;".toList

/-- A workspace with that text in its only file. -/
def twiceDeclaredWorkspace : Workspace where
  top := .directory
    [("a.sql".toList, .file (twiceDeclared.map fun character => .ofNat character.toNat))]
  current := []

theorem scanSelects_of_names_partition_twiceDeclared :
    twiceDeclaredWorkspace.readText (FilePath.parse "a.sql".toList) = .ok twiceDeclared ∧
      Separated (uncommentedLines twiceDeclared) ∧
      scanSelects twiceDeclared none = ["SELECT 1;".toList, "SELECT 2;".toList] ∧
      ∃ catalog,
        Catalog.addFile twiceDeclaredWorkspace (FilePath.parse "a.sql".toList) Catalog.empty =
          .ok (catalog, none) ∧
        (catalog.names.flatMap fun name => scanSelects twiceDeclared (some name)).Perm
          (scanSelects twiceDeclared none) ∧
        ∀ procedure,
          (scanSelects twiceDeclared procedure).Sublist (scanSelects twiceDeclared none) := by
  have read : twiceDeclaredWorkspace.readText (FilePath.parse "a.sql".toList) =
      .ok twiceDeclared := by
    decide +kernel
  have separated : Separated (uncommentedLines twiceDeclared) := by
    decide +kernel
  exact ⟨read, separated, by decide +kernel, scanSelects_of_names_partition read separated⟩

end ProcedureAudit.Routine
