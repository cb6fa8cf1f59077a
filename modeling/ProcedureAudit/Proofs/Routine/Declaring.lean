import Mathlib.Data.Nat.Find
import Mathlib.Order.Bounds.Basic
import ProcedureAudit.Proofs.Routine.Bodies
import ProcedureAudit.Proofs.Routine.Catalog

/-!
# Catalog and scanner agree

The catalog looks at whole lines, the scanner at lines without their comments and only while it is
outside of all bodies.  Asked for one procedure, the scanner enters a body for the first time at
exactly the line from which on the catalog lists the file for the name: no comment changes what a
line declares, and no line before the first declaration of the name can take the scanner away from
the outside.
-/

namespace ProcedureAudit

namespace Routine

/-! ## The first line with a property -/

theorem exists_mem_take_iff {property : Text → Prop} {lines : List Text} {count : Nat} :
    (∃ line ∈ lines.take count, property line) ↔
      ∃ position < count, At property lines position := by
  constructor
  · rintro ⟨line, member, holds⟩
    rcases List.mem_take_iff_getElem.1 member with ⟨position, before, rfl⟩
    have within := Nat.lt_of_lt_of_le before (Nat.min_le_right ..)
    exact ⟨position, Nat.lt_of_lt_of_le before (Nat.min_le_left ..), lines[position],
      List.getElem?_eq_getElem within, holds⟩
  · rintro ⟨position, before, line, found, holds⟩
    rcases List.getElem?_eq_some_iff.1 found with ⟨within, rfl⟩
    exact ⟨lines[position], List.mem_take_iff_getElem.2 ⟨position, by omega, rfl⟩, holds⟩

theorem exists_mem_iff_exists_at {property : Text → Prop} {lines : List Text} :
    (∃ line ∈ lines, property line) ↔ ∃ position, At property lines position := by
  constructor
  · rintro ⟨line, member, holds⟩
    rcases List.mem_iff_getElem?.1 member with ⟨position, found⟩
    exact ⟨position, line, found, holds⟩
  · rintro ⟨position, line, found, holds⟩
    exact ⟨line, List.mem_of_getElem? found, holds⟩

/-- A line is the first with a property if the lines before it lack it and those up to it do not. -/
theorem isLeast_at_iff {property : Text → Prop} {lines : List Text} {index : Nat} :
    IsLeast { position | At property lines position } index ↔
      ¬ (∃ line ∈ lines.take index, property line) ∧
        ∃ line ∈ lines.take (index + 1), property line := by
  rw [exists_mem_take_iff, exists_mem_take_iff]
  constructor
  · rintro ⟨holds, least⟩
    refine ⟨?_, index, Nat.lt_succ_self index, holds⟩
    rintro ⟨position, before, earlier⟩
    exact absurd (least earlier) (Nat.not_le.2 before)
  · rintro ⟨none, position, before, holds⟩
    have last : position = index := by
      by_contra other
      exact none ⟨position, by omega, holds⟩
    subst last
    refine ⟨holds, fun earlier atEarlier => ?_⟩
    by_contra before'
    exact none ⟨earlier, Nat.not_le.1 before', atEarlier⟩

theorem exists_isLeast_at
    {property : Text → Prop}
    {lines : List Text}
    {position : Nat}
    (holds : At property lines position) :
    ∃ index, IsLeast { position | At property lines position } index := by
  classical
  have somewhere : ∃ position, At property lines position := ⟨position, holds⟩
  exact ⟨Nat.find somewhere, Nat.find_spec somewhere, fun _ => Nat.find_min' somewhere⟩

/-! ## Where the scanner is -/

/-- Where the scanner is after the given lines. -/
def placeAfter (wanted : Option Text) (place : Place) (lines : List Text) : Place :=
  lines.foldl (fun place line => place.next wanted line) place

/-- A scan goes on after its first lines from the place that they lead to. -/
theorem scanLines_append (wanted : Option Text) (place : Place) (before : List Text) :
    ∃ found, ∀ after,
      scanLines wanted place (before ++ after) =
        found ++ scanLines wanted (placeAfter wanted place before) after := by
  induction before generalizing place with
  | nil => exact ⟨[], fun _ => rfl⟩
  | cons line before induction =>
      rcases induction (place.next wanted line) with ⟨found, goesOn⟩
      refine ⟨place.completed line ++ found, fun after => ?_⟩
      rw [List.cons_append, scanLines_cons, goesOn, List.append_assoc]
      rfl

/-- The scanner is outside of all bodies before a line and not any more after it. -/
def LeavesOutside (wanted : Option Text) (lines : List Text) (index : Nat) : Prop :=
  placeAfter wanted .outside (lines.take index) = .outside ∧
    placeAfter wanted .outside (lines.take (index + 1)) ≠ .outside

section Leaving

variable
    {wanted : Option Text}
    {lines : List Text}

theorem placeAfter_outside_of_opensNone
    (opensNone : ¬ ∃ line ∈ lines, opensBody wanted line = true) :
    placeAfter wanted .outside lines = .outside := by
  induction lines with
  | nil => rfl
  | cons line rest induction =>
      have stays : opensBody wanted line = false :=
        Bool.eq_false_iff.2 fun opens => opensNone ⟨line, List.mem_cons_self .., opens⟩
      rw [placeAfter, List.foldl_cons, Place.next, stays]
      apply induction
      rintro ⟨other, member, opens⟩
      exact opensNone ⟨other, List.mem_cons_of_mem _ member, opens⟩

theorem placeAfter_take_succ
    {index : Nat}
    {line : Text}
    (found : lines[index]? = some line)
    (place : Place) :
    placeAfter wanted place (lines.take (index + 1)) =
      (placeAfter wanted place (lines.take index)).next wanted line := by
  rw [placeAfter, List.take_add_one, List.foldl_append, found]
  rfl

/-- Only a line that opens a body takes the scanner away from the outside. -/
theorem LeavesOutside.at
    {index : Nat}
    (leaves : LeavesOutside wanted lines index) :
    At (fun line => opensBody wanted line = true) lines index := by
  rcases leaves with ⟨before, after⟩
  cases found : lines[index]? with
  | none =>
      rw [List.take_add_one, found, Option.toList_none, List.append_nil] at after
      exact (after before).elim
  | some line =>
      refine ⟨line, found, ?_⟩
      rw [placeAfter_take_succ found, before, Place.next] at after
      cases opens : opensBody wanted line with
      | true => rfl
      | false =>
          rw [opens] at after
          exact (after rfl).elim

theorem isLeast_leavesOutside_of_isLeast_at
    {index : Nat}
    (first : IsLeast { position | At (fun line => opensBody wanted line = true) lines position }
      index) :
    IsLeast { position | LeavesOutside wanted lines position } index := by
  have before := placeAfter_outside_of_opensNone (isLeast_at_iff.1 first).1
  rcases first with ⟨⟨line, found, opens⟩, least⟩
  refine ⟨⟨before, ?_⟩, fun position leaves => least leaves.at⟩
  rw [placeAfter_take_succ found, before, Place.next, if_pos opens]
  exact Place.noConfusion

/-- The scanner leaves the outside for the first time where a line first opens a body. -/
theorem isLeast_leavesOutside_iff {index : Nat} :
    IsLeast { position | LeavesOutside wanted lines position } index ↔
      IsLeast { position | At (fun line => opensBody wanted line = true) lines position } index := by
  constructor
  · intro first
    rcases exists_isLeast_at first.1.at with ⟨opener, opens⟩
    rw [first.unique (isLeast_leavesOutside_of_isLeast_at opens)]
    exact opens
  · exact isLeast_leavesOutside_of_isLeast_at

theorem exists_leavesOutside_iff :
    (∃ index, LeavesOutside wanted lines index) ↔
      ∃ line ∈ lines, opensBody wanted line = true := by
  rw [exists_mem_iff_exists_at]
  constructor
  · rintro ⟨index, leaves⟩
    exact ⟨index, leaves.at⟩
  · rintro ⟨position, opens⟩
    rcases exists_isLeast_at opens with ⟨index, first⟩
    exact ⟨index, (isLeast_leavesOutside_of_isLeast_at first).1⟩

end Leaving

/-! ## Lines with and without comments -/

theorem opensBody_beforeComment_iff {name : Text} (nonempty : name ≠ []) {line : Text} :
    opensBody (wantedKey (some name)) (beforeComment line) = true ↔ LineDeclares name line := by
  have key : wantedKey (some name) = some (Text.lower name) := by
    cases name with
    | nil => exact (nonempty rfl).elim
    | cons => rfl
  unfold opensBody LineDeclares
  rw [key, declaredName?_beforeComment]
  cases declaredName? line with
  | none => simp
  | some declared => simp [isWanted]

theorem at_codeLines_iff {name source : Text} (nonempty : name ≠ []) {position : Nat} :
    At (fun line => opensBody (wantedKey (some name)) line = true) (codeLines source) position ↔
      At (LineDeclares name) (sourceLines source) position := by
  rw [codeLines_eq_uncommentedLines, uncommentedLines]
  unfold At
  rw [List.getElem?_map]
  cases (sourceLines source)[position]? with
  | none => simp
  | some line => simp [opensBody_beforeComment_iff nonempty]

/-- The scan for a name leaves the outside somewhere exactly if some line declares the name. -/
theorem exists_leavesOutside_iff_declares {name source : Text} (nonempty : name ≠ []) :
    (∃ index, LeavesOutside (wantedKey (some name)) (codeLines source) index) ↔
      ∃ line ∈ sourceLines source, LineDeclares name line := by
  rw [exists_leavesOutside_iff, exists_mem_iff_exists_at, exists_mem_iff_exists_at]
  exact exists_congr fun _ => at_codeLines_iff nonempty

theorem scanSelects_eq_nil_of_stays
    {source : Text}
    {procedure : Option Text}
    (stays : ¬ ∃ index, LeavesOutside (wantedKey procedure) (codeLines source) index) :
    scanSelects source procedure = [] := by
  have opensNone := mt exists_leavesOutside_iff.2 stays
  have passed := scanLines_outside_append
    (fun line member => Bool.eq_false_iff.2 fun opens => opensNone ⟨line, member, opens⟩) []
  rw [List.append_nil] at passed
  exact passed

end Routine

namespace Catalog

/-! ## What the first lines of a file record -/

/-- The catalog after the given lines of a file. -/
def afterLines (catalog : Catalog) (file : FilePath) (lines : List Text) : Catalog :=
  (lines.filterMap Routine.declaredName?).foldl (declare file) catalog

/-- The file is not listed for a name before a line of it and is listed after that line. -/
def RecordsAt
    (catalog : Catalog)
    (file : FilePath)
    (name : Text)
    (lines : List Text)
    (index : Nat) :
    Prop :=
  file ∉ (catalog.afterLines file (lines.take index)).filesOf name ∧
    file ∈ (catalog.afterLines file (lines.take (index + 1))).filesOf name

theorem mem_filesOf_afterLines
    {catalog : Catalog}
    {file : FilePath}
    {name : Text}
    {lines : List Text} :
    file ∈ (catalog.afterLines file lines).filesOf name ↔
      file ∈ catalog.filesOf name ∨ ∃ line ∈ lines, Routine.LineDeclares name line := by
  rw [afterLines, mem_filesOf_foldl_declare, exists_mem_declared_iff]
  simp

theorem recordsAt_iff
    {catalog : Catalog}
    {file : FilePath}
    {name : Text}
    (unlisted : file ∉ catalog.filesOf name)
    {lines : List Text}
    {index : Nat} :
    catalog.RecordsAt file name lines index ↔
      IsLeast { position | Routine.At (Routine.LineDeclares name) lines position } index := by
  rw [RecordsAt, mem_filesOf_afterLines, mem_filesOf_afterLines, or_iff_right unlisted,
    or_iff_right unlisted, Routine.isLeast_at_iff]

theorem recordsAt_iff_isLeast_leavesOutside
    {catalog : Catalog}
    {file : FilePath}
    {source name : Text}
    (nonempty : name ≠ [])
    (unlisted : file ∉ catalog.filesOf name)
    {index : Nat} :
    catalog.RecordsAt file name (Routine.sourceLines source) index ↔
      IsLeast
        { position |
          Routine.LeavesOutside (Routine.wantedKey (some name)) (Routine.codeLines source) position }
        index := by
  rw [recordsAt_iff unlisted, Routine.isLeast_leavesOutside_iff]
  simp only [Routine.at_codeLines_iff nonempty]

/-! ## The agreement -/

/--
Adding a file lists it for a name exactly if the scan for that name leaves the outside, and from
exactly the line on at which the scan does so for the first time.  A scan of a file that is not
listed for the name yields nothing.
-/
theorem addFile_agrees_with_scan
    {workspace : Workspace}
    {file : FilePath}
    {source name : Text}
    (read : workspace.readText file = .ok source)
    (nonempty : name ≠ [])
    (catalog : Catalog) :
    let lines := Routine.sourceLines source
    let wanted := Routine.wantedKey (some name)
    let extended := catalog.afterLines file lines
    let Leaves := Routine.LeavesOutside wanted (Routine.codeLines source)
    catalog.addFile workspace file = .ok (extended, none) ∧
      (∀ index, ∃ found, ∀ after,
        Routine.scanLines wanted .outside ((Routine.codeLines source).take index ++ after) =
          found ++ Routine.scanLines wanted
            (Routine.placeAfter wanted .outside ((Routine.codeLines source).take index)) after) ∧
      (Text.lower name ∈ extended.keys ↔
        Text.lower name ∈ catalog.keys ∨ ∃ index, Leaves index) ∧
      (file ∈ extended.filesOf name ↔ file ∈ catalog.filesOf name ∨ ∃ index, Leaves index) ∧
      (file ∉ catalog.filesOf name →
        ∀ index, catalog.RecordsAt file name lines index ↔ IsLeast { index | Leaves index } index) ∧
      (file ∉ extended.filesOf name → Routine.scanSelects source (some name) = []) := by
  intro lines wanted extended Leaves
  have declared : (∃ index, Leaves index) ↔ ∃ line ∈ lines, Routine.LineDeclares name line :=
    Routine.exists_leavesOutside_iff_declares nonempty
  have listed : file ∈ extended.filesOf name ↔
      file ∈ catalog.filesOf name ∨ ∃ index, Leaves index := by
    rw [mem_filesOf_afterLines, declared]
  refine ⟨?_, ?_, ?_, listed, ?_, ?_⟩
  · rw [addFile, read]
    rfl
  · intro index
    exact Routine.scanLines_append wanted .outside ((Routine.codeLines source).take index)
  · rw [declared, ← exists_mem_declared_iff]
    exact mem_keys_declareAll.trans
      (or_congr_right (exists_congr fun _ => and_congr_right fun _ => eq_comm))
  · intro unlisted index
    exact recordsAt_iff_isLeast_leavesOutside nonempty unlisted
  · intro unlisted
    apply Routine.scanSelects_eq_nil_of_stays
    intro leaves
    exact unlisted (listed.2 (.inr leaves))

/-- A text that declares one procedure in the body of another one, after a comment that names it. -/
def nestedDeclaration : Text :=
  "CREATE PROCEDURE b_2\n-- a_1\nSELECT 1;\ncreate procedure A_1-- a_2\nSELECT 2;\nEND;".toList

def nestedWorkspace : Workspace :=
  .ofTexts [("a.sql".toList, nestedDeclaration)]

theorem addFile_agrees_with_scan_nestedDeclaration :
    nestedWorkspace.readText (FilePath.parse "a.sql".toList) = .ok nestedDeclaration ∧
      "a_1".toList ≠ [] ∧
      FilePath.parse "a.sql".toList ∉ empty.filesOf "a_1".toList ∧
      empty.RecordsAt (FilePath.parse "a.sql".toList) "a_1".toList
        (Routine.sourceLines nestedDeclaration) 3 ∧
      IsLeast
        { index |
          Routine.LeavesOutside (some "a_1".toList) (Routine.codeLines nestedDeclaration) index }
        3 ∧
      Routine.scanSelects nestedDeclaration "c_3".toList = [] := by
  have read : nestedWorkspace.readText (FilePath.parse "a.sql".toList) =
      .ok nestedDeclaration := by
    decide +kernel
  have records : empty.RecordsAt (FilePath.parse "a.sql".toList) "a_1".toList
      (Routine.sourceLines nestedDeclaration) 3 :=
    ⟨by decide +kernel, by decide +kernel⟩
  have declaredNonempty : "a_1".toList ≠ [] := by decide
  have otherNonempty : "c_3".toList ≠ [] := by decide
  rcases addFile_agrees_with_scan read declaredNonempty empty with ⟨-, -, -, -, first, -⟩
  rcases addFile_agrees_with_scan read otherNonempty empty with ⟨-, -, -, -, -, nothing⟩
  exact ⟨read, declaredNonempty, List.not_mem_nil, records,
    (first List.not_mem_nil 3).1 records, nothing (by decide +kernel)⟩

end Catalog

end ProcedureAudit
