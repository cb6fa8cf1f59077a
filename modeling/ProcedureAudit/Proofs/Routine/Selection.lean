import ProcedureAudit.Proofs.Files.Walk
import ProcedureAudit.Proofs.Routine.Indexing

/-!
# Which files a catalog is built from

A catalog is built from the visible files that one of the patterns matches, in the order of the
walk.  The patterns are tried in turn, and one that is empty ends the whole attempt if a file
comes to it, which it does if no pattern before matches it.  So without empty patterns neither
the order of the patterns nor repetitions matter, and with one of them the order does.
-/

namespace ProcedureAudit

namespace Catalog

section Patterns

variable {patterns : List Wildcard} {file : FilePath}

/-- One of the patterns, not an empty one, matches the file. -/
def Chosen (patterns : List Wildcard) (file : FilePath) : Prop :=
  ∃ pattern ∈ patterns, pattern.isEmpty = false ∧ pattern.accepts file = true

instance (patterns : List Wildcard) : DecidablePred (Chosen patterns) := fun file =>
  inferInstanceAs (Decidable (∃ pattern ∈ patterns,
    pattern.isEmpty = false ∧ pattern.accepts file = true))

/-- There is an empty pattern, and no pattern before it matches the file. -/
def Stalls (patterns : List Wildcard) (file : FilePath) : Prop :=
  ∃ earlier pattern later, patterns = earlier ++ pattern :: later ∧ pattern.isEmpty = true ∧
    ∀ other ∈ earlier, other.accepts file = false

theorem chosen_cons_iff {pattern : Wildcard} :
    Chosen (pattern :: patterns) file ↔
      (pattern.isEmpty = false ∧ pattern.accepts file = true) ∨ Chosen patterns file := by
  simp only [Chosen, List.exists_mem_cons_iff]

theorem not_stalls_nil : ¬ Stalls [] file := by
  rintro ⟨earlier, pattern, later, split, -⟩
  exact List.append_ne_nil_of_right_ne_nil earlier (List.cons_ne_nil pattern later) split.symm

theorem stalls_cons_iff {pattern : Wildcard} :
    Stalls (pattern :: patterns) file ↔
      pattern.isEmpty = true ∨ (pattern.accepts file = false ∧ Stalls patterns file) := by
  constructor
  · rintro ⟨earlier, stalling, later, split, empty, refused⟩
    cases earlier with
    | nil =>
        cases split
        exact Or.inl empty
    | cons first earlier =>
        cases split
        rw [List.forall_mem_cons] at refused
        exact Or.inr ⟨refused.1, earlier, stalling, later, rfl, empty, refused.2⟩
  · rintro (empty | ⟨refused, earlier, stalling, later, rfl, empty, others⟩)
    · exact ⟨[], pattern, patterns, rfl, empty, List.forall_mem_nil _⟩
    · exact ⟨pattern :: earlier, stalling, later, rfl, empty,
        List.forall_mem_cons.2 ⟨refused, others⟩⟩

theorem not_stalls_of_forall_nonempty
    (nonempty : ∀ pattern ∈ patterns, pattern.isEmpty = false) :
    ¬ Stalls patterns file := by
  rintro ⟨earlier, pattern, later, rfl, empty, -⟩
  have given := nonempty pattern (List.mem_append_right earlier (List.mem_cons_self ..))
  rw [empty] at given
  contradiction

theorem selects_of_stalls (stalls : Stalls patterns file) :
    selects patterns file = .error .emptyPattern := by
  induction patterns with
  | nil => exact (not_stalls_nil stalls).elim
  | cons pattern patterns induction =>
      rcases stalls_cons_iff.1 stalls with empty | ⟨refused, later⟩
      · rw [selects, if_pos empty]
      · rw [selects, refused, induction later]
        split <;> rfl

theorem selects_of_not_stalls (passes : ¬ Stalls patterns file) :
    selects patterns file = .ok (decide (Chosen patterns file)) := by
  induction patterns with
  | nil =>
      have none : ¬ Chosen [] file := fun ⟨_, member, _⟩ => List.not_mem_nil member
      rw [decide_eq_false none]
      rfl
  | cons pattern patterns induction =>
      rw [stalls_cons_iff, not_or, Bool.not_eq_true] at passes
      obtain ⟨nonempty, passes⟩ := passes
      rw [selects, nonempty, if_neg Bool.false_ne_true]
      cases matched : pattern.accepts file with
      | true =>
          have chosen : Chosen (pattern :: patterns) file :=
            chosen_cons_iff.2 (Or.inl ⟨nonempty, matched⟩)
          rw [if_pos rfl, decide_eq_true chosen]
      | false =>
          have later : ¬ Stalls patterns file := fun stalls => passes ⟨matched, stalls⟩
          have same : Chosen (pattern :: patterns) file ↔ Chosen patterns file := by
            rw [chosen_cons_iff, matched]
            simp
          rw [if_neg Bool.false_ne_true, induction later, decide_eq_decide.2 same]

end Patterns

/-! ## The files that are added -/

/-- Those of the files that one of the patterns matches, in their order. -/
def chosenFiles (patterns : List Wildcard) (files : List FilePath) : List FilePath :=
  files.filter (Chosen patterns)

theorem chosenFiles_cons_of_chosen
    {patterns : List Wildcard}
    {file : FilePath}
    (chosen : Chosen patterns file)
    (files : List FilePath) :
    chosenFiles patterns (file :: files) = file :: chosenFiles patterns files :=
  List.filter_cons_of_pos (decide_eq_true chosen)

theorem chosenFiles_cons_of_not_chosen
    {patterns : List Wildcard}
    {file : FilePath}
    (refused : ¬ Chosen patterns file)
    (files : List FilePath) :
    chosenFiles patterns (file :: files) = chosenFiles patterns files :=
  List.filter_cons_of_neg (by simpa using refused)

/-- Only the set of the patterns matters. -/
theorem chosenFiles_congr
    {patterns others : List Wildcard}
    (same : ∀ pattern, pattern ∈ others ↔ pattern ∈ patterns)
    (files : List FilePath) :
    chosenFiles others files = chosenFiles patterns files := by
  refine List.filter_congr fun file _ => decide_eq_decide.2 ?_
  simp only [Chosen, same]

/-- The warning about a file, if it cannot be read. -/
def skippedFile? (workspace : Workspace) (file : FilePath) : Option SkippedFile :=
  match workspace.readText file with
  | .ok _ => none
  | .error problem => some { file, problem }

section Adding

variable {workspace : Workspace}

theorem addFile_eq_afterFile
    {file : FilePath}
    (writable : Workspace.hasZero file = false)
    (catalog : Catalog) :
    addFile workspace file catalog =
      .ok (afterFile workspace catalog file, skippedFile? workspace file) := by
  have usable : workspace.readText file ≠ .error .zeroInPath := by
    unfold Workspace.readText Workspace.read
    rw [writable, if_neg Bool.false_ne_true]
    cases workspace.find file with
    | error problem => simp
    | ok node =>
        cases node with
        | directory entries => simp
        | file octets =>
            dsimp only
            split <;> simp
  unfold afterFile addFile skippedFile?
  cases read : workspace.readText file with
  | ok source => rfl
  | error problem =>
      cases problem with
      | zeroInPath => exact (usable read).elim
      | path problem place => rfl
      | encoding fault => rfl

variable {patterns : List Wildcard} {files : List FilePath}

section

variable (writable : ∀ file ∈ files, Workspace.hasZero file = false)

include writable

/-- As long as no file comes to an empty pattern, exactly the chosen ones are added in turn. -/
theorem addFiles_of_forall_not_stalls
    (passes : ∀ file ∈ files, ¬ Stalls patterns file)
    (catalog : Catalog) :
    addFiles workspace patterns catalog files =
      { skipped := (chosenFiles patterns files).filterMap (skippedFile? workspace)
        outcome := .ok ((chosenFiles patterns files).foldl (afterFile workspace) catalog) } := by
  induction files generalizing catalog with
  | nil => rfl
  | cons file files induction =>
      rw [List.forall_mem_cons] at writable passes
      rw [addFiles, selects_of_not_stalls passes.1]
      by_cases chosen : Chosen patterns file
      · rw [decide_eq_true chosen, chosenFiles_cons_of_chosen chosen]
        simp only [addFile_eq_afterFile writable.1]
        rw [induction writable.2 passes.2, List.foldl_cons, List.filterMap_cons]
        cases skippedFile? workspace file <;> rfl
      · rw [decide_eq_false chosen, chosenFiles_cons_of_not_chosen chosen]
        exact induction writable.2 passes.2 catalog

theorem outcome_addFiles_of_exists_stalls
    (stalls : ∃ file ∈ files, Stalls patterns file)
    (catalog : Catalog) :
    (addFiles workspace patterns catalog files).outcome = .error .emptyPattern := by
  induction files generalizing catalog with
  | nil =>
      obtain ⟨file, member, -⟩ := stalls
      contradiction
  | cons file files induction =>
      rw [List.forall_mem_cons] at writable
      rw [addFiles]
      by_cases here : Stalls patterns file
      · rw [selects_of_stalls here]
      · have later : ∃ file ∈ files, Stalls patterns file :=
          (List.exists_mem_cons_iff _ _ _).1 stalls |>.resolve_left here
        rw [selects_of_not_stalls here]
        cases decide (Chosen patterns file) with
        | false => exact induction writable.2 later catalog
        | true =>
            simp only [addFile_eq_afterFile writable.1]
            exact induction writable.2 later _

end

end Adding

/-! ## The catalog of a source tree -/

/-- The root leads to a directory, and its ignore file holds the rules. -/
structure Surveyed
    (workspace : Workspace)
    (root ignoreFile : Text)
    (node : Node)
    (rules : IgnoreRules) :
    Prop where
  writable : Workspace.hasZero (FilePath.parse root) = false
  located : workspace.find? (workspace.resolve (FilePath.parse root)) = .ok (some node)
  directory : node.isDirectory = true
  ignoring :
    ignoreRules workspace
      ((workspace.resolve (FilePath.parse root)).join (FilePath.parse ignoreFile)) = .ok rules

section Surveyed

variable
    {workspace : Workspace}
    {root ignoreFile : Text}
    {node : Node}
    {rules : IgnoreRules}
    (surveyed : Surveyed workspace root ignoreFile node rules)

include surveyed

theorem Surveyed.build_eq (patterns : List Text) :
    build workspace root patterns ignoreFile =
      addFiles workspace (patterns.map Wildcard.parse) empty
        (visibleFiles rules (workspace.resolve (FilePath.parse root)) node) := by
  unfold build
  simp only [surveyed.writable, surveyed.located, surveyed.directory, surveyed.ignoring]
  rfl

/-- The path to a file in a tree with lawful names can be handed to the file system. -/
theorem Surveyed.hasZero_of_mem_visibleFiles
    (lawful : node.Lawful)
    {file : FilePath}
    (member : file ∈ visibleFiles rules (workspace.resolve (FilePath.parse root)) node) :
    Workspace.hasZero file = false := by
  obtain ⟨steps, walked, rfl⟩ := List.mem_map.1 member
  obtain ⟨below, rfl, fileAt, -⟩ := Node.mem_visibleFiles_iff.1 walked
  have rootWritable : Workspace.hasZero (workspace.resolve (FilePath.parse root)) = false := by
    have located := surveyed.located
    unfold Workspace.find? at located
    split at located
    · cases located
    · rename_i writable
      exact Bool.eq_false_iff.2 writable
  unfold Workspace.hasZero at rootWritable ⊢
  rw [List.any_append, rootWritable, Bool.false_or, List.any_eq_false]
  intro step stepMember zero
  exact lawful.zero_not_mem fileAt step stepMember (of_decide_eq_true zero)

end Surveyed

/--
What building from some files comes to.  If no file comes to an empty pattern, exactly those that
a pattern matches are added, in their order, and the ones that cannot be read are reported; if
some file does, the attempt fails; and the order and repetitions of the patterns do not matter,
unless they bring a file to an empty one.
-/
structure IndexesChosen
    (workspace : Workspace)
    (root ignoreFile : Text)
    (files : List FilePath) :
    Prop where
  added : ∀ patterns : List Text,
    (∀ file ∈ files, ¬ Stalls (patterns.map Wildcard.parse) file) →
      build workspace root patterns ignoreFile =
        { skipped :=
            (chosenFiles (patterns.map Wildcard.parse) files).filterMap (skippedFile? workspace)
          outcome :=
            .ok (afterFiles workspace (chosenFiles (patterns.map Wildcard.parse) files)) }
  stalled : ∀ patterns : List Text,
    (∃ file ∈ files, Stalls (patterns.map Wildcard.parse) file) →
      (build workspace root patterns ignoreFile).outcome = .error .emptyPattern
  unordered : ∀ patterns others : List Text,
    (∀ pattern, pattern ∈ others ↔ pattern ∈ patterns) →
      (∀ file ∈ files, ¬ Stalls (patterns.map Wildcard.parse) file) →
      (∀ file ∈ files, ¬ Stalls (others.map Wildcard.parse) file) →
        build workspace root others ignoreFile = build workspace root patterns ignoreFile

theorem Surveyed.indexesChosen
    {workspace : Workspace}
    {root ignoreFile : Text}
    {node : Node}
    {rules : IgnoreRules}
    (surveyed : Surveyed workspace root ignoreFile node rules)
    (lawful : node.Lawful) :
    IndexesChosen workspace root ignoreFile
      (visibleFiles rules (workspace.resolve (FilePath.parse root)) node) := by
  have writable : ∀ file ∈ visibleFiles rules (workspace.resolve (FilePath.parse root)) node,
      Workspace.hasZero file = false :=
    fun _ => surveyed.hasZero_of_mem_visibleFiles lawful
  have added (patterns : List Text) := fun passes =>
    (surveyed.build_eq patterns).trans (addFiles_of_forall_not_stalls writable passes empty)
  refine ⟨added, ?_, ?_⟩
  · intro patterns stalls
    rw [surveyed.build_eq]
    exact outcome_addFiles_of_exists_stalls writable stalls empty
  · intro patterns others same passes othersPass
    have wildcards : ∀ pattern, pattern ∈ others.map Wildcard.parse ↔
        pattern ∈ patterns.map Wildcard.parse := by
      simp only [List.mem_map, same, implies_true]
    rw [added patterns passes, added others othersPass, chosenFiles_congr wildcards]

/--
The walk over a tree lists exactly the visible files, each once, in strictly increasing order of
their steps, whatever is ignored.  A catalog that is built from a directory is built from those
of its visible files that a pattern matches, in this order, as long as no file comes to an empty
pattern, and no file does so if no pattern is empty.
-/
theorem build_from_visibleFiles
    {node : Node}
    (lawful : node.Lawful) :
    (∀ ignored : List Text → Bool,
      (∀ steps,
        steps ∈ node.visibleFiles ignored [] ↔
          node.FileAt steps ∧ Node.Visible ignored [] steps) ∧
      (node.visibleFiles ignored []).Pairwise (· < ·) ∧
      (node.visibleFiles ignored []).Nodup) ∧
    (∀ workspace root ignoreFile rules,
      Surveyed workspace root ignoreFile node rules →
        IndexesChosen workspace root ignoreFile
          (visibleFiles rules (workspace.resolve (FilePath.parse root)) node)) ∧
    ∀ patterns : List Text,
      (∀ pattern ∈ patterns, (Wildcard.parse pattern).isEmpty = false) →
        ∀ file, ¬ Stalls (patterns.map Wildcard.parse) file := by
  refine ⟨?_, ?_, ?_⟩
  · intro ignored
    have ordered := Node.visibleFiles_pairwise lawful ignored []
    have distinct : (node.visibleFiles ignored []).Nodup := by
      refine ordered.imp ?_
      rintro found _ before rfl
      exact List.lt_irrefl found before
    refine ⟨?_, ordered, distinct⟩
    intro steps
    rw [Node.mem_visibleFiles_iff]
    constructor
    · rintro ⟨below, rfl, file, visible⟩
      exact ⟨file, visible⟩
    · rintro ⟨file, visible⟩
      exact ⟨steps, rfl, file, visible⟩
  · intro workspace root ignoreFile rules surveyed
    exact surveyed.indexesChosen lawful
  · intro patterns nonempty file
    refine not_stalls_of_forall_nonempty ?_
    intro pattern member
    obtain ⟨text, given, rfl⟩ := List.mem_map.1 member
    exact nonempty text given

/-- A tree in which `a/b.sql` comes before `a.sql`, with a hidden and an ignored file. -/
def nestedTree : Node :=
  .directory
    [ ("a.sql".toList, .file []),
      (".gitignore".toList, .file [111, 108, 100]),
      ("old".toList, .directory [("c.sql".toList, .file [])]),
      ("a".toList, .directory [("b.sql".toList, .file []), (".d.sql".toList, .file [])]) ]

theorem lawful_nestedTree : nestedTree.Lawful := by
  have file {name : Text} : ∀ entry ∈ [(name, Node.file [])], entry.2.Lawful :=
    List.forall_mem_singleton.2 (.file [])
  refine .directory (by decide) (by decide) ?_
  simp only [List.forall_mem_cons]
  refine ⟨.file _, .file _, ?_, ?_, List.forall_mem_nil _⟩
  · exact .directory (by decide) (by decide) file
  · exact .directory (by decide) (by decide) (List.forall_mem_cons.2 ⟨.file _, file⟩)

/-- The rules of its ignore file. -/
def nestedRules : IgnoreRules :=
  [{ ignores := true
     shape := .segments [.directories, .glob ("old".toList.map .literal)] }]

theorem build_from_visibleFiles_nestedTree :
    nestedTree.visibleFiles nestedRules.ignores [] =
        [["a".toList, "b.sql".toList], ["a.sql".toList]] ∧
      Surveyed { top := nestedTree, current := [] } ".".toList defaultIgnoreFile nestedTree
        nestedRules ∧
      nestedTree.FileAt ["a".toList, "b.sql".toList] ∧
      build { top := nestedTree, current := [] } ".".toList ["b.*".toList, "[a-b].sql".toList]
          defaultIgnoreFile =
        build { top := nestedTree, current := [] } ".".toList
          ["[a-b].sql".toList, "b.*".toList, "[a-b].sql".toList] defaultIgnoreFile := by
  obtain ⟨walk, indexes, passes⟩ := build_from_visibleFiles lawful_nestedTree
  have surveyed : Surveyed { top := nestedTree, current := [] } ".".toList defaultIgnoreFile
      nestedTree nestedRules :=
    { writable := by decide
      located := rfl
      directory := rfl
      ignoring := by decide +kernel }
  have visible : nestedTree.visibleFiles nestedRules.ignores [] =
      [["a".toList, "b.sql".toList], ["a.sql".toList]] := by
    decide +kernel
  refine ⟨visible, surveyed, ?_, ?_⟩
  · refine (((walk nestedRules.ignores).1 _).1 ?_).1
    rw [visible]
    exact List.mem_cons_self ..
  · refine (indexes _ _ _ _ surveyed).unordered _ _ ?_ ?_ ?_
    · intro pattern
      simp only [List.mem_cons, List.not_mem_nil]
      tauto
    · exact fun file _ => passes _ (by decide +kernel) file
    · exact fun file _ => passes _ (by decide +kernel) file

/-- A workspace with one file, which declares a procedure. -/
def lonelyWorkspace : Workspace :=
  .ofTexts [("a.sql".toList, "CREATE PROCEDURE a_1 ()\nSELECT 1;\nEND;".toList)]

/-- The same two patterns match the same file, but only with the empty one at the end is it added. -/
theorem build_depends_on_order_of_patterns :
    visibleFiles [] (FilePath.parse "/".toList) lonelyWorkspace.top =
        [FilePath.parse "/a.sql".toList] ∧
      Chosen (["".toList, "*.sql".toList].map Wildcard.parse) (FilePath.parse "/a.sql".toList) ∧
      (build lonelyWorkspace ".".toList ["*.sql".toList, "".toList] defaultIgnoreFile).outcome =
        .ok (afterFiles lonelyWorkspace [FilePath.parse "/a.sql".toList]) ∧
      (build lonelyWorkspace ".".toList ["".toList, "*.sql".toList] defaultIgnoreFile).outcome =
        .error .emptyPattern := by
  decide +kernel

end Catalog

end ProcedureAudit
