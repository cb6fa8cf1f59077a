import ProcedureAudit.Proofs.Audit.Accounting
import ProcedureAudit.Proofs.Audit.Collecting
import ProcedureAudit.Proofs.CommandLine.Run
import ProcedureAudit.Proofs.Files.Tree
import ProcedureAudit.Proofs.Query.Characters
import ProcedureAudit.Proofs.Text.Respelling

/-!
# The preview of an audit

Without a server, the program prints the statements of a procedure in a file as queries.  For the
file that a catalog finds for the procedure, the printed lines are the queries that an audit of the
procedure asks its planner: the path of the file and the name of the procedure are understood as
they are given, both commands take the same statements, and a query never spans two lines.
-/

namespace ProcedureAudit.CommandLine

/-! ## The file and the procedure -/

section Found

variable
    {workspace : Workspace}
    {root ignoreFile : Text}
    {patterns : List Text}
    {catalog : Catalog}
    {procedure : Text}
    {file : FilePath}
    (built : (Catalog.build workspace root patterns ignoreFile).outcome = .ok catalog)
    (found : catalog.lookup procedure = .found file)

include built found

/-- The file that is found is read back from the text of its path. -/
theorem exists_absolute_of_found (named : workspace.WellNamed) :
    ∃ steps, file = .absolute steps ∧ FilePath.parse file.render = file := by
  rcases Catalog.exists_visible_of_build built with ⟨rules, node, files, located, within, rfl⟩
  have declaring := Catalog.mem_declaringFiles_of_lookup_eq_found found
  have visible := within.mem (Workspace.mem_declaringFiles.1 declaring).1
  rcases List.mem_map.1 visible with ⟨steps, member, rfl⟩
  have below := Node.isProperStep_of_mem_visibleFiles (List.forall_mem_nil _) node
    (named.find? located) member
  have proper : ∀ step ∈ (workspace.resolve (FilePath.parse root)).steps ++ steps,
      FilePath.IsProperStep step :=
    List.forall_mem_append.2 ⟨fun _ => named.isProperStep_of_mem_resolve, below⟩
  exact ⟨_, rfl, FilePath.parse_render_absolute proper⟩

/-- The name of a procedure that is found cannot be taken for a switch. -/
theorem head?_ne_hyphen_of_found : procedure.head? ≠ some '-' := by
  rcases Catalog.exists_afterFiles_of_build built with ⟨files, rfl⟩
  have declaring := Catalog.mem_declaringFiles_of_lookup_eq_found found
  have declares := (Workspace.mem_declaringFiles.1 declaring).2
  rcases declares.exists_read with ⟨source, read⟩
  rcases (Workspace.declares_iff_of_read read).1 declares with ⟨line, -, name, declared, same⟩
  rcases Routine.exists_cons_of_declaredName? declared with ⟨first, rest, rfl, variant⟩
  exact Text.head?_ne_hyphen_of_lower_eq variant same

end Found

/-! ## The arguments -/

section Operand

variable {written : Text} (operand : written.head? ≠ some '-')

include operand

theorem ne_separatorText : written ≠ Argument.separatorText := by
  rintro rfl
  exact operand rfl

theorem classify_of_head? (switches : List Switch) :
    Argument.classify switches written = .ok (.operand written) := by
  rw [Argument.classify]
  rintro first rest rfl
  exact operand rfl

theorem classifyAll_cons_of_head? (switches : List Switch) (rest : List Text) :
    Argument.classifyAll switches (written :: rest) =
      (Argument.classifyAll switches rest).map (.operand written :: ·) := by
  rw [Argument.classifyAll, if_neg (ne_separatorText operand), classify_of_head? operand]

end Operand

/-- What a preview of a procedure in a file is asked for with, after the word for the command. -/
def previewDetails (file procedure : Text) : List Text :=
  [file, "--procedure".toList, procedure, "--normalize".toList]

def previewArguments (file procedure : Text) : List Text :=
  "scan".toList :: previewDetails file procedure

theorem readArguments_named_operand
    {command : Command}
    {switch : Switch}
    {value : Text}
    {given taken : Given}
    (takes : switch.takesValue = true)
    (stored : command.takeValue switch value given = .ok taken)
    (rest : List Argument) :
    command.readArguments (.named switch none :: .operand value :: rest) given =
      command.readArguments rest taken := by
  rw [Command.readArguments, if_pos takes, stored]

section Understood

variable {file procedure : Text}
  (fileOperand : file.head? ≠ some '-')
  (procedureOperand : procedure.head? ≠ some '-')

include procedureOperand

theorem readArguments_preview :
    Command.scan.readArguments
        [ .operand file, .named .procedure none, .operand procedure, .named .normalize none ] {} =
      .ok { file := some file, procedure := some procedure, normalize := true } := by
  have value : Command.scan.takeValue .procedure procedure { file := some file } =
      .ok { file := some file, procedure := some procedure } := by
    rw [Command.takeValue, if_neg (ne_separatorText procedureOperand)]
    rfl
  calc
    _ = Command.scan.readArguments
          [ .named .procedure none, .operand procedure, .named .normalize none ]
          { file := some file } := rfl
    _ = Command.scan.readArguments [.named .normalize none]
          { file := some file, procedure := some procedure } :=
      readArguments_named_operand rfl value _
    _ = _ := rfl

include fileOperand

theorem classifyAll_previewDetails :
    Argument.classifyAll Command.scan.switches (previewDetails file procedure) =
      .ok [ .operand file, .named .procedure none, .operand procedure,
        .named .normalize none ] := by
  have switch (rest : List Text) :
      Argument.classifyAll Command.scan.switches ("--procedure".toList :: rest) =
        (Argument.classifyAll Command.scan.switches rest).map (.named .procedure none :: ·) :=
    rfl
  rw [previewDetails, classifyAll_cons_of_head? fileOperand, switch,
    classifyAll_cons_of_head? procedureOperand]
  rfl

/-- A file and a procedure that cannot be taken for switches are understood as they are given. -/
theorem ofArguments_previewArguments :
    Task.ofArguments (previewArguments file procedure) =
      .ok (.scan file (some procedure) true) := by
  have chosen : Group.program.read [] (previewArguments file procedure) =
      Command.scan.read [] (previewDetails file procedure) :=
    rfl
  have read : Command.scan.read [] (previewDetails file procedure) =
      .ok (.scan file (some procedure) true, []) := by
    rw [Command.read, classifyAll_previewDetails fileOperand procedureOperand]
    dsimp only
    rw [readArguments_preview procedureOperand]
    rfl
  rw [Task.ofArguments, chosen, read]

end Understood

/-! ## The lines -/

theorem lineFeed_not_mem_fixedArguments :
    ∀ entry ∈ (Registry.withFixedArguments []).entries, '\n' ∉ entry.2.literal := by
  decide +kernel

/-- The queries of the statements of a procedure in a source text. -/
def previewQueries (source procedure : Text) : List Text :=
  (Routine.scanSelects source (some procedure)).map fun scanned =>
    Query.normalizeSelect (Query.balanceParentheses scanned) (Registry.withFixedArguments [])

theorem lineFeed_not_mem_previewQueries (source procedure : Text) :
    ∀ query ∈ previewQueries source procedure, '\n' ∉ query := by
  intro query member
  rcases List.mem_map.1 member with ⟨scanned, scannedMember, rfl⟩
  have plain := Routine.lineFeed_not_mem_scanSelects source (some procedure) scanned scannedMember
  refine Query.lineFeed_not_mem_normalizeSelect lineFeed_not_mem_fixedArguments ?_
  intro lineFeed
  exact plain ((Query.balanceParentheses_sublist scanned).mem lineFeed)

/-- A preview of a file that can be read succeeds and prints its queries, one on each line. -/
theorem scanFile_of_read
    {workspace : Workspace}
    {file source : Text}
    (procedure : Text)
    (read : workspace.readText (FilePath.parse file) = .ok source) :
    (scanFile workspace file (some procedure) true).status = 0 ∧
      (scanFile workspace file (some procedure) true).printed.out =
        (previewQueries source procedure).flatMap (· ++ ['\n']) := by
  have lines : previewLines workspace file (some procedure) true =
      .ok (previewQueries source procedure) := by
    rw [previewLines, Routine.selectsOfFile, read]
    simp [Except.map, previewQueries]
  rw [scanFile, lines]
  cases previewQueries source procedure with
  | nil => exact ⟨rfl, rfl⟩
  | cons query queries => exact ⟨rfl, rfl⟩

/-! ## The preview and the audit -/

/-- The preview of a procedure in a file and an audit of it come to the same queries. -/
structure Previews
    (surroundings : Surroundings)
    (catalog : Catalog)
    (skipped : List Text)
    (procedure : Text)
    (file : FilePath)
    (queries : List Text) : Prop where
  asked : ∃ selects,
    Audit.collect surroundings.workspace catalog skipped [procedure] = .ok selects ∧
      Audit.Asks (Registry.withFixedArguments []) selects queries
  status : (run surroundings (previewArguments file.render procedure)).status = 0
  lines :
    Text.splitOn '\n' (run surroundings (previewArguments file.render procedure)).printed.out =
      queries ++ [[]]
  silent : queries = [] →
    (run surroundings (previewArguments file.render procedure)).printed.out = []

/--
For a procedure that a catalog finds, the preview prints exactly the queries that an audit of the
procedure asks, in the same order and one on each line; it prints nothing if there are none.
-/
theorem exists_previews
    {surroundings : Surroundings}
    {root ignoreFile : Text}
    {patterns : List Text}
    {catalog : Catalog}
    {procedure : Text}
    {file : FilePath}
    {skipped : List Text}
    (named : surroundings.workspace.WellNamed)
    (built : (Catalog.build surroundings.workspace root patterns ignoreFile).outcome = .ok catalog)
    (found : catalog.lookup procedure = .found file)
    (unskipped : procedure ∉ skipped) :
    ∃ queries, Previews surroundings catalog skipped procedure file queries := by
  have read := Audit.readText_of_build built found
  rcases exists_absolute_of_found built found named with ⟨steps, absolute, parsed⟩
  have fileOperand : file.render.head? ≠ some '-' := by
    have slash : (FilePath.absolute steps).render.head? = some '/' := rfl
    rw [absolute, slash]
    decide
  have asked := ofArguments_previewArguments fileOperand (head?_ne_hyphen_of_found built found)
  have collected : Audit.collect surroundings.workspace catalog skipped [procedure] =
      .ok (Audit.contribution surroundings.workspace catalog procedure) := by
    rw [Audit.collect_eq_flatMap (Audit.selectsOf_of_build built)]
    simp [unskipped]
  have queries : (Audit.contribution surroundings.workspace catalog procedure).map
      (Audit.queryOf (Registry.withFixedArguments [])) =
        previewQueries (Audit.textOf surroundings.workspace file) procedure := by
    rw [Audit.contribution, found, List.map_map]
    rfl
  have performed : run surroundings (previewArguments file.render procedure) =
      scanFile surroundings.workspace file.render (some procedure) true := by
    rw [run, asked]
    rfl
  -- The audit has the path itself, the preview only its text.
  have rendered : surroundings.workspace.readText (FilePath.parse file.render) =
      .ok (Audit.textOf surroundings.workspace file) := by
    rw [parsed]
    exact read
  rcases scanFile_of_read procedure rendered with ⟨status, out⟩
  rw [← performed] at status out
  refine ⟨previewQueries (Audit.textOf surroundings.workspace file) procedure, ?_, status, ?_, ?_⟩
  · exact ⟨_, collected, queries ▸ Audit.asks_map_queryOf _ _⟩
  · rw [out]
    exact Text.splitOn_flatMap_concat (lineFeed_not_mem_previewQueries _ _)
  · intro nothing
    rw [out, nothing]
    rfl

/-- A directory with a source file, in which a statement goes over lines that end differently. -/
def schemaWorkspace : Workspace where
  top :=
    .directory
      [ ("schema".toList,
          .directory
            [ ("patch 1.sql".toList,
                .file
                  (("CREATE PROCEDURE a_1 (IN inUaOS TEXT)\nSELECT *\rFROM (accounts -- all\r\n" ++
                      "WHERE uaOS = inUaOS;\nSELECT 2;\nEND;").toList.map fun character =>
                    .ofNat character.toNat)) ]) ]
  current := ["schema".toList]

def schemaFile : FilePath :=
  .absolute ["schema".toList, "patch 1.sql".toList]

def schemaSurroundings : Surroundings :=
  { smallSurroundings (scanningServer 0) with workspace := schemaWorkspace }

def schemaCatalog : Catalog where
  declarations := [{ key := "a_1".toList, files := [schemaFile] }]
  spellings := ["a_1".toList]

theorem exists_previews_schemaSurroundings :
    schemaWorkspace.WellNamed ∧
      (Catalog.build schemaWorkspace ['.'] ["*.sql".toList] Catalog.defaultIgnoreFile).outcome =
        .ok schemaCatalog ∧
      schemaCatalog.lookup "A_1".toList = .found schemaFile ∧
      "A_1".toList ∉ ["b_2".toList] ∧
      (run schemaSurroundings (previewArguments schemaFile.render "A_1".toList)).printed.out =
        "SELECT * FROM accounts WHERE uaOS = \"baz\"\nSELECT 2\n".toList ∧
      ∃ queries,
        Previews schemaSurroundings schemaCatalog ["b_2".toList] "A_1".toList schemaFile queries := by
  have named : schemaWorkspace.WellNamed := by
    constructor
    · simp only [schemaWorkspace, Node.WellNamed, Node.WellNamedEntries]
      decide
    · decide
  have built : (Catalog.build schemaWorkspace ['.'] ["*.sql".toList]
      Catalog.defaultIgnoreFile).outcome = .ok schemaCatalog := by
    decide +kernel
  have found : schemaCatalog.lookup "A_1".toList = .found schemaFile := by
    decide +kernel
  have unskipped : "A_1".toList ∉ ["b_2".toList] := by
    decide
  exact ⟨named, built, found, unskipped, by decide +kernel,
    exists_previews named built found unskipped⟩

end ProcedureAudit.CommandLine
