import Mathlib.Data.List.Nodup
import ProcedureAudit.Proofs.Routine.Grammar
import ProcedureAudit.Routine.Catalog

/-!
# Keys and files of a catalog

The declarations of a catalog are kept under the lower-case forms of the declared names.  Adding a
file keeps every key once, in the order in which the keys were first met, and adds exactly the
keys of the names that the lines of the file declare.  Under each of these keys, and under no
other, the file is listed, once.
-/

namespace ProcedureAudit

/-- A workspace with files at its top, each character of a text being one octet. -/
def Workspace.ofTexts (texts : List (Text × Text)) : Workspace where
  top :=
    .directory (texts.map fun (name, text) =>
      (name, .file (text.map fun character => .ofNat character.toNat)))
  current := []

/-- The line declares the name in some letter case. -/
def Routine.LineDeclares (name line : Text) : Prop :=
  ∃ declared ∈ declaredName? line, Text.lower declared = Text.lower name

instance (name line : Text) : Decidable (Routine.LineDeclares name line) :=
  inferInstanceAs (Decidable (∃ declared ∈ Routine.declaredName? line, _ = _))

namespace Catalog

/-- The keys are the lower-case forms of the names, in the same order, and none is there twice. -/
structure Keyed (catalog : Catalog) : Prop where
  lowered : catalog.names.map Text.lower = catalog.keys
  distinct : catalog.keys.Nodup

theorem keyed_empty : Keyed empty where
  lowered := rfl
  distinct := List.nodup_nil

/-! ## One declaration -/

theorem keys_declareIn (file : FilePath) (key : Text) (declarations : List Declaration) :
    (declareIn file key declarations).map Declaration.key =
      if key ∈ declarations.map Declaration.key then
        declarations.map Declaration.key
      else
        declarations.map Declaration.key ++ [key] := by
  induction declarations with
  | nil => rfl
  | cons declaration declarations induction =>
      by_cases same : declaration.key = key
      · subst same
        simp [declareIn]
      · rw [declareIn, if_neg same, List.map_cons, induction, List.map_cons]
        by_cases member : key ∈ declarations.map Declaration.key
        · rw [if_pos member, if_pos (List.mem_cons_of_mem _ member)]
        · have absent : key ∉ declaration.key :: declarations.map Declaration.key :=
            List.not_mem_cons_of_ne_of_not_mem (Ne.symm same) member
          rw [if_neg member, if_neg absent, List.cons_append]

theorem keys_declare (file : FilePath) (catalog : Catalog) (name : Text) :
    (catalog.declare file name).keys =
      if Text.lower name ∈ catalog.keys then
        catalog.keys
      else
        catalog.keys ++ [Text.lower name] :=
  keys_declareIn file (Text.lower name) catalog.declarations

theorem names_declare (file : FilePath) (catalog : Catalog) (name : Text) :
    (catalog.declare file name).names =
      if Text.lower name ∈ catalog.keys then
        catalog.names
      else
        catalog.names ++ [name] :=
  rfl

theorem mem_keys_declare
    {file : FilePath}
    {catalog : Catalog}
    {name key : Text} :
    key ∈ (catalog.declare file name).keys ↔ key ∈ catalog.keys ∨ key = Text.lower name := by
  rw [keys_declare]
  by_cases known : Text.lower name ∈ catalog.keys
  · rw [if_pos known]
    constructor
    · exact Or.inl
    · rintro (member | rfl)
      · exact member
      · exact known
  · rw [if_neg known, List.mem_append, List.mem_singleton]

theorem Keyed.declare {catalog : Catalog} (keyed : Keyed catalog) (file : FilePath) (name : Text) :
    Keyed (catalog.declare file name) := by
  by_cases known : Text.lower name ∈ catalog.keys
  · constructor
    · rw [names_declare, keys_declare, if_pos known, if_pos known]
      exact keyed.lowered
    · rw [keys_declare, if_pos known]
      exact keyed.distinct
  · constructor
    · rw [names_declare, keys_declare, if_neg known, if_neg known, List.map_append, keyed.lowered]
      rfl
    · rw [keys_declare, if_neg known, ← List.concat_eq_append]
      exact keyed.distinct.concat known

/-! ## All declarations of a file -/

theorem exists_mem_declared_iff {name : Text} {lines : List Text} :
    (∃ declared ∈ lines.filterMap Routine.declaredName?, Text.lower declared = Text.lower name) ↔
      ∃ line ∈ lines, Routine.LineDeclares name line := by
  constructor
  · rintro ⟨declared, member, same⟩
    rcases List.mem_filterMap.1 member with ⟨line, lineMember, declares⟩
    exact ⟨line, lineMember, declared, declares, same⟩
  · rintro ⟨line, lineMember, declared, declares, same⟩
    exact ⟨declared, List.mem_filterMap.2 ⟨line, lineMember, declares⟩, same⟩

/-- What every single declaration keeps is kept by all declarations of a file. -/
theorem declareAll_keeps
    {Kept : Catalog → Prop}
    {file : FilePath}
    (step : ∀ catalog name, Kept catalog → Kept (catalog.declare file name))
    {catalog : Catalog}
    (start : Kept catalog)
    (source : Text) :
    Kept (catalog.declareAll file source) := by
  unfold Catalog.declareAll
  induction declaredNames source generalizing catalog with
  | nil => exact start
  | cons name names induction => exact induction (step catalog name start)

theorem Keyed.declareAll {catalog : Catalog}
    (keyed : Keyed catalog)
    (file : FilePath)
    (source : Text) :
    Keyed (catalog.declareAll file source) :=
  declareAll_keeps (fun _ name earlier => earlier.declare file name) keyed source

/-- A file adds the keys of the names that its lines declare, and no others. -/
theorem mem_keys_declareAll
    {file : FilePath}
    {source : Text}
    {catalog : Catalog}
    {key : Text} :
    key ∈ (catalog.declareAll file source).keys ↔
      key ∈ catalog.keys ∨ ∃ name ∈ declaredNames source, key = Text.lower name := by
  unfold Catalog.declareAll
  induction declaredNames source generalizing catalog with
  | nil => simp
  | cons name names induction =>
      rw [List.foldl_cons, induction, mem_keys_declare, or_assoc]
      simp only [List.mem_cons, exists_eq_or_imp]

/-- The first spelling of a name is one of those that the lines of the file declare. -/
theorem mem_names_declareAll
    {file : FilePath}
    {source : Text}
    {catalog : Catalog}
    {name : Text} :
    name ∈ (catalog.declareAll file source).names →
      name ∈ catalog.names ∨ name ∈ declaredNames source := by
  unfold Catalog.declareAll
  induction declaredNames source generalizing catalog with
  | nil => exact Or.inl
  | cons first names induction =>
      intro member
      rcases induction member with known | later
      · rw [names_declare] at known
        split at known
        · exact Or.inl known
        · rcases List.mem_append.1 known with known | single
          · exact Or.inl known
          · exact Or.inr (List.mem_cons.2 (Or.inl (List.mem_singleton.1 single)))
      · exact Or.inr (List.mem_cons_of_mem _ later)

/-! ## The files under a key -/

/-- Every declaration has files, and none of them twice. -/
structure Filed (catalog : Catalog) : Prop where
  nonempty : ∀ declaration ∈ catalog.declarations, declaration.files ≠ []
  distinct : ∀ declaration ∈ catalog.declarations, declaration.files.Nodup

theorem filed_empty : Filed empty where
  nonempty := fun _ member => (List.not_mem_nil member).elim
  distinct := fun _ member => (List.not_mem_nil member).elim

/-- A declaration after a file was added is an old one, has the file as its only one, or has the
file as a further one. -/
theorem mem_declareIn_cases
    {file : FilePath}
    {key : Text}
    {declarations : List Declaration}
    {declaration : Declaration}
    (member : declaration ∈ declareIn file key declarations) :
    declaration ∈ declarations ∨
      declaration.files = [file] ∨
      ∃ known ∈ declarations, file ∉ known.files ∧ declaration.files = known.files ++ [file] := by
  induction declarations with
  | nil =>
      rw [declareIn, List.mem_singleton] at member
      exact Or.inr (Or.inl (congrArg Declaration.files member))
  | cons first declarations induction =>
      rw [declareIn] at member
      by_cases same : first.key = key
      · rw [if_pos same] at member
        rcases List.mem_cons.1 member with replaced | later
        · by_cases listed : file ∈ first.files
          · rw [if_pos listed] at replaced
            exact Or.inl (replaced ▸ List.mem_cons_self ..)
          · rw [if_neg listed] at replaced
            exact Or.inr (Or.inr ⟨first, List.mem_cons_self .., listed,
              congrArg Declaration.files replaced⟩)
        · exact Or.inl (List.mem_cons_of_mem _ later)
      · rw [if_neg same] at member
        rcases List.mem_cons.1 member with rfl | later
        · exact Or.inl (List.mem_cons_self ..)
        · rcases induction later with old | only | ⟨known, knownMember, further⟩
          · exact Or.inl (List.mem_cons_of_mem _ old)
          · exact Or.inr (Or.inl only)
          · exact Or.inr (Or.inr ⟨known, List.mem_cons_of_mem _ knownMember, further⟩)

theorem Filed.declare {catalog : Catalog} (filed : Filed catalog) (file : FilePath) (name : Text) :
    Filed (catalog.declare file name) := by
  constructor
  · intro declaration member
    rcases mem_declareIn_cases member with old | only | ⟨known, -, -, further⟩
    · exact filed.nonempty declaration old
    · rw [only]
      exact List.cons_ne_nil _ _
    · rw [further]
      exact List.append_ne_nil_of_right_ne_nil _ (List.cons_ne_nil _ _)
  · intro declaration member
    rcases mem_declareIn_cases member with old | only | ⟨known, knownMember, absent, further⟩
    · exact filed.distinct declaration old
    · rw [only]
      exact List.nodup_singleton file
    · rw [further, ← List.concat_eq_append]
      exact (filed.distinct known knownMember).concat absent

theorem Filed.declareAll {catalog : Catalog}
    (filed : Filed catalog)
    (file : FilePath)
    (source : Text) :
    Filed (catalog.declareAll file source) :=
  declareAll_keeps (fun _ name earlier => earlier.declare file name) filed source

/-- The files under a key, from which the files of a name are taken. -/
def filesUnder (key : Text) (declarations : List Declaration) : List FilePath :=
  match declarations.find? fun declaration => declaration.key = key with
  | some declaration => declaration.files
  | none => []

theorem filesUnder_cons (key : Text) (declaration : Declaration) (declarations : List Declaration) :
    filesUnder key (declaration :: declarations) =
      if declaration.key = key then declaration.files else filesUnder key declarations := by
  unfold filesUnder
  rw [List.find?_cons]
  by_cases same : declaration.key = key
  · simp [same]
  · simp [same]

theorem mem_filesUnder_declareIn
    {file other : FilePath}
    {key wanted : Text}
    {declarations : List Declaration} :
    other ∈ filesUnder wanted (declareIn file key declarations) ↔
      other ∈ filesUnder wanted declarations ∨ (key = wanted ∧ other = file) := by
  induction declarations with
  | nil =>
      rw [declareIn, filesUnder_cons]
      by_cases asked : key = wanted
      · simp [asked, filesUnder]
      · simp [asked, filesUnder]
  | cons first declarations induction =>
      rw [declareIn]
      by_cases same : first.key = key
      · rw [if_pos same, filesUnder_cons, filesUnder_cons]
        subst same
        by_cases asked : first.key = wanted
        · by_cases listed : file ∈ first.files
          · have known : other = file → other ∈ first.files := fun equal => equal ▸ listed
            simpa [asked, listed] using known
          · simp [asked, listed]
        · simp [asked]
      · rw [if_neg same, filesUnder_cons, filesUnder_cons]
        by_cases asked : first.key = wanted
        · have other : key ≠ wanted := fun equal => same (asked.trans equal.symm)
          simp [asked, other]
        · rw [if_neg asked, if_neg asked]
          exact induction

theorem mem_filesOf_declare
    {file other : FilePath}
    {catalog : Catalog}
    {first name : Text} :
    other ∈ (catalog.declare file first).filesOf name ↔
      other ∈ catalog.filesOf name ∨ (Text.lower first = Text.lower name ∧ other = file) :=
  mem_filesUnder_declareIn

/-- A file is listed for the names that are recorded for it, in any letter case. -/
theorem mem_filesOf_foldl_declare
    {file other : FilePath}
    {catalog : Catalog}
    {declared : List Text}
    {name : Text} :
    other ∈ (declared.foldl (declare file) catalog).filesOf name ↔
      other ∈ catalog.filesOf name ∨
        ((∃ first ∈ declared, Text.lower first = Text.lower name) ∧ other = file) := by
  induction declared generalizing catalog with
  | nil => simp
  | cons first declared induction =>
      rw [List.foldl_cons, induction, mem_filesOf_declare, or_assoc, ← or_and_right]
      simp only [List.mem_cons, exists_eq_or_imp]

theorem Filed.nodup_filesOf {catalog : Catalog} (filed : Filed catalog) (name : Text) :
    (catalog.filesOf name).Nodup := by
  unfold filesOf
  split
  · rename_i declaration found
    exact filed.distinct declaration (List.mem_of_find?_eq_some found)
  · exact List.nodup_nil

theorem Filed.filesOf_ne_nil_iff {catalog : Catalog} (filed : Filed catalog) {name : Text} :
    catalog.filesOf name ≠ [] ↔ Text.lower name ∈ catalog.keys := by
  unfold filesOf keys
  rw [List.mem_map]
  constructor
  · intro listed
    split at listed
    · rename_i declaration found
      exact ⟨declaration, List.mem_of_find?_eq_some found, by simpa using List.find?_some found⟩
    · exact (listed rfl).elim
  · rintro ⟨declaration, member, key⟩
    split
    · rename_i other found
      exact filed.nonempty other (List.mem_of_find?_eq_some found)
    · rename_i none
      exact (List.find?_eq_none.1 none declaration member (by simpa using key)).elim

/-! ## Comments -/

/-- Comments neither make nor unmake declarations. -/
theorem declaredNames_eq_filterMap (source : Text) :
    declaredNames source = (Routine.uncommentedLines source).filterMap Routine.declaredName? := by
  rw [declaredNames, Routine.uncommentedLines, List.filterMap_map]
  exact congrArg (List.filterMap · (Routine.sourceLines source))
    (funext fun line => (Routine.declaredName?_beforeComment line).symm)

end Catalog

end ProcedureAudit
