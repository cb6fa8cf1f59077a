import ProcedureAudit.Proofs.Query.Placeholder
import ProcedureAudit.Proofs.Routine.Declaring
import ProcedureAudit.Proofs.Routine.Indexing
import ProcedureAudit.Text.Digits

/-!
# Declarations and the names they count for

A declaring line is read up to the digits after an underscore, and what follows the digits is not
looked at.  So a line counts for the longest name with a version that its text begins with, and
this is the identifier that it declares only if that is such a name itself.
-/

namespace ProcedureAudit

namespace Routine

/-! ## Names with a version -/

/-- Letters, an underscore, and digits. -/
def IsVersionedName (name : Text) : Prop :=
  ∃ letters digits, letters ≠ [] ∧ (∀ character ∈ letters, Text.isLetterVariant character = true) ∧
    digits ≠ [] ∧ (∀ character ∈ digits, Text.isAsciiDigit character = true) ∧
    name = letters ++ '_' :: digits

theorem IsVersionedName.ne_nil {name : Text} (versioned : IsVersionedName name) : name ≠ [] := by
  rcases versioned with ⟨letters, digits, nonempty, -, -, -, rfl⟩
  exact List.append_ne_nil_of_left_ne_nil nonempty _

/-- The longest name with a version that the text begins with. -/
structure Heads (name text : Text) : Prop where
  versioned : IsVersionedName name
  begins : name <+: text
  longest : ∀ other, IsVersionedName other → other <+: text → other.length ≤ name.length

/-- A name with a version is read on as far as there are digits. -/
theorem IsVersionedName.leadingName?_append
    {name : Text}
    (versioned : IsVersionedName name)
    (after : Text) :
    leadingName? (name ++ after) = some (name ++ after.takeWhile Text.isAsciiDigit) := by
  rcases versioned with ⟨letters, digits, nonempty, variants, present, each, rfl⟩
  have stops : ∀ character ∈ ('_' :: digits ++ after).head?,
      Text.isLetterVariant character = false := by
    intro character first
    obtain rfl : '_' = character := Option.some.inj first
    decide
  have read : (digits ++ after).takeWhile Text.isAsciiDigit =
      digits ++ after.takeWhile Text.isAsciiDigit :=
    List.takeWhile_append_of_pos each
  unfold leadingName?
  rw [List.append_assoc, Text.takeWhile_append_of_head? variants stops,
    Text.dropWhile_append_of_head? variants stops]
  change (if letters.isEmpty || ((digits ++ after).takeWhile Text.isAsciiDigit).isEmpty then none
    else some (letters ++ '_' :: (digits ++ after).takeWhile Text.isAsciiDigit)) = _
  rw [read, if_neg (by simp [nonempty, present])]
  simp

theorem versioned_of_leadingName?
    {text name : Text}
    (read : leadingName? text = some name) :
    IsVersionedName name ∧ name <+: text := by
  unfold leadingName? at read
  split at read
  · rename_i rest after
    dsimp only at read
    split at read
    · contradiction
    · rename_i filled
      rw [Bool.or_eq_true, not_or, List.isEmpty_iff, List.isEmpty_iff] at filled
      obtain rfl := Option.some.inj read
      refine ⟨⟨_, _, filled.1, fun _ => List.mem_takeWhile_imp, filled.2,
        fun _ => List.mem_takeWhile_imp, rfl⟩, ?_⟩
      have parts := List.takeWhile_append_dropWhile (p := Text.isLetterVariant) (l := text)
      rw [after] at parts
      conv => rhs; rw [← parts]
      exact (List.prefix_append_right_inj _).2 ((List.cons_prefix_cons).2
        ⟨rfl, List.takeWhile_prefix _⟩)
  · contradiction

theorem leadingName?_eq_some_iff {text name : Text} :
    leadingName? text = some name ↔ Heads name text := by
  constructor
  · intro read
    rcases versioned_of_leadingName? read with ⟨versioned, begins⟩
    refine ⟨versioned, begins, ?_⟩
    rintro other otherVersioned ⟨after, rfl⟩
    rw [otherVersioned.leadingName?_append after] at read
    rw [← Option.some.inj read, List.length_append]
    exact Nat.le_add_right ..
  · rintro ⟨versioned, ⟨after, rfl⟩, longest⟩
    have read := versioned.leadingName?_append after
    rcases versioned_of_leadingName? read with ⟨otherVersioned, otherBegins⟩
    have length := longest _ otherVersioned otherBegins
    rw [List.length_append] at length
    have empty : after.takeWhile Text.isAsciiDigit = [] := List.length_eq_zero_iff.1 (by omega)
    rw [read, empty, List.append_nil]

theorem exists_heads_iff {text : Text} :
    (∃ name, Heads name text) ↔ ∃ name, IsVersionedName name ∧ name <+: text := by
  constructor
  · rintro ⟨name, heads⟩
    exact ⟨name, heads.versioned, heads.begins⟩
  · rintro ⟨name, versioned, after, rfl⟩
    exact ⟨_, leadingName?_eq_some_iff.1 (versioned.leadingName?_append after)⟩

/-! ## Lines with a declaration -/

def isNameCharacter (character : Char) : Bool :=
  Text.isLetter character || Text.isAsciiDigit character || character = '_' || character = '$'

/-- A line with a declaration of a procedure under an identifier. -/
structure DeclarationLine where
  keyword : Text
  tick : Text
  identifier : Text
  after : Text
  spelled : Text.fold keyword = "create procedure ".toList
  ticked : tick = ['\x60'] ∨ tick = []
  nonempty : identifier ≠ []
  characters : ∀ character ∈ identifier, isNameCharacter character = true
  ended : ∀ character ∈ after.head?, isNameCharacter character = false
  unbroken : '\n' ∉ after
  returned : after.getLast? ≠ some '\r'

namespace DeclarationLine

variable (line : DeclarationLine)

def text : Text :=
  line.keyword ++ (line.tick ++ (line.identifier ++ line.after))

theorem declaredName?_text :
    declaredName? line.text = leadingName? (line.identifier ++ line.after) := by
  have dropped : Text.dropKeyword? "create procedure ".toList line.text =
      some (line.tick ++ (line.identifier ++ line.after)) :=
    Text.dropKeyword?_eq_some_iff.2 ⟨line.keyword, line.spelled, rfl⟩
  have unticked : (line.identifier ++ line.after).head? ≠ some '\x60' := by
    rw [List.head?_append_of_ne_nil line.identifier line.nonempty]
    intro tick
    exact absurd (line.characters '\x60' (List.mem_of_head? tick)) (by decide)
  have untick : dropBacktick (line.tick ++ (line.identifier ++ line.after)) =
      line.identifier ++ line.after := by
    rw [Query.dropBacktick_eq_iff]
    rcases line.ticked with ticked | bare
    · exact Or.inl (by rw [ticked, List.singleton_append])
    · exact Or.inr ⟨by rw [bare, List.nil_append], unticked⟩
  rw [declaredName?, dropped, Option.bind_some, untick]

theorem ended_digits :
    ∀ character ∈ line.after.head?, Text.isAsciiDigit character = false := by
  intro character first
  have other := line.ended character first
  simp only [isNameCharacter, Bool.or_eq_false_iff] at other
  exact other.1.1.2

theorem lineFeed_not_mem_text : '\n' ∉ line.text := by
  intro member
  rw [text, List.mem_append, List.mem_append, List.mem_append] at member
  rcases member with keyword | tick | name | after
  · have folded : Text.foldLetter '\n' ∈ Text.fold line.keyword := List.mem_map_of_mem keyword
    rw [line.spelled] at folded
    exact absurd folded (by decide)
  · rcases line.ticked with ticked | bare
    · simp [ticked] at tick
    · simp [bare] at tick
  · exact absurd (line.characters '\n' name) (by decide)
  · exact line.unbroken after

/-- The line is a text with one line. -/
theorem sourceLines_text : sourceLines line.text = [line.text] := by
  have parts : Text.splitOn '\n' line.text = [line.text] :=
    Text.splitOn_joinWith (List.cons_ne_nil line.text [])
      (List.forall_mem_singleton.2 line.lineFeed_not_mem_text)
  have kept : Text.dropEndWhile (· = '\r') line.text = line.text := by
    apply Text.dropEndWhile_eq_self
    intro character last
    apply decide_eq_false
    rintro rfl
    have named : line.identifier ++ line.after ≠ [] :=
      List.append_ne_nil_of_left_ne_nil line.nonempty line.after
    have ticked : line.tick ++ (line.identifier ++ line.after) ≠ [] :=
      List.append_ne_nil_of_right_ne_nil line.tick named
    rw [text, List.getLast?_append_of_ne_nil _ ticked, List.getLast?_append_of_ne_nil _ named,
      List.getLast?_append, Option.mem_def, Option.or_eq_some_iff] at last
    rcases last with after | ⟨-, identifier⟩
    · exact line.returned after
    · exact absurd (line.characters '\r' (List.mem_of_getLast? identifier)) (by decide)
  rw [sourceLines, parts, List.map_singleton, kept]

/-! ## What a line counts for -/

/--
In some text with the line, the line is where a catalog comes to list the file for the name, or
where the scan for the name enters a body.
-/
def CountsFor (name : Text) : Prop :=
  ∃ source index, (sourceLines source)[index]? = some line.text ∧
    ((∃ (catalog : Catalog) (file : FilePath),
        catalog.RecordsAt file name (sourceLines source) index) ∨
      LeavesOutside (wantedKey (some name)) (codeLines source) index)

theorem lineDeclares_text_iff {name : Text} :
    LineDeclares name line.text ↔
      ∃ declared, Heads declared (line.identifier ++ line.after) ∧
        Text.lower name = Text.lower declared := by
  unfold LineDeclares
  rw [line.declaredName?_text]
  constructor
  · rintro ⟨declared, read, same⟩
    exact ⟨declared, leadingName?_eq_some_iff.1 read, same.symm⟩
  · rintro ⟨declared, heads, same⟩
    exact ⟨declared, leadingName?_eq_some_iff.2 heads, same.symm⟩

theorem countsFor_iff {name : Text} (nonempty : name ≠ []) :
    line.CountsFor name ↔ LineDeclares name line.text := by
  constructor
  · rintro ⟨source, index, found, counts⟩
    have declares : At (LineDeclares name) (sourceLines source) index := by
      rcases counts with ⟨catalog, file, records⟩ | leaves
      · have unlisted : file ∉ catalog.filesOf name := by
          intro listed
          exact records.1 (Catalog.mem_filesOf_afterLines.2 (Or.inl listed))
        exact ((Catalog.recordsAt_iff unlisted).1 records).1
      · exact (at_codeLines_iff nonempty).1 leaves.at
    rcases declares with ⟨other, otherFound, declares⟩
    rw [found] at otherFound
    exact Option.some.inj otherFound ▸ declares
  · intro declares
    have only : At (LineDeclares name) (sourceLines line.text) 0 := by
      rw [line.sourceLines_text]
      exact ⟨line.text, rfl, declares⟩
    refine ⟨line.text, 0, by rw [line.sourceLines_text]; rfl, Or.inl ⟨.empty, FilePath.parse [], ?_⟩⟩
    rw [Catalog.recordsAt_iff List.not_mem_nil]
    exact ⟨only, fun _ _ => Nat.zero_le _⟩

theorem countsFor_iff_exists_heads {name : Text} (nonempty : name ≠ []) :
    line.CountsFor name ↔
      ∃ declared, Heads declared (line.identifier ++ line.after) ∧
        Text.lower name = Text.lower declared := by
  rw [line.countsFor_iff nonempty, line.lineDeclares_text_iff]

/-- Nothing that is read after an identifier with a version belongs to its name. -/
theorem eq_identifier_of_heads
    (versioned : IsVersionedName line.identifier)
    {declared : Text}
    (heads : Heads declared (line.identifier ++ line.after)) :
    declared = line.identifier := by
  have read := versioned.leadingName?_append line.after
  have stops : line.after.takeWhile Text.isAsciiDigit = [] :=
    Text.takeWhile_append_of_head? (List.forall_mem_nil _) line.ended_digits
  rw [leadingName?_eq_some_iff.2 heads, stops, List.append_nil] at read
  exact Option.some.inj read

/--
A line counts for the longest name with a version that its identifier and the text after it begin
with, in any letter case, and for no other name.  So it counts for its own identifier alone exactly
if that is such a name, or if there is no such name to read.
-/
theorem countsFor_iff_heads :
    (∀ name ≠ [],
      line.CountsFor name ↔
        ∃ declared, Heads declared (line.identifier ++ line.after) ∧
          Text.lower name = Text.lower declared) ∧
      ((∀ name ≠ [], line.CountsFor name → Text.lower name = Text.lower line.identifier) ↔
        IsVersionedName line.identifier ∨
          ¬ ∃ name, IsVersionedName name ∧ name <+: line.identifier ++ line.after) := by
  refine ⟨fun name => line.countsFor_iff_exists_heads, ?_, ?_⟩
  · intro own
    by_cases readable : ∃ name, IsVersionedName name ∧ name <+: line.identifier ++ line.after
    · rcases exists_heads_iff.2 readable with ⟨declared, heads⟩
      have nonempty := heads.versioned.ne_nil
      have counts := (line.countsFor_iff_exists_heads nonempty).2 ⟨declared, heads, rfl⟩
      -- Two beginnings of one text with the same lower-case form are the same beginning.
      have whole := Text.eq_of_lower_eq_of_isPrefix (own declared nonempty counts) heads.begins
        (List.prefix_append ..)
      exact Or.inl (whole ▸ heads.versioned)
    · exact Or.inr readable
  · rintro cases name nonempty counts
    rcases (line.countsFor_iff_exists_heads nonempty).1 counts with ⟨declared, heads, same⟩
    rcases cases with versioned | unreadable
    · rw [same, line.eq_identifier_of_heads versioned heads]
    · exact (unreadable ⟨declared, heads.versioned, heads.begins⟩).elim

def tickedLine : DeclarationLine where
  keyword := "create procedure ".toList
  tick := ['\x60']
  identifier := "accountDevices_16".toList
  after := "\x60 (".toList
  spelled := by decide
  ticked := Or.inl rfl
  nonempty := by decide
  characters := List.all_eq_true.1 (by decide)
  ended := by
    intro character first
    obtain rfl : '\x60' = character := Option.some.inj first
    decide
  unbroken := by decide
  returned := by decide

theorem countsFor_iff_heads_tickedLine :
    "ACCOUNTDEVICES_16".toList ≠ [] ∧
      tickedLine.CountsFor "ACCOUNTDEVICES_16".toList ∧
      ∀ name ≠ [], tickedLine.CountsFor name →
        Text.lower name = Text.lower "accountDevices_16".toList := by
  have nonempty : "ACCOUNTDEVICES_16".toList ≠ [] := by decide
  have heads : Heads "accountDevices_16".toList (tickedLine.identifier ++ tickedLine.after) :=
    leadingName?_eq_some_iff.1 (by decide)
  rcases tickedLine.countsFor_iff_heads with ⟨counts, own⟩
  refine ⟨nonempty, (counts _ nonempty).2 ⟨_, heads, by decide +kernel⟩, ?_⟩
  exact own.2 (Or.inl heads.versioned)

/-- A line whose identifier goes on after the version. -/
def extendedLine : DeclarationLine where
  keyword := "CREATE PROCEDURE ".toList
  tick := []
  identifier := "foo_1_old".toList
  after := " ()".toList
  spelled := by decide
  ticked := Or.inr rfl
  nonempty := by decide
  characters := List.all_eq_true.1 (by decide)
  ended := by
    intro character first
    obtain rfl : ' ' = character := Option.some.inj first
    decide
  unbroken := by decide
  returned := by decide

/-- Two procedures, the identifier of one of them going on after the name of the other. -/
def extendedWorkspace : Workspace :=
  .ofTexts
    [ ("a.sql".toList, "CREATE PROCEDURE foo_1 ()\nEND;".toList),
      ("b.sql".toList, "CREATE PROCEDURE foo_1_old ()\nSELECT 1;\nEND;".toList) ]

/--
Not every line counts for its own identifier alone.  A procedure with a longer identifier makes the
answer for another one ambiguous, and its statements are found under the name of the other.
-/
theorem exists_line_counting_for_another :
    ¬ (∀ (line : DeclarationLine), ∀ name ≠ [], line.CountsFor name →
        Text.lower name = Text.lower line.identifier) ∧
      (Catalog.afterFiles extendedWorkspace
          (["a.sql".toList, "b.sql".toList].map FilePath.parse)).lookup "foo_1".toList =
        .ambiguous (["a.sql".toList, "b.sql".toList].map FilePath.parse) ∧
      scanSelects "CREATE PROCEDURE foo_1_old ()\nSELECT 1;\nEND;".toList (some "foo_1".toList) =
        ["SELECT 1;".toList] := by
  refine ⟨?_, by decide +kernel, by decide +kernel⟩
  intro own
  have nonempty : "foo_1".toList ≠ [] := by decide
  have declares : LineDeclares "foo_1".toList extendedLine.text := by decide +kernel
  have same := own extendedLine _ nonempty ((extendedLine.countsFor_iff nonempty).2 declares)
  exact absurd same (by decide +kernel)

end DeclarationLine

end Routine

end ProcedureAudit
