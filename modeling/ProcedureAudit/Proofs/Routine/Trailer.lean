import ProcedureAudit.Proofs.Routine.Alike
import ProcedureAudit.Proofs.Routine.Catalog
import ProcedureAudit.Proofs.Text.LineEnds

/-!
# What may follow the code of a line

Comments and blanks after the code of a line, and carriage returns before its line feed, leave
nothing behind but blanks once the comments are cut, so the scanned statements do not depend on
them.  The names of a catalog are read from lines with their comments, which is why they need an
argument of their own: a declaration ends before a comment begins.  From a file they are read
after its line ends were unified, so that even a carriage return on its own ends a line there.
-/

namespace ProcedureAudit

namespace Routine

/-! ## Comments at the end of a line -/

/-- The code before a comment is as long as the blanks in front of it. -/
theorem beforeComment_append_blanks
    {blanks tail : Text}
    (blank : AllBlank blanks)
    (commented : beforeComment tail = []) :
    beforeComment (blanks ++ tail) = blanks := by
  induction blanks with
  | nil => exact commented
  | cons first blanks induction =>
      rcases List.forall_mem_cons.1 blank with ⟨firstBlank, later⟩
      have solid : first ≠ '-' := by
        rintro rfl
        contradiction
      have undelimited : Text.dropOpening? ['-', '-'] (first :: (blanks ++ tail)) = none :=
        if_neg solid
      rw [List.cons_append, beforeComment_cons, undelimited, induction later]
      rfl

/-- After blanks and a comment were appended, nothing but blanks was added before the comment. -/
theorem exists_beforeComment_append
    {blanks tail : Text}
    (nonempty : blanks ≠ [])
    (blank : AllBlank blanks)
    (commented : beforeComment tail = [])
    (line : Text) :
    ∃ added, beforeComment (line ++ (blanks ++ tail)) = beforeComment line ++ added ∧
      AllBlank added := by
  induction line with
  | nil => exact ⟨blanks, beforeComment_append_blanks blank commented, blank⟩
  | cons character line induction =>
      obtain ⟨first, more, rfl⟩ := List.exists_cons_of_ne_nil nonempty
      have solid : first ∉ ['-', '-'] := by
        have firstBlank := (List.forall_mem_cons.1 blank).1
        intro member
        obtain rfl : first = '-' := by simpa using member
        contradiction
      -- The delimiter is found in the line itself, since no hyphen follows at its end.
      have opened := Text.dropOpening?_append_stop solid (character :: line) (more ++ tail)
      rw [List.cons_append] at opened
      rw [List.cons_append, beforeComment_cons, beforeComment_cons, List.cons_append, opened,
        Option.isSome_map]
      split
      · exact ⟨[], rfl, List.forall_mem_nil _⟩
      · obtain ⟨added, split, addedBlank⟩ := induction
        exact ⟨added, congrArg (character :: ·) split, addedBlank⟩

/-! ## Trailers -/

/-- What may be appended to a line: blanks, or a comment after a space.  It ends no line. -/
inductive Trailer where
  | blanks (text : Text) (blank : AllBlank text) (flat : Text.Flat text)
  | comment (text : Text) (flat : Text.Flat text)

namespace Trailer

def text : Trailer → Text
  | .blanks text _ _ => text
  | .comment text _ => ' ' :: '-' :: '-' :: text

theorem flat_text (trailer : Trailer) : Text.Flat trailer.text := by
  cases trailer with
  | blanks text blank flat => exact flat
  | comment text flat =>
      exact List.forall_mem_cons.2 ⟨rfl, List.forall_mem_cons.2 ⟨rfl,
        List.forall_mem_cons.2 ⟨rfl, flat⟩⟩⟩

/-- A trailer begins with blanks, unless it is empty, and what follows them is a comment. -/
theorem exists_text_eq (trailer : Trailer) (nonempty : trailer.text ≠ []) :
    ∃ blanks comment, trailer.text = blanks ++ comment ∧ blanks ≠ [] ∧ AllBlank blanks ∧
      beforeComment comment = [] := by
  cases trailer with
  | blanks text blank flat =>
      exact ⟨text, [], (List.append_nil text).symm, nonempty, blank, rfl⟩
  | comment text flat =>
      exact ⟨[' '], '-' :: '-' :: text, rfl, List.cons_ne_nil _ _,
        List.forall_mem_singleton.2 rfl, rfl⟩

theorem declaredName?_append (trailer : Trailer) (line : Text) :
    declaredName? (line ++ trailer.text) = declaredName? line := by
  cases trailer with
  | blanks text blank flat => exact declaredName?_append_blanks blank line
  | comment text flat =>
      have space : AllBlank [' '] := List.forall_mem_singleton.2 rfl
      calc
        declaredName? (line ++ ' ' :: '-' :: '-' :: text) =
            declaredName? ((line ++ [' ']) ++ '-' :: '-' :: text) := by
          rw [List.append_assoc, List.singleton_append]
        _ = declaredName? (line ++ [' ']) := declaredName?_append_hyphen _ _
        _ = declaredName? line := declaredName?_append_blanks space line

end Trailer

/-- The code of a line as it is cut out of a text: without carriage returns and comment. -/
def codeOf (line : Text) : Text :=
  beforeComment (Text.dropEndWhile (· = '\r') line)

theorem codeLines_eq_map_codeOf (source : Text) :
    codeLines source = (Text.splitOn '\n' source).map codeOf := by
  rw [codeLines_eq_uncommentedLines, uncommentedLines, sourceLines, List.map_map]
  rfl

/-- A trailer leaves nothing but blanks behind, also after carriage returns, which then stay. -/
theorem exists_codeOf_append (trailer : Trailer) (line : Text) :
    ∃ added, codeOf (line ++ trailer.text) = codeOf line ++ added ∧ AllBlank added := by
  by_cases empty : trailer.text = []
  · exact ⟨[], by rw [empty, List.append_nil, List.append_nil], List.forall_mem_nil _⟩
  · obtain ⟨blanks, comment, split, nonempty, blank, commented⟩ := trailer.exists_text_eq empty
    obtain ⟨returns, shortened, each⟩ := Text.exists_dropEndWhile_append (· = '\r') line
    have returnsBlank : AllBlank returns := by
      intro character member
      obtain rfl := of_decide_eq_true (each character member)
      rfl
    have kept : Text.dropEndWhile (· = '\r') (line ++ trailer.text) = line ++ trailer.text := by
      apply Text.dropEndWhile_eq_self
      intro character last
      rw [List.getLast?_append_of_ne_nil line empty] at last
      have ends := trailer.flat_text character (List.mem_of_getLast? last)
      exact (Bool.or_eq_false_iff.1 ends).2
    have parts : line ++ trailer.text =
        Text.dropEndWhile (· = '\r') line ++ ((returns ++ blanks) ++ comment) := by
      conv => lhs; rw [shortened, split]
      simp only [List.append_assoc]
    rw [codeOf, kept, parts]
    exact exists_beforeComment_append (List.append_ne_nil_of_right_ne_nil returns nonempty)
      (List.forall_mem_append.2 ⟨returnsBlank, blank⟩) commented _

theorem sightOf_codeOf_append_trailer (trailer : Trailer) (line : Text) :
    sightOf (codeOf (line ++ trailer.text)) = sightOf (codeOf line) := by
  obtain ⟨added, split, blank⟩ := exists_codeOf_append trailer line
  rw [split, sightOf_append_blanks blank]

/-! ## Names between line ends -/

/-- The names declared on the lines of a text, where carriage returns end lines as well. -/
def namesIn (text : Text) : List Text :=
  (List.splitOnP Text.endsFileLine text).filterMap declaredName?

theorem namesIn_of_flat {line : Text} (flat : Text.Flat line) :
    namesIn line = (declaredName? line).toList := by
  rw [namesIn, List.splitOnP_eq_singleton flat]
  cases declared : declaredName? line <;> simp [declared]

theorem namesIn_broken {lineEnd : Char} (ends : Text.endsFileLine lineEnd = true)
    (before after : Text) :
    namesIn (before ++ lineEnd :: after) = namesIn before ++ namesIn after := by
  rw [namesIn, List.splitOnP_append_cons before after ends, List.filterMap_append, namesIn, namesIn]

theorem namesIn_nil : namesIn [] = [] :=
  namesIn_of_flat (List.forall_mem_nil _)

theorem namesIn_append_trailer (trailer : Trailer) (line : Text) :
    namesIn (line ++ trailer.text) = namesIn line := by
  -- Only the last of the lines between carriage returns goes on.
  induction line using Text.lines_induction Text.endsFileLine with
  | unbroken line flat =>
      rw [namesIn_of_flat (List.forall_mem_append.2 ⟨flat, trailer.flat_text⟩),
        namesIn_of_flat flat, trailer.declaredName?_append]
  | broken line lineEnd rest flat ends induction =>
      rw [List.append_assoc, List.cons_append, namesIn_broken ends, namesIn_broken ends,
        induction]

theorem namesIn_append_returns
    {returns : Text}
    (each : ∀ character ∈ returns, character = '\r')
    (line : Text) :
    namesIn (line ++ returns) = namesIn line := by
  induction returns generalizing line with
  | nil => rw [List.append_nil]
  | cons first returns induction =>
      rw [List.forall_mem_cons] at each
      obtain ⟨rfl, later⟩ := each
      have nothing := induction later []
      rw [List.nil_append] at nothing
      rw [namesIn_broken rfl, nothing, namesIn_nil, List.append_nil]

theorem namesIn_eq_flatMap (text : Text) :
    namesIn text = (Text.splitOn '\n' text).flatMap namesIn := by
  induction text using Text.parts_induction '\n' with
  | unbroken line plain =>
      rw [Text.splitOn_of_not_mem plain, List.flatMap_singleton]
  | broken line rest plain induction =>
      rw [Text.splitOn_append_of_not_mem plain, List.flatMap_cons, ← induction]
      exact namesIn_broken rfl line rest

/-! ## Readings of a line -/

/-- What the readers of source files make of a line, which may hold carriage returns. -/
structure Reading where
  sight : Sight
  declared : Option Text
  names : List Text
deriving DecidableEq, Repr

def readingOf (line : Text) : Reading where
  sight := sightOf (codeOf line)
  declared := declaredName? line
  names := namesIn line

theorem readingOf_append_trailer (trailer : Trailer) (line : Text) :
    readingOf (line ++ trailer.text) = readingOf line := by
  simp only [readingOf, sightOf_codeOf_append_trailer, trailer.declaredName?_append,
    namesIn_append_trailer]

theorem readingOf_append_returns
    {returns : Text}
    (each : ∀ character ∈ returns, character = '\r')
    (line : Text) :
    readingOf (line ++ returns) = readingOf line := by
  have dropped : ∀ character ∈ returns, decide (character = '\r') = true :=
    fun character member => decide_eq_true (each character member)
  have blank : AllBlank returns := by
    intro character member
    rw [each character member]
    rfl
  simp only [readingOf, codeOf, Text.dropEndWhile_append_of_forall dropped,
    declaredName?_append_blanks blank, namesIn_append_returns each]

/-- A trailer, and whether it stands before or after the carriage returns at the end of a line. -/
structure Attachment where
  trailer : Trailer
  beforeReturns : Bool

/-- The line with the trailer attached. -/
def Attachment.onto (attachment : Attachment) (line : Text) : Text :=
  let front := if attachment.beforeReturns then Text.dropEndWhile (· = '\r') line else line
  front ++ attachment.trailer.text ++ line.drop front.length

theorem Attachment.exists_onto_eq (attachment : Attachment) (line : Text) :
    ∃ front returns, line = front ++ returns ∧ (∀ character ∈ returns, character = '\r') ∧
      attachment.onto line = front ++ attachment.trailer.text ++ returns := by
  unfold Attachment.onto
  cases attachment.beforeReturns with
  | false => exact ⟨line, [], (List.append_nil line).symm, List.forall_mem_nil _, by simp⟩
  | true =>
      obtain ⟨returns, split, each⟩ := Text.exists_dropEndWhile_append (· = '\r') line
      refine ⟨Text.dropEndWhile (· = '\r') line, returns, split,
        fun character member => of_decide_eq_true (each character member), ?_⟩
      have behind : line.drop (Text.dropEndWhile (· = '\r') line).length = returns :=
        (congrArg (List.drop _) split).trans List.drop_left
      simp only [if_true, behind]

theorem readingOf_onto (attachment : Attachment) (line : Text) :
    readingOf (attachment.onto line) = readingOf line := by
  obtain ⟨front, returns, split, each, attached⟩ := attachment.exists_onto_eq line
  calc
    readingOf (attachment.onto line) =
        readingOf (front ++ attachment.trailer.text ++ returns) := by rw [attached]
    _ = readingOf (front ++ attachment.trailer.text) := readingOf_append_returns each _
    _ = readingOf front := readingOf_append_trailer attachment.trailer front
    _ = readingOf (front ++ returns) := (readingOf_append_returns each front).symm
    _ = readingOf line := by rw [← split]

theorem lineFeed_not_mem_onto (attachment : Attachment) {line : Text} (plain : '\n' ∉ line) :
    '\n' ∉ attachment.onto line := by
  obtain ⟨front, returns, rfl, -, attached⟩ := attachment.exists_onto_eq line
  rw [List.mem_append, not_or] at plain
  rw [attached, List.mem_append, List.mem_append, not_or, not_or]
  exact ⟨⟨plain.1, attachment.trailer.flat_text.lineFeed_not_mem⟩, plain.2⟩

/-! ## Texts with trailers, and texts with carriage returns -/

/-- The text with trailers attached to its lines, which are counted from zero. -/
def withTrailers (attachmentOf : Nat → Attachment) (source : Text) : Text :=
  Text.joinWith ['\n']
    ((Text.splitOn '\n' source).mapIdx fun index line => (attachmentOf index).onto line)

theorem splitOn_withTrailers (attachmentOf : Nat → Attachment) (source : Text) :
    Text.splitOn '\n' (withTrailers attachmentOf source) =
      (Text.splitOn '\n' source).mapIdx fun index line => (attachmentOf index).onto line := by
  apply Text.splitOn_joinWith
  · rw [Ne, List.mapIdx_eq_nil_iff]
    exact Text.splitOn_ne_nil '\n' source
  · intro part member
    obtain ⟨index, within, rfl⟩ := List.mem_mapIdx.1 member
    exact lineFeed_not_mem_onto _ (Text.not_mem_of_mem_splitOn (List.getElem_mem within))

theorem map_readingOf_withTrailers (attachmentOf : Nat → Attachment) (source : Text) :
    (Text.splitOn '\n' (withTrailers attachmentOf source)).map readingOf =
      (Text.splitOn '\n' source).map readingOf := by
  rw [splitOn_withTrailers]
  generalize Text.splitOn '\n' source = lines
  induction lines generalizing attachmentOf with
  | nil => rfl
  | cons line lines induction =>
      rw [List.mapIdx_cons, List.map_cons, List.map_cons, readingOf_onto]
      exact congrArg (readingOf line :: ·) (induction fun index => attachmentOf (index + 1))

theorem map_readingOf_withReturns (source : Text) :
    (Text.splitOn '\n' (Text.withReturns source)).map readingOf =
      (Text.splitOn '\n' source).map readingOf := by
  induction source using Text.parts_induction '\n' with
  | unbroken line plain => rw [Text.withReturns_of_not_mem plain]
  | broken line rest plain induction =>
      have returned : line ++ '\r' :: '\n' :: Text.withReturns rest =
          (line ++ ['\r']) ++ '\n' :: Text.withReturns rest := by
        rw [List.append_assoc, List.singleton_append]
      have returnedPlain : '\n' ∉ line ++ ['\r'] := by
        simpa using plain
      rw [Text.withReturns_broken plain, returned, Text.splitOn_append_of_not_mem plain,
        Text.splitOn_append_of_not_mem returnedPlain, List.map_cons, List.map_cons, induction,
        readingOf_append_returns (List.forall_mem_singleton.2 rfl)]

end Routine

namespace Catalog

/-- Carriage returns at the end of a line do not matter to its declaration. -/
theorem declaredNames_eq_filterMap_splitOn (source : Text) :
    declaredNames source = (Text.splitOn '\n' source).filterMap Routine.declaredName? := by
  rw [declaredNames, Routine.sourceLines, List.filterMap_map]
  refine congrArg (List.filterMap · (Text.splitOn '\n' source)) (funext fun line => ?_)
  obtain ⟨returns, split, each⟩ := Text.exists_dropEndWhile_append (· = '\r') line
  have blank : Routine.AllBlank returns := by
    intro character member
    obtain rfl := of_decide_eq_true (each character member)
    rfl
  have longer := Routine.declaredName?_append_blanks blank (Text.dropEndWhile (· = '\r') line)
  rw [← split] at longer
  exact longer.symm

theorem declaredNames_append_lineFeed {line : Text} (plain : '\n' ∉ line) (rest : Text) :
    declaredNames (line ++ '\n' :: rest) =
      (Routine.declaredName? line).toList ++ declaredNames rest := by
  rw [declaredNames_eq_filterMap_splitOn, Text.splitOn_append_of_not_mem plain,
    declaredNames_eq_filterMap_splitOn]
  cases declared : Routine.declaredName? line <;> simp [declared]

/-- The names of a file are those between its line ends, whatever the line ends are. -/
theorem declaredNames_unifyLineEnds (text : Text) :
    declaredNames (Text.unifyLineEnds text) = Routine.namesIn text := by
  induction text using Text.lines_induction Text.endsFileLine with
  | unbroken line flat =>
      have alone := Text.unifyLineEnds_append flat []
      rw [List.append_nil, Text.unifyLineEnds, List.append_nil] at alone
      rw [alone, declaredNames_eq_filterMap_splitOn,
        Text.splitOn_of_not_mem (Text.Flat.lineFeed_not_mem flat), Routine.namesIn_of_flat flat]
      cases declared : Routine.declaredName? line <;> simp [declared]
  | broken line lineEnd rest flat ends induction =>
      have plain : '\n' ∉ line := Text.Flat.lineFeed_not_mem flat
      rw [Text.unifyLineEnds_append flat, Routine.namesIn_broken ends,
        Routine.namesIn_of_flat flat, ← induction]
      rcases Text.endsFileLine_iff.1 ends with rfl | rfl
      · rw [Text.unifyLineEnds_lineFeed, declaredNames_append_lineFeed plain]
      · rw [Text.unifyLineEnds_return]
        split
        · -- The line feed after the carriage return counts once, with or without it.
          rename_i feed
          obtain ⟨after, rfl⟩ := List.head?_eq_some_iff.1 feed
          have once := declaredNames_append_lineFeed (List.not_mem_nil (a := '\n'))
            (Text.unifyLineEnds after)
          rw [Text.unifyLineEnds_lineFeed, declaredNames_append_lineFeed plain]
          exact congrArg (_ ++ ·) once.symm
        · rw [declaredNames_append_lineFeed plain]

end Catalog

/-- The file holds the text, with the line ends that it was written with. -/
def Workspace.Holds (workspace : Workspace) (file : FilePath) (text : Text) : Prop :=
  ∃ octets, workspace.read file = .ok octets ∧ Utf8.decode octets = .ok text

theorem Workspace.Holds.readText
    {workspace : Workspace}
    {file : FilePath}
    {text : Text}
    (holds : workspace.Holds file text) :
    workspace.readText file = .ok (Text.unifyLineEnds text) := by
  obtain ⟨octets, read, decoded⟩ := holds
  simp only [Workspace.readText, read, decoded]

namespace Routine

/-- No scan and no catalog tells the two texts apart, nor files that hold them. -/
structure ReadAlike (source changed : Text) : Prop where
  selects : ∀ procedure, scanSelects changed procedure = scanSelects source procedure
  declarations : ∀ (catalog : Catalog) (file : FilePath),
    catalog.declareAll file changed = catalog.declareAll file source
  files : ∀ (before after : Workspace) (file : FilePath),
    before.Holds file source → after.Holds file changed →
      ∀ catalog : Catalog, catalog.addFile after file = catalog.addFile before file

theorem readAlike_of_map_readingOf_eq
    {source changed : Text}
    (alike : (Text.splitOn '\n' changed).map readingOf = (Text.splitOn '\n' source).map readingOf) :
    ReadAlike source changed where
  selects procedure := by
    have sights : (codeLines changed).map sightOf = (codeLines source).map sightOf := by
      have read := congrArg (List.map Reading.sight) alike
      rw [List.map_map, List.map_map] at read
      rw [codeLines_eq_map_codeOf, codeLines_eq_map_codeOf, List.map_map, List.map_map]
      exact read
    exact scanLines_eq_of_map_sightOf_eq sights (wantedKey procedure) .outside
  declarations catalog file := by
    have names : Catalog.declaredNames changed = Catalog.declaredNames source := by
      have read := congrArg (List.filterMap Reading.declared) alike
      rw [List.filterMap_map, List.filterMap_map] at read
      rw [Catalog.declaredNames_eq_filterMap_splitOn, Catalog.declaredNames_eq_filterMap_splitOn]
      exact read
    rw [Catalog.declareAll, names, Catalog.declareAll]
  files before after file holds changedHolds catalog := by
    have names : Catalog.declaredNames (Text.unifyLineEnds changed) =
        Catalog.declaredNames (Text.unifyLineEnds source) := by
      have read := congrArg (List.flatMap Reading.names) alike
      rw [List.flatMap_map, List.flatMap_map] at read
      rw [Catalog.declaredNames_unifyLineEnds, Catalog.declaredNames_unifyLineEnds,
        namesIn_eq_flatMap changed, namesIn_eq_flatMap source]
      exact read
    rw [Catalog.addFile, changedHolds.readText, Catalog.addFile, holds.readText]
    simp only [Catalog.declareAll, names]

/--
Comments and blanks at the ends of lines, and carriage returns before line feeds, change nothing:
the same statements are scanned for every procedure, and the same names are recorded.
-/
theorem readAlike_withTrailers_withReturns (source : Text) (attachmentOf : Nat → Attachment) :
    ReadAlike source (withTrailers attachmentOf source) ∧
      ReadAlike source (Text.withReturns source) :=
  ⟨readAlike_of_map_readingOf_eq (map_readingOf_withTrailers attachmentOf source),
    readAlike_of_map_readingOf_eq (map_readingOf_withReturns source)⟩

/-- One routine, with a comment already in it. -/
def remarkedSource : Text :=
  "CREATE PROCEDURE a_1 ()\nSELECT x -- ;\nFROM t;\nEND;".toList

/-- A remark that would matter as code, on whichever line. -/
def remark : Text :=
  "; END; CREATE PROCEDURE b_2 () SELECT 2;".toList

theorem flat_remark : Text.Flat remark := by
  decide +kernel

/-- Some blanks. -/
def gap : Text :=
  [' ', '\t']

theorem allBlank_gap : AllBlank gap := by
  decide +kernel

theorem flat_gap : Text.Flat gap := by
  decide +kernel

/-- Blanks for the second line, and the remark for all others. -/
def remarkOf (index : Nat) : Attachment where
  trailer := if index = 1 then .blanks gap allBlank_gap flat_gap else .comment remark flat_remark
  beforeReturns := true

theorem readAlike_withTrailers_remarkedSource :
    Text.withReturns (withTrailers remarkOf remarkedSource) =
        ("CREATE PROCEDURE a_1 () --; END; CREATE PROCEDURE b_2 () SELECT 2;\x0d\n" ++
          "SELECT x -- ; \t\x0d\n" ++
          "FROM t; --; END; CREATE PROCEDURE b_2 () SELECT 2;\x0d\n" ++
          "END; --; END; CREATE PROCEDURE b_2 () SELECT 2;").toList ∧
      scanSelects (Text.withReturns (withTrailers remarkOf remarkedSource)) "A_1".toList =
        ["SELECT x FROM t;".toList] ∧
      Catalog.empty.addFile
          (.ofTexts [("a.sql".toList, withTrailers remarkOf remarkedSource)])
          (FilePath.parse "a.sql".toList) =
        Catalog.empty.addFile
          (.ofTexts [("a.sql".toList, remarkedSource)])
          (FilePath.parse "a.sql".toList) := by
  obtain ⟨trailed, -⟩ := readAlike_withTrailers_withReturns remarkedSource remarkOf
  obtain ⟨-, returned⟩ :=
    readAlike_withTrailers_withReturns (withTrailers remarkOf remarkedSource) remarkOf
  have selects : scanSelects remarkedSource "A_1".toList = ["SELECT x FROM t;".toList] := by
    decide +kernel
  let octetsOf : Text → List UInt8 := List.map fun character => .ofNat character.toNat
  have holds :
      (Workspace.ofTexts [("a.sql".toList, remarkedSource)]).Holds
        (FilePath.parse "a.sql".toList) remarkedSource :=
    ⟨octetsOf remarkedSource, by decide +kernel, by decide +kernel⟩
  have trailedHolds :
      (Workspace.ofTexts [("a.sql".toList, withTrailers remarkOf remarkedSource)]).Holds
        (FilePath.parse "a.sql".toList) (withTrailers remarkOf remarkedSource) :=
    ⟨octetsOf (withTrailers remarkOf remarkedSource), by decide +kernel, by decide +kernel⟩
  refine ⟨by decide +kernel, ?_, trailed.files _ _ _ holds trailedHolds Catalog.empty⟩
  rw [returned.selects, trailed.selects, selects]

end Routine

end ProcedureAudit
