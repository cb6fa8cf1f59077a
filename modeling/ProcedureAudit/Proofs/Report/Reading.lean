import ProcedureAudit.Database.Fault
import ProcedureAudit.Proofs.Text.Digits
import ProcedureAudit.Proofs.Text.LineEnds
import ProcedureAudit.Report

/-!
# Reading a printed report

An entry of a report is printed on three lines: a heading, a statement and an empty line.  Nothing
is escaped, so that a reason or a statement may look like a heading or like the summary.  Still a
report can be read back.  Entries are told apart by counting lines, whatever stands on them; and
the last two spaces of a heading stand around the word before the procedure, since a name has no
blanks.
-/

namespace ProcedureAudit

/-! ## Entries -/

/-- What is printed about one query, as a warning or as a refusal. -/
structure Entry where
  subject : Text
  procedure : Text
  statement : Text
deriving DecidableEq, Repr

namespace Entry

/-- The first line of an entry. -/
def heading (entry : Entry) : Text :=
  (entry.subject ++ ' ' :: ['i', 'n']) ++ ' ' :: (entry.procedure ++ ['!'])

def lines (entry : Entry) : List Text :=
  [entry.heading, entry.statement, []]

/-- The parts of the entry stay on their lines, and no blank is in the name of the procedure. -/
structure Legible (entry : Entry) : Prop where
  subject : '\n' ∉ entry.subject
  procedure : entry.procedure.any Text.isBlank = false
  statement : '\n' ∉ entry.statement

/-- The entry of a heading and a statement: a word between spaces parts subject and procedure. -/
def read? (heading statement : Text) : Option Entry :=
  (Text.splitAtLast? ' ' heading).bind fun (beginning, last) =>
    (Text.splitAtLast? ' ' beginning).map fun (subject, _) =>
      { subject, procedure := last.dropLast, statement }

/-- The entries on some lines, three lines for each; what is left at the end is not an entry. -/
def readAll : List Text → List Entry
  | heading :: statement :: _ :: rest => (read? heading statement).toList ++ readAll rest
  | _ => []

section Legible

variable {entry : Entry} (legible : entry.Legible)

include legible

theorem Legible.blank_not_mem_procedure
    {blank : Char}
    (isBlank : Text.isBlank blank = true) :
    blank ∉ entry.procedure :=
  fun member => List.any_eq_false.1 legible.procedure blank member isBlank

theorem read?_heading : read? entry.heading entry.statement = some entry := by
  have absent : ' ' ∉ entry.procedure ++ ['!'] := by
    simp [legible.blank_not_mem_procedure (by decide : Text.isBlank ' ' = true)]
  have outer := Text.splitAtLast?_append_cons absent (entry.subject ++ ' ' :: ['i', 'n'])
  have inner := Text.splitAtLast?_append_cons (by decide : ' ' ∉ ['i', 'n']) entry.subject
  simp only [read?, heading, outer, inner, Option.bind_some, Option.map_some,
    List.dropLast_concat]

theorem lineFeed_not_mem_lines : ∀ line ∈ entry.lines, '\n' ∉ line := by
  have name := legible.blank_not_mem_procedure (by decide : Text.isBlank '\n' = true)
  simp [lines, heading, legible.subject, legible.statement, name]

end Legible

/-- Legible entries are read back from their lines, also before a line or two without an entry. -/
theorem readAll_flatMap_lines
    {entries : List Entry}
    (legible : ∀ entry ∈ entries, entry.Legible)
    {rest : List Text}
    (few : rest.length < 3) :
    readAll (entries.flatMap lines ++ rest) = entries := by
  induction entries with
  | nil =>
      match rest, few with
      | [], _ => rfl
      | [_], _ => rfl
      | [_, _], _ => rfl
  | cons entry entries induction =>
      rcases List.forall_mem_cons.1 legible with ⟨first, later⟩
      change (read? entry.heading entry.statement).toList ++
        readAll (entries.flatMap lines ++ rest) = _
      rw [read?_heading first, induction later]
      rfl

theorem length_flatMap_lines (entries : List Entry) :
    (entries.flatMap lines).length = 3 * entries.length := by
  induction entries with
  | nil => rfl
  | cons entry entries induction =>
      rw [List.flatMap_cons, List.length_append, induction, List.length_cons, Nat.mul_succ,
        Nat.add_comm]
      rfl

end Entry

/-! ## Warnings and refusals as entries -/

/-- A name that can stand in a heading. -/
structure IsPlainName (name : Text) : Prop where
  nonempty : name ≠ []
  unblank : name.any Text.isBlank = false

namespace Warning

/-- The warning is about a smell, and its query is on one line. -/
structure Legible (warning : Warning) : Prop where
  label : ∃ smell : Plan.Smell, smell.label = warning.label
  procedure : IsPlainName warning.procedure
  query : '\n' ∉ warning.query

/-- The beginning of a warning. -/
def opening : Text :=
  "Warning: ".toList

/-- What stands before the query of a warning. -/
def command : Text :=
  "EXPLAIN ".toList

def entry (warning : Warning) : Entry where
  subject := opening ++ warning.label
  procedure := warning.procedure
  statement := command ++ warning.query

/-- The warning that is printed as an entry. -/
def ofEntry (entry : Entry) : Warning where
  label := entry.subject.drop opening.length
  procedure := entry.procedure
  query := entry.statement.drop command.length

theorem ofEntry_entry (warning : Warning) : ofEntry warning.entry = warning := by
  rw [ofEntry, entry, List.drop_left, List.drop_left]

theorem format_eq (warning : Warning) :
    warning.format = warning.entry.lines.flatMap (· ++ ['\n']) := by
  have parted : warning.format =
      opening ++ warning.label ++ [' ', 'i', 'n', ' '] ++ warning.procedure ++
        (['!', '\n'] ++ command) ++ warning.query ++ ['\n', '\n'] := rfl
  simp [parted, Entry.lines, Entry.heading, entry]

theorem Legible.entry {warning : Warning} (legible : warning.Legible) :
    warning.entry.Legible where
  subject := by
    have unbroken (smell : Plan.Smell) : '\n' ∉ opening ++ smell.label := by
      cases smell <;> decide
    rcases legible.label with ⟨smell, same⟩
    rw [Warning.entry, ← same]
    exact unbroken smell
  procedure := legible.procedure.unblank
  statement := by
    rw [Warning.entry, List.mem_append, not_or]
    exact ⟨by decide, legible.query⟩

end Warning

namespace Refusal

/-- The reason and the query of the refusal are on one line each. -/
structure Legible (refusal : Refusal) : Prop where
  reason : '\n' ∉ refusal.reason
  procedure : IsPlainName refusal.procedure
  query : '\n' ∉ refusal.query

def entry (refusal : Refusal) : Entry where
  subject := refusal.reason
  procedure := refusal.procedure
  statement := refusal.query

/-- The refusal that is printed as an entry. -/
def ofEntry (entry : Entry) : Refusal where
  reason := entry.subject
  procedure := entry.procedure
  query := entry.statement

theorem ofEntry_entry (refusal : Refusal) : ofEntry refusal.entry = refusal :=
  rfl

theorem format_eq (refusal : Refusal) :
    refusal.format = refusal.entry.lines.flatMap (· ++ ['\n']) := by
  have parted : refusal.format =
      refusal.reason ++ [' ', 'i', 'n', ' '] ++ refusal.procedure ++ ['!', '\n'] ++
        refusal.query ++ ['\n', '\n'] := rfl
  simp [parted, Entry.lines, Entry.heading, entry]

theorem Legible.entry {refusal : Refusal} (legible : refusal.Legible) :
    refusal.entry.Legible where
  subject := legible.reason
  procedure := legible.procedure.unblank
  statement := legible.query

end Refusal

/-- The reason that is made of a fault is on one line. -/
theorem Fault.lineFeed_not_mem_reason (fault : Fault) : '\n' ∉ fault.reason := by
  intro member
  rw [reason] at member
  cases first : (Text.lines (fault.name ++ ": ".toList ++ fault.message)).head? with
  | none =>
      rw [first] at member
      exact absurd member List.not_mem_nil
  | some line =>
      rw [first] at member
      have unbroken := Text.endsLine_eq_false_of_mem_lines (List.mem_of_mem_head? first)
      exact absurd (unbroken '\n' member) (by decide)

/-! ## Reports -/

namespace Report

/-- All warnings and refusals of the report can be read when they are printed. -/
structure Legible (report : Report) : Prop where
  warnings : ∀ warning ∈ report.warnings, warning.Legible
  refusals : ∀ refusal ∈ report.refusals, refusal.Legible

/-- The report that was printed. -/
def read (printed : Printed) : Report where
  warnings := (Entry.readAll (Text.splitOn '\n' printed.out)).map Warning.ofEntry
  refusals := (Entry.readAll (Text.splitOn '\n' printed.err)).map Refusal.ofEntry

theorem numbersIn_summary (report : Report) :
    Text.numbersIn report.summary = [report.warnings.length, report.refusals.length] := by
  have parted : report.summary =
      "Found".toList ++ ' ' :: (Text.ofNat report.warnings.length ++
        ' ' :: ("warnings and failed to explain".toList ++
          ' ' :: (Text.ofNat report.refusals.length ++ ' ' :: "queries.".toList))) := by
    unfold summary
    simp only [List.append_assoc]
    rfl
  have space : Text.isAsciiDigit ' ' = false := by decide
  simp only [parted, Text.numbersIn_append_cons space, Text.numbersIn_ofNat]
  rw [Text.numbersIn_eq_nil rfl, Text.numbersIn_eq_nil rfl, Text.numbersIn_eq_nil rfl]
  rfl

theorem lineFeed_not_mem_summary (report : Report) : '\n' ∉ report.summary := by
  have number (count : Nat) : '\n' ∉ Text.ofNat count := fun member =>
    absurd (Text.isAsciiDigit_of_mem_ofNat '\n' member) (by decide)
  unfold summary
  simp only [List.mem_append, not_or]
  exact ⟨⟨⟨⟨by decide, number _⟩, by decide⟩, number _⟩, by decide⟩

section Legible

variable {report : Report} (legible : report.Legible)

include legible

theorem Legible.entries_warnings :
    ∀ entry ∈ report.warnings.map Warning.entry, entry.Legible :=
  List.forall_mem_map.2 fun warning member => (legible.warnings warning member).entry

theorem Legible.entries_refusals :
    ∀ entry ∈ report.refusals.map Refusal.entry, entry.Legible :=
  List.forall_mem_map.2 fun refusal member => (legible.refusals refusal member).entry

theorem consistsOf_err :
    Text.ConsistsOf report.print.err ((report.refusals.map Refusal.entry).flatMap Entry.lines) where
  joined := by
    rw [List.flatMap_map, List.flatMap_assoc]
    simp only [← Refusal.format_eq]
    rfl
  unbroken := by
    intro line member
    rcases List.mem_flatMap.1 member with ⟨entry, entryMember, inEntry⟩
    exact Entry.lineFeed_not_mem_lines (legible.entries_refusals entry entryMember) line inEntry

theorem consistsOf_out :
    Text.ConsistsOf report.print.out
      ((report.warnings.map Warning.entry).flatMap Entry.lines ++ [report.summary]) where
  joined := by
    rw [List.flatMap_append, List.flatMap_singleton, List.flatMap_map, List.flatMap_assoc]
    simp only [← Warning.format_eq]
    exact List.append_assoc ..
  unbroken := by
    intro line member
    rcases List.mem_append.1 member with entries | last
    · rcases List.mem_flatMap.1 entries with ⟨entry, entryMember, inEntry⟩
      exact Entry.lineFeed_not_mem_lines (legible.entries_warnings entry entryMember) line inEntry
    · rw [List.mem_singleton.1 last]
      exact lineFeed_not_mem_summary report

/-- A legible report is read back from what is printed. -/
theorem read_print : read report.print = report := by
  have warnings : (read report.print).warnings = report.warnings := by
    rw [read, (consistsOf_out legible).splitOn_eq, List.append_assoc,
      Entry.readAll_flatMap_lines legible.entries_warnings (by simp), List.map_map]
    exact List.map_id _
  have refusals : (read report.print).refusals = report.refusals := by
    rw [read, (consistsOf_err legible).splitOn_eq,
      Entry.readAll_flatMap_lines legible.entries_refusals (by decide), List.map_map]
    exact List.map_id _
  cases report
  exact congr (congrArg Report.mk warnings) refusals

end Legible

/--
What is printed determines a legible report.  The error channel has exactly three lines for each
refusal; the output has exactly three lines for each warning and then the summary, whose two
numbers add up to the status.  The reason that is made of a fault is always legible.
-/
theorem determined_by_print
    {report other : Report}
    (legible : report.Legible)
    (otherLegible : other.Legible) :
    (report.print.out = other.print.out → report.print.err = other.print.err →
        report.warnings = other.warnings ∧ report.refusals = other.refusals) ∧
      (∃ lines,
        Text.ConsistsOf report.print.err lines ∧ lines.length = 3 * report.refusals.length) ∧
      (∃ lines,
        Text.ConsistsOf report.print.out (lines ++ [report.summary]) ∧
          lines.length = 3 * report.warnings.length) ∧
      (∃ warned refused,
        Text.numbersIn report.summary = [warned, refused] ∧ warned + refused = report.status) ∧
      ∀ fault : Fault, '\n' ∉ fault.reason := by
  refine ⟨?_, ⟨_, consistsOf_err legible, ?_⟩, ⟨_, consistsOf_out legible, ?_⟩,
    ⟨_, _, numbersIn_summary report, rfl⟩, Fault.lineFeed_not_mem_reason⟩
  · intro sameOut sameErr
    have same : report = other := by
      rw [← read_print legible, ← read_print otherLegible, read, sameOut, sameErr, read]
    exact ⟨congrArg warnings same, congrArg refusals same⟩
  · rw [Entry.length_flatMap_lines, List.length_map]
  · rw [Entry.length_flatMap_lines, List.length_map]

/-- A report whose texts look like other parts of a report. -/
def lookalikes : Report where
  warnings :=
    [ { label := "full table scan".toList
        procedure := "a_1".toList
        query := "SELECT 'Warning: filesort in b_2!'".toList },
      { label := "filesort".toList
        procedure := "in!".toList
        query := "EXPLAIN SELECT 1 in a_1!".toList } ]
  refusals :=
    [ { reason := "Error: not in b_2! in c_3!".toList
        procedure := "c_3".toList
        query := "Found 2 warnings and failed to explain 9 queries.".toList } ]

theorem legible_lookalikes : lookalikes.Legible where
  warnings := by
    simp only [lookalikes, List.forall_mem_cons]
    exact ⟨⟨⟨.fullTableScan, rfl⟩, ⟨by decide, rfl⟩, by decide⟩,
      ⟨⟨.filesort, rfl⟩, ⟨by decide, rfl⟩, by decide⟩, by simp⟩
  refusals := by
    simp only [lookalikes, List.forall_mem_cons]
    exact ⟨⟨by decide, ⟨by decide, rfl⟩, by decide⟩, by simp⟩

/-- The warnings in another order are another report, and something else is printed. -/
theorem determined_by_print_lookalikes :
    let reordered := { lookalikes with warnings := lookalikes.warnings.reverse }
    lookalikes.Legible ∧ reordered.Legible ∧
      ¬ (lookalikes.print.out = reordered.print.out ∧
        lookalikes.print.err = reordered.print.err) ∧
      (∃ lines, Text.ConsistsOf lookalikes.print.err lines ∧ lines.length = 3) ∧
      (∃ lines,
        Text.ConsistsOf lookalikes.print.out (lines ++ [lookalikes.summary]) ∧
          lines.length = 6) ∧
      ∃ warned refused,
        Text.numbersIn lookalikes.summary = [warned, refused] ∧ warned + refused = 3 := by
  intro reordered
  have otherLegible : reordered.Legible :=
    { warnings := fun warning member =>
        legible_lookalikes.warnings warning (List.mem_reverse.1 member)
      refusals := legible_lookalikes.refusals }
  obtain ⟨determined, err, out, numbers, -⟩ := determined_by_print legible_lookalikes otherLegible
  refine ⟨legible_lookalikes, otherLegible, fun same => ?_, err, out, numbers⟩
  have warnings : lookalikes.warnings = lookalikes.warnings.reverse :=
    (determined same.1 same.2).1
  exact absurd warnings (by decide)

end Report

end ProcedureAudit
