import ProcedureAudit.Proofs.Query.Inert
import ProcedureAudit.Proofs.Query.Registry

/-!
# Two passes as one replacement

Arguments marked by `in` are filled in first, and the text that comes out is read again for
arguments marked by `Arg`.  The second reading stops at a delimiter, and it finds nothing that
begins at or in an inserted literal.  So it fills in exactly what it would fill in in each gap
between the arguments of the first pass, read on its own.
-/

namespace ProcedureAudit.Query

/-! ## The second pass -/

/-- Between inserted literals, the second pass reads every gap on its own. -/
theorem substituteForm_trailing_filled
    {registry : Registry}
    (undelimited : ∀ entry ∈ registry.entries, IsUndelimited entry.2)
    {occurrences : List Occurrence}
    (delimited : ∀ occurrence ∈ occurrences, isDelimiter occurrence.delimiter = true)
    (bound : ∀ occurrence ∈ occurrences,
      ∃ value, registry.get? occurrence.name = some value ∧ value ≠ .null)
    (gap : Text) :
    substituteForm .trailing registry (filled registry gap occurrences) =
      substituteForm .trailing registry gap ++ occurrences.flatMap fun occurrence =>
        occurrence.delimiter :: (registry.getD occurrence.name .null).literal ++
          substituteForm .trailing registry occurrence.gap := by
  -- The delimiter of an argument ends the gap before it, and its literal ends where a gap begins.
  induction occurrences generalizing gap with
  | nil => simp [filled]
  | cons occurrence occurrences induction =>
      rcases List.forall_mem_cons.1 delimited with ⟨stops, delimited⟩
      rcases List.forall_mem_cons.1 bound with ⟨known, bound⟩
      have inert := inert_fill sparesLiterals_trailing undelimited known occurrence.delimiter
      have parts : filled registry gap (occurrence :: occurrences) =
          gap ++ occurrence.delimiter ::
            ((registry.getD occurrence.name .null).literal ++
              filled registry occurrence.gap occurrences) := by
        simp [filled]
      rw [Piece.fill] at inert
      rw [parts, confined_trailing.substituteForm_append stops, ← List.cons_append,
        inert.substituteForm_append, induction delimited bound, List.flatMap_cons]
      simp only [List.cons_append, List.append_assoc]

/-! ## Both passes -/

theorem Dissects.isDelimiter_of_mem
    {text gap : Text}
    {occurrences : List Occurrence}
    (dissected : Dissects LeadingAt text gap occurrences) :
    ∀ occurrence ∈ occurrences, isDelimiter occurrence.delimiter = true := by
  induction dissected with
  | nothing => exact List.forall_mem_nil _
  | plain _ _ induction => exact induction
  | argument recognised _ _ induction =>
      exact List.forall_mem_cons.2 ⟨recognised.delimited, induction⟩

/--
The two passes are one replacement.  Each argument marked by `in` gives way to the literal of its
value as it stands, and in each gap between them, read on its own, the arguments marked by `Arg`
give way to theirs.
-/
theorem substitutePlaceholders_eq_one_replacement
    (select : Text)
    (registry : Registry)
    (undelimited : ∀ entry ∈ registry.entries, IsUndelimited entry.2) :
    ∃ gap occurrences,
      Dissects LeadingAt select gap occurrences ∧
      (∀ otherGap others, Dissects LeadingAt select otherGap others →
        otherGap = gap ∧ others = occurrences) ∧
      ((∀ occurrence ∈ occurrences,
          ∃ value, registry.get? occurrence.name = some value ∧ value ≠ .null) →
        substitutePlaceholders select registry =
          substituteForm .trailing registry gap ++ occurrences.flatMap fun occurrence =>
            occurrence.delimiter :: (registry.getD occurrence.name .null).literal ++
              substituteForm .trailing registry occurrence.gap) ∧
      ∀ part ∈ gap :: occurrences.map Occurrence.gap,
        ∃ inner arguments, Dissects TrailingAt part inner arguments ∧
          substituteForm .trailing registry part = filled registry inner arguments := by
  rcases Dissects.exists_of .leading leadingForm?_eq_some_iff LeadingAt.suffix select with
    ⟨gap, occurrences, dissected⟩
  refine ⟨gap, occurrences, dissected, ?_, ?_, ?_⟩
  · intro otherGap others other
    exact dissected.unique .leading leadingForm?_eq_some_iff other
  · intro bound
    have first := dissected.substituteForm_eq .leading leadingForm?_eq_some_iff registry
    rw [substitutePlaceholders, first]
    exact substituteForm_trailing_filled undelimited dissected.isDelimiter_of_mem bound gap
  · intro part _
    rcases Dissects.exists_of .trailing trailingForm?_eq_some_iff TrailingAt.suffix part with
      ⟨inner, arguments, dissected⟩
    exact ⟨inner, arguments, dissected,
      dissected.substituteForm_eq .trailing trailingForm?_eq_some_iff registry⟩

/-- Three arguments in both forms; the literal of one is written like another argument. -/
def mixedSelect : Text :=
  "(`inUid`, nameArg, inAt)".toList

def mixedRegistry : Registry :=
  .ofList [("uid".toList, .bytes [0xC0, 0xDE]), ("name".toList, .text "inAt".toList),
    ("at".toList, .integer (-3))]

/-- Only the arguments marked by `in` part the text. -/
def mixedOccurrences : List Occurrence :=
  [⟨"(`inUid`".toList, '(', "Uid".toList, ", nameArg,".toList⟩,
    ⟨" inAt".toList, ' ', "At".toList, ")".toList⟩]

theorem dissects_mixedSelect :
    Dissects LeadingAt mixedSelect [] mixedOccurrences := by
  have outside {text : Text} (unrecognised : leadingForm? text = none) :
      ∀ found, ¬ LeadingAt text found := by
    intro found recognised
    rw [leadingForm?_eq_some_iff.2 recognised] at unrecognised
    contradiction
  have ticked : LeadingAt mixedSelect ⟨'(', "Uid".toList, ", nameArg, inAt)".toList⟩ :=
    leadingForm?_eq_some_iff.1 rfl
  have bare : LeadingAt " inAt)".toList ⟨' ', "At".toList, ")".toList⟩ :=
    leadingForm?_eq_some_iff.1 rfl
  refine .argument ticked rfl ?_
  iterate 10 refine .plain (outside (by decide)) ?_
  refine .argument bare rfl ?_
  exact .plain (outside (by decide)) .nothing

theorem substitutePlaceholders_eq_one_replacement_mixedSelect :
    (∀ entry ∈ mixedRegistry.entries, IsUndelimited entry.2) ∧
      (∀ occurrence ∈ mixedOccurrences,
        ∃ value, mixedRegistry.get? occurrence.name = some value ∧ value ≠ .null) ∧
      substitutePlaceholders mixedSelect mixedRegistry =
        "(UNHEX(\"c0de\"), \"inAt\", -3)".toList := by
  have undelimited : ∀ entry ∈ mixedRegistry.entries, IsUndelimited entry.2 := by
    have entries : mixedRegistry.entries =
        [("uid".toList, .bytes [0xC0, 0xDE]), ("name".toList, .text "inAt".toList),
          ("at".toList, .integer (-3))] := by
      decide
    rw [entries]
    simp [IsUndelimited]
  have bound : ∀ occurrence ∈ mixedOccurrences,
      ∃ value, mixedRegistry.get? occurrence.name = some value ∧ value ≠ .null := by
    refine List.forall_mem_cons.2 ⟨⟨.bytes [0xC0, 0xDE], by decide +kernel, by decide⟩, ?_⟩
    exact List.forall_mem_singleton.2 ⟨.integer (-3), by decide +kernel, by decide⟩
  rcases substitutePlaceholders_eq_one_replacement mixedSelect mixedRegistry undelimited with
    ⟨gap, occurrences, -, unique, equal, -⟩
  rcases unique _ _ dissects_mixedSelect with ⟨rfl, rfl⟩
  refine ⟨undelimited, bound, ?_⟩
  rw [equal bound]
  decide +kernel

end ProcedureAudit.Query
