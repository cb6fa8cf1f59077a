import ProcedureAudit.Proofs.Query.ArgumentName
import ProcedureAudit.Proofs.Query.Inert

/-!
# Queries without arguments

A text is settled for a form if no argument of the form begins in it.  A pass settles its own form
if every name it finds has a value, and it keeps a form settled that is so already, since it
changes nothing between a delimiter and the end of its segment except where it inserts a literal.
So nothing is left to replace after both passes.
-/

namespace ProcedureAudit.Query

/-! ## Settled texts -/

/-- No argument of the form begins anywhere in the text. -/
def Settled (form : PlaceholderForm) (text : Text) : Prop :=
  ∀ rest, rest <:+ text → form.recognise? rest = none

section Settled

variable {form : PlaceholderForm}

theorem recognise?_nil (form : PlaceholderForm) : form.recognise? [] = none := by
  cases recognised : form.recognise? [] with
  | none => rfl
  | some found => exact absurd (form.shorter recognised) (Nat.not_lt_zero _)

theorem settled_nil : Settled form [] := by
  intro rest ends
  rw [List.suffix_nil.1 ends]
  exact recognise?_nil form

theorem settled_cons_iff {character : Char} {text : Text} :
    Settled form (character :: text) ↔
      form.recognise? (character :: text) = none ∧ Settled form text := by
  constructor
  · intro settled
    exact ⟨settled _ List.suffix_rfl, fun rest ends => settled rest (ends.trans (List.suffix_cons ..))⟩
  · rintro ⟨here, later⟩ rest ends
    rcases List.suffix_cons_iff.1 ends with rfl | ends
    · exact here
    · exact later rest ends

/-- The pieces of a settled text are its characters. -/
theorem settled_iff_pieces_eq {text : Text} :
    Settled form text ↔ pieces form text = text.map .plain := by
  induction text using pieces.induct form with
  | case1 =>
      rw [pieces]
      exact iff_of_true settled_nil rfl
  | case2 character rest found recognised _ =>
      rw [pieces_of_eq_some recognised, settled_cons_iff, recognised]
      simp
  | case3 character rest unrecognised induction =>
      rw [pieces_of_eq_none unrecognised, settled_cons_iff, induction]
      simp [unrecognised]

theorem Inert.settled_append
    {inserted rest : Text}
    (inert : Inert form inserted)
    (settled : Settled form rest) :
    Settled form (inserted ++ rest) := by
  rw [settled_iff_pieces_eq] at settled ⊢
  rw [inert, settled, List.map_append]

theorem Settled.substituteForm_eq
    {text : Text}
    (settled : Settled form text)
    (registry : Registry) :
    substituteForm form registry text = text := by
  rw [substituteForm, settled_iff_pieces_eq.1 settled, List.flatMap_map]
  exact List.flatMap_singleton' text

end Settled

/-! ## Texts that hold an argument -/

/-- Somewhere in the text an argument with such a name begins. -/
def HoldsArgument (IsName : Text → Prop) (text : Text) : Prop :=
  ∃ before delimiter after,
    text = before ++ delimiter :: after ∧ BeginsArgument IsName delimiter after

theorem PlaceholderForm.Named.settled_iff
    {form : PlaceholderForm}
    {IsName : Text → Prop}
    (named : form.Named IsName)
    {text : Text} :
    Settled form text ↔ ¬ HoldsArgument IsName text := by
  constructor
  · rintro settled ⟨before, delimiter, after, rfl, begins⟩
    exact named.recognise?_eq_none_iff.1 (settled _ (List.suffix_append ..)) begins
  · intro holdsNone rest ends
    cases rest with
    | nil => exact recognise?_nil form
    | cons delimiter after =>
        rcases ends with ⟨before, split⟩
        rw [named.recognise?_eq_none_iff]
        intro begins
        exact holdsNone ⟨before, delimiter, after, split.symm, begins⟩

/-! ## What a pass leaves -/

def Piece.name? : Piece → Option Text
  | .plain _ => none
  | .argument _ name => some name

/-- The names of the arguments that a pass for the form finds in the text. -/
def namesIn (form : PlaceholderForm) (text : Text) : List Text :=
  (pieces form text).filterMap Piece.name?

theorem namesIn_of_eq_some
    {form : PlaceholderForm}
    {text : Text}
    {found : Placeholder}
    (recognised : form.recognise? text = some found) :
    namesIn form text = found.name :: namesIn form found.rest := by
  rw [namesIn, pieces_of_eq_some recognised]
  rfl

theorem namesIn_of_eq_none
    {form : PlaceholderForm}
    {character : Char}
    {rest : Text}
    (unrecognised : form.recognise? (character :: rest) = none) :
    namesIn form (character :: rest) = namesIn form rest := by
  rw [namesIn, pieces_of_eq_none unrecognised]
  rfl

/-- A value is known for the name, and it is not absent. -/
def Binds (registry : Registry) (name : Text) : Prop :=
  ∃ value, registry.get? name = some value ∧ value ≠ .null

/--
After a pass for one form, another form is settled, if no argument of it began where the pass found
none, and if none begins in what the pass inserts.
-/
theorem settled_substituteForm
    {form pass : PlaceholderForm}
    (spares : form.SparesLiterals)
    (confined : pass.Confined)
    {registry : Registry}
    (undelimited : ∀ entry ∈ registry.entries, IsUndelimited entry.2)
    {text : Text}
    (covered : ∀ rest, rest <:+ text →
      pass.recognise? rest = none → form.recognise? rest = none)
    (bound : ∀ name ∈ namesIn pass text, Binds registry name) :
    Settled form (substituteForm pass registry text) := by
  induction text using pieces.induct pass with
  | case1 =>
      rw [substituteForm_nil]
      exact settled_nil
  | case2 character rest found recognised induction =>
      rw [namesIn_of_eq_some recognised, List.forall_mem_cons] at bound
      rw [substituteForm_of_eq_some recognised]
      refine (inert_fill spares undelimited bound.1 found.delimiter).settled_append
        (induction ?_ bound.2)
      intro later ends
      exact covered later (ends.trans (confined.suffix recognised))
  | case3 character rest unrecognised induction =>
      rw [namesIn_of_eq_none unrecognised] at bound
      rw [substituteForm_of_eq_none unrecognised, settled_cons_iff]
      constructor
      · -- The segment after the character is the same as before the pass.
        exact spares.recognise?_eq_none_of_segment_eq
          (confined.segment_substituteForm registry rest).symm
          (covered _ List.suffix_rfl unrecognised)
      · refine induction ?_ bound
        intro later ends
        exact covered later (ends.trans (List.suffix_cons ..))

/--
If the registry has a value for every name that a pass finds, no argument of either form is left in
the query, and replacing its arguments again, with any registry, changes nothing.
-/
theorem substitutePlaceholders_settled
    {select : Text}
    {registry : Registry}
    (undelimited : ∀ entry ∈ registry.entries, IsUndelimited entry.2)
    (leading : ∀ name ∈ namesIn .leading select, Binds registry name)
    (trailing : ∀ name ∈ namesIn .trailing (substituteForm .leading registry select),
      Binds registry name) :
    ¬ HoldsArgument IsLeadingName (substitutePlaceholders select registry) ∧
      ¬ HoldsArgument IsTrailingName (substitutePlaceholders select registry) ∧
      ∀ other,
        substitutePlaceholders (substitutePlaceholders select registry) other =
          substitutePlaceholders select registry := by
  have between : Settled .leading (substituteForm .leading registry select) :=
    settled_substituteForm sparesLiterals_leading confined_leading undelimited
      (fun _ _ unrecognised => unrecognised) leading
  have leadingSettled : Settled .leading (substitutePlaceholders select registry) :=
    settled_substituteForm sparesLiterals_leading confined_trailing undelimited
      (fun rest ends _ => between rest ends) trailing
  have trailingSettled : Settled .trailing (substitutePlaceholders select registry) :=
    settled_substituteForm sparesLiterals_trailing confined_trailing undelimited
      (fun _ _ unrecognised => unrecognised) trailing
  refine ⟨named_leading.settled_iff.1 leadingSettled, named_trailing.settled_iff.1 trailingSettled,
    fun other => ?_⟩
  conv => lhs; rw [substitutePlaceholders]
  rw [leadingSettled.substituteForm_eq other, trailingSettled.substituteForm_eq other]

/-- Arguments after which a name goes on, as if another argument were left over. -/
def crowdedSelect : Text :=
  "(`inUid`nameArg, nameArgument)".toList

def crowdedRegistry : Registry :=
  .ofList [("uid".toList, .bytes [0xC0, 0xDE]), ("name".toList, .text "inAt".toList)]

def crowdedQuery : Text :=
  "(UNHEX(\"c0de\")nameArg, \"inAt\"ument)".toList

theorem substitutePlaceholders_settled_crowdedSelect :
    (∀ entry ∈ crowdedRegistry.entries, IsUndelimited entry.2) ∧
      (∀ name ∈ namesIn .leading crowdedSelect, Binds crowdedRegistry name) ∧
      (∀ name ∈ namesIn .trailing (substituteForm .leading crowdedRegistry crowdedSelect),
        Binds crowdedRegistry name) ∧
      ¬ HoldsArgument IsLeadingName crowdedQuery ∧
      ¬ HoldsArgument IsTrailingName crowdedQuery ∧
      ∀ other, substitutePlaceholders crowdedQuery other = crowdedQuery := by
  have undelimited : ∀ entry ∈ crowdedRegistry.entries, IsUndelimited entry.2 := by
    have entries : crowdedRegistry.entries =
        [("uid".toList, .bytes [0xC0, 0xDE]), ("name".toList, .text "inAt".toList)] := by
      decide
    rw [entries]
    simp [IsUndelimited]
  have leading : ∀ name ∈ namesIn .leading crowdedSelect, Binds crowdedRegistry name := by
    have names : namesIn .leading crowdedSelect = ["Uid".toList] := by decide +kernel
    rw [names]
    exact List.forall_mem_singleton.2 ⟨.bytes [0xC0, 0xDE], by decide +kernel, by decide⟩
  have trailing :
      ∀ name ∈ namesIn .trailing (substituteForm .leading crowdedRegistry crowdedSelect),
        Binds crowdedRegistry name := by
    have names : namesIn .trailing (substituteForm .leading crowdedRegistry crowdedSelect) =
        ["name".toList] := by
      decide +kernel
    rw [names]
    exact List.forall_mem_singleton.2 ⟨.text "inAt".toList, by decide +kernel, by decide⟩
  have query : substitutePlaceholders crowdedSelect crowdedRegistry = crowdedQuery := by
    decide +kernel
  have settled := substitutePlaceholders_settled undelimited leading trailing
  rw [query] at settled
  exact ⟨undelimited, leading, trailing, settled⟩

end ProcedureAudit.Query
