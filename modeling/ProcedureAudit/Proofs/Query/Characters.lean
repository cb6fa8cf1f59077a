import ProcedureAudit.Proofs.Query.Confined
import ProcedureAudit.Proofs.Query.Parentheses
import ProcedureAudit.Proofs.Query.Registry
import ProcedureAudit.Proofs.Text.Basic

/-!
# The characters of a query

Making a query of a statement removes characters and inserts literals, and that is all: a character
of the query stood in the statement, may stand before an argument, or stands in a literal of the
registry.  So a statement on one line becomes a query on one line.
-/

namespace ProcedureAudit.Query

/-- A character that a query made with the registry can have from elsewhere than its statement. -/
def Inserted (registry : Registry) (character : Char) : Prop :=
  isDelimiter character = true ∨ ∃ entry ∈ registry.entries, character ∈ entry.2.literal

section Characters

variable {registry : Registry} {text : Text} {character : Char}

theorem inserted_of_mem_fill
    {delimiter : Char}
    {name : Text}
    (delimited : isDelimiter delimiter = true)
    (member : character ∈ (Piece.argument delimiter name).fill registry) :
    Inserted registry character := by
  rcases List.mem_cons.1 member with rfl | literal
  · exact Or.inl delimited
  · rw [Registry.getD] at literal
    cases bound : registry.get? name with
    | none =>
        rw [bound] at literal
        contradiction
    | some value =>
        rcases Registry.exists_entry_of_get? bound with ⟨entry, entryMember, rfl⟩
        rw [bound] at literal
        exact Or.inr ⟨entry, entryMember, literal⟩

theorem mem_substituteForm
    {form : PlaceholderForm}
    (confined : form.Confined)
    (member : character ∈ substituteForm form registry text) :
    character ∈ text ∨ Inserted registry character := by
  induction text using pieces.induct form with
  | case1 =>
      rw [substituteForm_nil] at member
      contradiction
  | case2 first rest found recognised induction =>
      rw [substituteForm_of_eq_some recognised] at member
      rcases List.mem_append.1 member with filled | later
      · rcases confined.begins recognised with ⟨rfl, delimited⟩
        exact Or.inr (inserted_of_mem_fill delimited filled)
      · exact (induction later).imp_left (confined.suffix recognised).mem
  | case3 first rest unrecognised induction =>
      rw [substituteForm_of_eq_none unrecognised] at member
      rcases List.mem_cons.1 member with rfl | later
      · exact Or.inl (List.mem_cons_self ..)
      · exact (induction later).imp_left (List.mem_cons_of_mem first)

theorem mem_substitutePlaceholders
    (member : character ∈ substitutePlaceholders text registry) :
    character ∈ text ∨ Inserted registry character := by
  rcases mem_substituteForm confined_trailing member with between | inserted
  · exact mem_substituteForm confined_leading between
  · exact Or.inr inserted

theorem mem_dropTerminator (member : character ∈ dropTerminator text) : character ∈ text := by
  unfold dropTerminator at member
  split at member
  · rename_i before ended
    have kept := List.mem_reverse.1 (Text.mem_of_mem_dropEndWhile member)
    have within : character ∈ (Text.trimEnd text).reverse := by
      rw [ended]
      exact List.mem_cons_of_mem ';' kept
    exact Text.mem_of_mem_dropEndWhile (List.mem_reverse.1 within)
  · exact member

theorem mem_normalizeSelect
    {select : Text}
    (member : character ∈ normalizeSelect select registry) :
    character ∈ select ∨ Inserted registry character := by
  have substituted := mem_substitutePlaceholders (mem_dropTerminator member)
  exact substituted.imp_left (balanceParentheses_sublist select).mem

end Characters

/-- With literals on one line, a statement on one line becomes a query on one line. -/
theorem lineFeed_not_mem_normalizeSelect
    {registry : Registry}
    {select : Text}
    (literals : ∀ entry ∈ registry.entries, '\n' ∉ entry.2.literal)
    (plain : '\n' ∉ select) :
    '\n' ∉ normalizeSelect select registry := by
  intro lineFeed
  rcases mem_normalizeSelect lineFeed with given | delimiter | ⟨entry, member, literal⟩
  · exact plain given
  · contradiction
  · exact literals entry member literal

end ProcedureAudit.Query
