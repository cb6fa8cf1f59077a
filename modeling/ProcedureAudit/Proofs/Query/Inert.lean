import ProcedureAudit.Proofs.Query.Confined
import ProcedureAudit.Proofs.Query.Literal
import ProcedureAudit.Proofs.Query.Registry

/-!
# Inserted literals

An argument is written with a small letter after its delimiter, and a literal is not, except that
a numeral may begin with the mark of an exponent.  So no argument of either form begins at the
delimiter before a literal, nor inside the literal, whatever text follows it.
-/

namespace ProcedureAudit.Query

open ProcedureAudit.Routine (dropBacktick)

/-! ## Texts in which no argument begins -/

/-- No argument of the form begins in the text, whatever follows it. -/
def Inert (form : PlaceholderForm) (inserted : Text) : Prop :=
  ∀ rest, pieces form (inserted ++ rest) = inserted.map .plain ++ pieces form rest

section Inert

variable {form : PlaceholderForm}

theorem Inert.append
    {first second : Text}
    (left : Inert form first)
    (right : Inert form second) :
    Inert form (first ++ second) := by
  intro rest
  rw [List.append_assoc, left, right, List.map_append, List.append_assoc]

theorem Inert.cons
    {character : Char}
    {inserted : Text}
    (unrecognised : ∀ rest, form.recognise? (character :: (inserted ++ rest)) = none)
    (inert : Inert form inserted) :
    Inert form (character :: inserted) := by
  intro rest
  rw [List.cons_append, pieces_of_eq_none (unrecognised rest), inert]
  rfl

theorem Inert.substituteForm_append
    {inserted : Text}
    (inert : Inert form inserted)
    (registry : Registry)
    (rest : Text) :
    substituteForm form registry (inserted ++ rest) =
      inserted ++ substituteForm form registry rest := by
  rw [substituteForm, inert, List.flatMap_append, List.flatMap_map]
  congr 1
  exact List.flatMap_singleton' inserted

theorem inert_of_undelimited
    (confined : form.Confined)
    {inserted : Text}
    (undelimited : ∀ character ∈ inserted, isDelimiter character = false) :
    Inert form inserted := by
  induction inserted with
  | nil => exact fun rest => rfl
  | cons character inserted induction =>
      rcases List.forall_mem_cons.1 undelimited with ⟨here, later⟩
      exact .cons (fun rest => confined.recognise?_eq_none here _) (induction later)

end Inert

/-! ## Forms whose arguments are not written like literals -/

/-- After a delimiter, an argument begins with a small letter or a back-tick, unlike a literal. -/
structure PlaceholderForm.SparesLiterals (form : PlaceholderForm) : Prop extends form.Confined where
  notSmall : ∀ {first : Char}, Text.isSmall first = false → first ≠ '\x60' →
    ∀ (delimiter : Char) (rest : Text), form.recognise? (delimiter :: first :: rest) = none
  numeral : ∀ {numeral : Text}, IsNumeral numeral →
    ∀ (delimiter : Char) (rest : Text), form.recognise? (delimiter :: (numeral ++ rest)) = none

theorem leadingForm?_cons_cons_eq_none
    {first : Char}
    (notMark : first ≠ 'i')
    (notTick : first ≠ '\x60')
    (delimiter : Char)
    (rest : Text) :
    leadingForm? (delimiter :: first :: rest) = none := by
  have body : dropBacktick (first :: rest) = first :: rest :=
    dropBacktick_eq_iff.2 (Or.inr ⟨rfl, by simpa using notTick⟩)
  have unmarked : Text.dropOpening? "in".toList (first :: rest) = none := if_neg notMark
  rw [leadingForm?, body, unmarked]
  split <;> rfl

theorem sparesLiterals_leading : PlaceholderForm.leading.SparesLiterals where
  toConfined := confined_leading
  notSmall := by
    intro first notSmall notTick delimiter rest
    refine leadingForm?_cons_cons_eq_none ?_ notTick delimiter rest
    rintro rfl
    contradiction
  numeral := by
    intro numeral isNumeral delimiter rest
    rcases isNumeral with ⟨characters, stop, member, -⟩
    cases numeral with
    | nil => exact (List.not_mem_nil member).elim
    | cons first numeral =>
        have character := characters first (List.mem_cons_self ..)
        refine leadingForm?_cons_cons_eq_none ?_ ?_ delimiter (numeral ++ rest)
        · rintro rfl
          contradiction
        · rintro rfl
          contradiction

/-- An argument begins with a small letter, perhaps after a back-tick. -/
theorem trailingForm?_cons_cons_eq_none
    {first : Char}
    (notSmall : Text.isSmall first = false)
    (notTick : first ≠ '\x60')
    (delimiter : Char)
    (rest : Text) :
    trailingForm? (delimiter :: first :: rest) = none := by
  have body : dropBacktick (first :: rest) = first :: rest :=
    dropBacktick_eq_iff.2 (Or.inr ⟨rfl, by simpa using notTick⟩)
  have small : smallLetters (first :: rest) = [] := by
    rw [smallLetters, List.takeWhile_cons]
    split <;> simp [notSmall]
  rw [trailingForm?_cons, body, small, if_neg fun possible => possible.2 rfl]

/-- An argument has a capital letter before anything that is no letter; a numeral has none. -/
theorem trailingForm?_numeral_eq_none
    {numeral : Text}
    (isNumeral : IsNumeral numeral)
    (delimiter : Char)
    (rest : Text) :
    trailingForm? (delimiter :: (numeral ++ rest)) = none := by
  rcases isNumeral with ⟨characters, stop, member, nonletter⟩
  -- The word ends at the first character that is no letter, whatever follows the numeral.
  rcases List.append_of_mem member with ⟨before, after, rfl⟩
  have body :
      dropBacktick (before ++ stop :: after ++ rest) = before ++ stop :: (after ++ rest) := by
    rw [dropBacktick_eq_iff]
    refine Or.inr ⟨by simp, fun ticked => ?_⟩
    have tick : '\x60' ∈ before ++ stop :: after := by
      cases before with
      | nil => simpa using Or.inl ticked.symm
      | cons first before => simpa using Or.inl ticked.symm
    exact absurd (characters _ tick) (by decide)
  have capitalised : capitalisedLetters (before ++ stop :: (after ++ rest)) = [] := by
    rw [capitalisedLetters, Text.takeWhile_append_stop nonletter, List.dropWhile_eq_nil_iff]
    intro character within
    exact isSmall_of_isLetter_of_isNumeralCharacter (List.mem_takeWhile_imp within)
      (characters _ (List.mem_append_left _ ((List.takeWhile_prefix _).subset within)))
  rw [trailingForm?_cons, body, capitalised]
  split <;> rfl

theorem sparesLiterals_trailing : PlaceholderForm.trailing.SparesLiterals where
  toConfined := confined_trailing
  notSmall := trailingForm?_cons_cons_eq_none
  numeral := trailingForm?_numeral_eq_none

/-! ## Literals -/

/-- Whether a literal of the value holds no delimiter of its own: every finite number does. -/
def IsUndelimited : Value → Prop
  | .text content => ' ' ∉ content ∧ '(' ∉ content
  | .real .nan => False
  | .real (.infinite _) => False
  | _ => True

section Literals

variable {form : PlaceholderForm} (spares : form.SparesLiterals)

include spares

theorem inert_delimiter_numeral
    {numeral : Text}
    (isNumeral : IsNumeral numeral)
    (delimiter : Char) :
    Inert form (delimiter :: numeral) :=
  .cons (spares.numeral isNumeral delimiter)
    (inert_of_undelimited spares.toConfined fun character member =>
      isDelimiter_eq_false_of_isNumeralCharacter (isNumeral.characters character member))

theorem inert_delimiter_quote
    {content : Text}
    (undelimited : ∀ character ∈ content, isDelimiter character = false)
    (delimiter : Char) :
    Inert form (delimiter :: '\x22' :: content) :=
  .cons (fun rest => spares.notSmall (by decide) (by decide) delimiter _)
    (inert_of_undelimited spares.toConfined (List.forall_mem_cons.2 ⟨by decide, undelimited⟩))

/-- After a delimiter, no argument begins at or in the literal of a value that is not absent. -/
theorem inert_delimiter_literal
    {value : Value}
    (present : value ≠ .null)
    (undelimited : IsUndelimited value)
    (delimiter : Char) :
    Inert form (delimiter :: value.literal) := by
  cases value with
  | null => exact (present rfl).elim
  | boolean truth =>
      refine inert_delimiter_numeral spares ?_ delimiter
      cases truth with
      | false => exact isNumeral_ofNat 0
      | true => exact isNumeral_ofNat 1
  | integer number => exact inert_delimiter_numeral spares (isNumeral_ofInt number) delimiter
  | real number =>
      cases number with
      | nan => exact undelimited.elim
      | infinite negative => exact undelimited.elim
      | finite negative significand exponent =>
          exact inert_delimiter_numeral spares
            (isNumeral_literal_finite negative significand exponent) delimiter
  | text content =>
      refine inert_delimiter_quote spares
        (List.forall_mem_append.2 ⟨?_, List.forall_mem_singleton.2 (by decide)⟩) delimiter
      intro character member
      rw [Bool.eq_false_iff]
      intro isDelimiter
      simp only [Query.isDelimiter, Bool.or_eq_true, decide_eq_true_eq] at isDelimiter
      rcases isDelimiter with rfl | rfl
      · exact undelimited.1 member
      · exact undelimited.2 member
  | bytes content =>
      -- The parenthesis of the literal is a delimiter itself, with a quote after it.
      have opening : Inert form (delimiter :: ['U', 'N', 'H', 'E', 'X']) :=
        .cons (fun rest => spares.notSmall (by decide) (by decide) delimiter _)
          (inert_of_undelimited spares.toConfined (by simp [Query.isDelimiter]))
      have octets : Inert form ('(' :: '\x22' :: (Value.hexText content ++ ['\x22', ')'])) :=
        inert_delimiter_quote spares (List.forall_mem_append.2
          ⟨fun _ => isDelimiter_eq_false_of_mem_hexText, by simp [Query.isDelimiter]⟩) '('
      exact opening.append octets

/-- No argument begins in what is filled in for a name with a value. -/
theorem inert_fill
    {registry : Registry}
    (undelimited : ∀ entry ∈ registry.entries, IsUndelimited entry.2)
    {name : Text}
    (bound : ∃ value, registry.get? name = some value ∧ value ≠ .null)
    (delimiter : Char) :
    Inert form ((Piece.argument delimiter name).fill registry) := by
  rcases bound with ⟨value, known, present⟩
  rcases Registry.exists_entry_of_get? known with ⟨entry, member, rfl⟩
  rw [Piece.fill, Registry.getD, known, Option.getD_some]
  exact inert_delimiter_literal spares present (undelimited entry member) delimiter

end Literals

end ProcedureAudit.Query
