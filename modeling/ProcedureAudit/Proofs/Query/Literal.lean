import Mathlib.Data.List.Basic
import ProcedureAudit.Proofs.Text.Basic
import ProcedureAudit.Query.Normal

/-!
# How literals are written

Numbers are written with digits, signs, points and the mark of an exponent only, and never with
letters only; this holds of every finite double.  Texts and octets begin with a quote or a capital
letter.  A literal holds no delimiter, except that of octets the one before its quote.
-/

namespace ProcedureAudit

/-! ## Numerals -/

/-- Whether the character may be a part of a number: there is no capital letter among them. -/
def isNumeralCharacter (character : Char) : Bool :=
  character.isDigit || character ∈ ['-', '+', '.', 'e']

/-- A text of such characters that are not all letters. -/
structure IsNumeral (text : Text) : Prop where
  characters : ∀ character ∈ text, isNumeralCharacter character = true
  nonletter : ∃ character ∈ text, Text.isLetter character = false

theorem isNumeralCharacter_of_mem_ofNat
    {number : Nat}
    {character : Char}
    (member : character ∈ Text.ofNat number) :
    isNumeralCharacter character = true := by
  have digit := Nat.isDigit_of_mem_toDigits (by decide) (by decide) member
  simp [isNumeralCharacter, digit]

theorem isLetter_eq_false_of_isDigit
    {character : Char}
    (digit : character.isDigit = true) :
    Text.isLetter character = false := by
  simp only [Char.isDigit, Bool.and_eq_true, decide_eq_true_eq, UInt32.le_iff_toNat_le] at digit
  simp only [Text.isLetter, Text.isCapital, Text.isSmall, Char.le_def, UInt32.le_iff_toNat_le,
    Bool.or_eq_false_iff, Bool.and_eq_false_iff, decide_eq_false_iff_not]
  simp at digit ⊢
  omega

theorem isSmall_of_isLetter_of_isNumeralCharacter
    {character : Char}
    (letter : Text.isLetter character = true)
    (numeral : isNumeralCharacter character = true) :
    Text.isSmall character = true := by
  simp only [isNumeralCharacter, Bool.or_eq_true, decide_eq_true_eq, List.mem_cons,
    List.not_mem_nil, or_false] at numeral
  rcases numeral with digit | rfl | rfl | rfl | rfl
  · rw [isLetter_eq_false_of_isDigit digit] at letter
    contradiction
  all_goals revert letter; decide

theorem isDelimiter_eq_false_of_isNumeralCharacter
    {character : Char}
    (numeral : isNumeralCharacter character = true) :
    Query.isDelimiter character = false := by
  rw [Bool.eq_false_iff]
  intro delimiter
  simp only [Query.isDelimiter, Bool.or_eq_true, decide_eq_true_eq] at delimiter
  rcases delimiter with rfl | rfl <;> contradiction

theorem isNumeral_ofNat (number : Nat) :
    IsNumeral (Text.ofNat number) := by
  refine ⟨fun _ => isNumeralCharacter_of_mem_ofNat, ?_⟩
  rcases List.exists_mem_of_ne_nil _ (Nat.toDigits_ne_nil (n := number) (b := 10)) with
    ⟨digit, member⟩
  exact ⟨digit, member,
    isLetter_eq_false_of_isDigit (Nat.isDigit_of_mem_toDigits (by decide) (by decide) member)⟩

theorem isNumeral_ofInt (number : Int) :
    IsNumeral (Text.ofInt number) := by
  cases number with
  | ofNat number => exact isNumeral_ofNat number
  | negSucc number =>
      refine ⟨?_, '-', List.mem_cons_self .., by decide⟩
      exact List.forall_mem_cons.2 ⟨by decide, (isNumeral_ofNat (number + 1)).characters⟩

namespace Binary64

theorem isNumeralCharacter_of_mem_shortestDigits
    {significand : Nat}
    {exponent : Int}
    {character : Char}
    (member : character ∈ (shortestDigits significand exponent).1) :
    isNumeralCharacter character = true := by
  unfold shortestDigits at member
  exact isNumeralCharacter_of_mem_ofNat (Text.mem_of_mem_dropEndWhile member)

theorem isNumeralCharacter_of_mem_zeros
    {count : Nat}
    {character : Char}
    (member : character ∈ List.replicate count '0') :
    isNumeralCharacter character = true := by
  rw [List.eq_of_mem_replicate member]
  decide

theorem isNumeral_positional
    {digits : Text}
    (characters : ∀ character ∈ digits, isNumeralCharacter character = true)
    (position : Int) :
    IsNumeral (positional digits position) := by
  unfold positional
  split
  · refine ⟨?_, '.', by simp, by decide⟩
    simp only [List.forall_mem_append]
    exact ⟨⟨List.all_eq_true.1 (by decide), fun _ => isNumeralCharacter_of_mem_zeros⟩, characters⟩
  · split
    · refine ⟨?_, '.', by simp, by decide⟩
      simp only [List.forall_mem_append]
      exact ⟨⟨characters, fun _ => isNumeralCharacter_of_mem_zeros⟩, List.all_eq_true.1 (by decide)⟩
    · refine ⟨?_, '.', by simp, by decide⟩
      simp only [List.forall_mem_append]
      exact ⟨⟨fun _ member => characters _ (List.mem_of_mem_take member),
          List.forall_mem_singleton.2 (by decide)⟩,
        fun _ member => characters _ (List.mem_of_mem_drop member)⟩

theorem isNumeral_scientific
    {digits : Text}
    (characters : ∀ character ∈ digits, isNumeralCharacter character = true)
    (position : Int) :
    IsNumeral (scientific digits position) := by
  let sign := if position - 1 < 0 then '-' else '+'
  have signCharacter : isNumeralCharacter sign = true ∧ Text.isLetter sign = false := by
    unfold sign
    split <;> decide
  have fraction :
      ∀ character ∈ (if digits.length ≤ 1 then [] else '.' :: digits.drop 1),
        isNumeralCharacter character = true := by
    split
    · simp
    · exact List.forall_mem_cons.2
        ⟨by decide, fun _ member => characters _ (List.mem_of_mem_drop member)⟩
  have exponent :
      ∀ character ∈ Text.padZeros 2 (Text.ofNat (position - 1).natAbs),
        isNumeralCharacter character = true :=
    List.forall_mem_append.2
      ⟨fun _ => isNumeralCharacter_of_mem_zeros, (isNumeral_ofNat _).characters⟩
  refine ⟨?_, sign, by simp [scientific, sign], signCharacter.2⟩
  simp only [scientific, List.forall_mem_append, List.forall_mem_cons]
  exact ⟨⟨⟨fun _ member => characters _ (List.mem_of_mem_take member), fraction⟩,
    by decide, signCharacter.1, by simp⟩, exponent⟩

theorem isNumeral_render_finite (negative : Bool) (significand : Nat) (exponent : Int) :
    IsNumeral (render (.finite negative significand exponent)) := by
  have signed {text : Text} (numeral : IsNumeral text) :
      IsNumeral (signText negative ++ text) := by
    rcases numeral with ⟨characters, stop, member, nonletter⟩
    refine ⟨List.forall_mem_append.2 ⟨?_, characters⟩, stop, List.mem_append_right _ member,
      nonletter⟩
    cases negative <;> exact List.all_eq_true.1 (by decide)
  have digits (character : Char) (member : character ∈ (shortestDigits significand exponent).1) :=
    isNumeralCharacter_of_mem_shortestDigits member
  simp only [render]
  split
  · exact signed ⟨List.all_eq_true.1 (by decide), '.', by decide, by decide⟩
  · split
    · exact signed (isNumeral_positional digits _)
    · exact signed (isNumeral_scientific digits _)

end Binary64

theorem isNumeral_literal_finite (negative : Bool) (significand : Nat) (exponent : Int) :
    IsNumeral (Value.real (.finite negative significand exponent)).literal := by
  have rendered := Binary64.isNumeral_render_finite negative significand exponent
  -- Unless the number is a variable, unfolding the literal begins to compute its digits.
  generalize Binary64.finite negative significand exponent = number at rendered ⊢
  unfold Value.literal
  dsimp only
  cases number.toInt? with
  | none => exact rendered
  | some whole => exact isNumeral_ofInt whole

/-! ## Hexadecimal digits -/

theorem eq_false_of_mem_hexDigits
    {excluded : Char → Bool}
    (digits : ∀ value < 16, excluded (Text.hexDigit value) = false)
    {width number : Nat}
    {character : Char}
    (member : character ∈ Text.hexDigits width number) :
    excluded character = false := by
  induction width generalizing number with
  | zero => contradiction
  | succ width induction =>
      rw [Text.hexDigits, List.mem_append, List.mem_singleton] at member
      rcases member with earlier | rfl
      · exact induction earlier
      · exact digits _ (Nat.mod_lt _ (by decide))

theorem eq_false_of_mem_hexText
    {excluded : Char → Bool}
    (digits : ∀ value < 16, excluded (Text.hexDigit value) = false)
    {octets : List UInt8}
    {character : Char}
    (member : character ∈ Value.hexText octets) :
    excluded character = false := by
  rcases List.mem_flatMap.1 member with ⟨octet, -, digit⟩
  exact eq_false_of_mem_hexDigits digits digit

theorem isDelimiter_eq_false_of_mem_hexText
    {octets : List UInt8}
    {character : Char}
    (member : character ∈ Value.hexText octets) :
    Query.isDelimiter character = false := by
  have digits : ∀ value < 16, Query.isDelimiter (Text.hexDigit value) = false := by decide
  exact eq_false_of_mem_hexText digits member

end ProcedureAudit
