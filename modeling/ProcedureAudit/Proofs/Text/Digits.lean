import ProcedureAudit.Text.Digits

/-!
# Numbers in a text

A natural number is read back from its decimal notation.  The numbers of a text are its runs of
digits, each as long as possible; what stands between them plays no part, so a text that is put
together around numbers shows just these.
-/

namespace ProcedureAudit.Text

/-! ## Decimal notation -/

theorem natOfDigits_append_singleton (digits : Text) (digit : Char) :
    natOfDigits (digits ++ [digit]) = natOfDigits digits * 10 + (digit.toNat - '0'.toNat) := by
  rw [natOfDigits, List.foldl_append, List.foldl_cons, List.foldl_nil, natOfDigits]

theorem natOfDigits_ofNat (number : Nat) : natOfDigits (ofNat number) = number := by
  have digit : ∀ value < 10, (Nat.digitChar value).toNat - '0'.toNat = value := by decide
  induction number using Nat.strongRecOn with
  | ind number induction =>
      rw [ofNat, Nat.toDigits_eq_if (by decide)]
      split
      · rename_i small
        have alone := natOfDigits_append_singleton [] (Nat.digitChar number)
        rw [List.nil_append] at alone
        rw [alone, digit number small]
        exact Nat.zero_add number
      · have before := induction (number / 10) (by omega)
        rw [ofNat] at before
        rw [natOfDigits_append_singleton, before, digit _ (by omega)]
        omega

theorem isAsciiDigit_of_mem_ofNat {number : Nat} :
    ∀ character ∈ ofNat number, isAsciiDigit character = true := by
  intro character member
  have digit : character.isDigit = true :=
    Nat.isDigit_of_mem_toDigits (by decide) (by decide) member
  exact digit

/-! ## Runs of digits -/

/-- The numbers that are written in a text, in order. -/
def numbersIn (text : Text) : List Nat :=
  ((text.splitOnP (!isAsciiDigit ·)).filter (!·.isEmpty)).map natOfDigits

/-- A character that is no digit parts the numbers before it from those after it. -/
theorem numbersIn_append_cons
    {stop : Char}
    (noDigit : isAsciiDigit stop = false)
    (before after : Text) :
    numbersIn (before ++ stop :: after) = numbersIn before ++ numbersIn after := by
  have parts : (!isAsciiDigit stop) = true := by rw [noDigit]; rfl
  rw [numbersIn, List.splitOnP_append_cons before after parts, List.filter_append, List.map_append]
  rfl

theorem numbersIn_eq_nil
    {text : Text}
    (digitless : text.any isAsciiDigit = false) :
    numbersIn text = [] := by
  induction text with
  | nil => rw [numbersIn, List.splitOnP_nil]; rfl
  | cons character text induction =>
      rw [List.any_cons, Bool.or_eq_false_iff] at digitless
      rcases digitless with ⟨first, later⟩
      have parted := numbersIn_append_cons first [] text
      rw [List.nil_append, induction later, List.append_nil] at parted
      rw [parted, numbersIn, List.splitOnP_nil]
      rfl

theorem numbersIn_ofNat (number : Nat) : numbersIn (ofNat number) = [number] := by
  have whole : (ofNat number).splitOnP (!isAsciiDigit ·) = [ofNat number] :=
    List.splitOnP_eq_singleton fun character member => by
      rw [isAsciiDigit_of_mem_ofNat character member]; rfl
  have given : (ofNat number).isEmpty = false :=
    List.isEmpty_eq_false_iff.2 Nat.toDigits_ne_nil
  rw [numbersIn, whole, List.filter_cons_of_pos (by rw [given]; rfl), List.filter_nil,
    List.map_singleton, natOfDigits_ofNat]

end ProcedureAudit.Text
