import Mathlib.Data.List.Forall2
import ProcedureAudit.Proofs.Text.LetterCase

/-!
# Other spellings of a text

Two texts are case variants if they differ at most in the case of their ASCII letters.  Case
variants have the same lower-case form, final sigmas included, and whatever is decided by blanks,
marks, and other characters without a case is decided alike for both of them.
-/

namespace ProcedureAudit.Text

/-- The small letter of an ASCII capital; other characters stay. -/
def smallLetter (character : Char) : Char :=
  if isCapital character then Char.ofNat (character.toNat + 32) else character

/-- The capital of a small ASCII letter; other characters stay. -/
def capitalLetter (character : Char) : Char :=
  if isSmall character then Char.ofNat (character.toNat - 32) else character

/-- The texts differ at most in the case of their ASCII letters. -/
def CaseVariant (left right : Text) : Prop :=
  left.map smallLetter = right.map smallLetter

instance (left right : Text) : Decidable (CaseVariant left right) :=
  inferInstanceAs (Decidable (_ = _))

/-- A change of characters that changes at most the case of ASCII letters. -/
def Recases (recase : Char → Char) : Prop :=
  ∀ character, smallLetter (recase character) = smallLetter character

/-! ## Characters -/

/-- What is alike for each capital and its small letter does not see the case of letters. -/
theorem apply_smallLetter
    {α : Type}
    (decides : Char → α)
    (alike : ∀ code < 91, 65 ≤ code →
      decides (Char.ofNat (code + 32)) = decides (Char.ofNat code))
    (character : Char) :
    decides (smallLetter character) = decides character := by
  unfold smallLetter
  split
  · rename_i capital
    have code := isCapital_iff.1 capital
    rw [alike character.toNat (by omega) code.1, Char.ofNat_toNat]
  · rfl

theorem recases_smallLetter : Recases smallLetter :=
  apply_smallLetter smallLetter (by decide)

theorem recases_capitalLetter : Recases capitalLetter := by
  intro character
  unfold capitalLetter
  split
  · rename_i small
    have code := isSmall_iff.1 small
    have alike : ∀ code < 123, 97 ≤ code →
        smallLetter (Char.ofNat (code - 32)) = smallLetter (Char.ofNat code) := by decide
    rw [alike character.toNat (by omega) code.1, Char.ofNat_toNat]
  · rfl

theorem smallLetter_of_not_isLetter
    {character : Char}
    (other : isLetter character = false) :
    smallLetter character = character := by
  rw [isLetter, Bool.or_eq_false_iff] at other
  rw [smallLetter, other.1]
  rfl

theorem isLetter_smallLetter (character : Char) :
    isLetter (smallLetter character) = isLetter character :=
  apply_smallLetter isLetter (by decide) character

theorem isCapital_smallLetter (character : Char) :
    isCapital (smallLetter character) = false := by
  cases capital : isCapital character with
  | true =>
      have code := isCapital_iff.1 capital
      have none : ∀ code < 91, 65 ≤ code → isCapital (Char.ofNat (code + 32)) = false := by decide
      rw [smallLetter, if_pos capital]
      exact none character.toNat (by omega) code.1
  | false =>
      rw [smallLetter, capital]
      exact capital

theorem isCapital_capitalLetter
    {character : Char}
    (letter : isLetter character = true) :
    isCapital (capitalLetter character) = true := by
  cases small : isSmall character with
  | true =>
      have code := isSmall_iff.1 small
      have all : ∀ code < 123, 97 ≤ code → isCapital (Char.ofNat (code - 32)) = true := by decide
      rw [capitalLetter, if_pos small]
      exact all character.toNat (by omega) code.1
  | false =>
      rw [isLetter, small, Bool.or_false] at letter
      rw [capitalLetter, small]
      exact letter

/-! ## Case variants -/

theorem CaseVariant.refl (text : Text) : CaseVariant text text :=
  rfl

theorem CaseVariant.symm {left right : Text} (variant : CaseVariant left right) :
    CaseVariant right left :=
  Eq.symm variant

theorem CaseVariant.trans
    {first second third : Text}
    (variant : CaseVariant first second)
    (next : CaseVariant second third) :
    CaseVariant first third :=
  Eq.trans variant next

theorem Recases.caseVariant {recase : Char → Char} (recases : Recases recase) (text : Text) :
    CaseVariant text (text.map recase) := by
  rw [CaseVariant, List.map_map]
  exact List.map_congr_left fun character _ => (recases character).symm

theorem Recases.forall₂_caseVariant
    {recase : Char → Char}
    (recases : Recases recase)
    (texts : List Text) :
    List.Forall₂ CaseVariant texts (texts.map (List.map recase)) := by
  rw [List.forall₂_map_right_iff, List.forall₂_same]
  exact fun text _ => recases.caseVariant text

theorem map_smallLetter_of_mem_map {texts : List Text} :
    ∀ text ∈ texts.map (List.map smallLetter), text.map smallLetter = text := by
  intro text member
  rcases List.mem_map.1 member with ⟨written, -, rfl⟩
  exact recases_smallLetter.caseVariant written |>.symm

theorem CaseVariant.eq_nil_iff {left right : Text} (variant : CaseVariant left right) :
    left = [] ↔ right = [] := by
  rw [← List.map_eq_nil_iff, variant, List.map_eq_nil_iff]

/-- A letter occurs in the text, so that it has more than one spelling. -/
def HasLetter (text : Text) : Prop :=
  ∃ character ∈ text, isLetter character = true

instance (text : Text) : Decidable (HasLetter text) :=
  List.decidableBEx (fun character => isLetter character = true) text

theorem HasLetter.ne_nil {text : Text} (letter : HasLetter text) : text ≠ [] := by
  rcases letter with ⟨character, member, -⟩
  exact List.ne_nil_of_mem member

theorem CaseVariant.hasLetter_iff {left right : Text} (variant : CaseVariant left right) :
    HasLetter left ↔ HasLetter right := by
  have smallAlike (text : Text) : HasLetter (text.map smallLetter) ↔ HasLetter text := by
    constructor
    · rintro ⟨character, member, letter⟩
      rcases List.mem_map.1 member with ⟨written, writtenMember, rfl⟩
      exact ⟨written, writtenMember, isLetter_smallLetter written ▸ letter⟩
    · rintro ⟨character, member, letter⟩
      exact ⟨_, List.mem_map_of_mem member, (isLetter_smallLetter character).trans letter⟩
  rw [← smallAlike, variant, smallAlike]

/-- A text without letters has one spelling. -/
theorem CaseVariant.eq_of_not_hasLetter
    {left right : Text}
    (variant : CaseVariant left right)
    (letterless : ¬ HasLetter left) :
    right = left := by
  have same {text : Text} (none : ¬ HasLetter text) : text.map smallLetter = text := by
    have each : ∀ character ∈ text, smallLetter character = id character := by
      intro character member
      refine smallLetter_of_not_isLetter (Bool.eq_false_iff.2 fun letter => ?_)
      exact none ⟨character, member, letter⟩
    rw [List.map_congr_left each, List.map_id]
  rw [← same letterless, ← same (mt variant.hasLetter_iff.2 letterless)]
  exact variant.symm

theorem CaseVariant.eq_iff
    {left right text : Text}
    (variant : CaseVariant left right)
    (letterless : ¬ HasLetter text) :
    text = left ↔ text = right := by
  constructor
  · rintro rfl
    exact (variant.eq_of_not_hasLetter letterless).symm
  · rintro rfl
    exact (variant.symm.eq_of_not_hasLetter letterless).symm

/-- A text with letters that is written in capitals is none that is written in small letters. -/
theorem map_capitalLetter_ne_map_smallLetter
    {text : Text}
    (hasLetter : HasLetter text)
    (other : Text) :
    text.map capitalLetter ≠ other.map smallLetter := by
  intro equal
  rcases hasLetter with ⟨character, member, letter⟩
  have inSmall : capitalLetter character ∈ other.map smallLetter :=
    equal ▸ List.mem_map_of_mem member
  rcases List.mem_map.1 inSmall with ⟨small, -, same⟩
  have capital := isCapital_capitalLetter letter
  rw [← same, isCapital_smallLetter] at capital
  contradiction

/-- A text in small letters is among texts in capitals only if it has no letters. -/
theorem not_hasLetter_of_mem_map_capitalLetter
    {text : Text}
    {texts : List Text}
    (small : text.map smallLetter = text)
    (member : text ∈ texts.map (List.map capitalLetter)) :
    ¬ HasLetter text := by
  rcases List.mem_map.1 member with ⟨written, -, rfl⟩
  intro letter
  have variant := recases_capitalLetter.caseVariant written
  exact map_capitalLetter_ne_map_smallLetter (variant.hasLetter_iff.2 letter) _ small.symm

/-! ## What does not see the case of letters -/

/-- What is alike for each capital and its small letter is alike after a change of case. -/
theorem Recases.apply
    {recase : Char → Char}
    (recases : Recases recase)
    {α : Type}
    (decides : Char → α)
    (alike : ∀ code < 91, 65 ≤ code →
      decides (Char.ofNat (code + 32)) = decides (Char.ofNat code))
    (character : Char) :
    decides (recase character) = decides character := by
  rw [← apply_smallLetter decides alike, recases, apply_smallLetter decides alike]

section Blind

variable
    {recase : Char → Char}
    {drops : Char → Bool}
    (blind : ∀ character, drops (recase character) = drops character)

include blind

theorem map_dropWhile_of_blind (text : Text) :
    (text.map recase).dropWhile drops = (text.dropWhile drops).map recase := by
  rw [List.dropWhile_map]
  exact congrArg (fun decides => (text.dropWhile decides).map recase) (funext blind)

theorem map_dropEndWhile_of_blind (text : Text) :
    dropEndWhile drops (text.map recase) = (dropEndWhile drops text).map recase := by
  rw [dropEndWhile, ← List.map_reverse, map_dropWhile_of_blind blind, ← List.map_reverse]
  rfl

theorem map_dropAround_of_blind (text : Text) :
    dropAround drops (text.map recase) = (dropAround drops text).map recase := by
  rw [dropAround, map_dropWhile_of_blind blind, map_dropEndWhile_of_blind blind]
  rfl

end Blind

theorem map_splitOn_of_blind
    {recase : Char → Char}
    {mark : Char}
    (blind : ∀ character, recase character = mark ↔ character = mark)
    (text : Text) :
    splitOn mark (text.map recase) = (splitOn mark text).map (List.map recase) := by
  induction text with
  | nil => rfl
  | cons character rest induction =>
      rw [List.map_cons, splitOn, splitOn, induction]
      by_cases same : character = mark
      · rw [if_pos same, if_pos ((blind character).2 same), List.map_cons]
        rfl
      · rw [if_neg same, if_neg (mt (blind character).1 same)]
        cases splitOn mark rest <;> rfl

/-! ## The lower-case form -/

theorem continuesWord_map_smallLetter (text : Text) :
    continuesWord (text.map smallLetter) = continuesWord text := by
  unfold continuesWord
  rw [map_dropWhile_of_blind (apply_smallLetter isTransparent (by decide +kernel))]
  cases text.dropWhile isTransparent with
  | nil => rfl
  | cons character rest => exact apply_smallLetter isCased (by decide +kernel) character

theorem wordAfter_smallLetter (inWord : Bool) (character : Char) :
    wordAfter inWord (smallLetter character) = wordAfter inWord character := by
  rw [wordAfter, wordAfter, apply_smallLetter isTransparent (by decide +kernel),
    apply_smallLetter isCased (by decide +kernel)]

theorem lowerFrom_map_smallLetter (inWord : Bool) (text : Text) :
    lowerFrom inWord (text.map smallLetter) = lowerFrom inWord text := by
  induction text generalizing inWord with
  | nil => rfl
  | cons character rest induction =>
      have is (special : Char) (alike : ∀ code < 91, 65 ≤ code →
          decide (Char.ofNat (code + 32) = special) = decide (Char.ofNat code = special)) :
          smallLetter character = special ↔ character = special := by
        simpa using apply_smallLetter (fun other => decide (other = special)) alike character
      rw [List.map_cons, lowerFrom, lowerFrom, wordAfter_smallLetter, induction,
        continuesWord_map_smallLetter, apply_smallLetter lowerLetter (by decide +kernel)]
      simp only [is 'Σ' (by decide), is 'İ' (by decide)]

theorem CaseVariant.lower_eq {left right : Text} (variant : CaseVariant left right) :
    lower left = lower right := by
  rw [lower, lower, ← lowerFrom_map_smallLetter, variant, lowerFrom_map_smallLetter]

/-! ## Letters and hyphens -/

theorem isLetterVariant_cases
    {character : Char}
    (variant : isLetterVariant character = true) :
    (65 ≤ character.toNat ∧ character.toNat < 123) ∨
      character = 'ſ' ∨ character = '\u212A' ∨ character = 'İ' ∨ character = 'ı' := by
  unfold isLetterVariant foldLetter at variant
  split at variant
  · rename_i capital
    have code := isCapital_iff.1 capital
    omega
  · split at variant
    · exact Or.inr (Or.inl ‹_›)
    · split at variant
      · exact Or.inr (Or.inr (Or.inl ‹_›))
      · split at variant
        · rename_i either
          exact Or.inr (Or.inr (Or.inr (by simpa using either)))
        · have code := isSmall_iff.1 variant
          omega

theorem lowerLetter_ne_hyphen
    {character : Char}
    (variant : isLetterVariant character = true) :
    lowerLetter character ≠ '-' := by
  have letters : ∀ code < 123, 65 ≤ code → lowerLetter (Char.ofNat code) ≠ '-' := by
    decide +kernel
  rcases isLetterVariant_cases variant with ⟨atLeast, below⟩ | rfl | rfl | rfl | rfl
  · exact Char.ofNat_toNat character ▸ letters character.toNat below atLeast
  all_goals decide +kernel

/-- A text with the lower-case form of a word does not begin with a hyphen. -/
theorem head?_ne_hyphen_of_lower_eq
    {first : Char}
    {rest text : Text}
    (variant : isLetterVariant first = true)
    (same : lower (first :: rest) = lower text) :
    text.head? ≠ some '-' := by
  intro hyphen
  rcases List.head?_eq_some_iff.1 hyphen with ⟨after, rfl⟩
  have begins : (lower ('-' :: after)).head? = some '-' := by
    have kept : lowerLetter '-' = '-' := by decide +kernel
    simp [lower, lowerFrom, kept]
  rw [← same, lower, lowerFrom] at begins
  split at begins
  · split at begins <;> simp at begins
  · split at begins
    · simp at begins
    · simp [lowerLetter_ne_hyphen variant] at begins

end ProcedureAudit.Text
