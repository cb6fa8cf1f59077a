import ProcedureAudit.Text.LetterCase

/-!
# Laws of case-blind recognition

Recognising a keyword in any letter case is comparing folded texts: a keyword is dropped from a
text whose folded form begins with it, it is mentioned where it occurs in the folded form, and a
line is the keyword if its folded form is.
-/

namespace ProcedureAudit.Text

@[simp]
theorem fold_nil : fold [] = [] :=
  rfl

@[simp]
theorem fold_cons (character : Char) (text : Text) :
    fold (character :: text) = foldLetter character :: fold text :=
  rfl

@[simp]
theorem fold_append (left right : Text) :
    fold (left ++ right) = fold left ++ fold right :=
  List.map_append

theorem dropKeyword?_eq_some_iff {keyword text rest : Text} :
    dropKeyword? keyword text = some rest ↔
      ∃ opening, fold opening = keyword ∧ text = opening ++ rest := by
  induction keyword generalizing text with
  | nil =>
      simp [dropKeyword?, fold]
  | cons wanted keyword induction =>
      cases text with
      | nil =>
          simp only [dropKeyword?, reduceCtorEq, false_iff]
          rintro ⟨opening, folded, split⟩
          have empty := (List.append_eq_nil_iff.1 split.symm).1
          simp [empty] at folded
      | cons character text =>
          simp only [dropKeyword?]
          constructor
          · intro dropped
            split at dropped
            · rename_i same
              rcases induction.1 dropped with ⟨opening, folded, rfl⟩
              exact ⟨character :: opening, by simp [same, folded], rfl⟩
            · contradiction
          · rintro ⟨opening, folded, split⟩
            cases opening with
            | nil => simp at folded
            | cons first opening =>
                simp only [fold_cons, List.cons.injEq] at folded
                simp only [List.cons_append, List.cons.injEq] at split
                rw [split.1, if_pos folded.1]
                exact induction.2 ⟨opening, folded.2, split.2⟩

/-- A text begins with a case variant of the first letter of each keyword that it begins with. -/
theorem head?_of_dropKeyword?
    {first : Char}
    {keyword text rest : Text}
    (dropped : dropKeyword? (first :: keyword) text = some rest) :
    text.head?.map foldLetter = some first := by
  rcases dropKeyword?_eq_some_iff.1 dropped with ⟨opening, folded, rfl⟩
  cases opening with
  | nil => contradiction
  | cons character opening => exact congrArg some (List.cons.inj folded).1

/-- A keyword that a character cannot continue is dropped from the text before the character. -/
theorem dropKeyword?_append_stop
    {keyword : Text}
    {stop : Char}
    (stops : foldLetter stop ∉ keyword)
    (before after : Text) :
    dropKeyword? keyword (before ++ stop :: after) =
      (dropKeyword? keyword before).map (· ++ stop :: after) := by
  induction keyword generalizing before with
  | nil => simp [dropKeyword?]
  | cons wanted keyword induction =>
      simp only [List.mem_cons, not_or] at stops
      cases before with
      | nil => simp [dropKeyword?, stops.1]
      | cons character before =>
          simp only [List.cons_append, dropKeyword?]
          split
          · exact induction stops.2 before
          · rfl

theorem isSome_dropKeyword?_iff {keyword text : Text} :
    (dropKeyword? keyword text).isSome = true ↔ keyword <+: fold text := by
  rw [Option.isSome_iff_exists]
  constructor
  · rintro ⟨rest, dropped⟩
    rcases dropKeyword?_eq_some_iff.1 dropped with ⟨opening, folded, rfl⟩
    exact ⟨fold rest, by simp [folded]⟩
  · rintro ⟨after, folded⟩
    rcases List.map_eq_append_iff.1 folded.symm with ⟨opening, rest, rfl, opened, -⟩
    exact ⟨rest, dropKeyword?_eq_some_iff.2 ⟨opening, opened, rfl⟩⟩

theorem mentions_iff {keyword text : Text} :
    mentions keyword text = true ↔ keyword <:+: fold text := by
  induction text with
  | nil =>
      simp [mentions]
  | cons character rest induction =>
      rw [mentions, Bool.or_eq_true, isSome_dropKeyword?_iff, induction, fold_cons,
        List.infix_cons_iff]

theorem isCapital_iff {character : Char} :
    isCapital character = true ↔ 65 ≤ character.toNat ∧ character.toNat ≤ 90 := by
  simp only [isCapital, Bool.and_eq_true, decide_eq_true_eq]
  exact Iff.rfl

theorem isSmall_iff {character : Char} :
    isSmall character = true ↔ 97 ≤ character.toNat ∧ character.toNat ≤ 122 := by
  simp only [isSmall, Bool.and_eq_true, decide_eq_true_eq]
  exact Iff.rfl

/-- ASCII text without capitals is its own lower-case form. -/
theorem lower_eq_self
    {text : Text}
    (ascii : ∀ character ∈ text, character.toNat < 128 ∧ isCapital character = false) :
    lower text = text := by
  have unchanged : ∀ code < 128, isCapital (Char.ofNat code) = false →
      lowerLetter (Char.ofNat code) = Char.ofNat code := by
    decide +kernel
  have lowered (inWord : Bool) : lowerFrom inWord text = text := by
    induction text generalizing inWord with
    | nil => rfl
    | cons character rest induction =>
        rcases List.forall_mem_cons.1 ascii with ⟨⟨below, small⟩, later⟩
        have notSigma : character ≠ 'Σ' := by
          rintro rfl
          contradiction
        have notDotted : character ≠ 'İ' := by
          rintro rfl
          contradiction
        have kept : lowerLetter character = character := by
          rw [← Char.ofNat_toNat character] at small ⊢
          exact unchanged _ below small
        rw [lowerFrom, if_neg notSigma, if_neg notDotted, kept, induction later]
  exact lowered false

/-- The dotted capital i is the only character whose lower-case form is longer. -/
theorem length_lower (text : Text) :
    (lower text).length = text.length + text.count 'İ' := by
  have each (inWord : Bool) : (lowerFrom inWord text).length = text.length + text.count 'İ' := by
    induction text generalizing inWord with
    | nil => rfl
    | cons character rest induction =>
        rw [lowerFrom, List.count_cons]
        split
        · rename_i sigma
          simp [induction, sigma]
          omega
        · split
          · rename_i dotted
            simp [induction, dotted]
            omega
          · rename_i other
            simp [induction, other]
            omega
  exact each false

/-- Two beginnings of one text differ in their lower-case forms. -/
theorem eq_of_lower_eq_of_isPrefix
    {first second text : Text}
    (same : lower first = lower second)
    (begins : first <+: text)
    (otherBegins : second <+: text) :
    first = second := by
  have shorter {shorter longer : Text} (same : lower shorter = lower longer)
      (within : shorter <+: longer) : shorter = longer := by
    rcases within with ⟨more, rfl⟩
    have lengths := congrArg List.length same
    rw [length_lower, length_lower, List.length_append, List.count_append] at lengths
    have empty : more = [] := List.length_eq_zero_iff.1 (by omega)
    rw [empty, List.append_nil]
  rcases List.prefix_or_prefix_of_prefix begins otherBegins with within | within
  · exact shorter same within
  · exact (shorter same.symm within).symm

/-- No blank lies between the space and the end of ASCII. -/
theorem toNat_of_isBlank {character : Char} (blank : isBlank character = true) :
    character.toNat ≤ 0x20 ∨ 0x85 ≤ character.toNat := by
  simp only [isBlank, Bool.or_eq_true, Bool.and_eq_true, decide_eq_true_eq, beq_iff_eq] at blank
  omega

/-- Blanks are no case variants of letters. -/
theorem foldLetter_of_isBlank
    {character : Char}
    (blank : isBlank character = true) :
    foldLetter character = character := by
  have notCapital : isCapital character = false := by
    rw [Bool.eq_false_iff]
    intro capital
    have code := isCapital_iff.1 capital
    have gap := toNat_of_isBlank blank
    omega
  have differs (letter : Char) (solid : isBlank letter = false) : character ≠ letter := by
    rintro rfl
    rw [blank] at solid
    contradiction
  have notLongS := differs 'ſ' (by decide)
  have notKelvin := differs '\u212A' (by decide)
  have notDotted := differs 'İ' (by decide)
  have notDotless := differs 'ı' (by decide)
  simp [foldLetter, notCapital, notLongS, notKelvin, notDotted, notDotless]

theorem foldLetter_eq_lineFeed_iff {character : Char} :
    foldLetter character = '\n' ↔ character = '\n' := by
  constructor
  · intro folded
    unfold foldLetter at folded
    split at folded
    · rename_i capital
      have code := isCapital_iff.1 capital
      have apart : ∀ code < 91, 65 ≤ code → Char.ofNat (code + 32) ≠ '\n' := by decide
      exact (apart character.toNat (by omega) code.1 folded).elim
    · split at folded
      · contradiction
      · split at folded
        · contradiction
        · split at folded
          · contradiction
          · exact folded
  · rintro rfl
    rfl

theorem fold_eq_lineFeed_iff {text : Text} :
    fold text = ['\n'] ↔ text = ['\n'] := by
  cases text with
  | nil => simp
  | cons character rest =>
      simp [foldLetter_eq_lineFeed_iff, fold]

/-- A line is a keyword if its folded form is, one line end after it being allowed. -/
theorem isKeywordLine_iff {keyword text : Text} :
    isKeywordLine keyword text = true ↔
      fold text = keyword ∨ fold text = keyword ++ ['\n'] := by
  have dropped (rest : Text) :
      dropKeyword? keyword text = some rest ↔
        ∃ opening, fold opening = keyword ∧ text = opening ++ rest :=
    dropKeyword?_eq_some_iff
  constructor
  · intro recognised
    unfold isKeywordLine at recognised
    split at recognised
    · rename_i found
      rcases (dropped []).1 found with ⟨opening, folded, rfl⟩
      exact Or.inl (by simp [folded])
    · rename_i found
      rcases (dropped ['\n']).1 found with ⟨opening, folded, rfl⟩
      exact Or.inr (by simp [folded, foldLetter_eq_lineFeed_iff.2])
    · contradiction
  · rintro (folded | folded)
    · have found := (dropped []).2 ⟨text, folded, by simp⟩
      simp [isKeywordLine, found]
    · rcases List.map_eq_append_iff.1 folded with ⟨opening, ending, rfl, opened, ended⟩
      have lineEnd := fold_eq_lineFeed_iff.1 ended
      have found := (dropped ['\n']).2 ⟨opening, opened, by rw [lineEnd]⟩
      simp [isKeywordLine, found]

end ProcedureAudit.Text
