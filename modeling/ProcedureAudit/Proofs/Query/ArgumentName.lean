import ProcedureAudit.Proofs.Query.Confined

/-!
# Names of arguments

How an argument is named, on its own: `in` and capitalised words, or a word of small letters,
capitalised words and `Arg`.  An argument begins at a delimiter exactly if such a name stands
after it, perhaps with a back-tick between them.  Whatever follows the name does not matter.
-/

namespace ProcedureAudit.Query

open ProcedureAudit.Routine (dropBacktick)

/-! ## Capitalised words -/

/-- A capital letter with one or more letters after it. -/
def IsCapitalisedWord (word : Text) : Prop :=
  ∃ first rest, word = first :: rest ∧ Text.isCapital first = true ∧ rest ≠ [] ∧
    ∀ character ∈ rest, Text.isLetter character = true

theorem isLetter_of_isCapital {character : Char} (capital : Text.isCapital character = true) :
    Text.isLetter character = true := by
  rw [Text.isLetter, capital, Bool.true_or]

theorem IsCapitalisedWord.letters {word : Text} (capitalised : IsCapitalisedWord word) :
    ∀ character ∈ word, Text.isLetter character = true := by
  rcases capitalised with ⟨first, rest, rfl, capital, -, letters⟩
  exact List.forall_mem_cons.2 ⟨isLetter_of_isCapital capital, letters⟩

theorem IsCapitalisedWord.append
    {word tail : Text}
    (capitalised : IsCapitalisedWord word)
    (letters : ∀ character ∈ tail, Text.isLetter character = true) :
    IsCapitalisedWord (word ++ tail) := by
  rcases capitalised with ⟨first, rest, rfl, capital, nonempty, restLetters⟩
  exact ⟨first, rest ++ tail, rfl, capital, List.append_ne_nil_of_left_ne_nil nonempty tail,
    List.forall_mem_append.2 ⟨restLetters, letters⟩⟩

/-- Several capitalised words written together are one. -/
theorem exists_flatten_eq_iff {text : Text} :
    (∃ words : List Text, words ≠ [] ∧ (∀ word ∈ words, IsCapitalisedWord word) ∧
      words.flatten = text) ↔ IsCapitalisedWord text := by
  constructor
  · rintro ⟨words, nonempty, capitalised, rfl⟩
    cases words with
    | nil => contradiction
    | cons word words =>
        rcases List.forall_mem_cons.1 capitalised with ⟨first, later⟩
        refine first.append ?_
        intro character member
        rcases List.mem_flatten.1 member with ⟨other, otherMember, within⟩
        exact (later other otherMember).letters character within
  · intro capitalised
    exact ⟨[text], List.cons_ne_nil text [], List.forall_mem_singleton.2 capitalised,
      List.flatten_singleton⟩

/-! ## The two kinds of names -/

/-- A name marked by `in`, as it is written. -/
def IsLeadingName (written : Text) : Prop :=
  ∃ words : List Text, words ≠ [] ∧ (∀ word ∈ words, IsCapitalisedWord word) ∧
    written = "in".toList ++ words.flatten

/-- A name marked by `Arg`, as it is written. -/
def IsTrailingName (written : Text) : Prop :=
  ∃ (small : Text) (words : List Text),
    small ≠ [] ∧ (∀ character ∈ small, Text.isSmall character = true) ∧
    (∀ word ∈ words, IsCapitalisedWord word) ∧
    written = small ++ (words.flatten ++ "Arg".toList)

theorem isLeadingName_iff {written : Text} :
    IsLeadingName written ↔ ∃ name, IsCapitalisedWord name ∧ written = "in".toList ++ name := by
  constructor
  · rintro ⟨words, nonempty, capitalised, rfl⟩
    exact ⟨words.flatten, exists_flatten_eq_iff.1 ⟨words, nonempty, capitalised, rfl⟩, rfl⟩
  · rintro ⟨name, capitalised, rfl⟩
    rcases exists_flatten_eq_iff.2 capitalised with ⟨words, nonempty, each, rfl⟩
    exact ⟨words, nonempty, each, rfl⟩

theorem camelCase_iff {small words : Text} :
    CamelCase small words ↔
      small ≠ [] ∧ (∀ character ∈ small, Text.isSmall character = true) ∧
        (words = [] ∨ IsCapitalisedWord words) := by
  constructor
  · intro camelCase
    refine ⟨camelCase.nonempty, camelCase.small, ?_⟩
    cases words with
    | nil => exact Or.inl rfl
    | cons first rest =>
        have long : rest ≠ [] := by
          rintro rfl
          exact camelCase.long rfl
        rcases List.forall_mem_cons.1 camelCase.letters with ⟨-, letters⟩
        exact Or.inr ⟨first, rest, rfl, camelCase.capitalised first rfl, long, letters⟩
  · rintro ⟨nonempty, isSmall, rfl | capitalised⟩
    · exact ⟨nonempty, isSmall, List.forall_mem_nil _, by simp, by simp⟩
    · refine ⟨nonempty, isSmall, capitalised.letters, ?_, ?_⟩
      · rcases capitalised with ⟨first, rest, rfl, capital, -⟩
        rintro character same
        rwa [← Option.some.inj same]
      · rcases capitalised with ⟨first, rest, rfl, -, long, -⟩
        simpa using long

theorem isTrailingName_iff {written : Text} :
    IsTrailingName written ↔
      ∃ small words, CamelCase small words ∧ written = small ++ (words ++ "Arg".toList) := by
  constructor
  · rintro ⟨small, words, nonempty, isSmall, capitalised, rfl⟩
    refine ⟨small, words.flatten, camelCase_iff.2 ⟨nonempty, isSmall, ?_⟩, rfl⟩
    by_cases none : words = []
    · exact Or.inl (by rw [none, List.flatten_nil])
    · exact Or.inr (exists_flatten_eq_iff.1 ⟨words, none, capitalised, rfl⟩)
  · rintro ⟨small, words, camelCase, rfl⟩
    rcases camelCase_iff.1 camelCase with ⟨nonempty, isSmall, rfl | capitalised⟩
    · exact ⟨small, [], nonempty, isSmall, List.forall_mem_nil _, rfl⟩
    · rcases exists_flatten_eq_iff.2 capitalised with ⟨parts, -, each, rfl⟩
      exact ⟨small, parts, nonempty, isSmall, each, rfl⟩

/-! ## Where an argument begins -/

/-- A back-tick or nothing. -/
def IsTick (tick : Text) : Prop :=
  tick = [] ∨ tick = ['\x60']

/-- After a delimiter, the text begins with a name, perhaps after a back-tick. -/
def BeginsArgument (IsName : Text → Prop) (delimiter : Char) (text : Text) : Prop :=
  isDelimiter delimiter = true ∧
    ∃ tick written rest, IsTick tick ∧ IsName written ∧ text = tick ++ (written ++ rest)

/-- An argument of the form begins exactly where a name with the property stands. -/
def PlaceholderForm.Named (form : PlaceholderForm) (IsName : Text → Prop) : Prop :=
  ∀ delimiter text,
    (∃ found, form.recognise? (delimiter :: text) = some found) ↔
      BeginsArgument IsName delimiter text

theorem PlaceholderForm.Named.recognise?_eq_none_iff
    {form : PlaceholderForm}
    {IsName : Text → Prop}
    (named : form.Named IsName)
    {delimiter : Char}
    {text : Text} :
    form.recognise? (delimiter :: text) = none ↔ ¬ BeginsArgument IsName delimiter text := by
  rw [← named delimiter text, ← Option.isSome_iff_exists, Option.not_isSome_iff_eq_none]

theorem afterTick_append
    {tick rest : Text}
    (ticked : IsTick tick)
    (unticked : rest.head? ≠ some '\x60') :
    AfterTick (tick ++ rest) rest := by
  rcases ticked with rfl | rfl
  · exact Or.inr ⟨rfl, unticked⟩
  · exact Or.inl rfl

theorem AfterTick.exists_tick {text rest : Text} (after : AfterTick text rest) :
    ∃ tick, IsTick tick ∧ text = tick ++ rest := by
  rcases after with rfl | ⟨rfl, -⟩
  · exact ⟨['\x60'], Or.inr rfl, rfl⟩
  · exact ⟨[], Or.inl rfl, rfl⟩

theorem named_leading : PlaceholderForm.leading.Named IsLeadingName := by
  intro delimiter text
  constructor
  · rintro ⟨found, recognised⟩
    rcases recognise?_leading_iff.1 recognised with
      ⟨delimited, letters, ⟨first, second, more, named, capital⟩, body, tail, same, opening, -, -⟩
    obtain ⟨rfl, rfl⟩ := List.cons.inj same
    rcases opening.exists_tick with ⟨tick, ticked, split⟩
    have name : IsCapitalisedWord found.name := by
      rw [named] at letters ⊢
      exact ⟨first, second :: more, rfl, capital, List.cons_ne_nil second more,
        (List.forall_mem_cons.1 letters).2⟩
    refine ⟨delimited, tick, "in".toList ++ found.name, tail, ticked,
      isLeadingName_iff.2 ⟨_, name, rfl⟩, ?_⟩
    rw [split, List.append_assoc]
  · rintro ⟨delimited, tick, written, rest, ticked, isName, rfl⟩
    rcases isLeadingName_iff.1 isName with ⟨name, capitalised, rfl⟩
    -- The argument goes on for as long as there are letters.
    let longest := name ++ rest.takeWhile Text.isLetter
    have longestCapitalised : IsCapitalisedWord longest :=
      capitalised.append fun _ => List.mem_takeWhile_imp
    have split : "in".toList ++ name ++ rest = "in".toList ++ (longest ++ afterLetters rest) := by
      rw [List.append_assoc, List.append_assoc, afterLetters, List.takeWhile_append_dropWhile]
    refine ⟨⟨delimiter, longest, dropBacktick (afterLetters rest)⟩, recognise?_leading_iff.2
      ⟨delimited, longestCapitalised.letters, ?_, _, afterLetters rest, rfl, ?_, ?_,
        dropBacktick_eq_iff.1 rfl⟩⟩
    · rcases longestCapitalised with ⟨first, more, same, capital, nonempty, -⟩
      cases more with
      | nil => contradiction
      | cons second more => exact ⟨first, second, more, same, capital⟩
    · rw [split]
      exact afterTick_append ticked (by simp)
    · intro character next
      have stops := List.head?_dropWhile_not Text.isLetter rest
      rw [afterLetters, Option.mem_def] at next
      simpa only [next] using stops

theorem named_trailing : PlaceholderForm.trailing.Named IsTrailingName := by
  intro delimiter text
  constructor
  · rintro ⟨found, recognised⟩
    rcases recognise?_trailing_iff.1 recognised with
      ⟨delimited, body, content, tail, same, opening, ⟨⟨small, words, named, camelCase⟩, split⟩, -⟩
    obtain ⟨rfl, rfl⟩ := List.cons.inj same
    rcases opening.exists_tick with ⟨tick, ticked, rfl⟩
    refine ⟨delimited, tick, small ++ (words ++ "Arg".toList), tail, ticked,
      isTrailingName_iff.2 ⟨small, words, camelCase, rfl⟩, ?_⟩
    rw [split, named]
    simp only [List.append_assoc]
  · rintro ⟨delimited, tick, written, rest, ticked, isName, rfl⟩
    rcases isTrailingName_iff.1 isName with ⟨small, words, camelCase, rfl⟩
    have marked : Marked (small ++ (words ++ "Arg".toList) ++ rest) (small ++ words) rest :=
      ⟨⟨small, words, rfl, camelCase⟩, by simp only [List.append_assoc]⟩
    have content : dropBacktick (tick ++ (small ++ (words ++ "Arg".toList) ++ rest)) =
        small ++ (words ++ "Arg".toList) ++ rest := by
      refine dropBacktick_eq_iff.2 (afterTick_append ticked ?_)
      cases small with
      | nil => exact (camelCase.nonempty rfl).elim
      | cons first small =>
          have letter := camelCase.small first (List.mem_cons_self ..)
          rintro same
          rw [Option.some.inj same] at letter
          contradiction
    rcases marked_iff.1 marked with ⟨nonempty, place, closes, -⟩
    rcases Closes.exists_closingPlace? closes with ⟨last, closing⟩
    have form : PlaceholderForm.trailing.recognise? = trailingForm? := rfl
    rw [← Option.isSome_iff_exists, form, trailingForm?_cons, content,
      if_pos ⟨delimited, nonempty⟩, closing]
    rfl

end ProcedureAudit.Query
