import ProcedureAudit.Proofs.Query.Settled
import ProcedureAudit.Proofs.Query.WholeName
import ProcedureAudit.Proofs.Text.Respelling

/-!
# One argument in two forms

The name of an argument is a word of small letters and capitalised words after it.  It is marked
either by `in`, with its first letter capitalised, or by `Arg` at its end, and both spellings are
filled in alike.  Words of the name may look like a mark themselves: the form marked by `in` is
read as far as there are letters, and the form marked by `Arg` ends at the last mark.
-/

namespace ProcedureAudit.Query

/-! ## Names in words -/

/-- The words of a name in camel case; a first word `in` would be read as a mark. -/
structure ArgumentWords where
  first : Text
  others : List Text
  small : ∀ character ∈ first, Text.isSmall character = true
  long : 2 ≤ first.length
  unmarked : first ≠ "in".toList
  capitalised : ∀ word ∈ others, IsCapitalisedWord word

namespace ArgumentWords

variable (argument : ArgumentWords)

def name : Text :=
  argument.first ++ argument.others.flatten

def capitalisedName : Text :=
  argument.name.modifyHead Text.capitalLetter

/-- The argument as it is written with the mark `in`. -/
def leading : Text :=
  "in".toList ++ argument.capitalisedName

/-- The argument as it is written with the mark `Arg`. -/
def trailing : Text :=
  argument.name ++ "Arg".toList

theorem camelCase : CamelCase argument.first argument.others.flatten := by
  rw [camelCase_iff]
  refine ⟨?_, argument.small, ?_⟩
  · intro empty
    have long := argument.long
    rw [empty] at long
    exact absurd long (by simp)
  · by_cases single : argument.others = []
    · exact Or.inl (by rw [single, List.flatten_nil])
    · exact Or.inr (exists_flatten_eq_iff.1 ⟨_, single, argument.capitalised, rfl⟩)

theorem name_letters : ∀ character ∈ argument.name, Text.isLetter character = true := by
  refine List.forall_mem_append.2 ⟨?_, argument.camelCase.letters⟩
  exact fun character member => isLetter_of_isSmall (argument.small character member)

theorem capitalisedName_isCapitalisedWord : IsCapitalisedWord argument.capitalisedName := by
  rcases argument with ⟨_ | ⟨initial, _ | ⟨second, more⟩⟩, others, small, long, unmarked, capitals⟩
  · exact absurd long (by simp)
  · exact absurd long (by simp)
  · let whole : ArgumentWords := ⟨initial :: second :: more, others, small, long, unmarked, capitals⟩
    rcases List.forall_mem_cons.1 whole.name_letters with ⟨initialLetter, letters⟩
    exact ⟨Text.capitalLetter initial, second :: more ++ others.flatten, rfl,
      Text.isCapital_capitalLetter initialLetter, List.cons_ne_nil second _, letters⟩

theorem trailing_letters : ∀ character ∈ argument.trailing, Text.isLetter character = true :=
  List.forall_mem_append.2 ⟨argument.name_letters, isLetter_of_mem_arg⟩

theorem trailing_ne_nil : argument.trailing ≠ [] :=
  List.append_ne_nil_of_right_ne_nil argument.name (by decide)

/-- After `in` at the beginning of the name there is a small letter. -/
theorem not_leadingName_isPrefix
    {written : Text}
    (isName : IsLeadingName written) :
    ¬ written <+: argument.trailing := by
  rcases isLeadingName_iff.1 isName with ⟨word, ⟨initial, rest, rfl, capital, -, -⟩, rfl⟩
  rcases argument with ⟨_ | ⟨one, _ | ⟨two, _ | ⟨three, more⟩⟩⟩, others, small, long, unmarked, -⟩
  · exact absurd long (by simp)
  · exact absurd long (by simp)
  · rintro ⟨after, split⟩
    obtain ⟨rfl, rfl, -⟩ : 'i' = one ∧ 'n' = two ∧ _ := by simpa [trailing, name] using split
    exact unmarked rfl
  · rintro ⟨after, split⟩
    obtain ⟨-, -, rfl, -⟩ : 'i' = one ∧ 'n' = two ∧ initial = three ∧ _ := by
      simpa [trailing, name] using split
    have third := small initial (by simp)
    rw [isSmall_eq_false_of_isCapital capital] at third
    contradiction

/-! ## Keys -/

theorem lower_name : Text.lower argument.name = argument.name.map Text.smallLetter := by
  have variant := Text.recases_smallLetter.caseVariant argument.name
  rw [variant.lower_eq]
  apply Text.lower_eq_self
  intro character member
  rcases List.mem_map.1 member with ⟨letter, letterMember, rfl⟩
  refine ⟨?_, Text.isCapital_smallLetter letter⟩
  have small := (Text.isLetter_smallLetter letter).trans (argument.name_letters letter letterMember)
  rw [Text.isLetter, Bool.or_eq_true, Text.isCapital_iff, Text.isSmall_iff] at small
  omega

/-- Neither the capital letters of the name nor its mark are part of the key. -/
theorem getD_eq_of_caseVariant
    {written : Text}
    (variant : Text.CaseVariant argument.name written)
    (registry : Registry)
    (fallback : Value) :
    registry.getD written fallback = registry.getD (Text.lower argument.name) fallback := by
  have small := Text.recases_smallLetter.caseVariant argument.name
  have key : Registry.key written = Registry.key (Text.lower argument.name) := by
    rw [argument.lower_name]
    exact (variant.symm.trans small).lower_eq
  rw [Registry.getD, Registry.get?, key]
  rfl

theorem caseVariant_capitalisedName :
    Text.CaseVariant argument.name argument.capitalisedName := by
  rw [capitalisedName]
  cases argument.name with
  | nil => exact .refl []
  | cons initial rest =>
      exact congrArg (· :: rest.map Text.smallLetter) (Text.recases_capitalLetter initial).symm

end ArgumentWords

/-! ## Where an argument stands -/

theorem head?_append_ne_tick
    {word : Text}
    (letters : ∀ character ∈ word, Text.isLetter character = true)
    (nonempty : word ≠ [])
    (tail : Text) :
    (word ++ tail).head? ≠ some '\x60' := by
  rw [List.head?_append_of_ne_nil word nonempty]
  intro ticked
  exact absurd (letters '\x60' (List.mem_of_head? ticked)) (by decide)

/-- A delimiter, back-ticks or none, and a text after them in which no argument begins. -/
structure ArgumentPlace where
  delimiter : Char
  opening : Text
  closing : Text
  rest : Text
  delimited : isDelimiter delimiter = true
  opened : IsTick opening
  closed : IsTick closing
  ended : ∀ character ∈ rest.head?, Text.isLetter character = false ∧ character ≠ '\x60'
  withoutLeading : ¬ HoldsArgument IsLeadingName rest
  withoutTrailing : ¬ HoldsArgument IsTrailingName rest

namespace ArgumentPlace

variable (place : ArgumentPlace)

def text (written : Text) : Text :=
  place.delimiter :: (place.opening ++ (written ++ (place.closing ++ place.rest)))

/-- The text after the value has taken the place of the argument. -/
def filled (value : Value) : Text :=
  place.delimiter :: (value.literal ++ place.rest)

theorem settled_leading : Settled .leading place.rest :=
  named_leading.settled_iff.2 place.withoutLeading

theorem settled_trailing : Settled .trailing place.rest :=
  named_trailing.settled_iff.2 place.withoutTrailing

theorem afterTick_rest : AfterTick (place.closing ++ place.rest) place.rest := by
  refine afterTick_append place.closed fun ticked => ?_
  exact (place.ended '\x60' ticked).2 rfl

theorem afterTick_written
    {written : Text}
    (letters : ∀ character ∈ written, Text.isLetter character = true)
    (nonempty : written ≠ [])
    (tail : Text) :
    AfterTick (place.opening ++ (written ++ tail)) (written ++ tail) :=
  afterTick_append place.opened (head?_append_ne_tick letters nonempty tail)

theorem stops :
    ∀ character ∈ (place.closing ++ place.rest).head?, Text.isLetter character = false := by
  intro character first
  rcases place.closed with bare | ticked
  · rw [bare] at first
    exact (place.ended character first).1
  · rw [ticked] at first
    obtain rfl : '\x60' = character := Option.some.inj first
    decide

/-- A pass that finds the argument in its place fills it in and leaves the rest. -/
theorem substituteForm_of_eq_some
    {form : PlaceholderForm}
    {text name : Text}
    (recognised : form.recognise? text = some ⟨place.delimiter, name, place.rest⟩)
    (settled : Settled form place.rest)
    (registry : Registry) :
    substituteForm form registry text = place.filled (registry.getD name .null) := by
  rw [Query.substituteForm_of_eq_some recognised, settled.substituteForm_eq]
  rfl

/-! ## The form marked by `in` -/

theorem recognise?_leading (argument : ArgumentWords) :
    PlaceholderForm.leading.recognise? (place.text argument.leading) =
      some ⟨place.delimiter, argument.capitalisedName, place.rest⟩ := by
  have isWord := argument.capitalisedName_isCapitalisedWord
  have letters : ∀ character ∈ argument.leading, Text.isLetter character = true :=
    List.forall_mem_append.2 ⟨isLetter_of_mem_in, isWord.letters⟩
  have opened := place.afterTick_written letters (List.append_ne_nil_of_left_ne_nil (by decide) _)
    (place.closing ++ place.rest)
  rw [recognise?_leading_iff]
  refine ⟨place.delimited, isWord.letters, ?_, _, place.closing ++ place.rest, rfl, ?_,
    place.stops, place.afterTick_rest⟩
  · rcases isWord with ⟨initial, rest, same, capital, nonempty, -⟩
    cases rest with
    | nil => contradiction
    | cons second more => exact ⟨initial, second, more, same, capital⟩
  · rwa [ArgumentWords.leading, List.append_assoc] at opened

/-- The rest would begin with a back-tick or with a letter of the name. -/
theorem not_beginsArgument_rest
    {IsName : Text → Prop}
    (isArgumentName : ∀ written, IsName written → IsArgumentName written) :
    ¬ BeginsArgument IsName place.delimiter place.rest := by
  rintro ⟨-, tick, written, after, ticked, isName, split⟩
  have isArgument := isArgumentName written isName
  rcases ticked with rfl | rfl
  · cases written with
    | nil => exact isArgument.ne_nil rfl
    | cons initial written =>
        have stopped := (place.ended initial (by rw [split]; rfl)).1
        rw [isArgument.letters initial (List.mem_cons_self ..)] at stopped
        contradiction
  · exact (place.ended '\x60' (by rw [split]; rfl)).2 rfl

/-- Neither an absent nor an inserted value begins an argument of the second pass. -/
theorem settled_filled {value : Value} (undelimited : IsUndelimited value) :
    Settled .trailing (place.filled value) := by
  by_cases absent : value = .null
  · have same : place.filled value = place.delimiter :: place.rest := by
      rw [absent]
      rfl
    rw [same, settled_cons_iff, named_trailing.recognise?_eq_none_iff]
    exact ⟨place.not_beginsArgument_rest fun _ => Or.inr, place.settled_trailing⟩
  · have inert := inert_delimiter_literal sparesLiterals_trailing absent undelimited place.delimiter
    exact inert.settled_append place.settled_trailing

/-! ## The form marked by `Arg` -/

/-- A name that begins where a word begins is a part of the word. -/
theorem exists_isPrefix_of_beginsArgument
    {IsName : Text → Prop}
    (isArgumentName : ∀ written, IsName written → IsArgumentName written)
    {word : Text}
    (letters : ∀ character ∈ word, Text.isLetter character = true)
    (nonempty : word ≠ [])
    (begins : BeginsArgument IsName place.delimiter
      (place.opening ++ (word ++ (place.closing ++ place.rest)))) :
    ∃ written, IsName written ∧ written <+: word := by
  rcases begins with ⟨-, tick, written, after, ticked, isName, split⟩
  have isArgument := isArgumentName written isName
  have opened := place.afterTick_written letters nonempty (place.closing ++ place.rest)
  have otherOpened := afterTick_append ticked
    (head?_append_ne_tick isArgument.letters isArgument.ne_nil after)
  have bare : word ++ (place.closing ++ place.rest) = written ++ after := by
    rw [split] at opened
    rw [← dropBacktick_eq_iff.2 opened, dropBacktick_eq_iff.2 otherOpened]
  -- The word has all the letters that the text begins with.
  have whole := congrArg (List.takeWhile Text.isLetter) bare
  rw [Text.takeWhile_append_of_head? letters place.stops,
    List.takeWhile_append_of_pos isArgument.letters] at whole
  exact ⟨written, isName, _, whole.symm⟩

theorem recognise?_leading_trailing (argument : ArgumentWords) :
    PlaceholderForm.leading.recognise? (place.text argument.trailing) = none := by
  rw [text, named_leading.recognise?_eq_none_iff]
  intro begins
  rcases place.exists_isPrefix_of_beginsArgument (fun _ => Or.inl) argument.trailing_letters
    argument.trailing_ne_nil begins with ⟨written, isName, within⟩
  exact argument.not_leadingName_isPrefix isName within

theorem recognise?_trailing (argument : ArgumentWords) :
    PlaceholderForm.trailing.recognise? (place.text argument.trailing) =
      some ⟨place.delimiter, argument.name, place.rest⟩ := by
  have opened := place.afterTick_written argument.trailing_letters argument.trailing_ne_nil
    (place.closing ++ place.rest)
  rw [recognise?_trailing_iff]
  refine ⟨place.delimited, _, _, place.closing ++ place.rest, rfl, opened,
    ⟨⟨_, _, rfl, argument.camelCase⟩, ?_⟩, ?_, place.afterTick_rest⟩
  · rw [ArgumentWords.trailing, List.append_assoc]
  · -- A name with its mark is made of letters, and the argument has all the letters there are.
    rintro other after ⟨⟨small, words, rfl, camelCase⟩, split⟩
    have isName : IsTrailingName (small ++ (words ++ "Arg".toList)) :=
      isTrailingName_iff.2 ⟨small, words, camelCase, rfl⟩
    have parts : argument.trailing ++ (place.closing ++ place.rest) =
        small ++ (words ++ "Arg".toList) ++ after := by
      rw [split]
      simp only [List.append_assoc]
    have word := congrArg (List.takeWhile Text.isLetter) parts
    rw [Text.takeWhile_append_of_head? argument.trailing_letters place.stops,
      List.takeWhile_append_of_pos isName.letters] at word
    have lengths := congrArg List.length word
    simp only [ArgumentWords.trailing, ArgumentWords.name, List.length_append] at lengths ⊢
    omega

theorem settled_text_trailing (argument : ArgumentWords) :
    Settled .leading (place.text argument.trailing) := by
  have ticks {tick : Text} (ticked : IsTick tick) :
      ∀ character ∈ tick, isDelimiter character = false := by
    rcases ticked with rfl | rfl
    · exact List.forall_mem_nil _
    · exact List.forall_mem_singleton.2 (by decide)
  have word (character : Char) (member : character ∈ argument.trailing) :
      isDelimiter character = false :=
    isDelimiter_eq_false_of_isIdentifierCharacter
      (isIdentifierCharacter_of_isLetter (argument.trailing_letters character member))
  have inert {part : Text} (undelimited : ∀ character ∈ part, isDelimiter character = false) :
      Inert .leading part :=
    inert_of_undelimited confined_leading undelimited
  rw [text, settled_cons_iff]
  refine ⟨place.recognise?_leading_trailing argument, ?_⟩
  apply (inert (ticks place.opened)).settled_append
  apply (inert word).settled_append
  exact (inert (ticks place.closed)).settled_append place.settled_leading

end ArgumentPlace

/-! ## Both forms -/

/--
An argument is filled in alike in both forms: the literal of the value for its lower-case name
takes its place, or nothing if there is no value, and the text after it stays.
-/
theorem substitutePlaceholders_either_form
    (argument : ArgumentWords)
    (place : ArgumentPlace)
    (registry : Registry)
    (undelimited : ∀ entry ∈ registry.entries, IsUndelimited entry.2) :
    substitutePlaceholders (place.text argument.leading) registry =
        place.filled (registry.getD (Text.lower argument.name) .null) ∧
      substitutePlaceholders (place.text argument.trailing) registry =
        place.filled (registry.getD (Text.lower argument.name) .null) := by
  constructor
  · have first := place.substituteForm_of_eq_some (place.recognise?_leading argument)
      place.settled_leading registry
    rw [argument.getD_eq_of_caseVariant argument.caseVariant_capitalisedName] at first
    have absent : IsUndelimited .null := trivial
    have value := Registry.getD_of_forall_entries undelimited absent (Text.lower argument.name)
    rw [substitutePlaceholders, first, (place.settled_filled value).substituteForm_eq]
  · have second := place.substituteForm_of_eq_some (place.recognise?_trailing argument)
      place.settled_trailing registry
    rw [argument.getD_eq_of_caseVariant (.refl argument.name)] at second
    rw [substitutePlaceholders, (place.settled_text_trailing argument).substituteForm_eq registry,
      second]

/-- A name whose words are the marks. -/
def markedWords : ArgumentWords where
  first := "uid".toList
  others := ["Arg".toList, "In".toList]
  small := List.all_eq_true.1 (by decide)
  long := by decide
  unmarked := by decide
  capitalised := by
    refine List.forall_mem_cons.2 ⟨?_, List.forall_mem_singleton.2 ?_⟩
    · exact ⟨'A', ['r', 'g'], rfl, by decide, by decide, List.all_eq_true.1 (by decide)⟩
    · exact ⟨'I', ['n'], rfl, by decide, by decide, List.all_eq_true.1 (by decide)⟩

def tickedPlace : ArgumentPlace where
  delimiter := '('
  opening := ['\x60']
  closing := ['\x60']
  rest := ", inside)".toList
  delimited := by decide
  opened := Or.inr rfl
  closed := Or.inr rfl
  ended := by
    intro character first
    obtain rfl : ',' = character := Option.some.inj first
    decide
  withoutLeading := named_leading.settled_iff.1 (settled_iff_pieces_eq.2 (by decide +kernel))
  withoutTrailing := named_trailing.settled_iff.1 (settled_iff_pieces_eq.2 (by decide +kernel))

def markedRegistry : Registry :=
  .ofList [("uidArgIn".toList, .text "inAt".toList)]

theorem substitutePlaceholders_either_form_markedWords :
    (∀ entry ∈ markedRegistry.entries, IsUndelimited entry.2) ∧
      substitutePlaceholders "(\x60inUidArgIn\x60, inside)".toList markedRegistry =
        "(\"inAt\", inside)".toList ∧
      substitutePlaceholders "(\x60uidArgInArg\x60, inside)".toList markedRegistry =
        "(\"inAt\", inside)".toList := by
  have undelimited : ∀ entry ∈ markedRegistry.entries, IsUndelimited entry.2 := by
    have entries : markedRegistry.entries = [("uidargin".toList, .text "inAt".toList)] := by
      decide +kernel
    rw [entries]
    exact List.forall_mem_singleton.2 (by simp [IsUndelimited])
  have value : markedRegistry.getD (Text.lower markedWords.name) .null = .text "inAt".toList := by
    decide +kernel
  have equal := substitutePlaceholders_either_form markedWords tickedPlace markedRegistry undelimited
  rw [value] at equal
  exact ⟨undelimited, equal⟩

end ProcedureAudit.Query
