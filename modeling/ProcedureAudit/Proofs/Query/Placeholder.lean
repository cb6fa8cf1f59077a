import Mathlib.Data.List.Basic
import ProcedureAudit.Proofs.Routine.Line
import ProcedureAudit.Query.Placeholder

/-!
# How arguments are written

Arguments of both forms are described by how they are written, without a word on how they are
searched for.  After a delimiter and perhaps a back-tick, `inXxx` is `in` and a capitalised name
that cannot be read further, and `xxxArg` is the longest name in camel case that has `Arg` after
it; a back-tick after the argument belongs to it.
-/

namespace ProcedureAudit.Query

open ProcedureAudit.Routine (dropBacktick)

/-! ## Back-ticks -/

/-- What follows the back-tick at the beginning of a text, or the text if there is none. -/
def AfterTick (text rest : Text) : Prop :=
  text = '\x60' :: rest ∨ text = rest ∧ rest.head? ≠ some '\x60'

theorem dropBacktick_eq_iff {text rest : Text} :
    dropBacktick text = rest ↔ AfterTick text rest := by
  unfold dropBacktick AfterTick
  split
  · rename_i after
    constructor
    · rintro rfl
      exact Or.inl rfl
    · rintro (same | ⟨rfl, different⟩)
      · exact (List.cons.inj same).2
      · exact (different rfl).elim
  · rename_i unticked
    constructor
    · rintro rfl
      refine Or.inr ⟨rfl, fun ticked => ?_⟩
      rcases List.head?_eq_some_iff.1 ticked with ⟨after, split⟩
      exact unticked after split
    · rintro (ticked | ⟨rfl, -⟩)
      · exact (unticked rest ticked).elim
      · rfl

theorem AfterTick.suffix {text rest : Text} (after : AfterTick text rest) :
    rest <:+ text := by
  rcases after with rfl | ⟨rfl, -⟩
  · exact List.suffix_cons ..
  · exact List.suffix_rfl

/-! ## Arguments marked by `in` -/

/--
The text begins with an argument `inXxx` that cannot be read further: after the delimiter there
are a back-tick or none, `in`, two letters or more of which the first is a capital, and a back-tick
or none.
-/
structure LeadingAt (text : Text) (found : Placeholder) : Prop where
  delimited : isDelimiter found.delimiter = true
  letters : ∀ character ∈ found.name, Text.isLetter character = true
  capitalised : ∃ first second more, found.name = first :: second :: more ∧
    Text.isCapital first = true
  written : ∃ body tail, text = found.delimiter :: body ∧
    AfterTick body ("in".toList ++ (found.name ++ tail)) ∧
    (∀ character ∈ tail.head?, Text.isLetter character = false) ∧
    AfterTick tail found.rest

theorem LeadingAt.suffix {text : Text} {found : Placeholder} (recognised : LeadingAt text found) :
    found.rest <:+ text := by
  rcases recognised.written with ⟨body, tail, rfl, opening, -, closing⟩
  have name : tail <:+ "in".toList ++ (found.name ++ tail) :=
    (List.suffix_append ..).trans (List.suffix_append ..)
  exact ((closing.suffix.trans name).trans opening.suffix).trans (List.suffix_cons ..)

theorem leadingForm?_eq_some_iff {text : Text} {found : Placeholder} :
    leadingForm? text = some found ↔ LeadingAt text found := by
  constructor
  · intro recognised
    cases text with
    | nil => simp [leadingForm?] at recognised
    | cons delimiter body =>
        rw [leadingForm?] at recognised
        split at recognised
        · contradiction
        · rename_i delimited
          split at recognised
          · contradiction
          · rename_i rest opened
            split at recognised
            · rename_i first second more name
              split at recognised
              · rename_i capital
                obtain rfl := Option.some.inj recognised
                rw [Text.dropOpening?_eq_some_iff] at opened
                have parts : (first :: second :: more) ++ afterLetters rest = rest := by
                  rw [← name]
                  exact List.takeWhile_append_dropWhile
                refine ⟨by simpa using delimited, ?_, ⟨first, second, more, rfl, capital⟩,
                  body, afterLetters rest, rfl, ?_, ?_, dropBacktick_eq_iff.1 rfl⟩
                · intro character member
                  exact List.mem_takeWhile_imp (name ▸ member)
                · rw [parts]
                  exact dropBacktick_eq_iff.1 opened
                · intro character next
                  have stops := List.head?_dropWhile_not Text.isLetter rest
                  rw [afterLetters, Option.mem_def] at next
                  simpa only [next] using stops
              · contradiction
            · contradiction
  · rintro ⟨delimited, letters, ⟨first, second, more, name, capital⟩,
      body, tail, rfl, opening, stops, closing⟩
    have opened :
        Text.dropOpening? "in".toList (dropBacktick body) = some (found.name ++ tail) := by
      rw [dropBacktick_eq_iff.2 opening, Text.dropOpening?_eq_some_iff]
    have word : (found.name ++ tail).takeWhile Text.isLetter = first :: second :: more := by
      rw [Text.takeWhile_append_of_head? letters stops, name]
    have after : afterLetters (found.name ++ tail) = tail :=
      Text.dropWhile_append_of_head? letters stops
    rw [leadingForm?, if_neg (by simp [delimited]), opened]
    dsimp only
    rw [word, after, dropBacktick_eq_iff.2 closing]
    dsimp only
    rw [if_pos capital, ← name]

/-! ## Names in camel case -/

/-- Small letters, and then no word or capitalised ones; a capitalised word has two letters. -/
structure CamelCase (small words : Text) : Prop where
  nonempty : small ≠ []
  small : ∀ character ∈ small, Text.isSmall character = true
  letters : ∀ character ∈ words, Text.isLetter character = true
  capitalised : ∀ first ∈ words.head?, Text.isCapital first = true
  long : words.length ≠ 1

/-- The text begins with a name in camel case that has `Arg` after it. -/
def Marked (text name tail : Text) : Prop :=
  (∃ small words, name = small ++ words ∧ CamelCase small words) ∧
    text = name ++ ("Arg".toList ++ tail)

/-- The small letters at the beginning of a text. -/
def smallLetters (text : Text) : Text :=
  (text.takeWhile Text.isLetter).takeWhile Text.isSmall

/-- The letters after the small ones. -/
def capitalisedLetters (text : Text) : Text :=
  (text.takeWhile Text.isLetter).dropWhile Text.isSmall

theorem smallLetters_append (text : Text) :
    smallLetters text ++ (capitalisedLetters text ++ afterLetters text) = text := by
  rw [← List.append_assoc, smallLetters, capitalisedLetters, List.takeWhile_append_dropWhile,
    afterLetters, List.takeWhile_append_dropWhile]

theorem isLetter_of_isSmall {character : Char} (small : Text.isSmall character = true) :
    Text.isLetter character = true := by
  rw [Text.isLetter, small, Bool.or_true]

theorem isSmall_eq_false_of_isCapital
    {character : Char}
    (capital : Text.isCapital character = true) :
    Text.isSmall character = false := by
  simp only [Text.isCapital, Bool.and_eq_true, decide_eq_true_eq, Char.le_def,
    UInt32.le_iff_toNat_le] at capital
  simp only [Text.isSmall, Bool.and_eq_false_iff, decide_eq_false_iff_not, Char.le_def,
    UInt32.le_iff_toNat_le]
  simp at capital ⊢
  omega

/-- A place where `Arg` may close a name. -/
def Closes (capitalised : Text) (place : Nat) : Prop :=
  place ≠ 1 ∧ "Arg".toList <+: capitalised.drop place

theorem Closes.add_three_le {capitalised : Text} {place : Nat} (closes : Closes capitalised place) :
    place + 3 ≤ capitalised.length := by
  have length := closes.2.length_le
  rw [List.length_drop] at length
  simp at length
  omega

theorem find?_reverse_range_eq_some_iff {accepts : Nat → Bool} {count place : Nat} :
    (List.range count).reverse.find? accepts = some place ↔
      place < count ∧ accepts place = true ∧
        ∀ other < count, accepts other = true → other ≤ place := by
  induction count with
  | zero => simp
  | succ count induction =>
      rw [List.range_succ, List.reverse_append, List.reverse_singleton, List.singleton_append,
        List.find?_cons]
      cases last : accepts count with
      | true =>
          constructor
          · rintro same
            obtain rfl := Option.some.inj same
            exact ⟨Nat.lt_succ_self _, last, fun other less _ => Nat.le_of_lt_succ less⟩
          · rintro ⟨less, -, greatest⟩
            exact congrArg some
              (Nat.le_antisymm (greatest count (Nat.lt_succ_self _) last) (Nat.le_of_lt_succ less))
      | false =>
          dsimp only
          rw [induction]
          have different {other : Nat} (accepted : accepts other = true) : other ≠ count := by
            rintro rfl
            rw [last] at accepted
            contradiction
          constructor
          · rintro ⟨less, accepted, greatest⟩
            refine ⟨by omega, accepted, fun other otherLess otherAccepted => ?_⟩
            have := different otherAccepted
            exact greatest other (by omega) otherAccepted
          · rintro ⟨less, accepted, greatest⟩
            have := different accepted
            exact ⟨by omega, accepted, fun other otherLess => greatest other (by omega)⟩

theorem accepted_iff_closes {capitalised : Text} {place : Nat} :
    (place ≠ 1 && Text.beginsWith "Arg".toList (capitalised.drop place)) = true ↔
      Closes capitalised place := by
  simp [Closes, Text.beginsWith_iff]

theorem closingPlace?_eq_some_iff {capitalised : Text} {place : Nat} :
    closingPlace? capitalised = some place ↔
      Closes capitalised place ∧ ∀ other, Closes capitalised other → other ≤ place := by
  rw [closingPlace?, find?_reverse_range_eq_some_iff]
  simp only [accepted_iff_closes]
  constructor
  · rintro ⟨less, closes, greatest⟩
    refine ⟨closes, fun other otherCloses => greatest other ?_ otherCloses⟩
    have := otherCloses.add_three_le
    omega
  · rintro ⟨closes, greatest⟩
    have := closes.add_three_le
    exact ⟨by omega, closes, fun other _ => greatest other⟩

theorem Closes.exists_closingPlace? {capitalised : Text} {place : Nat}
    (closes : Closes capitalised place) :
    ∃ last, closingPlace? capitalised = some last := by
  have within := closes.add_three_le
  rw [← Option.isSome_iff_exists, closingPlace?, List.find?_isSome]
  refine ⟨place, ?_, accepted_iff_closes.2 closes⟩
  rw [List.mem_reverse, List.mem_range]
  omega

theorem isCapital_of_isLetter {character : Char}
    (letter : Text.isLetter character = true)
    (large : Text.isSmall character = false) :
    Text.isCapital character = true := by
  rwa [Text.isLetter, large, Bool.or_false] at letter

theorem isLetter_of_mem_in : ∀ character ∈ "in".toList, Text.isLetter character = true :=
  List.all_eq_true.1 (by decide)

theorem isLetter_of_mem_arg : ∀ character ∈ "Arg".toList, Text.isLetter character = true :=
  List.all_eq_true.1 (by decide)

/-- A name in camel case parts the letters that it begins with in its own way. -/
theorem CamelCase.letters_append
    {small words : Text}
    (camelCase : CamelCase small words)
    (tail : Text) :
    smallLetters (small ++ (words ++ ("Arg".toList ++ tail))) = small ∧
      capitalisedLetters (small ++ (words ++ ("Arg".toList ++ tail))) =
        words ++ ("Arg".toList ++ tail.takeWhile Text.isLetter) ∧
      afterLetters (small ++ (words ++ ("Arg".toList ++ tail))) = afterLetters tail := by
  have smallAreLetters (character : Char) (member : character ∈ small) :=
    isLetter_of_isSmall (camelCase.small character member)
  have word : (small ++ (words ++ ("Arg".toList ++ tail))).takeWhile Text.isLetter =
      small ++ (words ++ ("Arg".toList ++ tail.takeWhile Text.isLetter)) := by
    rw [List.takeWhile_append_of_pos smallAreLetters,
      List.takeWhile_append_of_pos camelCase.letters, List.takeWhile_append_of_pos isLetter_of_mem_arg]
  have stops : ∀ character ∈ (words ++ ("Arg".toList ++ tail.takeWhile Text.isLetter)).head?,
      Text.isSmall character = false := by
    cases words with
    | nil =>
        rintro character same
        obtain rfl := Option.some.inj same
        decide
    | cons first words =>
        rintro character same
        exact isSmall_eq_false_of_isCapital (camelCase.capitalised character same)
  refine ⟨?_, ?_, ?_⟩
  · rw [smallLetters, word, Text.takeWhile_append_of_head? camelCase.small stops]
  · rw [capitalisedLetters, word, Text.dropWhile_append_of_head? camelCase.small stops]
  · rw [afterLetters, List.dropWhile_append_of_pos smallAreLetters,
      List.dropWhile_append_of_pos camelCase.letters,
      List.dropWhile_append_of_pos isLetter_of_mem_arg, afterLetters]

/-- The letters up to a place that closes a name are a name in camel case. -/
theorem Closes.camelCase
    {text : Text}
    {place : Nat}
    (nonempty : smallLetters text ≠ [])
    (closes : Closes (capitalisedLetters text) place) :
    CamelCase (smallLetters text) ((capitalisedLetters text).take place) := by
  have enough := closes.add_three_le
  have letters (character : Char) (member : character ∈ capitalisedLetters text) :
      Text.isLetter character = true :=
    List.mem_takeWhile_imp ((List.dropWhile_suffix Text.isSmall).subset member)
  refine ⟨nonempty, fun _ => List.mem_takeWhile_imp, ?_, ?_, ?_⟩
  · exact fun character member => letters character (List.mem_of_mem_take member)
  · intro first isFirst
    have begins : (capitalisedLetters text).head? = some first := by
      rw [List.head?_take] at isFirst
      split at isFirst
      · contradiction
      · exact isFirst
    have large := List.head?_dropWhile_not Text.isSmall (text.takeWhile Text.isLetter)
    rw [← capitalisedLetters, begins] at large
    exact isCapital_of_isLetter (letters first (List.mem_of_head? begins)) large
  · rw [List.length_take]
    have := closes.1
    omega

/-- The names that have `Arg` after them end at the places that close a name. -/
theorem marked_iff {text name tail : Text} :
    Marked text name tail ↔
      smallLetters text ≠ [] ∧
      ∃ place, Closes (capitalisedLetters text) place ∧
        name = smallLetters text ++ (capitalisedLetters text).take place ∧
        tail = (capitalisedLetters text).drop (place + 3) ++ afterLetters text := by
  constructor
  · rintro ⟨⟨small, words, rfl, camelCase⟩, rfl⟩
    rw [List.append_assoc]
    rcases camelCase.letters_append tail with ⟨isSmall, isCapitalised, after⟩
    rw [isSmall, isCapitalised, after]
    refine ⟨camelCase.nonempty, words.length, ⟨camelCase.long, ?_⟩, ?_, ?_⟩
    · rw [List.drop_left]
      exact List.prefix_append ..
    · rw [List.take_left]
    · rw [← List.drop_drop, List.drop_left]
      exact List.takeWhile_append_dropWhile.symm
  · rintro ⟨nonempty, place, closes, rfl, rfl⟩
    refine ⟨⟨_, _, rfl, closes.camelCase nonempty⟩, ?_⟩
    rcases closes.2 with ⟨tail, split⟩
    have dropped : (capitalisedLetters text).drop (place + 3) = tail := by
      rw [← List.drop_drop, ← split]
      rfl
    conv => lhs; rw [← smallLetters_append text, ← List.take_append_drop place
      (capitalisedLetters text), ← split]
    rw [dropped]
    simp only [List.append_assoc]

/--
The text begins with an argument `xxxArg` that cannot be read further: after the delimiter there
are a back-tick or none, the longest name in camel case that has `Arg` after it, `Arg`, and a
back-tick or none.
-/
structure TrailingAt (text : Text) (found : Placeholder) : Prop where
  delimited : isDelimiter found.delimiter = true
  written : ∃ body content tail, text = found.delimiter :: body ∧
    AfterTick body content ∧
    Marked content found.name tail ∧
    (∀ name other, Marked content name other → name.length ≤ found.name.length) ∧
    AfterTick tail found.rest

theorem TrailingAt.suffix {text : Text} {found : Placeholder} (recognised : TrailingAt text found) :
    found.rest <:+ text := by
  rcases recognised.written with ⟨body, content, tail, rfl, opening, marked, -, closing⟩
  have name : tail <:+ content := by
    rw [marked.2]
    exact (List.suffix_append ..).trans (List.suffix_append ..)
  exact ((closing.suffix.trans name).trans opening.suffix).trans (List.suffix_cons ..)

theorem trailingForm?_cons (delimiter : Char) (body : Text) :
    trailingForm? (delimiter :: body) =
      if isDelimiter delimiter = true ∧ smallLetters (dropBacktick body) ≠ [] then
        (closingPlace? (capitalisedLetters (dropBacktick body))).map fun place =>
          { delimiter
            name := smallLetters (dropBacktick body) ++
              (capitalisedLetters (dropBacktick body)).take place
            rest := dropBacktick ((capitalisedLetters (dropBacktick body)).drop (place + 3) ++
              afterLetters (dropBacktick body)) }
      else
        none := by
  rw [trailingForm?]
  dsimp only
  rw [← smallLetters, ← capitalisedLetters]
  cases isDelimiter delimiter with
  | false => simp
  | true =>
      by_cases none : smallLetters (dropBacktick body) = []
      · simp [none]
      · simp [none]

theorem trailingForm?_eq_some_iff {text : Text} {found : Placeholder} :
    trailingForm? text = some found ↔ TrailingAt text found := by
  constructor
  · intro recognised
    cases text with
    | nil => simp [trailingForm?] at recognised
    | cons delimiter body =>
        rw [trailingForm?_cons] at recognised
        split at recognised
        · rename_i possible
          rcases Option.map_eq_some_iff.1 recognised with ⟨place, closing, rfl⟩
          rcases closingPlace?_eq_some_iff.1 closing with ⟨closes, last⟩
          refine ⟨possible.1, body, dropBacktick body, _, rfl, dropBacktick_eq_iff.1 rfl,
            marked_iff.2 ⟨possible.2, place, closes, rfl, rfl⟩, ?_, dropBacktick_eq_iff.1 rfl⟩
          -- Any other name ends at an earlier place in the same letters.
          intro name other marked
          rcases (marked_iff.1 marked).2 with ⟨earlier, otherCloses, rfl, -⟩
          have := last earlier otherCloses
          simp only [List.length_append, List.length_take]
          omega
        · contradiction
  · rcases found with ⟨delimiter, name, rest⟩
    rintro ⟨delimited, body, content, tail, rfl, opening, marked, longest, closing⟩
    obtain rfl := dropBacktick_eq_iff.2 opening
    rcases marked_iff.1 marked with ⟨nonempty, place, closes, named, rfl⟩
    dsimp only at named longest delimited closing
    have last : ∀ other, Closes (capitalisedLetters (dropBacktick body)) other → other ≤ place := by
      intro other otherCloses
      have shorter := longest _ _ (marked_iff.2 ⟨nonempty, other, otherCloses, rfl, rfl⟩)
      have fits := closes.add_three_le
      have otherFits := otherCloses.add_three_le
      rw [named] at shorter
      simp only [List.length_append, List.length_take] at shorter
      omega
    rw [trailingForm?_cons, if_pos ⟨delimited, nonempty⟩,
      closingPlace?_eq_some_iff.2 ⟨closes, last⟩, Option.map_some, dropBacktick_eq_iff.2 closing,
      named]

end ProcedureAudit.Query
