import ProcedureAudit.Proofs.Query.ArgumentName
import ProcedureAudit.Proofs.Query.Inert

/-!
# Identifiers that stay

Where the name of an argument ends is not looked at, so an identifier that goes on after such a
name loses its beginning.  An identifier after a delimiter stays as it is, with any registry,
exactly if it does not begin with the name of an argument; then what stands before it and what
stands after it become what they become on their own.
-/

namespace ProcedureAudit.Query

open ProcedureAudit.Routine (dropBacktick)

/-! ## Names of arguments at the beginning of identifiers -/

/-- The name of an argument of either form, as it is written. -/
def IsArgumentName (written : Text) : Prop :=
  IsLeadingName written ∨ IsTrailingName written

/-- The identifier is the name of an argument, or it goes on after one. -/
def BeginsLikeArgument (identifier : Text) : Prop :=
  ∃ written, written <+: identifier ∧ IsArgumentName written

theorem IsLeadingName.letters {written : Text} (isName : IsLeadingName written) :
    ∀ character ∈ written, Text.isLetter character = true := by
  rcases isLeadingName_iff.1 isName with ⟨name, capitalised, rfl⟩
  exact List.forall_mem_append.2 ⟨isLetter_of_mem_in, capitalised.letters⟩

theorem IsTrailingName.letters {written : Text} (isName : IsTrailingName written) :
    ∀ character ∈ written, Text.isLetter character = true := by
  rcases isTrailingName_iff.1 isName with ⟨small, words, camelCase, rfl⟩
  refine List.forall_mem_append.2
    ⟨?_, List.forall_mem_append.2 ⟨camelCase.letters, isLetter_of_mem_arg⟩⟩
  exact fun character member => isLetter_of_isSmall (camelCase.small character member)

theorem IsArgumentName.letters {written : Text} (isName : IsArgumentName written) :
    ∀ character ∈ written, Text.isLetter character = true := by
  rcases isName with leading | trailing
  · exact leading.letters
  · exact trailing.letters

theorem IsArgumentName.ne_nil {written : Text} (isName : IsArgumentName written) :
    written ≠ [] := by
  rcases isName with leading | trailing
  · rcases isLeadingName_iff.1 leading with ⟨name, -, rfl⟩
    exact List.append_ne_nil_of_left_ne_nil (by decide) name
  · rcases isTrailingName_iff.1 trailing with ⟨small, words, camelCase, rfl⟩
    exact List.append_ne_nil_of_left_ne_nil camelCase.nonempty _

/-! ## Identifiers after a delimiter -/

/-- Whether the character may stand in an identifier. -/
def isIdentifierCharacter (character : Char) : Bool :=
  Text.isLetter character || Text.isAsciiDigit character || character = '_'

theorem isDelimiter_eq_false_of_isIdentifierCharacter
    {character : Char}
    (inside : isIdentifierCharacter character = true) :
    isDelimiter character = false := by
  rw [Bool.eq_false_iff]
  intro delimiter
  simp only [isDelimiter, Bool.or_eq_true, decide_eq_true_eq] at delimiter
  rcases delimiter with rfl | rfl <;> contradiction

theorem isIdentifierCharacter_of_isLetter
    {character : Char}
    (letter : Text.isLetter character = true) :
    isIdentifierCharacter character = true := by
  rw [isIdentifierCharacter, letter, Bool.true_or, Bool.true_or]

/-- A back-tick before an identifier is no part of it. -/
theorem dropBacktick_append_identifier
    {tick identifier : Text}
    (ticked : IsTick tick)
    (nonempty : identifier ≠ [])
    (characters : ∀ character ∈ identifier, isIdentifierCharacter character = true)
    (rest : Text) :
    dropBacktick (tick ++ (identifier ++ rest)) = identifier ++ rest := by
  refine dropBacktick_eq_iff.2 (afterTick_append ticked ?_)
  cases identifier with
  | nil => contradiction
  | cons first identifier =>
      intro same
      have inside := characters first (List.mem_cons_self ..)
      rw [Option.some.inj same] at inside
      contradiction

/-- A text with an identifier in it, which stands after a delimiter and perhaps a back-tick. -/
structure IdentifierPlace where
  before : Text
  delimiter : Char
  tick : Text
  identifier : Text
  after : Text
  delimited : isDelimiter delimiter = true
  ticked : IsTick tick
  nonempty : identifier ≠ []
  characters : ∀ character ∈ identifier, isIdentifierCharacter character = true
  ended : ∀ character ∈ after.head?, isIdentifierCharacter character = false

namespace IdentifierPlace

variable (place : IdentifierPlace)

/-- The identifier with what stands right before it. -/
def written : Text :=
  place.delimiter :: (place.tick ++ place.identifier)

def text : Text :=
  place.before ++ (place.written ++ place.after)

/-- The identifier stands after what becomes of the text before it, as it stood in the text. -/
def IsKept (registry : Registry) : Prop :=
  substitutePlaceholders place.before registry ++ place.written <+:
    substitutePlaceholders place.text registry

theorem written_append (rest : Text) :
    place.written ++ rest = place.delimiter :: (place.tick ++ (place.identifier ++ rest)) := by
  rw [written, List.cons_append, List.append_assoc]

theorem undelimited :
    ∀ character ∈ place.tick ++ place.identifier, isDelimiter character = false := by
  rw [List.forall_mem_append]
  constructor
  · rcases place.ticked with none | tick
    · rw [none]
      exact List.forall_mem_nil _
    · rw [tick]
      exact List.forall_mem_singleton.2 (by decide)
  · intro character member
    exact isDelimiter_eq_false_of_isIdentifierCharacter (place.characters character member)

/-- An argument that begins where the identifier begins has its name in the identifier. -/
theorem beginsArgument_iff
    {IsName : Text → Prop}
    (isArgumentName : ∀ written, IsName written → IsArgumentName written) :
    BeginsArgument IsName place.delimiter (place.tick ++ (place.identifier ++ place.after)) ↔
      ∃ written, written <+: place.identifier ∧ IsName written := by
  constructor
  · rintro ⟨-, tick, written, rest, ticked, isName, same⟩
    refine ⟨written, ?_, isName⟩
    have name := isArgumentName written isName
    have inside (character : Char) (member : character ∈ written) :=
      isIdentifierCharacter_of_isLetter (name.letters character member)
    have bare : place.identifier ++ place.after = written ++ rest := by
      rw [← dropBacktick_append_identifier place.ticked place.nonempty place.characters,
        ← dropBacktick_append_identifier ticked name.ne_nil inside, same]
    rcases List.append_eq_append_iff.1 bare with ⟨more, longer, split⟩ | ⟨more, shorter, -⟩
    · -- If the name went on after the identifier, then so would the identifier.
      cases more with
      | nil =>
          have whole : written = place.identifier := longer.trans (List.append_nil _)
          exact whole ▸ List.prefix_rfl
      | cons first more =>
          have within := inside first (by simp [longer])
          rw [place.ended first (by simp [split])] at within
          contradiction
    · exact ⟨more, shorter.symm⟩
  · rintro ⟨written, ⟨rest, split⟩, isName⟩
    refine ⟨place.delimited, place.tick, written, rest ++ place.after, place.ticked, isName, ?_⟩
    rw [← split, List.append_assoc]

/-! ## One pass -/

/-- The place after a pass that leaves the identifier alone. -/
def passed {form : PlaceholderForm} (confined : form.Confined) (registry : Registry) :
    IdentifierPlace :=
  { place with
    before := substituteForm form registry place.before
    after := substituteForm form registry place.after
    ended := by
      rw [confined.head?_substituteForm]
      exact place.ended }

theorem substituteForm_text
    {form : PlaceholderForm}
    (confined : form.Confined)
    (registry : Registry) :
    substituteForm form registry place.text =
      substituteForm form registry place.before ++
        substituteForm form registry
          (place.delimiter :: (place.tick ++ (place.identifier ++ place.after))) := by
  rw [text, written_append, confined.substituteForm_append place.delimited]

theorem substituteForm_text_of_eq_none
    {form : PlaceholderForm}
    (confined : form.Confined)
    (unrecognised : form.recognise?
      (place.delimiter :: (place.tick ++ (place.identifier ++ place.after))) = none)
    (registry : Registry) :
    substituteForm form registry place.text = (place.passed confined registry).text := by
  rw [place.substituteForm_text confined, substituteForm_of_eq_none unrecognised,
    ← List.append_assoc place.tick, confined.substituteForm_append_of_undelimited place.undelimited]
  rfl

theorem recognise?_eq_none_iff
    {form : PlaceholderForm}
    {IsName : Text → Prop}
    (named : form.Named IsName)
    (isArgumentName : ∀ written, IsName written → IsArgumentName written) :
    form.recognise? (place.delimiter :: (place.tick ++ (place.identifier ++ place.after))) = none ↔
      ¬ ∃ written, written <+: place.identifier ∧ IsName written := by
  rw [named.recognise?_eq_none_iff, place.beginsArgument_iff isArgumentName]

/-! ## Both passes -/

theorem substitutePlaceholders_text
    (unlike : ¬ BeginsLikeArgument place.identifier)
    (registry : Registry) :
    substitutePlaceholders place.text registry =
      substitutePlaceholders place.before registry ++
        (place.written ++ substitutePlaceholders place.after registry) := by
  have leading := (place.recognise?_eq_none_iff named_leading fun _ => Or.inl).2 <| by
    rintro ⟨written, begins, isName⟩
    exact unlike ⟨written, begins, Or.inl isName⟩
  let between := place.passed confined_leading registry
  have trailing := (between.recognise?_eq_none_iff named_trailing fun _ => Or.inr).2 <| by
    rintro ⟨written, begins, isName⟩
    exact unlike ⟨written, begins, Or.inr isName⟩
  rw [substitutePlaceholders, place.substituteForm_text_of_eq_none confined_leading leading,
    between.substituteForm_text_of_eq_none confined_trailing trailing]
  rfl

/-! ## Identifiers that are cut -/

/-- A registry with the number zero for one name. -/
def zeroFor (name : Text) : Registry :=
  .ofList [(name, .integer 0)]

theorem fill_zeroFor (delimiter : Char) (name : Text) :
    (Piece.argument delimiter name).fill (zeroFor name) = [delimiter, '0'] := by
  have known : (zeroFor name).get? name = some (.integer 0) := by
    rw [zeroFor, Registry.ofList, Registry.get?_recordAll, Registry.keyed, List.map_singleton,
      List.lookup_cons, beq_self_eq_true]
    rfl
  rw [Piece.fill, Registry.getD, known]
  rfl

theorem undelimited_zeroFor (name : Text) :
    ∀ entry ∈ (zeroFor name).entries, IsUndelimited entry.2 := by
  have entries : (zeroFor name).entries = [(Registry.key name, .integer 0)] := rfl
  rw [entries]
  exact List.forall_mem_singleton.2 trivial

theorem exists_substituteForm_zeroFor
    {form : PlaceholderForm}
    (confined : form.Confined)
    {name : Text}
    (recognised : (form.recognise?
      (place.delimiter :: (place.tick ++ (place.identifier ++ place.after)))).map Placeholder.name =
        some name) :
    ∃ rest, substituteForm form (zeroFor name) place.text =
      substituteForm form (zeroFor name) place.before ++ ([place.delimiter, '0'] ++ rest) := by
  rcases Option.map_eq_some_iff.1 recognised with ⟨found, here, rfl⟩
  refine ⟨substituteForm form (zeroFor found.name) found.rest, ?_⟩
  rw [place.substituteForm_text confined, substituteForm_of_eq_some here, fill_zeroFor,
    (confined.begins here).1]

theorem not_isKept_of_digit
    (begins : BeginsLikeArgument place.identifier)
    {registry : Registry}
    (cut : ∃ rest, substitutePlaceholders place.text registry =
      substitutePlaceholders place.before registry ++ ([place.delimiter, '0'] ++ rest)) :
    ¬ place.IsKept registry := by
  intro kept
  rcases cut with ⟨rest, cut⟩
  rw [IsKept, cut, List.prefix_append_right_inj, written, List.cons_append,
    List.cons_prefix_cons] at kept
  rcases begins with ⟨name, ⟨more, split⟩, isName⟩
  rcases List.exists_cons_of_ne_nil isName.ne_nil with ⟨first, others, rfl⟩
  have letter := isName.letters first (List.mem_cons_self ..)
  rcases place.ticked with none | tick
  · rw [none, ← split, List.nil_append, List.cons_append, List.singleton_append,
      List.cons_prefix_cons] at kept
    rw [kept.2.1] at letter
    contradiction
  · rw [tick, List.singleton_append, List.singleton_append, List.cons_prefix_cons] at kept
    exact absurd kept.2.1 (by decide)

/-- After the first pass, the second one finds the same name where the identifier begins. -/
theorem map_name_passed
    {form pass : PlaceholderForm}
    (confined : form.Confined)
    (passConfined : pass.Confined)
    (registry : Registry) :
    (form.recognise? (place.delimiter ::
        (place.tick ++ (place.identifier ++ substituteForm pass registry place.after)))).map
          Placeholder.name =
      (form.recognise? (place.delimiter ::
        (place.tick ++ (place.identifier ++ place.after)))).map Placeholder.name := by
  have same : segment (place.tick ++ (place.identifier ++
      substituteForm pass registry place.after)) =
        segment (place.tick ++ (place.identifier ++ place.after)) := by
    rw [← List.append_assoc, ← List.append_assoc, segment_append_of_undelimited place.undelimited,
      segment_append_of_undelimited place.undelimited, passConfined.segment_substituteForm]
  rw [← confined.map_name_recognise?_segment, same, confined.map_name_recognise?_segment]

/-- With some registry, an identifier that begins like an argument is cut. -/
theorem exists_not_isKept (begins : BeginsLikeArgument place.identifier) :
    ∃ registry, (∀ entry ∈ registry.entries, IsUndelimited entry.2) ∧ ¬ place.IsKept registry := by
  cases leading : PlaceholderForm.leading.recognise?
      (place.delimiter :: (place.tick ++ (place.identifier ++ place.after))) with
  | some found =>
      refine ⟨zeroFor found.name, undelimited_zeroFor found.name, ?_⟩
      rcases place.exists_substituteForm_zeroFor confined_leading (congrArg _ leading) with
        ⟨rest, first⟩
      -- The second pass keeps the digit, since no argument begins before a digit.
      have digit : Inert .trailing [place.delimiter, '0'] :=
        inert_delimiter_numeral sparesLiterals_trailing (isNumeral_ofNat 0) place.delimiter
      refine place.not_isKept_of_digit begins
        ⟨substituteForm .trailing (zeroFor found.name) rest, ?_⟩
      rw [substitutePlaceholders, first]
      exact (confined_trailing.substituteForm_append place.delimited _ _ _).trans
        (congrArg _ (digit.substituteForm_append _ rest))
  | none =>
      have notLeading := (place.recognise?_eq_none_iff named_leading fun _ => Or.inl).1 leading
      cases trailing : PlaceholderForm.trailing.recognise?
          (place.delimiter :: (place.tick ++ (place.identifier ++ place.after))) with
      | none =>
          have notTrailing :=
            (place.recognise?_eq_none_iff named_trailing fun _ => Or.inr).1 trailing
          rcases begins with ⟨written, within, isLeading | isTrailing⟩
          · exact (notLeading ⟨written, within, isLeading⟩).elim
          · exact (notTrailing ⟨written, within, isTrailing⟩).elim
      | some found =>
          refine ⟨zeroFor found.name, undelimited_zeroFor found.name, ?_⟩
          have name := place.map_name_passed confined_trailing confined_leading (zeroFor found.name)
          rw [trailing, Option.map_some] at name
          let between := place.passed confined_leading (zeroFor found.name)
          rcases between.exists_substituteForm_zeroFor confined_trailing name with ⟨rest, second⟩
          refine place.not_isKept_of_digit begins ⟨rest, ?_⟩
          rw [substitutePlaceholders,
            place.substituteForm_text_of_eq_none confined_leading leading]
          exact second

end IdentifierPlace

/--
An identifier after a delimiter is kept, whatever the registry, exactly if it does not begin with
the name of an argument.  Then the texts before and after it become what they become on their own.
-/
theorem identifier_isKept_iff (place : IdentifierPlace) :
    ((∀ registry, (∀ entry ∈ registry.entries, IsUndelimited entry.2) → place.IsKept registry) ↔
        ¬ BeginsLikeArgument place.identifier) ∧
      (¬ BeginsLikeArgument place.identifier → ∀ registry,
        substitutePlaceholders place.text registry =
          substitutePlaceholders place.before registry ++
            (place.written ++ substitutePlaceholders place.after registry)) := by
  refine ⟨⟨fun kept begins => ?_, fun unlike registry _ => ?_⟩, place.substitutePlaceholders_text⟩
  · rcases place.exists_not_isKept begins with ⟨registry, undelimited, cut⟩
    exact cut (kept registry undelimited)
  · rw [IdentifierPlace.IsKept, place.substitutePlaceholders_text unlike, ← List.append_assoc]
    exact List.prefix_append _ _

/-- An identifier that goes on after the name of an argument. -/
def numberedPlace : IdentifierPlace where
  before := "SELECT".toList
  delimiter := ' '
  tick := []
  identifier := "inUid_2".toList
  after := " FROM t".toList
  delimited := by decide
  ticked := Or.inl rfl
  nonempty := by decide
  characters := List.all_eq_true.1 (by decide)
  ended := by
    intro character first
    obtain rfl : ' ' = character := Option.some.inj first
    rfl

/-- Not every identifier that is no name of an argument is kept: the beginning can be replaced. -/
theorem exists_identifier_cut :
    ¬ ∀ (place : IdentifierPlace) (registry : Registry),
        (∀ entry ∈ registry.entries, IsUndelimited entry.2) →
          ¬ IsArgumentName place.identifier → place.IsKept registry := by
  intro kept
  let registry : Registry := .ofList [("uid".toList, .integer 5)]
  have unnamed : ¬ IsArgumentName numberedPlace.identifier := by
    intro isName
    exact absurd (isName.letters '_' (by decide)) (by decide)
  have undelimited : ∀ entry ∈ registry.entries, IsUndelimited entry.2 := by
    have entries : registry.entries = [("uid".toList, .integer 5)] := by decide
    rw [entries]
    exact List.forall_mem_singleton.2 trivial
  have before : substitutePlaceholders numberedPlace.before registry = "SELECT".toList := by
    decide +kernel
  have query : substitutePlaceholders numberedPlace.text registry =
      "SELECT 5_2 FROM t".toList := by
    decide +kernel
  have cut := kept numberedPlace registry undelimited unnamed
  rw [IdentifierPlace.IsKept, before, query] at cut
  exact absurd cut (by decide)

end ProcedureAudit.Query
