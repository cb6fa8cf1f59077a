import ProcedureAudit.Proofs.Fixture.Recorded
import ProcedureAudit.Proofs.Query.ArgumentName
import ProcedureAudit.Proofs.Query.Literal
import ProcedureAudit.Proofs.Query.Registry
import ProcedureAudit.Proofs.Query.Surplus

/-!
# As many parentheses open as close

By how many the opening parentheses of a text exceed the closing ones adds up over its parts.  An
argument has the excess of its delimiter, and so has what is filled in for it, since a literal
opens and closes equally often.  The end mark has none.  So both passes keep the excess of the
repaired statement, and that is zero.
-/

namespace ProcedureAudit.Query

/-! ## The excess of a text -/

/-- How many more parentheses open than close. -/
def excess (text : Text) : Int :=
  text.count '(' - text.count ')'

theorem excess_eq_zero_iff {text : Text} :
    excess text = 0 ↔ text.count '(' = text.count ')' := by
  unfold excess
  omega

@[simp]
theorem excess_nil : excess [] = 0 :=
  rfl

@[simp]
theorem excess_append (first second : Text) :
    excess (first ++ second) = excess first + excess second := by
  unfold excess
  rw [List.count_append, List.count_append]
  omega

theorem excess_cons (character : Char) (rest : Text) :
    excess (character :: rest) = excess [character] + excess rest :=
  excess_append [character] rest

theorem excess_eq_zero_of_forall
    {Plain : Char → Prop}
    {text : Text}
    (plain : ∀ character ∈ text, Plain character)
    (notOpening : ¬ Plain '(')
    (notClosing : ¬ Plain ')') :
    excess text = 0 := by
  have absent {mark : Char} (other : ¬ Plain mark) : text.count mark = 0 := by
    rw [List.count_eq_zero]
    intro member
    exact other (plain mark member)
  rw [excess_eq_zero_iff, absent notOpening, absent notClosing]

/-! ## Literals -/

/-- Whether a value opens and closes equally many parentheses; only texts have a say in it. -/
def IsBalanced : Value → Prop
  | .text content => content.count '(' = content.count ')'
  | _ => True

theorem excess_literal_text {content : Text} (balanced : content.count '(' = content.count ')') :
    excess (Value.text content).literal = 0 := by
  have literal : (Value.text content).literal = ['\x22'] ++ (content ++ ['\x22']) := rfl
  have quote : excess ['\x22'] = 0 := rfl
  rw [literal, excess_append, excess_append, excess_eq_zero_iff.2 balanced, quote, Int.zero_add,
    Int.zero_add]

/-- The one parenthesis that opens before the digits is closed after them. -/
theorem excess_literal_bytes (content : List UInt8) :
    excess (Value.bytes content).literal = 0 := by
  have literal : (Value.bytes content).literal =
      "UNHEX(\"".toList ++ Value.hexText content ++ "\")".toList := rfl
  have plain : excess (Value.hexText content) = 0 := by
    have digits : ∀ value < 16, isParenthesis (Text.hexDigit value) = false := by decide
    apply excess_eq_zero_of_forall fun _ => eq_false_of_mem_hexText digits
    · decide
    · decide
  have opening : excess "UNHEX(\"".toList = 1 := rfl
  have closing : excess "\")".toList = -1 := rfl
  rw [literal, excess_append, excess_append, plain, opening, closing]
  rfl

theorem excess_numeral {numeral : Text} (isNumeral : IsNumeral numeral) :
    excess numeral = 0 :=
  excess_eq_zero_of_forall isNumeral.characters (by decide) (by decide)

theorem excess_literal {value : Value} (balanced : IsBalanced value) :
    excess value.literal = 0 := by
  cases value with
  | null => rfl
  | boolean truth => cases truth <;> decide
  | integer number => exact excess_numeral (isNumeral_ofInt number)
  | real number =>
      cases number with
      | nan => decide
      | infinite negative => cases negative <;> decide
      | finite negative significand exponent =>
          exact excess_numeral (isNumeral_literal_finite negative significand exponent)
  | text content => exact excess_literal_text balanced
  | bytes content => exact excess_literal_bytes content

/-! ## Arguments -/

theorem excess_letters
    {word : Text}
    (letters : ∀ character ∈ word, Text.isLetter character = true) :
    excess word = 0 :=
  excess_eq_zero_of_forall letters (by decide) (by decide)

theorem AfterTick.excess_eq {text rest : Text} (after : AfterTick text rest) :
    excess text = excess rest := by
  rcases after with rfl | ⟨rfl, -⟩
  · rw [excess_cons]
    exact Int.zero_add _
  · rfl

/-- Of an argument, only the delimiter can be a parenthesis. -/
def PlaceholderForm.KeepsExcess (form : PlaceholderForm) : Prop :=
  ∀ {text : Text} {found : Placeholder}, form.recognise? text = some found →
    excess text = excess [found.delimiter] + excess found.rest

theorem keepsExcess_leading : PlaceholderForm.leading.KeepsExcess := by
  intro text found recognised
  rw [recognise?_leading_iff] at recognised
  rcases recognised.written with ⟨body, tail, rfl, opening, -, closing⟩
  calc
    excess (found.delimiter :: body) =
        excess [found.delimiter] + excess ("in".toList ++ (found.name ++ tail)) := by
      rw [excess_cons, opening.excess_eq]
    _ = excess [found.delimiter] + excess tail := by
      rw [excess_append, excess_append, excess_letters isLetter_of_mem_in,
        excess_letters recognised.letters, Int.zero_add, Int.zero_add]
    _ = excess [found.delimiter] + excess found.rest := by
      rw [closing.excess_eq]

theorem keepsExcess_trailing : PlaceholderForm.trailing.KeepsExcess := by
  intro text found recognised
  rw [recognise?_trailing_iff] at recognised
  rcases recognised.written with ⟨body, content, tail, rfl, opening, marked, -, closing⟩
  rcases marked with ⟨⟨small, words, named, camelCase⟩, split⟩
  have letters : ∀ character ∈ found.name, Text.isLetter character = true := by
    rw [named, List.forall_mem_append]
    exact ⟨fun character member => isLetter_of_isSmall (camelCase.small character member),
      camelCase.letters⟩
  calc
    excess (found.delimiter :: body) =
        excess [found.delimiter] + excess (found.name ++ ("Arg".toList ++ tail)) := by
      rw [excess_cons, opening.excess_eq, split]
    _ = excess [found.delimiter] + excess tail := by
      rw [excess_append, excess_append, excess_letters letters,
        excess_letters isLetter_of_mem_arg, Int.zero_add, Int.zero_add]
    _ = excess [found.delimiter] + excess found.rest := by
      rw [closing.excess_eq]

/-! ## Queries -/

section Queries

variable {registry : Registry} (balanced : ∀ entry ∈ registry.entries, IsBalanced entry.2)

include balanced

theorem excess_fill (delimiter : Char) (name : Text) :
    excess ((Piece.argument delimiter name).fill registry) = excess [delimiter] := by
  have absent : IsBalanced .null := trivial
  have even := Registry.getD_of_forall_entries balanced absent name
  rw [Piece.fill, excess_cons, excess_literal even, Int.add_zero]

theorem excess_substituteForm
    {form : PlaceholderForm}
    (keeps : form.KeepsExcess)
    (text : Text) :
    excess (substituteForm form registry text) = excess text := by
  induction text using pieces.induct form with
  | case1 => rw [substituteForm_nil]
  | case2 character rest found recognised induction =>
      rw [substituteForm_of_eq_some recognised, excess_append, excess_fill balanced, induction,
        keeps recognised]
  | case3 character rest unrecognised induction =>
      rw [substituteForm_of_eq_none unrecognised, excess_cons, induction, ← excess_cons]

theorem excess_substitutePlaceholders (select : Text) :
    excess (substitutePlaceholders select registry) = excess select := by
  rw [substitutePlaceholders, excess_substituteForm balanced keepsExcess_trailing,
    excess_substituteForm balanced keepsExcess_leading]

end Queries

theorem excess_trimEnd (text : Text) : excess (Text.trimEnd text) = excess text := by
  rcases Text.exists_dropEndWhile_append Text.isBlank text with ⟨dropped, split, blank⟩
  have plain : excess dropped = 0 := excess_eq_zero_of_forall blank (by decide) (by decide)
  conv => rhs; rw [split, excess_append, plain, Int.add_zero]
  rw [Text.trimEnd]

theorem excess_dropTerminator (query : Text) : excess (dropTerminator query) = excess query := by
  unfold dropTerminator
  split
  · rename_i before ended
    have split : Text.trimEnd query = before.reverse ++ [';'] := by
      rw [← List.reverse_inj, ended]
      simp
    calc
      excess (Text.trimEnd before.reverse) = excess before.reverse := excess_trimEnd _
      _ = excess (before.reverse ++ [';']) := by
        rw [excess_append]
        exact (Int.add_zero _).symm
      _ = excess query := by rw [← split, excess_trimEnd]
  · rfl

theorem excess_normalizeSelect
    {registry : Registry}
    (balanced : ∀ entry ∈ registry.entries, IsBalanced entry.2)
    (select : Text) :
    excess (normalizeSelect select registry) = 0 := by
  rw [normalizeSelect, excess_dropTerminator, excess_substitutePlaceholders balanced,
    excess_eq_zero_iff]
  exact count_balanceParentheses_eq select

/-! ## Registries after seeding -/

theorem isBalanced_email (sources : Fixture.Sources) (draw : Nat) :
    IsBalanced (.text (sources.email draw)) := by
  apply excess_eq_zero_iff.1
  apply excess_eq_zero_of_forall fun _ => Fixture.mem_email
  · decide
  · decide

theorem isBalanced_arguments (sources : Fixture.Sources) (account : Nat) :
    ∀ argument ∈ (sources.draws account).arguments, IsBalanced argument.2 := by
  have email : IsBalanced (.text ((sources.draws account).email 0)) := isBalanced_email sources _
  have normalized : IsBalanced (.text (Text.lower ((sources.draws account).email 0))) := by
    have same : Text.lower ((sources.draws account).email 0) = (sources.draws account).email 0 :=
      Fixture.lower_email sources _
    rwa [same]
  simp only [Fixture.Draws.arguments, List.forall_mem_cons]
  exact ⟨email, trivial, normalized, trivial, trivial, trivial, trivial, trivial, trivial,
    List.forall_mem_nil _⟩

theorem isBalanced_fixedArguments :
    ∀ argument ∈ Registry.fixedArguments, IsBalanced argument.2 := by
  simp only [Registry.fixedArguments, List.forall_mem_cons]
  exact ⟨rfl, rfl, trivial, rfl, rfl, rfl, rfl, rfl, List.forall_mem_nil _⟩

/-- Fixed arguments and what seeding records are balanced, wherever the seeding stops. -/
theorem isBalanced_of_seed
    {State : Type}
    {arguments : List (Text × Value)}
    (balanced : ∀ argument ∈ arguments, IsBalanced argument.2)
    (perform : Fixture.Statement → State → Except SessionProblem Unit × State)
    (sources : Fixture.Sources)
    (count : Int)
    (state : State) :
    ∀ entry ∈ (Fixture.seed perform sources count
        (.withFixedArguments arguments) state).registry.entries,
      IsBalanced entry.2 := by
  apply Fixture.forall_entries_seed
  · apply Registry.forall_entries_recordAll _ isBalanced_fixedArguments
    exact Registry.forall_entries_recordAll (List.forall_mem_nil _) balanced
  · exact isBalanced_arguments sources

/--
A query has as many opening as closing parentheses if the texts of its registry have, whatever its
statement is like and whichever names are bound.  The texts that seeding adds to a registry and its
fixed arguments have.  And repairing a statement before makes no difference to its query.
-/
theorem count_normalizeSelect_eq (select : Text) :
    (∀ registry : Registry, (∀ entry ∈ registry.entries, IsBalanced entry.2) →
        (normalizeSelect select registry).count '(' =
          (normalizeSelect select registry).count ')') ∧
      (∀ (State : Type) (perform : Fixture.Statement → State → Except SessionProblem Unit × State)
        (sources : Fixture.Sources) (count : Int) (arguments : List (Text × Value)) (state : State),
        (∀ argument ∈ arguments, IsBalanced argument.2) →
        ∀ entry ∈ (Fixture.seed perform sources count
            (.withFixedArguments arguments) state).registry.entries,
          IsBalanced entry.2) ∧
      ∀ registry : Registry,
        normalizeSelect (balanceParentheses select) registry = normalizeSelect select registry := by
  refine ⟨?_, ?_, ?_⟩
  · intro registry balanced
    exact excess_eq_zero_iff.1 (excess_normalizeSelect balanced select)
  · intro State perform sources count arguments state balanced
    exact isBalanced_of_seed balanced perform sources count state
  · intro registry
    rw [normalizeSelect, balanceParentheses_of_count_eq (count_balanceParentheses_eq select),
      normalizeSelect]

/-- One argument says what another one reads, one is not bound, and a parenthesis is left over. -/
def nestedSelect : Text :=
  "SELECT f( inName, (inNone)) FROM t WHERE (x) ) ; ".toList

def nestedRegistry : Registry :=
  .ofList [("uid".toList, .bytes [0xC0, 0xDE]), ("name".toList, .text "g(uidArg)".toList)]

theorem count_normalizeSelect_eq_nestedSelect :
    (∀ entry ∈ nestedRegistry.entries, IsBalanced entry.2) ∧
      normalizeSelect nestedSelect nestedRegistry =
        "SELECT f( \"g(UNHEX(\"c0de\"))\", ()) FROM t WHERE (x)".toList ∧
      (normalizeSelect nestedSelect nestedRegistry).count '(' =
        (normalizeSelect nestedSelect nestedRegistry).count ')' ∧
      normalizeSelect (balanceParentheses nestedSelect) nestedRegistry =
        normalizeSelect nestedSelect nestedRegistry := by
  have balanced : ∀ entry ∈ nestedRegistry.entries, IsBalanced entry.2 := by
    have entries : nestedRegistry.entries =
        [("uid".toList, .bytes [0xC0, 0xDE]), ("name".toList, .text "g(uidArg)".toList)] := by
      decide
    rw [entries]
    simp [IsBalanced]
  rcases count_normalizeSelect_eq nestedSelect with ⟨even, -, settled⟩
  exact ⟨balanced, by decide +kernel, even nestedRegistry balanced, settled nestedRegistry⟩

end ProcedureAudit.Query
