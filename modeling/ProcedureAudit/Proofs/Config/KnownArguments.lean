import ProcedureAudit.Proofs.Config.Revalidation
import ProcedureAudit.Proofs.Query.History

/-!
# Known arguments in a registry

Known arguments reach a registry directly, or as those of a configuration, which puts their names
into lower case first.  If two names differ in nothing but letter case, the registry keeps the first
value and the configuration the last one.
-/

namespace ProcedureAudit.Config

open Registry (keyed)

/-- Arguments under names in code points. -/
def codeNamed (entries : List (Text × Value)) : List (CodeText × Value) :=
  entries.map fun (name, value) => (CodeText.ofText name, value)

/-- Arguments under names as texts. -/
def textNamed (arguments : List (CodeText × Value)) : List (Text × Value) :=
  arguments.map fun (name, value) => (name.joined, value)

theorem codeNamed_textNamed
    {arguments : List (CodeText × Value)}
    (plain : ∀ argument ∈ arguments, ∃ name, argument.1 = CodeText.ofText name) :
    codeNamed (textNamed arguments) = arguments := by
  rw [codeNamed, textNamed, List.map_map]
  refine (List.map_congr_left fun argument member => ?_).trans (List.map_id arguments)
  rcases plain argument member with ⟨name, same⟩
  refine Prod.ext ?_ rfl
  show CodeText.ofText argument.1.joined = argument.1
  rw [same, CodeText.joined_ofText]

theorem lookup_codeNamed (entries : List (Text × Value)) (wanted : Text) :
    (codeNamed entries).lookup (CodeText.ofText wanted) = entries.lookup wanted := by
  induction entries with
  | nil => rfl
  | cons entry entries induction =>
      rw [codeNamed, List.map_cons, lookup_cons_eq_ite, List.lookup_cons]
      by_cases same : wanted = entry.1
      · rw [if_pos (CodeText.ofText_inj.2 same), beq_iff_eq.2 same]
      · rw [if_neg fun equal => same (CodeText.ofText_inj.1 equal), beq_eq_false_iff_ne.2 same]
        exact induction

theorem lowerNames_codeNamed (entries : List (Text × Value)) :
    lowerNames (codeNamed entries) = storeArguments (codeNamed (keyed entries)) := by
  rw [lowerNames, codeNamed, codeNamed, keyed, List.map_map, List.map_map]
  refine congrArg storeArguments (List.map_congr_left fun entry _ => ?_)
  exact Prod.ext (CodeText.lower_ofText entry.1) rfl

/-! ## Known arguments of a configuration -/

section Known

variable (entries : List (Text × Value))

/-- The names that a configuration keeps are those of texts in lower case. -/
theorem exists_lower_of_mem_lowerNames :
    ∀ argument ∈ lowerNames (codeNamed entries),
      ∃ name, argument.1 = CodeText.ofText (Text.lower name) := by
  rw [lowerNames_codeNamed]
  refine forall_mem_storeArguments (List.forall_mem_map.2 (List.forall_mem_map.2 ?_))
  exact fun entry _ => ⟨entry.1, rfl⟩

theorem keyed_textNamed_lowerNames :
    keyed (textNamed (lowerNames (codeNamed entries))) =
      textNamed (lowerNames (codeNamed entries)) := by
  refine (List.map_congr_left ?_).trans (List.map_id _)
  refine List.forall_mem_map.2 fun argument member => ?_
  rcases exists_lower_of_mem_lowerNames entries argument member with ⟨name, same⟩
  refine Prod.ext ?_ rfl
  show Text.lower argument.1.joined = argument.1.joined
  rw [same, CodeText.joined_ofText, Text.lower_lower]

/-- Of the values of a key the configuration keeps the last one. -/
theorem lookup_textNamed_lowerNames (wanted : Text) :
    (textNamed (lowerNames (codeNamed entries))).lookup wanted =
      (keyed entries.reverse).lookup wanted := by
  have plain : ∀ argument ∈ lowerNames (codeNamed entries),
      ∃ name, argument.1 = CodeText.ofText name := by
    intro argument member
    rcases exists_lower_of_mem_lowerNames entries argument member with ⟨name, same⟩
    exact ⟨Text.lower name, same⟩
  calc
    (textNamed (lowerNames (codeNamed entries))).lookup wanted =
        (lowerNames (codeNamed entries)).lookup (CodeText.ofText wanted) := by
      rw [← lookup_codeNamed, codeNamed_textNamed plain]
    _ = (codeNamed (keyed entries)).reverse.lookup (CodeText.ofText wanted) := by
      rw [lowerNames_codeNamed, lookup_storeArguments]
    _ = (keyed entries.reverse).lookup wanted := by
      rw [codeNamed, ← List.map_reverse, keyed, ← List.map_reverse]
      exact lookup_codeNamed (keyed entries.reverse) wanted

/-- Behind a configuration a registry has the last of the given values of a name. -/
theorem get?_withFixedArguments_lowerNames (name : Text) :
    (Registry.withFixedArguments (textNamed (lowerNames (codeNamed entries)))).get? name =
      (Registry.withFixedArguments entries.reverse).get? name := by
  rw [Registry.get?_withFixedArguments, Registry.get?_withFixedArguments,
    keyed_textNamed_lowerNames, lookup_textNamed_lowerNames]

end Known

/-! ## The two ways to a registry -/

theorem checkSeeding_known_args
    {given : List (Text × Value)}
    (distinct : (given.map Prod.fst).Nodup)
    (valued : ∀ entry ∈ given, entry.2.IsArgument)
    (place : List Text) :
    checkSeeding place (entriesOf [("known_args", argumentsDatum (codeNamed given))]) =
      .ok (defaults.recordCount, lowerNames (codeNamed given)) := by
  have names : (codeNamed given).map Prod.fst = (given.map Prod.fst).map CodeText.ofText := by
    rw [codeNamed, List.map_map, List.map_map]
    rfl
  have distinctCodes : ((codeNamed given).map Prod.fst).Nodup := by
    rw [names]
    exact distinct.map fun _ _ => CodeText.ofText_inj.1
  rw [checkSeeding, checkField_of_ne place (by decide), checkField_self,
    checkArguments_argumentsDatum distinctCodes (List.forall_mem_map.2 valued)]
  rfl

/-- A key has a first value exactly if it has a last one. -/
theorem isSome_lookup_reverse (entries : List (Text × Value)) (wanted : Text) :
    (entries.reverse.lookup wanted).isSome = (entries.lookup wanted).isSome := by
  rw [Bool.eq_iff_iff, List.lookup_isSome_iff, List.lookup_isSome_iff]
  simp only [List.mem_reverse]

/-- What stands behind two options makes no difference to them if both are there or none is. -/
theorem or_eq_or_iff
    {first last fallback : Option Value}
    (known : last.isSome = first.isSome) :
    last.or fallback = first.or fallback ↔ last = first := by
  cases first <;> cases last <;> simp at known ⊢

/--
Arguments that go through a configuration have in the registry of a run the value of the last of the
names with one lower-case form.  So they mean the same there as in a registry that they are put into
directly exactly if the first and the last value of every key are the same.
-/
theorem known_arguments_agree_iff
    {given : List (Text × Value)}
    (distinct : (given.map Prod.fst).Nodup)
    (valued : ∀ entry ∈ given, entry.2.IsArgument)
    (place : List Text) :
    ∃ seeding,
      checkSeeding place (entriesOf [("known_args", argumentsDatum (codeNamed given))]) =
          .ok seeding ∧
        let configured :=
          Registry.withFixedArguments
            (Configuration.knownArguments { recordCount := seeding.1, arguments := seeding.2 })
        let direct := Registry.withFixedArguments given
        (∀ name, configured.get? name = (Registry.withFixedArguments given.reverse).get? name) ∧
          ((∀ name, configured.get? name = direct.get? name) ↔
            ∀ name, (keyed given).reverse.lookup (Registry.key name) =
              (keyed given).lookup (Registry.key name)) := by
  refine ⟨_, checkSeeding_known_args distinct valued place,
    get?_withFixedArguments_lowerNames given, forall_congr' fun name => ?_⟩
  have configured := get?_withFixedArguments_lowerNames given name
  have reversed : keyed given.reverse = (keyed given).reverse := List.map_reverse
  show (Registry.withFixedArguments (textNamed (lowerNames (codeNamed given)))).get? name = _ ↔ _
  rw [configured, Registry.get?_withFixedArguments, Registry.get?_withFixedArguments, reversed]
  exact or_eq_or_iff (isSome_lookup_reverse _ _)

/-- Three spellings of a name, the first and the last of which have one value. -/
def threeSpellings : List (Text × Value) :=
  [("uid".toList, .integer 1), ("UID".toList, .integer 2), ("Uid".toList, .integer 1)]

theorem known_arguments_agree_iff_threeSpellings :
    (threeSpellings.map Prod.fst).Nodup ∧
      (∀ entry ∈ threeSpellings, entry.2.IsArgument) ∧
      ∃ seeding,
        checkSeeding [] (entriesOf [("known_args", argumentsDatum (codeNamed threeSpellings))]) =
            .ok seeding ∧
          (∀ name,
            (Registry.withFixedArguments
                (Configuration.knownArguments
                  { recordCount := seeding.1, arguments := seeding.2 })).get? name =
              (Registry.withFixedArguments threeSpellings.reverse).get? name) ∧
          ∀ name,
            (Registry.withFixedArguments
                (Configuration.knownArguments
                  { recordCount := seeding.1, arguments := seeding.2 })).get? name =
              (Registry.withFixedArguments threeSpellings).get? name := by
  have distinct : (threeSpellings.map Prod.fst).Nodup := by
    decide
  have valued : ∀ entry ∈ threeSpellings, entry.2.IsArgument := by
    simp [threeSpellings, Value.IsArgument]
  have sameEnds : (keyed threeSpellings).reverse = keyed threeSpellings := by
    decide +kernel
  rcases known_arguments_agree_iff distinct valued [] with ⟨seeding, checked, last, agree⟩
  exact ⟨distinct, valued, seeding, checked, last, agree.2 fun name => by rw [sameEnds]⟩

/-- Two spellings of a name with different values. -/
def twoSpellings : List (Text × Value) :=
  [("locale".toList, .integer 1), ("Locale".toList, .integer 2)]

/-- Not all arguments mean the same through a configuration and directly. -/
theorem known_arguments_differ_twoSpellings :
    ¬ ∀ (given : List (Text × Value)) (seeding : Int × List (CodeText × Value)),
        (given.map Prod.fst).Nodup → (∀ entry ∈ given, entry.2.IsArgument) →
          checkSeeding [] (entriesOf [("known_args", argumentsDatum (codeNamed given))]) =
              .ok seeding →
            ∀ name,
              (Registry.withFixedArguments
                  (Configuration.knownArguments
                    { recordCount := seeding.1, arguments := seeding.2 })).get? name =
                (Registry.withFixedArguments given).get? name := by
  intro always
  have distinct : (twoSpellings.map Prod.fst).Nodup := by
    decide
  have valued : ∀ entry ∈ twoSpellings, entry.2.IsArgument := by
    simp [twoSpellings, Value.IsArgument]
  have same :
      (Registry.withFixedArguments (textNamed (lowerNames (codeNamed twoSpellings)))).get?
          "locale".toList =
        (Registry.withFixedArguments twoSpellings).get? "locale".toList :=
    always _ _ distinct valued (checkSeeding_known_args distinct valued []) _
  rw [get?_withFixedArguments_lowerNames] at same
  exact absurd same (by decide +kernel)

end ProcedureAudit.Config
