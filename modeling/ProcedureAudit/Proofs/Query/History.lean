import Mathlib.Data.List.Induction
import ProcedureAudit.Proofs.Query.Registry
import ProcedureAudit.Proofs.Text.LowerCase
import ProcedureAudit.Query.Normal

/-!
# Histories of a registry

A registry is written to, read and used for substitutions in any order, with names in any letter
case.  Whatever the history is, it amounts to the writes in it: the keys are the lower-case forms of
the names written, in the order of their first writes, and the value of a key is the one of its
first write ever after.
-/

namespace ProcedureAudit.Registry

/-! ## Operations -/

/-- What can be done with a registry. -/
inductive Operation where
  | setDefault (name : Text) (value : Value)
  | get (name : Text) (fallback : Value)
  | item (name : Text)
  | contains (name : Text)
  | substitute (select : Text)
deriving DecidableEq, Repr

/-- What an operation answers. -/
inductive Answer where
  | value (value : Value)
  /-- There is no value under a key. -/
  | missing (key : Text)
  | truth (truth : Bool)
  | text (text : Text)
deriving DecidableEq, Repr

/-- The answer to who wants what is stored under a key, and nothing else. -/
def Answer.ofItem (key : Text) : Option Value → Answer
  | some stored => .value stored
  | none => .missing key

/-- Perform an operation: answer it, and change the registry. -/
def perform (registry : Registry) : Operation → Answer × Registry
  | .setDefault name value =>
    (.ofItem (key name) ((registry.record name value).get? name), registry.record name value)
  | .get name fallback => (.value (registry.getD name fallback), registry)
  | .item name => (.ofItem (key name) (registry.get? name), registry)
  | .contains name => (.truth (registry.contains name), registry)
  | .substitute select => (.text (Query.substitutePlaceholders select registry), registry)

/-- Perform several operations. -/
def performAll (registry : Registry) : List Operation → List Answer × Registry
  | [] => ([], registry)
  | operation :: operations =>
    let (answer, registry) := registry.perform operation
    let (answers, registry) := registry.performAll operations
    (answer :: answers, registry)

/-- What an operation writes. -/
def Operation.write? : Operation → Option (Text × Value)
  | .setDefault name value => some (name, value)
  | _ => none

/-! ## Histories amount to their writes -/

theorem perform_snd (registry : Registry) (operation : Operation) :
    (registry.perform operation).2 = registry.recordAll operation.write?.toList := by
  cases operation <;> rfl

theorem performAll_snd (registry : Registry) (operations : List Operation) :
    (registry.performAll operations).2 =
      registry.recordAll (operations.filterMap Operation.write?) := by
  induction operations generalizing registry with
  | nil => rfl
  | cons operation operations induction =>
      calc
        (registry.performAll (operation :: operations)).2 =
            ((registry.perform operation).2.performAll operations).2 :=
          rfl
        _ = (registry.recordAll operation.write?.toList).recordAll
            (operations.filterMap Operation.write?) := by
          rw [induction, perform_snd]
        _ = registry.recordAll ((operation :: operations).filterMap Operation.write?) := by
          rw [← recordAll_append, List.filterMap_cons]
          cases operation.write? <;> rfl

/-- An operation answers according to what was done before it. -/
theorem performAll_fst_append
    (registry : Registry)
    (before : List Operation)
    (operation : Operation)
    (after : List Operation) :
    (registry.performAll (before ++ operation :: after)).1[before.length]? =
      some ((registry.performAll before).2.perform operation).1 := by
  induction before generalizing registry with
  | nil => rfl
  | cons first before induction => exact induction (registry.perform first).2

/-! ## Keys in the order of their first writes -/

theorem eraseDups_concat (names : List Text) (name : Text) :
    (names ++ [name]).eraseDups =
      if name ∈ names then names.eraseDups else names.eraseDups ++ [name] := by
  rw [List.eraseDups_append, List.removeAll]
  by_cases known : name ∈ names
  · simp [known]
  · simp [known, List.eraseDups_cons]

theorem contains_iff_mem_names {registry : Registry} {name : Text} :
    registry.contains name = true ↔ key name ∈ registry.names := by
  rw [contains, get?, List.lookup_isSome_iff, names, List.mem_map]
  exact exists_congr fun entry => and_congr_right fun _ => beq_iff_eq.trans eq_comm

theorem names_record (registry : Registry) (name : Text) (value : Value) :
    (registry.record name value).names =
      if key name ∈ registry.names then registry.names else registry.names ++ [key name] := by
  rw [record]
  by_cases known : key name ∈ registry.names
  · rw [if_pos (contains_iff_mem_names.2 known), if_pos known]
  · rw [if_neg fun bound => known (contains_iff_mem_names.1 bound), if_neg known, names,
      List.map_append]
    rfl

theorem names_ofList (written : List (Text × Value)) :
    (ofList written).names = ((keyed written).map Prod.fst).eraseDups := by
  induction written using List.reverseRecOn with
  | nil => rfl
  | append_singleton written entry induction =>
      have last : ofList (written ++ [entry]) = (ofList written).record entry.1 entry.2 :=
        recordAll_append empty written [entry]
      have keys : (keyed (written ++ [entry])).map Prod.fst =
          (keyed written).map Prod.fst ++ [key entry.1] := by
        rw [keyed, List.map_append, List.map_append]
        rfl
      rw [last, names_record, induction, keys, eraseDups_concat]
      simp only [List.mem_eraseDups]

/-! ## Readings of a name -/

/-- All ways to read a name agree on what is stored for it. -/
structure Reads (registry : Registry) (name : Text) (stored : Option Value) : Prop where
  get : ∀ fallback,
    (registry.perform (.get name fallback)).1 = .value (stored.getD fallback)
  item : (registry.perform (.item name)).1 = .ofItem (Text.lower name) stored
  contains : (registry.perform (.contains name)).1 = .truth stored.isSome
  /-- A placeholder with the name gets the literal of what is stored. -/
  substitute : ∀ delimiter,
    (Query.Piece.argument delimiter name).fill registry =
      delimiter :: (stored.getD .null).literal
  /-- A name may have been put into lower case before, like the names of placeholders. -/
  again : registry.get? (Text.lower name) = stored

/-- Names with one lower-case form are read alike. -/
theorem get?_congr {registry : Registry} {name other : Text} (same : key other = key name) :
    registry.get? other = registry.get? name := by
  rw [get?, get?, same]

theorem reads_get? (registry : Registry) (name : Text) :
    registry.Reads name (registry.get? name) where
  get _ := rfl
  item := rfl
  contains := rfl
  substitute _ := rfl
  again := get?_congr (Text.lower_lower name)

/-! ## Keys that are written once -/

/-- A registry is what the first writes to its keys have made of it. -/
structure WrittenOnce (registry : Registry) (written : List (Text × Value)) : Prop where
  /-- The keys are in lower case. -/
  lower : ∀ name ∈ registry.names, Text.lower name = name
  /-- The keys are in the order of their first writes. -/
  ordered : registry.names = ((keyed written).map Prod.fst).eraseDups
  /-- A name, in whatever case, reads as the value of the first write to its lower-case form. -/
  first : ∀ name other, Text.lower other = Text.lower name →
    registry.Reads other ((keyed written).lookup (Text.lower name))

theorem writtenOnce_ofList (written : List (Text × Value)) :
    (ofList written).WrittenOnce written where
  lower name member := by
    rw [names_ofList, List.mem_eraseDups, List.mem_map] at member
    rcases member with ⟨entry, member, rfl⟩
    rcases List.mem_map.1 member with ⟨source, -, rfl⟩
    exact Text.lower_lower source.1
  ordered := names_ofList written
  first name other same := by
    have stored : (ofList written).get? other = (keyed written).lookup (Text.lower name) := by
      rw [get?_congr same, ofList, get?_recordAll]
      rfl
    rw [← stored]
    exact reads_get? _ other

/-! ## Fixed arguments -/

theorem withFixedArguments_eq_ofList (entries : List (Text × Value)) :
    withFixedArguments entries = ofList (entries ++ fixedArguments) :=
  (recordAll_append empty entries fixedArguments).symm

theorem keyed_fixedArguments : keyed fixedArguments = fixedArguments := by
  decide +kernel

theorem lookup_fixedArguments :
    ∀ entry ∈ fixedArguments, fixedArguments.lookup entry.1 = some entry.2 := by
  decide

theorem get?_withFixedArguments (entries : List (Text × Value)) (name : Text) :
    (withFixedArguments entries).get? name =
      ((keyed entries).lookup (Text.lower name)).or
        (fixedArguments.lookup (Text.lower name)) := by
  rw [withFixedArguments, get?_recordAll, ofList, get?_recordAll, keyed_fixedArguments]
  rfl

/-! ## Histories -/

section Histories

variable (fixed : Bool) (entries : List (Text × Value))

/-- The registry of given entries, with the fixed arguments or without them. -/
def starting : Registry :=
  if fixed then withFixedArguments entries else ofList entries

/-- The writes that made the registry of given entries. -/
def startingWrites : List (Text × Value) :=
  if fixed then entries ++ fixedArguments else entries

theorem starting_eq_ofList : starting fixed entries = ofList (startingWrites fixed entries) := by
  cases fixed with
  | false => rfl
  | true => exact withFixedArguments_eq_ofList entries

theorem performAll_starting (operations : List Operation) :
    ((starting fixed entries).performAll operations).2 =
      ofList (startingWrites fixed entries ++ operations.filterMap Operation.write?) := by
  rw [performAll_snd, starting_eq_ofList, ofList, ofList, recordAll_append]

end Histories

/-- What comes later in a history leaves the entries in front. -/
theorem entries_isPrefix_performAll
    (registry : Registry)
    (before after : List Operation) :
    (registry.performAll before).2.entries <+:
      (registry.performAll (before ++ after)).2.entries := by
  rw [performAll_snd, performAll_snd, List.filterMap_append, recordAll_append]
  exact entries_isPrefix_recordAll _ _

/-- A write stores its value, unless there is one already. -/
theorem get?_record_self (registry : Registry) (name : Text) (value : Value) :
    (registry.record name value).get? name = some (registry.getD name value) := by
  rw [get?_record, getD, List.lookup_cons, beq_self_eq_true]
  cases registry.get? name <;> rfl

/-- What is stored under a name stays. -/
theorem get?_performAll_append
    {registry : Registry}
    {before : List Operation}
    {name : Text}
    {value : Value}
    (stored : (registry.performAll before).2.get? name = some value)
    (after : List Operation) :
    (registry.performAll (before ++ after)).2.get? name = some value :=
  (entries_isPrefix_performAll registry before after).lookup_eq_some stored

/-- A write in a history answers what is stored after it and ever since. -/
theorem exists_stored_of_setDefault
    (registry : Registry)
    (before : List Operation)
    (name : Text)
    (value : Value)
    (after : List Operation) :
    ∃ stored,
      (registry.performAll (before ++ .setDefault name value :: after)).1[before.length]? =
          some (.value stored) ∧
        (registry.performAll (before ++ [.setDefault name value])).2.get? name = some stored ∧
        (registry.performAll (before ++ .setDefault name value :: after)).2.get? name =
          some stored := by
  have now : (registry.performAll (before ++ [.setDefault name value])).2 =
      (registry.performAll before).2.record name value := by
    rw [performAll_snd, performAll_snd, List.filterMap_append, recordAll_append]
    rfl
  have stored := get?_record_self (registry.performAll before).2 name value
  refine ⟨(registry.performAll before).2.getD name value, ?_, now ▸ stored, ?_⟩
  · rw [performAll_fst_append, perform, stored]
    rfl
  · have later := get?_performAll_append (now.symm ▸ stored) after
    rwa [List.append_assoc] at later

/--
Over any history, with names in any letter case, each key of a registry is written once.  The keys
are in lower case and in the order of their first writes, what is stored stays, a write answers what
is stored then, and readings of a name depend on its lower-case form only and agree.  Given entries
stand before the fixed arguments, of which those remain that no entry names.
-/
theorem keys_written_once
    (fixed : Bool)
    (entries : List (Text × Value))
    (operations : List Operation) :
    let start := starting fixed entries
    let final := (start.performAll operations).2
    final.WrittenOnce
        (startingWrites fixed entries ++ operations.filterMap Operation.write?) ∧
      (∀ before after, operations = before ++ after →
        (start.performAll before).2.entries <+: final.entries ∧
          ∀ name value, (start.performAll before).2.get? name = some value →
            final.get? name = some value) ∧
      (∀ before operation after, operations = before ++ operation :: after →
        (start.performAll operations).1[before.length]? =
          some ((start.performAll before).2.perform operation).1) ∧
      (∀ before name value after, operations = before ++ .setDefault name value :: after →
        ∃ stored,
          (start.performAll operations).1[before.length]? = some (.value stored) ∧
            (start.performAll (before ++ [.setDefault name value])).2.get? name = some stored ∧
            final.get? name = some stored) ∧
      (∀ name value, (keyed entries).lookup (Text.lower name) = some value →
        (withFixedArguments entries).get? name = some value) ∧
      ∀ argument ∈ fixedArguments, (keyed entries).lookup argument.1 = none →
        (withFixedArguments entries).get? argument.1 = some argument.2 := by
  refine ⟨?_, ?_, ?_, ?_, ?_, ?_⟩
  · rw [performAll_starting]
    exact writtenOnce_ofList _
  · rintro before after rfl
    exact
      ⟨entries_isPrefix_performAll _ before after,
        fun name value stored => get?_performAll_append stored after⟩
  · rintro before operation after rfl
    exact performAll_fst_append _ before operation after
  · rintro before name value after rfl
    exact exists_stored_of_setDefault _ before name value after
  · intro name value first
    rw [get?_withFixedArguments, first, Option.some_or]
  · intro argument member unshadowed
    have lower : Text.lower argument.1 = argument.1 :=
      congrArg Prod.fst
        (List.map_inj_left.1 (keyed_fixedArguments.trans (List.map_id _).symm) argument member)
    rw [get?_withFixedArguments, lower, unshadowed, Option.none_or,
      lookup_fixedArguments argument member]

end ProcedureAudit.Registry
