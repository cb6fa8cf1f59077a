import Mathlib.Data.List.Induction
import Mathlib.Data.List.Nodup
import ProcedureAudit.Config.Override
import ProcedureAudit.Proofs.Text.LowerCase

/-!
# Known arguments of a configuration

Arguments are stored by name: a name keeps its place, and of several values the last one counts.
Entries with distinct names are stored as they are.  A check puts all names into lower case, so the
arguments that it lets through have distinct names in lower case, and values of three kinds.
-/

namespace ProcedureAudit

/-- Whether a value can be that of a known argument: a text, a whole number or a number. -/
def Value.IsArgument : Value → Prop
  | .text _ => True
  | .integer _ => True
  | .real _ => True
  | _ => False

theorem CodeText.ofText_inj {text other : Text} : ofText text = ofText other ↔ text = other := by
  constructor
  · intro same
    rw [← joined_ofText text, same, joined_ofText]
  · rintro rfl
    rfl

namespace Config

open Yaml (Datum)

/-! ## Results of several checks -/

namespace Checked

theorem both_eq_ok_iff
    {First Second : Type}
    {first : Checked First}
    {second : Checked Second}
    {pair : First × Second} :
    both first second = .ok pair ↔ first = .ok pair.1 ∧ second = .ok pair.2 := by
  rcases pair with ⟨left, right⟩
  cases first <;> cases second <;> simp [both]

theorem map_eq_ok_iff
    {Given Result : Type}
    {checked : Checked Given}
    {change : Given → Result}
    {result : Result} :
    checked.map change = .ok result ↔ ∃ given, checked = .ok given ∧ change given = result := by
  cases checked <;> simp [Except.map]

/-- All checks succeed exactly if each one does. -/
theorem all_eq_ok_iff
    {Result : Type}
    {checks : List (Checked Result)}
    {results : List Result} :
    all checks = .ok results ↔ checks = results.map .ok := by
  induction checks generalizing results with
  | nil => cases results <;> simp [all]
  | cons check checks induction =>
      rw [all, map_eq_ok_iff]
      cases results with
      | nil => simp
      | cons result results =>
          rw [List.map_cons, List.cons.injEq, ← induction]
          constructor
          · rintro ⟨⟨first, rest⟩, checked, same⟩
            obtain ⟨rfl, rfl⟩ := List.cons.inj same
            exact both_eq_ok_iff.1 checked
          · exact fun checked => ⟨(result, results), both_eq_ok_iff.2 checked, rfl⟩

end Checked

/-! ## Storing arguments -/

section Storing

variable {name : CodeText} {value : Value} {entries : List (CodeText × Value)}

theorem names_storeArgument :
    (storeArgument name value entries).map Prod.fst =
      if name ∈ entries.map Prod.fst then entries.map Prod.fst
      else entries.map Prod.fst ++ [name] := by
  induction entries with
  | nil => rfl
  | cons entry entries induction =>
      rw [storeArgument]
      by_cases same : entry.1 = name
      · simp [same]
      · have other : name ≠ entry.1 := fun equal => same equal.symm
        rw [if_neg same, List.map_cons, induction, List.map_cons]
        simp only [List.mem_cons, or_iff_right other]
        split <;> rfl

theorem storeArgument_of_notMem (absent : name ∉ entries.map Prod.fst) :
    storeArgument name value entries = entries ++ [(name, value)] := by
  induction entries with
  | nil => rfl
  | cons entry entries induction =>
      rw [List.map_cons, List.mem_cons, not_or] at absent
      rw [storeArgument, if_neg fun same => absent.1 same.symm, induction absent.2]
      rfl

theorem forall_mem_storeArgument
    {property : CodeText × Value → Prop}
    (holds : property (name, value))
    (hold : ∀ entry ∈ entries, property entry) :
    ∀ entry ∈ storeArgument name value entries, property entry := by
  induction entries with
  | nil => exact List.forall_mem_singleton.2 holds
  | cons entry entries induction =>
      rcases List.forall_mem_cons.1 hold with ⟨first, later⟩
      rw [storeArgument]
      split
      · rename_i same
        exact List.forall_mem_cons.2 ⟨same ▸ holds, later⟩
      · exact List.forall_mem_cons.2 ⟨first, induction later⟩

theorem lookup_cons_eq_ite (entry : CodeText × Value) (wanted : CodeText) :
    (entry :: entries).lookup wanted =
      if wanted = entry.1 then some entry.2 else entries.lookup wanted := by
  rw [List.lookup_cons]
  by_cases same : wanted = entry.1
  · rw [if_pos same, beq_iff_eq.2 same]
  · rw [if_neg same, beq_eq_false_iff_ne.2 same]

/-- The value of a name is the one that was stored last. -/
theorem lookup_storeArgument (wanted : CodeText) :
    (storeArgument name value entries).lookup wanted =
      if wanted = name then some value else entries.lookup wanted := by
  induction entries with
  | nil => exact lookup_cons_eq_ite (name, value) wanted
  | cons entry entries induction =>
      rw [storeArgument, lookup_cons_eq_ite]
      split
      · rename_i present
        rw [lookup_cons_eq_ite, present]
        split <;> rfl
      · rename_i different
        rw [lookup_cons_eq_ite, induction]
        by_cases first : wanted = entry.1
        · rw [if_pos first, if_pos first, if_neg fun same => different (first.symm.trans same)]
        · rw [if_neg first, if_neg first]

/-! ## Storing several arguments -/

theorem storeArguments_concat (entries : List (CodeText × Value)) (entry : CodeText × Value) :
    storeArguments (entries ++ [entry]) =
      storeArgument entry.1 entry.2 (storeArguments entries) :=
  List.foldl_append

theorem nodup_names_storeArguments (entries : List (CodeText × Value)) :
    ((storeArguments entries).map Prod.fst).Nodup := by
  induction entries using List.reverseRecOn with
  | nil => exact List.nodup_nil
  | append_singleton entries entry induction =>
      rw [storeArguments_concat, names_storeArgument]
      split
      · exact induction
      · rename_i absent
        exact List.nodup_append.2
          ⟨induction, List.nodup_singleton _, fun name member other last same =>
            absent (by rwa [← List.mem_singleton.1 last, ← same])⟩

theorem forall_mem_storeArguments
    {property : CodeText × Value → Prop}
    (hold : ∀ entry ∈ entries, property entry) :
    ∀ entry ∈ storeArguments entries, property entry := by
  induction entries using List.reverseRecOn with
  | nil => exact fun _ => nofun
  | append_singleton entries entry induction =>
      rcases List.forall_mem_append.1 hold with ⟨earlier, last⟩
      rw [storeArguments_concat]
      exact forall_mem_storeArgument (List.forall_mem_singleton.1 last) (induction earlier)

/-- Of several values of a name the last one is stored. -/
theorem lookup_storeArguments (wanted : CodeText) :
    (storeArguments entries).lookup wanted = entries.reverse.lookup wanted := by
  induction entries using List.reverseRecOn with
  | nil => rfl
  | append_singleton entries entry induction =>
      rw [storeArguments_concat, lookup_storeArgument, induction, List.reverse_append,
        List.reverse_singleton, List.singleton_append, lookup_cons_eq_ite]

/-- Entries with distinct names are stored as they are. -/
theorem storeArguments_of_nodup (distinct : (entries.map Prod.fst).Nodup) :
    storeArguments entries = entries := by
  induction entries using List.reverseRecOn with
  | nil => rfl
  | append_singleton entries entry induction =>
      rw [List.map_append, List.nodup_append] at distinct
      rcases distinct with ⟨earlier, -, apart⟩
      rw [storeArguments_concat, induction earlier]
      exact storeArgument_of_notMem fun member =>
        apart entry.1 member entry.1 (List.mem_singleton_self _) rfl

end Storing

/-! ## Arguments that a check lets through -/

/-- Arguments as they are after a check: distinct names in lower case, and values of three kinds. -/
structure LawfulArguments (arguments : List (CodeText × Value)) : Prop where
  distinct : (arguments.map Prod.fst).Nodup
  lowered : ∀ entry ∈ arguments, entry.1.lower = entry.1
  valued : ∀ entry ∈ arguments, entry.2.IsArgument

section Lawful

variable {arguments : List (CodeText × Value)}

/-- Names that were put into lower case are in lower case. -/
theorem lawfulArguments_lowerNames (valued : ∀ entry ∈ arguments, entry.2.IsArgument) :
    LawfulArguments (lowerNames arguments) where
  distinct := nodup_names_storeArguments _
  lowered :=
    forall_mem_storeArguments
      (List.forall_mem_map.2 fun (name, _) _ => CodeText.lower_lower name)
  valued := forall_mem_storeArguments (List.forall_mem_map.2 valued)

theorem LawfulArguments.lowerNames_eq_self (lawful : LawfulArguments arguments) :
    lowerNames arguments = arguments := by
  refine Eq.trans (congrArg storeArguments ?_) (storeArguments_of_nodup lawful.distinct)
  refine Eq.trans (List.map_congr_left fun entry member => ?_) (List.map_id arguments)
  exact Prod.ext (lawful.lowered entry member) rfl

theorem isArgument_of_checkArgument
    {place : List Text}
    {datum : Datum}
    {value : Value}
    (checked : checkArgument place datum = .ok value) :
    value.IsArgument := by
  unfold checkArgument noArgument at checked
  split at checked
  case h_6 =>
    split at checked
    · obtain rfl := Except.ok.inj checked
      trivial
    · contradiction
  case h_7 => contradiction
  all_goals
    obtain rfl := Except.ok.inj checked
    trivial

theorem lawfulArguments_of_checkArguments
    {place : List Text}
    {datum : Datum}
    (checked : checkArguments place datum = .ok arguments) :
    LawfulArguments arguments := by
  unfold checkArguments at checked
  split at checked
  · rename_i entries
    obtain ⟨given, all, rfl⟩ := Checked.map_eq_ok_iff.1 checked
    have each := Checked.all_eq_ok_iff.1 all
    refine lawfulArguments_lowerNames (forall_mem_storeArguments fun entry member => ?_)
    obtain ⟨source, -, checked⟩ := List.mem_map.1
      (each ▸ List.mem_map_of_mem member : Except.ok entry ∈ entries.map (checkEntry place))
    unfold checkEntry at checked
    split at checked
    · exact isArgument_of_checkArgument (Checked.both_eq_ok_iff.1 checked).2
    · contradiction
  · contradiction

/-! ## Arguments that are checked again -/

theorem checkArgument_argumentDatum
    {value : Value}
    (valued : value.IsArgument)
    (place : List Text) :
    checkArgument place (argumentDatum value) = .ok value := by
  cases value with
  | text content => exact congrArg (Except.ok ∘ Value.text) (CodeText.joined_ofText content)
  | integer number => rfl
  | real number => rfl
  | null => exact valued.elim
  | boolean truth => exact valued.elim
  | bytes content => exact valued.elim

/-- A mapping is checked entry by entry, and then its names are put into lower case. -/
theorem checkArguments_argumentsDatum
    (distinct : (arguments.map Prod.fst).Nodup)
    (valued : ∀ entry ∈ arguments, entry.2.IsArgument)
    (place : List Text) :
    checkArguments place (argumentsDatum arguments) = .ok (lowerNames arguments) := by
  have entries : argumentsDatum arguments =
      .mapping
        (arguments.map fun argument =>
          (.atom (.string argument.1), argumentDatum argument.2)) :=
    rfl
  have each :
      (arguments.map fun argument =>
          ((.atom (.string argument.1), argumentDatum argument.2) : Datum × Datum)).map
            (checkEntry place) =
        arguments.map .ok := by
    rw [List.map_map]
    exact List.map_congr_left fun entry member =>
      Checked.both_eq_ok_iff.2 ⟨rfl, checkArgument_argumentDatum (valued entry member) _⟩
  rw [entries, checkArguments, Checked.all_eq_ok_iff.2 each]
  exact congrArg (Except.ok ∘ lowerNames) (storeArguments_of_nodup distinct)

end Lawful

end Config

end ProcedureAudit
