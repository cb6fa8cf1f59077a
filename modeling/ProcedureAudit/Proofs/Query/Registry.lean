import ProcedureAudit.Query.Registry

/-!
# First writes

What a name means is settled by its first write.  After any number of writes, a name that was bound
before them keeps its value, and any other name has the value of the first write to its key.  The
entries are only ever extended at their end: by those of several distinct names that were not bound.
-/

namespace ProcedureAudit.Registry

/-- Entries under their keys. -/
def keyed (entries : List (Text × Value)) : List (Text × Value) :=
  entries.map fun (name, value) => (key name, value)

/-! ## One write -/

/-- A value that is bound to a name is a value of an entry. -/
theorem exists_entry_of_get?
    {registry : Registry}
    {name : Text}
    {value : Value}
    (bound : registry.get? name = some value) :
    ∃ entry ∈ registry.entries, entry.2 = value := by
  rcases List.lookup_eq_some_iff.1 bound with ⟨before, after, split, -⟩
  exact ⟨_, split ▸ List.mem_append_right _ (List.mem_cons_self ..), rfl⟩

theorem get?_record (registry : Registry) (name other : Text) (value : Value) :
    (registry.record name value).get? other =
      (registry.get? other).or ([(key name, value)].lookup (key other)) := by
  unfold record contains
  by_cases bound : (registry.get? name).isSome
  · rw [if_pos bound]
    by_cases same : key other = key name
    · have known : (registry.get? other).isSome := by
        unfold get? at bound ⊢
        rw [same]
        exact bound
      rw [Option.or_of_isSome known]
    · have different : (key other == key name) = false := by simpa using same
      rw [List.lookup_cons, different, List.lookup_nil, Option.or_none]
  · rw [if_neg bound]
    exact List.lookup_append

/-! ## Several writes -/

/-- The first of all writes counts, after what was bound before. -/
theorem get?_recordAll (registry : Registry) (entries : List (Text × Value)) (name : Text) :
    (registry.recordAll entries).get? name =
      (registry.get? name).or ((keyed entries).lookup (key name)) := by
  induction entries generalizing registry with
  | nil =>
      rw [keyed, List.map_nil, List.lookup_nil, Option.or_none]
      rfl
  | cons entry entries induction =>
      calc
        (registry.recordAll (entry :: entries)).get? name =
            ((registry.record entry.1 entry.2).recordAll entries).get? name :=
          rfl
        _ = ((registry.get? name).or ([(key entry.1, entry.2)].lookup (key name))).or
            ((keyed entries).lookup (key name)) := by
          rw [induction, get?_record]
        _ = (registry.get? name).or ((keyed (entry :: entries)).lookup (key name)) := by
          rw [Option.or_assoc, ← List.lookup_append]
          rfl

theorem recordAll_append (registry : Registry) (first second : List (Text × Value)) :
    registry.recordAll (first ++ second) = (registry.recordAll first).recordAll second :=
  List.foldl_append

/-! ## Entries stay in front -/

theorem entries_isPrefix_record (registry : Registry) (name : Text) (value : Value) :
    registry.entries <+: (registry.record name value).entries := by
  unfold record
  split
  · exact List.prefix_refl _
  · exact List.prefix_append _ _

theorem entries_isPrefix_recordAll (registry : Registry) (entries : List (Text × Value)) :
    registry.entries <+: (registry.recordAll entries).entries := by
  induction entries generalizing registry with
  | nil => exact List.prefix_refl _
  | cons entry entries induction =>
      exact (registry.entries_isPrefix_record entry.1 entry.2).trans (induction _)

/-! ## What all values have -/

section Values

variable {property : Value → Prop} {registry : Registry}

theorem getD_of_forall_entries
    (known : ∀ entry ∈ registry.entries, property entry.2)
    {fallback : Value}
    (absent : property fallback)
    (name : Text) :
    property (registry.getD name fallback) := by
  rw [getD]
  cases bound : registry.get? name with
  | none => exact absent
  | some value =>
      rcases exists_entry_of_get? bound with ⟨entry, member, rfl⟩
      exact known entry member

theorem forall_entries_record
    (known : ∀ entry ∈ registry.entries, property entry.2)
    (name : Text)
    {value : Value}
    (holds : property value) :
    ∀ entry ∈ (registry.record name value).entries, property entry.2 := by
  unfold record
  split
  · exact known
  · exact List.forall_mem_append.2 ⟨known, List.forall_mem_singleton.2 holds⟩

theorem forall_entries_recordAll
    (known : ∀ entry ∈ registry.entries, property entry.2)
    {entries : List (Text × Value)}
    (hold : ∀ entry ∈ entries, property entry.2) :
    ∀ entry ∈ (registry.recordAll entries).entries, property entry.2 := by
  induction entries generalizing registry with
  | nil => exact known
  | cons entry entries induction =>
      rcases List.forall_mem_cons.1 hold with ⟨first, later⟩
      exact induction (forall_entries_record known entry.1 first) later

end Values

/-! ## Names that are bound -/

theorem contains_recordAll
    {entries : List (Text × Value)}
    {entry : Text × Value}
    (member : entry ∈ entries)
    (registry : Registry) :
    (registry.recordAll entries).contains entry.1 = true := by
  have written : ((keyed entries).lookup (key entry.1)).isSome = true := by
    rw [List.lookup_isSome_iff]
    exact ⟨(key entry.1, entry.2), List.mem_map.2 ⟨entry, member, rfl⟩, beq_self_eq_true _⟩
  rw [contains, get?_recordAll, Option.isSome_or, written, Bool.or_true]

/-- Writes to names that are bound already have no effect. -/
theorem recordAll_of_forall_contains
    {registry : Registry}
    {entries : List (Text × Value)}
    (bound : ∀ entry ∈ entries, registry.contains entry.1 = true) :
    registry.recordAll entries = registry := by
  induction entries with
  | nil => rfl
  | cons entry entries induction =>
      rw [List.forall_mem_cons] at bound
      have first : registry.record entry.1 entry.2 = registry := if_pos bound.1
      calc
        registry.recordAll (entry :: entries) =
            (registry.record entry.1 entry.2).recordAll entries :=
          rfl
        _ = registry := by rw [first, induction bound.2]

theorem contains_record_of_ne
    {registry : Registry}
    {name other : Text}
    (differs : key other ≠ key name)
    (value : Value) :
    (registry.record name value).contains other = registry.contains other := by
  have elsewhere : (key other == key name) = false := by simpa using differs
  rw [contains, get?_record, List.lookup_cons, elsewhere, List.lookup_nil, Option.or_none, contains]

/-- The registry with those of the entries at its end whose names are not bound in it. -/
def extendedBy (registry : Registry) (entries : List (Text × Value)) : Registry where
  entries := registry.entries ++ entries.filter fun (name, _) => !registry.contains name

/-- Distinct names in lower case are bound by their writes unless they were bound before. -/
theorem recordAll_eq_extendedBy
    {entries : List (Text × Value)}
    (lowered : keyed entries = entries)
    (distinct : (entries.map Prod.fst).Nodup)
    (registry : Registry) :
    registry.recordAll entries = registry.extendedBy entries := by
  induction entries generalizing registry with
  | nil => simp [recordAll, extendedBy]
  | cons entry entries induction =>
      rcases entry with ⟨name, value⟩
      rcases List.cons.inj lowered with ⟨first, lowered⟩
      have keyName : key name = name := congrArg Prod.fst first
      rw [List.map_cons, List.nodup_cons] at distinct
      have others : ∀ entry ∈ entries,
          (registry.record name value).contains entry.1 = registry.contains entry.1 := by
        intro entry member
        have keyEntry : key entry.1 = entry.1 :=
          congrArg Prod.fst
            (List.map_inj_left.1 (lowered.trans (List.map_id entries).symm) entry member)
        refine contains_record_of_ne ?_ value
        rw [keyEntry, keyName]
        intro same
        exact distinct.1 (List.mem_map.2 ⟨entry, member, same⟩)
      calc
        registry.recordAll ((name, value) :: entries) =
            (registry.record name value).extendedBy entries :=
          induction lowered distinct.2 _
        _ = { entries := (registry.record name value).entries ++
                entries.filter fun entry => !registry.contains entry.1 } := by
          rw [extendedBy,
            List.filter_congr fun entry member => congrArg (! ·) (others entry member)]
        _ = registry.extendedBy ((name, value) :: entries) := by
          by_cases bound : registry.contains name = true
          · simp [extendedBy, record, bound]
          · simp [extendedBy, record, bound, keyName]

end ProcedureAudit.Registry
