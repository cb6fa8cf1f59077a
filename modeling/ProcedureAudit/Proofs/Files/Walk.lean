import Mathlib.Data.List.Flatten
import ProcedureAudit.Proofs.Files.Tree

/-!
# The walk over a file tree

The files of a tree are those places where steps through its directories end at a file.  The walk
lists exactly the visible ones among them.  Since the results of the entries of a directory are
ordered by the names of the entries, and below an entry all places go on with its name, the list
as a whole is ordered by steps, and not by the texts of the paths, in which a slash counts.
-/

namespace ProcedureAudit

namespace Node

/-! ## Files and their visibility -/

/-- Steps that lead from a node through its directories to a file. -/
inductive FileAt : Node → List Text → Prop
  | here (octets : List UInt8) : FileAt (.file octets) []
  | inside
      {entries : List (Text × Node)}
      {name : Text}
      {node : Node}
      {steps : List Text}
      (entry : (name, node) ∈ entries)
      (file : FileAt node steps) :
      FileAt (.directory entries) (name :: steps)

theorem fileAt_file_iff {octets : List UInt8} {steps : List Text} :
    FileAt (.file octets) steps ↔ steps = [] := by
  constructor
  · rintro ⟨⟩
    rfl
  · rintro rfl
    exact .here octets

theorem fileAt_directory_iff {entries : List (Text × Node)} {steps : List Text} :
    FileAt (.directory entries) steps ↔
      ∃ name node further, steps = name :: further ∧ (name, node) ∈ entries ∧
        FileAt node further := by
  constructor
  · intro leads
    cases leads with
    | inside entry file => exact ⟨_, _, _, rfl, entry, file⟩
  · rintro ⟨name, node, further, rfl, entry, file⟩
    exact .inside entry file

/--
What lies at the steps below a place can be seen from there: no step begins with a dot, and
neither the steps nor the first ones of them lead to something ignored.
-/
structure Visible (ignored : List Text → Bool) (place steps : List Text) : Prop where
  shown : ∀ step ∈ steps, step.head? ≠ some '.'
  kept : ∀ passed, passed ≠ [] → passed <+: steps → ignored (place ++ passed) = false

theorem visible_nil (ignored : List Text → Bool) (place : List Text) :
    Visible ignored place [] where
  shown := List.forall_mem_nil _
  kept _ moved within := (moved (List.prefix_nil.1 within)).elim

theorem visible_cons_iff
    {ignored : List Text → Bool}
    {place steps : List Text}
    {name : Text} :
    Visible ignored place (name :: steps) ↔
      (isHidden name || ignored (place ++ [name])) = false ∧
        Visible ignored (place ++ [name]) steps := by
  have further (passed : List Text) : place ++ name :: passed = place ++ [name] ++ passed := by
    rw [List.append_assoc, List.singleton_append]
  rw [Bool.or_eq_false_iff, isHidden, decide_eq_false_iff_not]
  constructor
  · rintro ⟨shown, kept⟩
    rw [List.forall_mem_cons] at shown
    refine ⟨⟨shown.1, ?_⟩, ⟨shown.2, ?_⟩⟩
    · exact kept [name] (List.cons_ne_nil _ _) (List.prefix_append [name] steps)
    · intro passed _ within
      rw [← further]
      exact kept (name :: passed) (List.cons_ne_nil _ _)
        ((List.prefix_cons_inj name).2 within)
  · rintro ⟨⟨shownName, keptName⟩, shown, kept⟩
    refine ⟨List.forall_mem_cons.2 ⟨shownName, shown⟩, ?_⟩
    intro passed moved within
    rcases List.prefix_cons_iff.1 within with rfl | ⟨later, rfl, laterWithin⟩
    · exact (moved rfl).elim
    · rw [further]
      by_cases stays : later = []
      · rw [stays, List.append_nil]
        exact keptName
      · exact kept later stays laterWithin

/-! ## Ordering by names -/

/-- A name that is new among ordered ones is put where it keeps them in strict order. -/
theorem insertByName_pairwise
    {α : Type}
    {item : Text × α}
    {items : List (Text × α)}
    (fresh : item.1 ∉ items.map Prod.fst)
    (ordered : items.Pairwise fun first second => first.1 < second.1) :
    (insertByName item items).Pairwise fun first second => first.1 < second.1 := by
  induction items with
  | nil => exact List.pairwise_singleton _ _
  | cons other items induction =>
      rw [List.map_cons, List.mem_cons, not_or] at fresh
      obtain ⟨differs, fresh⟩ := fresh
      rw [List.pairwise_cons] at ordered
      obtain ⟨least, ordered⟩ := ordered
      rw [insertByName]
      split
      · rename_i precedes
        have before : item.1 < other.1 :=
          (Text.precedesOrEquals_iff.1 precedes).resolve_right differs
        refine List.pairwise_cons.2 ⟨?_, List.pairwise_cons.2 ⟨least, ordered⟩⟩
        exact List.forall_mem_cons.2 ⟨before, fun later member =>
          List.lt_trans before (least later member)⟩
      · rename_i follows
        have after : other.1 < item.1 := Text.lt_of_not_precedesOrEquals follows
        refine List.pairwise_cons.2 ⟨?_, induction fresh ordered⟩
        intro later member
        rcases List.mem_cons.1 ((insertByName_perm item items).mem_iff.1 member) with rfl | old
        · exact after
        · exact least later old

theorem orderByName_pairwise
    {α : Type}
    {items : List (Text × α)}
    (distinct : (items.map Prod.fst).Nodup) :
    (orderByName items).Pairwise fun first second => first.1 < second.1 := by
  induction items with
  | nil => exact List.Pairwise.nil
  | cons item items induction =>
      rw [List.map_cons, List.nodup_cons] at distinct
      refine insertByName_pairwise (fun listed => distinct.1 ?_) (induction distinct.2)
      exact ((orderByName_perm items).map Prod.fst).mem_iff.1 listed

/-! ## The visible files -/

theorem visibleEntries_eq_map
    (ignored : List Text → Bool)
    (place : List Text)
    (entries : List (Text × Node)) :
    visibleEntries ignored place entries =
      entries.map fun (name, node) =>
        (name,
          if isHidden name || ignored (place ++ [name]) then
            []
          else
            node.visibleFiles ignored (place ++ [name])) := by
  induction entries with
  | nil => rfl
  | cons entry entries induction => rw [visibleEntries, induction, List.map_cons]

theorem map_fst_visibleEntries
    (ignored : List Text → Bool)
    (place : List Text)
    (entries : List (Text × Node)) :
    (visibleEntries ignored place entries).map Prod.fst = entries.map Prod.fst := by
  rw [visibleEntries_eq_map, List.map_map]
  rfl

/-- The visible files of a directory are those of its entries that are not left out. -/
theorem mem_visibleFiles_directory
    {ignored : List Text → Bool}
    {place found : List Text}
    {entries : List (Text × Node)} :
    found ∈ (Node.directory entries).visibleFiles ignored place ↔
      ∃ name node, (name, node) ∈ entries ∧
        (isHidden name || ignored (place ++ [name])) = false ∧
        found ∈ node.visibleFiles ignored (place ++ [name]) := by
  rw [visibleFiles, List.mem_flatMap]
  simp only [(orderByName_perm _).mem_iff, visibleEntries_eq_map, List.mem_map]
  constructor
  · rintro ⟨-, ⟨⟨name, node⟩, entry, rfl⟩, within⟩
    dsimp only at within
    split at within
    · contradiction
    · rename_i admitted
      exact ⟨name, node, entry, Bool.eq_false_iff.2 admitted, within⟩
  · rintro ⟨name, node, entry, admitted, within⟩
    refine ⟨_, ⟨(name, node), entry, rfl⟩, ?_⟩
    rw [admitted]
    exact within

mutual

/-- What holds of files, and of directories if of all their entries, holds of every node. -/
theorem node_induction
    {motive : Node → Prop}
    (file : ∀ octets, motive (.file octets))
    (directory : ∀ entries, (∀ name node, (name, node) ∈ entries → motive node) →
      motive (.directory entries)) :
    ∀ node, motive node
  | .file octets => file octets
  | .directory entries => directory entries (entries_induction file directory entries)

theorem entries_induction
    {motive : Node → Prop}
    (file : ∀ octets, motive (.file octets))
    (directory : ∀ entries, (∀ name node, (name, node) ∈ entries → motive node) →
      motive (.directory entries)) :
    ∀ entries : List (Text × Node), ∀ name node, (name, node) ∈ entries → motive node
  | [], _, _, member => (List.not_mem_nil member).elim
  | (_, first) :: entries, name, node, member => by
      rcases List.mem_cons.1 member with same | later
      · cases same
        exact node_induction file directory first
      · exact entries_induction file directory entries name node later

end

/-- The walk finds the visible files, and nothing else. -/
theorem mem_visibleFiles_iff
    {ignored : List Text → Bool}
    {place found : List Text}
    {node : Node} :
    found ∈ node.visibleFiles ignored place ↔
      ∃ steps, found = place ++ steps ∧ node.FileAt steps ∧ Visible ignored place steps := by
  induction node using node_induction generalizing place with
  | file octets =>
      rw [visibleFiles, List.mem_singleton]
      constructor
      · rintro rfl
        exact ⟨[], (List.append_nil found).symm, .here octets, visible_nil ignored found⟩
      · rintro ⟨steps, rfl, file, -⟩
        rw [fileAt_file_iff.1 file, List.append_nil]
  | directory entries induction =>
      rw [mem_visibleFiles_directory]
      constructor
      · rintro ⟨name, node, entry, admitted, within⟩
        obtain ⟨further, rfl, file, visible⟩ := (induction name node entry).1 within
        refine ⟨name :: further, ?_, .inside entry file, visible_cons_iff.2 ⟨admitted, visible⟩⟩
        rw [List.append_assoc, List.singleton_append]
      · rintro ⟨steps, rfl, file, visible⟩
        obtain ⟨name, node, further, rfl, entry, file⟩ := fileAt_directory_iff.1 file
        obtain ⟨admitted, visible⟩ := visible_cons_iff.1 visible
        have onward : place ++ name :: further = place ++ [name] ++ further := by
          rw [List.append_assoc, List.singleton_append]
        exact ⟨name, node, entry, admitted,
          (induction name node entry).2 ⟨further, onward, file, visible⟩⟩

/-- The names that any file system gives: in a directory no two alike, and none with a zero. -/
inductive Lawful : Node → Prop
  | file (octets : List UInt8) : Lawful (.file octets)
  | directory
      {entries : List (Text × Node)}
      (distinct : (entries.map Prod.fst).Nodup)
      (writable : ∀ entry ∈ entries, '\x00' ∉ entry.1)
      (lawful : ∀ entry ∈ entries, Lawful entry.2) :
      Lawful (.directory entries)

theorem Lawful.zero_not_mem
    {node : Node}
    {steps : List Text}
    (lawful : node.Lawful)
    (file : node.FileAt steps) :
    ∀ step ∈ steps, '\x00' ∉ step := by
  induction file with
  | here octets => exact List.forall_mem_nil _
  | inside entry _ induction =>
      cases lawful with
      | directory distinct writable lawful =>
          exact List.forall_mem_cons.2 ⟨writable _ entry, induction (lawful _ entry)⟩

section Order

variable {ignored : List Text → Bool} {place : List Text} {entries : List (Text × Node)}

/-- An entry that is left out has no visible files, and any other has those of its node. -/
theorem exists_entry_of_mem_visibleEntries
    {item : Text × List (List Text)}
    (member : item ∈ visibleEntries ignored place entries) :
    ∃ node, (item.1, node) ∈ entries ∧
      (item.2 = [] ∨ item.2 = node.visibleFiles ignored (place ++ [item.1])) := by
  rw [visibleEntries_eq_map, List.mem_map] at member
  obtain ⟨⟨name, node⟩, entry, rfl⟩ := member
  refine ⟨node, entry, ?_⟩
  dsimp only
  split
  · exact Or.inl rfl
  · exact Or.inr rfl

theorem exists_steps_of_mem_visibleEntries
    {item : Text × List (List Text)}
    {found : List Text}
    (member : item ∈ visibleEntries ignored place entries)
    (within : found ∈ item.2) :
    ∃ steps, found = place ++ item.1 :: steps := by
  obtain ⟨node, -, left | walked⟩ := exists_entry_of_mem_visibleEntries member
  · rw [left] at within
    contradiction
  · rw [walked] at within
    obtain ⟨steps, rfl, -⟩ := mem_visibleFiles_iff.1 within
    exact ⟨steps, by rw [List.append_assoc, List.singleton_append]⟩

end Order

/-- The files come in strictly increasing order of their steps. -/
theorem visibleFiles_pairwise
    {node : Node}
    (lawful : node.Lawful)
    (ignored : List Text → Bool)
    (place : List Text) :
    (node.visibleFiles ignored place).Pairwise (· < ·) := by
  induction lawful generalizing place with
  | file octets =>
      rw [visibleFiles]
      exact List.pairwise_singleton _ _
  | @directory entries distinct _ _ induction =>
      rw [visibleFiles, List.pairwise_flatMap]
      constructor
      · intro item member
        obtain ⟨node, entry, left | walked⟩ :=
          exists_entry_of_mem_visibleEntries ((orderByName_perm _).mem_iff.1 member)
        · rw [left]
          exact List.Pairwise.nil
        · rw [walked]
          exact induction (item.1, node) entry (place ++ [item.1])
      · have names : ((visibleEntries ignored place entries).map Prod.fst).Nodup :=
          (map_fst_visibleEntries ignored place entries).symm ▸ distinct
        refine (orderByName_pairwise names).imp_of_mem ?_
        intro item other itemMember otherMember before found foundWithin later laterWithin
        -- Both go on from the directory with the names of their entries.
        obtain ⟨steps, rfl⟩ := exists_steps_of_mem_visibleEntries
          ((orderByName_perm _).mem_iff.1 itemMember) foundWithin
        obtain ⟨laterSteps, rfl⟩ := exists_steps_of_mem_visibleEntries
          ((orderByName_perm _).mem_iff.1 otherMember) laterWithin
        exact List.append_left_lt (List.cons_lt_cons_iff.2 (Or.inl before))

end Node

end ProcedureAudit
