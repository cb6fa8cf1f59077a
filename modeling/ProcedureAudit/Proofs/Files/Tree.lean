import ProcedureAudit.Files.Workspace
import ProcedureAudit.Proofs.Files.Path

/-!
# Names in a file tree

No file system gives an entry an empty name, a name with a slash in it, or the name of the
directory itself.  In a tree with such names, following steps and listing visible files only ever
leads over proper steps.
-/

namespace ProcedureAudit

open FilePath (IsProperStep)

namespace Node

mutual

/-- All names of entries at or below a node can be written as steps of a path. -/
def WellNamed : Node → Prop
  | .file _ => True
  | .directory entries => WellNamedEntries entries

def WellNamedEntries : List (Text × Node) → Prop
  | [] => True
  | (name, node) :: entries => IsProperStep name ∧ node.WellNamed ∧ WellNamedEntries entries

end

theorem WellNamedEntries.wellNamed_of_lookup
    {entries : List (Text × Node)}
    {name : Text}
    {node : Node}
    (named : WellNamedEntries entries)
    (found : entries.lookup name = some node) :
    node.WellNamed := by
  induction entries with
  | nil => contradiction
  | cons entry entries induction =>
      rcases entry with ⟨other, below⟩
      rw [WellNamedEntries] at named
      rw [List.lookup_cons] at found
      split at found
      · exact Option.some.inj found ▸ named.2.1
      · exact induction named.2.2 found

/-! ## The visible files -/

theorem insertByName_perm {α : Type} (item : Text × α) (items : List (Text × α)) :
    (insertByName item items).Perm (item :: items) := by
  induction items with
  | nil => exact .refl _
  | cons other items induction =>
      rw [insertByName]
      split
      · exact .refl _
      · exact (induction.cons other).trans (.swap item other items)

theorem orderByName_perm {α : Type} (items : List (Text × α)) :
    (orderByName items).Perm items := by
  induction items with
  | nil => exact .refl _
  | cons item items induction =>
      exact (insertByName_perm item (orderByName items)).trans (induction.cons item)

mutual

/-- Below a place that proper steps lead to, proper steps lead to the visible files. -/
theorem isProperStep_of_mem_visibleFiles
    {ignored : List Text → Bool}
    {place steps : List Text}
    (placed : ∀ step ∈ place, IsProperStep step)
    (node : Node)
    (named : node.WellNamed)
    (visible : steps ∈ node.visibleFiles ignored place) :
    ∀ step ∈ steps, IsProperStep step := by
  cases node with
  | file octets =>
      rw [visibleFiles, List.mem_singleton] at visible
      exact visible ▸ placed
  | directory entries =>
      rw [visibleFiles] at visible
      rcases List.mem_flatMap.1 visible with ⟨item, member, within⟩
      rw [WellNamed] at named
      exact isProperStep_of_mem_visibleEntries placed entries named
        ((orderByName_perm _).mem_iff.1 member) within

theorem isProperStep_of_mem_visibleEntries
    {ignored : List Text → Bool}
    {place steps : List Text}
    (placed : ∀ step ∈ place, IsProperStep step)
    (entries : List (Text × Node))
    (named : WellNamedEntries entries)
    {item : Text × List (List Text)}
    (member : item ∈ visibleEntries ignored place entries)
    (visible : steps ∈ item.2) :
    ∀ step ∈ steps, IsProperStep step := by
  cases entries with
  | nil => contradiction
  | cons entry entries =>
      rcases entry with ⟨name, node⟩
      rw [WellNamedEntries] at named
      rcases named with ⟨proper, below, rest⟩
      rw [visibleEntries] at member
      rcases List.mem_cons.1 member with rfl | later
      · dsimp only at visible
        split at visible
        · contradiction
        · have further : ∀ step ∈ place ++ [name], IsProperStep step :=
            List.forall_mem_append.2 ⟨placed, List.forall_mem_singleton.2 proper⟩
          exact isProperStep_of_mem_visibleFiles further node below visible
      · exact isProperStep_of_mem_visibleEntries placed entries rest later visible

end

end Node

namespace Workspace

/-- The names in the tree and on the way to the current directory can be written as steps. -/
structure WellNamed (workspace : Workspace) : Prop where
  top : workspace.top.WellNamed
  current : ∀ step ∈ workspace.current, IsProperStep step

theorem wellNamed_of_follow
    {trail : List Node}
    {here node : Node}
    {steps : List Text}
    (trailNamed : ∀ earlier ∈ trail, earlier.WellNamed)
    (hereNamed : here.WellNamed)
    (followed : follow trail here steps = .ok node) :
    node.WellNamed := by
  induction steps generalizing trail here with
  | nil =>
      have arrived : here = node := by
        cases here <;> exact Except.ok.inj followed
      exact arrived ▸ hereNamed
  | cons step steps induction =>
      cases here with
      | file octets => contradiction
      | directory entries =>
          unfold follow at followed
          split at followed
          · -- A step to the parent directory goes back on the trail.
            cases trail with
            | nil => exact induction (List.forall_mem_nil _) hereNamed followed
            | cons parent trail =>
                rw [List.forall_mem_cons] at trailNamed
                exact induction trailNamed.2 trailNamed.1 followed
          · split at followed
            · contradiction
            · split at followed
              · contradiction
              · rename_i below found
                have belowNamed : below.WellNamed := by
                  rw [Node.WellNamed] at hereNamed
                  exact hereNamed.wellNamed_of_lookup found
                exact induction (List.forall_mem_cons.2 ⟨hereNamed, trailNamed⟩) belowNamed followed

section WellNamed

variable {workspace : Workspace} (named : workspace.WellNamed)

include named

theorem WellNamed.find?
    {path : FilePath}
    {node : Node}
    (found : workspace.find? path = .ok (some node)) :
    node.WellNamed := by
  unfold Workspace.find? at found
  split at found
  · cases found
  · split at found
    · rename_i other followed
      obtain rfl := Option.some.inj (Except.ok.inj found)
      unfold Workspace.find at followed
      split at followed
      · contradiction
      · exact wellNamed_of_follow (List.forall_mem_nil _) named.top followed
    · contradiction
    · cases found

theorem WellNamed.isProperStep_of_mem_resolve
    {text step : Text}
    (member : step ∈ (workspace.resolve (FilePath.parse text)).steps) :
    IsProperStep step := by
  have given := FilePath.mem_settle member
  unfold stepsFromTop at given
  split at given
  · rcases List.mem_append.1 given with current | written
    · exact named.current step current
    · exact FilePath.isProperStep_of_mem_stepsOf written
  · exact FilePath.isProperStep_of_mem_stepsOf given

end WellNamed

end Workspace

end ProcedureAudit
