import Mathlib.Algebra.Order.BigOperators.Group.List
import Mathlib.Algebra.Order.Group.Nat
import ProcedureAudit.Proofs.Audit.Collecting
import ProcedureAudit.Proofs.Routine.Callers

/-!
# Names in other spellings

A name leads to the same file and to the same statements in every letter case.  But whether a name
is skipped, and whether it was called before, is decided by its spelling.  So other spellings
collect the same statements exactly if no name that leads to a statement is skipped or, where the
names are taken from calls, called twice.
-/

namespace ProcedureAudit.Audit

open Routine (SameNames RespellsCalls addName calledNames)
open Text (CaseVariant HasLetter smallLetter capitalLetter)

/-- What a name yields, which is nothing if it is skipped. -/
def unlessSkipped {α : Type} (yield : Text → List α) (skipped : List Text) (name : Text) : List α :=
  if name ∈ skipped then [] else yield name

/-- The name yields something, and there is more than one spelling of it. -/
def Respellable {α : Type} (yield : Text → List α) (name : Text) : Prop :=
  yield name ≠ [] ∧ HasLetter name

/-- No spelling of the name is in the list, if the name can be respelled. -/
def Unlisted {α : Type} (yield : Text → List α) (listed : List Text) (name : Text) : Prop :=
  Respellable yield name → ∀ other ∈ listed, ¬ CaseVariant name other

/-- No two of the names are spellings of one that can be respelled. -/
def Unrepeated {α : Type} (yield : Text → List α) (names : List Text) : Prop :=
  names.Pairwise fun first later => Respellable yield first → ¬ CaseVariant first later

section Yield

variable
    {α : Type}
    {yield : Text → List α}
    {skipped otherSkipped : List Text}

/-! ## Names that are skipped or not -/

theorem unlessSkipped_of_yield_eq_nil
    {name : Text}
    (nothing : yield name = []) :
    unlessSkipped yield skipped name = [] := by
  rw [unlessSkipped, nothing, ite_self]

theorem unlessSkipped_of_not_mem {name : Text} (kept : name ∉ skipped) :
    unlessSkipped yield skipped name = yield name :=
  if_neg kept

theorem flatMap_filter_eq_flatMap_unlessSkipped (names : List Text) :
    (names.filter fun name => name ∉ skipped).flatMap yield =
      names.flatMap (unlessSkipped yield skipped) := by
  induction names with
  | nil => rfl
  | cons name names induction =>
      by_cases member : name ∈ skipped
      · simp [unlessSkipped, member, ← induction]
      · simp [unlessSkipped, member, ← induction]

/-! ## Skip lists in small letters and in capitals -/

theorem length_unlessSkipped_le
    {name : Text}
    (small : name.map smallLetter = name) :
    (unlessSkipped yield (skipped.map (List.map smallLetter)) name).length ≤
      (unlessSkipped yield (skipped.map (List.map capitalLetter)) name).length := by
  have inSmall := Routine.sameNames_map Text.recases_smallLetter skipped
  have inCapitals := Routine.sameNames_map Text.recases_capitalLetter skipped
  by_cases skippedCapital : name ∈ skipped.map (List.map capitalLetter)
  · have letterless := Text.not_hasLetter_of_mem_map_capitalLetter small skippedCapital
    have skippedSmall : name ∈ skipped.map (List.map smallLetter) :=
      (inSmall.mem_iff letterless).1 ((inCapitals.mem_iff letterless).2 skippedCapital)
    rw [unlessSkipped, if_pos skippedSmall]
    exact Nat.zero_le _
  · rw [unlessSkipped_of_not_mem skippedCapital, unlessSkipped]
    split
    · exact Nat.zero_le _
    · exact le_rfl

theorem length_unlessSkipped_lt
    {name : Text}
    (small : name.map smallLetter = name)
    (skips : ¬ Unlisted yield skipped name) :
    (unlessSkipped yield (skipped.map (List.map smallLetter)) name).length <
      (unlessSkipped yield (skipped.map (List.map capitalLetter)) name).length := by
  rw [Unlisted] at skips
  push Not at skips
  rcases skips with ⟨respellable, written, member, variant⟩
  have skippedSmall : name ∈ skipped.map (List.map smallLetter) := by
    rw [← small, variant]
    exact List.mem_map_of_mem member
  have kept : name ∉ skipped.map (List.map capitalLetter) := by
    intro skippedCapital
    exact Text.not_hasLetter_of_mem_map_capitalLetter small skippedCapital respellable.2
  rw [unlessSkipped, if_pos skippedSmall, unlessSkipped_of_not_mem kept]
  exact List.length_pos_iff.2 respellable.1

/-- Names in small letters yield less if the skip list is in small letters than in capitals. -/
theorem length_flatMap_unlessSkipped_lt
    {names : List Text}
    (small : ∀ name ∈ names, name.map smallLetter = name)
    (skips : ∃ name ∈ names, ¬ Unlisted yield skipped name) :
    (names.flatMap (unlessSkipped yield (skipped.map (List.map smallLetter)))).length <
      (names.flatMap (unlessSkipped yield (skipped.map (List.map capitalLetter)))).length := by
  rw [List.length_flatMap, List.length_flatMap]
  apply List.sum_lt_sum
  · intro name member
    exact length_unlessSkipped_le (small name member)
  · rcases skips with ⟨name, member, skips⟩
    exact ⟨name, member, length_unlessSkipped_lt (small name member) skips⟩

/-- No name in small letters is skipped if all spellings of the skip list yield the same. -/
theorem unlisted_of_invariant
    {names : List Text}
    {yielded : List α}
    (small : ∀ name ∈ names, name.map smallLetter = name)
    (invariant : ∀ otherSkipped, SameNames skipped otherSkipped →
      names.flatMap (unlessSkipped yield otherSkipped) = yielded) :
    ∀ name ∈ names, Unlisted yield skipped name := by
  intro name member
  by_contra skips
  have less := length_flatMap_unlessSkipped_lt small ⟨name, member, skips⟩
  rw [invariant _ (Routine.sameNames_map Text.recases_smallLetter skipped),
    invariant _ (Routine.sameNames_map Text.recases_capitalLetter skipped)] at less
  exact less.false

/-! ## Names that are met -/

theorem Unrepeated.tail {name : Text} {names : List Text}
    (unrepeated : Unrepeated yield (name :: names)) :
    Unrepeated yield names :=
  (List.pairwise_cons.1 unrepeated).2

theorem flatMap_addName_of_yield_eq_nil
    {known : List Text}
    {name : Text}
    (nothing : yield name = []) :
    (addName known name).flatMap (unlessSkipped yield skipped) =
      known.flatMap (unlessSkipped yield skipped) := by
  rw [Routine.addName_eq]
  split
  · rfl
  · rw [List.flatMap_append, List.flatMap_singleton, unlessSkipped_of_yield_eq_nil nothing,
      List.append_nil]

theorem Respellable.addName_eq
    {known : List Text}
    {name : Text}
    (respellable : Respellable yield name)
    (unmet : Unlisted yield known name) :
    addName known name = known ++ [name] := by
  rw [Routine.addName_eq, if_neg]
  rintro (empty | member)
  · exact respellable.2.ne_nil empty
  · exact unmet respellable name member (.refl name)

/-! ## What does not see the case of letters -/

variable (blind : ∀ {name other}, CaseVariant name other → yield name = yield other)

include blind

theorem Respellable.caseVariant
    {name other : Text}
    (respellable : Respellable yield name)
    (variant : CaseVariant name other) :
    Respellable yield other := by
  constructor
  · rw [← blind variant]
    exact respellable.1
  · exact variant.hasLetter_iff.1 respellable.2

theorem Unlisted.caseVariant
    {listed : List Text}
    {name other : Text}
    (unlisted : Unlisted yield listed name)
    (variant : CaseVariant name other) :
    Unlisted yield listed other := by
  intro respellable spelled member otherVariant
  exact unlisted (respellable.caseVariant blind variant.symm) spelled member
    (variant.trans otherVariant)

theorem unlessSkipped_eq_of_unlisted
    (same : SameNames skipped otherSkipped)
    {name other : Text}
    (variant : CaseVariant name other)
    (unskipped : Unlisted yield skipped name) :
    unlessSkipped yield skipped name = unlessSkipped yield otherSkipped other := by
  by_cases nothing : yield name = []
  · rw [unlessSkipped_of_yield_eq_nil nothing,
      unlessSkipped_of_yield_eq_nil ((blind variant).symm.trans nothing)]
  · by_cases letter : HasLetter name
    · have kept : name ∉ skipped := fun member =>
        unskipped ⟨nothing, letter⟩ name member (.refl name)
      have otherKept : other ∉ otherSkipped := by
        intro member
        rcases same.2 other member with ⟨spelled, spelledMember, spelledVariant⟩
        exact unskipped ⟨nothing, letter⟩ spelled spelledMember (variant.trans spelledVariant.symm)
      rw [unlessSkipped_of_not_mem kept, unlessSkipped_of_not_mem otherKept, blind variant]
    · rw [variant.eq_of_not_hasLetter letter, unlessSkipped, unlessSkipped]
      simp only [same.mem_iff letter]

/-! ## Lists of names -/

theorem flatMap_unlessSkipped_eq
    (same : SameNames skipped otherSkipped)
    {names others : List Text}
    (variants : List.Forall₂ CaseVariant names others)
    (unskipped : ∀ name ∈ names, Unlisted yield skipped name) :
    names.flatMap (unlessSkipped yield skipped) =
      others.flatMap (unlessSkipped yield otherSkipped) := by
  induction variants with
  | nil => rfl
  | cons variant _ induction =>
      rw [List.flatMap_cons, List.flatMap_cons,
        unlessSkipped_eq_of_unlisted blind same variant (unskipped _ (List.mem_cons_self ..)),
        induction fun name member => unskipped name (List.mem_cons_of_mem _ member)]

/-- Spellings count for a list of names exactly if a name that can be respelled is skipped. -/
theorem forall_flatMap_unlessSkipped_eq_iff (names : List Text) :
    (∀ others otherSkipped,
        List.Forall₂ CaseVariant names others → SameNames skipped otherSkipped →
          others.flatMap (unlessSkipped yield otherSkipped) =
            names.flatMap (unlessSkipped yield skipped)) ↔
      ∀ name ∈ names, Unlisted yield skipped name := by
  constructor
  · intro invariant name member
    have variants := Text.recases_smallLetter.forall₂_caseVariant names
    have unskipped : ∀ spelled ∈ names.map (List.map smallLetter), Unlisted yield skipped spelled :=
      unlisted_of_invariant Text.map_smallLetter_of_mem_map fun otherSkipped same =>
        invariant _ otherSkipped variants same
    exact (unskipped _ (List.mem_map_of_mem member)).caseVariant blind
      (Text.recases_smallLetter.caseVariant name).symm
  · intro unskipped others otherSkipped variants same
    exact (flatMap_unlessSkipped_eq blind same variants unskipped).symm

/-! ## Lists of calls -/

/-- Known names in two spellings: they yield the same, and those without letters are the same. -/
structure Alike
    (yield : Text → List α)
    (skipped otherSkipped known otherKnown : List Text) : Prop where
  yields : known.flatMap (unlessSkipped yield skipped) =
    otherKnown.flatMap (unlessSkipped yield otherSkipped)
  letterless : ∀ name, ¬ HasLetter name → (name ∈ known ↔ name ∈ otherKnown)

theorem Alike.addName
    {known otherKnown : List Text}
    (alike : Alike yield skipped otherSkipped known otherKnown)
    (same : SameNames skipped otherSkipped)
    {name other : Text}
    (variant : CaseVariant name other)
    (unskipped : Unlisted yield skipped name)
    (unmet : Unlisted yield known name)
    (otherUnmet : Unlisted yield otherKnown other) :
    Alike yield skipped otherSkipped (addName known name) (addName otherKnown other) := by
  have equal := unlessSkipped_eq_of_unlisted blind same variant unskipped
  constructor
  · by_cases nothing : yield name = []
    · rw [flatMap_addName_of_yield_eq_nil nothing,
        flatMap_addName_of_yield_eq_nil ((blind variant).symm.trans nothing)]
      exact alike.yields
    · by_cases letter : HasLetter name
      · have respellable : Respellable yield name := ⟨nothing, letter⟩
        rw [respellable.addName_eq unmet,
          (respellable.caseVariant blind variant).addName_eq otherUnmet, List.flatMap_append,
          List.flatMap_append, alike.yields, List.flatMap_singleton, List.flatMap_singleton, equal]
      · rw [variant.eq_of_not_hasLetter letter] at equal ⊢
        rw [Routine.addName_eq, Routine.addName_eq]
        simp only [alike.letterless name letter]
        split
        · exact alike.yields
        · rw [List.flatMap_append, List.flatMap_append, alike.yields, List.flatMap_singleton,
            List.flatMap_singleton, equal]
  · intro text letterless
    rw [Routine.mem_addName, Routine.mem_addName, alike.letterless text letterless,
      variant.eq_iff letterless]

/-- A name that is met does not count for the names that are no other spellings of it. -/
theorem Unlisted.addName
    {known : List Text}
    {name later : Text}
    (unmet : Unlisted yield known later)
    (differs : Respellable yield name → ¬ CaseVariant name later) :
    Unlisted yield (addName known name) later := by
  intro respellable other member variant
  rcases Routine.mem_addName.1 member with old | ⟨rfl, -⟩
  · exact unmet respellable other old variant
  · exact differs (respellable.caseVariant blind variant) variant.symm

theorem Alike.foldl_addName
    (same : SameNames skipped otherSkipped)
    {names others : List Text}
    (variants : List.Forall₂ CaseVariant names others)
    (unskipped : ∀ name ∈ names, Unlisted yield skipped name)
    (unrepeated : Unrepeated yield names)
    {known otherKnown : List Text}
    (alike : Alike yield skipped otherSkipped known otherKnown)
    (unmet : ∀ name ∈ names, Unlisted yield known name)
    (otherUnmet : ∀ other ∈ others, Unlisted yield otherKnown other) :
    Alike yield skipped otherSkipped (names.foldl Routine.addName known)
      (others.foldl Routine.addName otherKnown) := by
  induction variants generalizing known otherKnown with
  | nil => exact alike
  | @cons name other names others variant variants induction =>
      have differs := (List.pairwise_cons.1 unrepeated).1
      apply induction (fun later member => unskipped later (List.mem_cons_of_mem _ member))
        unrepeated.tail
      · exact alike.addName blind same variant (unskipped name (List.mem_cons_self ..))
          (unmet name (List.mem_cons_self ..)) (otherUnmet other (List.mem_cons_self ..))
      · intro later member
        exact (unmet later (List.mem_cons_of_mem _ member)).addName blind (differs later member)
      · intro later member
        apply (otherUnmet later (List.mem_cons_of_mem _ member)).addName blind
        intro respellable otherVariant
        rcases (Routine.sameNames_of_forall₂ variants).2 later member with
          ⟨spelled, spelledMember, spelledVariant⟩
        exact differs spelled spelledMember (respellable.caseVariant blind variant.symm)
          ((variant.trans otherVariant).trans spelledVariant.symm)

/-- A name that is called twice is collected twice if it is spelled in two ways. -/
theorem unrepeated_of_invariant
    {source : Text}
    (invariant : ∀ respelled, RespellsCalls source respelled →
      (calledNames respelled).flatMap (unlessSkipped yield skipped) =
        (calledNames source).flatMap (unlessSkipped yield skipped))
    (unskipped : ∀ name ∈ Routine.calls source, Unlisted yield skipped name) :
    Unrepeated yield (Routine.calls source) := by
  rw [Unrepeated, List.pairwise_iff_forall_sublist]
  intro first later sublist respellable variant
  rcases Routine.exists_calledNames_perm sublist variant respellable.2 with
    ⟨once, twice, spelled, respellsOnce, respellsTwice, spelledVariant, perm⟩
  have member : first ∈ Routine.calls source := sublist.mem (List.mem_cons_self ..)
  have kept : spelled ∉ skipped := fun skips =>
    unskipped first member respellable spelled skips spelledVariant
  have counted := (perm.flatMap_right (unlessSkipped yield skipped)).length_eq
  rw [invariant twice respellsTwice, ← invariant once respellsOnce, List.flatMap_append,
    List.flatMap_singleton, unlessSkipped_of_not_mem kept, List.length_append] at counted
  have yields := List.length_pos_iff.2 (respellable.caseVariant blind spelledVariant).1
  omega

/-- For called names, spellings count also if one that can be respelled is called twice. -/
theorem forall_flatMap_calledNames_eq_iff (source : Text) :
    (∀ respelled otherSkipped,
        RespellsCalls source respelled → SameNames skipped otherSkipped →
          (calledNames respelled).flatMap (unlessSkipped yield otherSkipped) =
            (calledNames source).flatMap (unlessSkipped yield skipped)) ↔
      (∀ name ∈ Routine.calls source, Unlisted yield skipped name) ∧
        Unrepeated yield (Routine.calls source) := by
  constructor
  · intro invariant
    rcases Routine.exists_respellsCalls Text.recases_smallLetter
      (List.nil_append (Routine.calls source)).symm with ⟨small, steps, smallCalls⟩
    rw [List.nil_append] at smallCalls
    have isSmall : ∀ name ∈ calledNames small, name.map smallLetter = name := by
      intro name member
      apply Text.map_smallLetter_of_mem_map
      exact smallCalls ▸ (Routine.mem_calledNames.1 member).1
    have unskipped := unlisted_of_invariant isSmall fun otherSkipped same =>
      invariant small otherSkipped steps same
    have each : ∀ name ∈ Routine.calls source, Unlisted yield skipped name := by
      intro name member respellable
      have variant := Text.recases_smallLetter.caseVariant name
      have met : name.map smallLetter ∈ calledNames small := by
        rw [Routine.mem_calledNames, smallCalls]
        exact ⟨List.mem_map_of_mem member, mt variant.eq_nil_iff.2 respellable.2.ne_nil⟩
      exact (unskipped _ met).caseVariant blind variant.symm respellable
    refine ⟨each, unrepeated_of_invariant blind (fun respelled respells => ?_) each⟩
    exact invariant respelled skipped respells (Routine.sameNames_refl skipped)
  · rintro ⟨unskipped, unrepeated⟩ respelled otherSkipped respells same
    have start : Alike yield skipped otherSkipped [] [] := ⟨rfl, fun _ _ => Iff.rfl⟩
    have none (name : Text) : Unlisted yield [] name := fun _ _ member =>
      (List.not_mem_nil member).elim
    exact (start.foldl_addName blind same respells.forall₂_calls unskipped unrepeated
      (fun name _ => none name) (fun name _ => none name)).yields.symm

end Yield

/-! ## Collected pairs -/

/-- What is collected for some names: the files and the statements, in order. -/
def collectedPairs
    (workspace : Workspace)
    (catalog : Catalog)
    (skipped names : List Text) :
    Except ReadProblem (List (FilePath × Text)) :=
  (collect workspace catalog skipped names).map fun selects =>
    selects.map fun collected => (collected.file, collected.select)

/-- The files and the statements that one name contributes. -/
def pairsOf (workspace : Workspace) (catalog : Catalog) (name : Text) : List (FilePath × Text) :=
  (contribution workspace catalog name).map fun collected => (collected.file, collected.select)

theorem lookup_eq_of_caseVariant
    {name other : Text}
    (variant : CaseVariant name other)
    (catalog : Catalog) :
    catalog.lookup name = catalog.lookup other := by
  rw [Catalog.lookup, Catalog.lookup, Catalog.filesOf, Catalog.filesOf, variant.lower_eq]

theorem wantedKey_eq_of_caseVariant
    {name other : Text}
    (variant : CaseVariant name other) :
    Routine.wantedKey (some name) = Routine.wantedKey (some other) := by
  cases name with
  | nil => rw [variant.eq_nil_iff.1 rfl]
  | cons first name =>
      cases other with
      | nil => exact absurd (variant.eq_nil_iff.2 rfl) (List.cons_ne_nil first name)
      | cons otherFirst other => exact congrArg some variant.lower_eq

theorem pairsOf_eq_of_caseVariant
    {workspace : Workspace}
    {catalog : Catalog}
    {name other : Text}
    (variant : CaseVariant name other) :
    pairsOf workspace catalog name = pairsOf workspace catalog other := by
  rw [pairsOf, pairsOf, contribution, contribution, lookup_eq_of_caseVariant variant]
  cases catalog.lookup other with
  | unknown => rfl
  | ambiguous files => rfl
  | found file =>
      simp only [Routine.scanSelects, wantedKey_eq_of_caseVariant variant, List.map_map,
        Function.comp_def]

section Built

variable
    {workspace : Workspace}
    {root ignoreFile : Text}
    {patterns : List Text}
    {catalog : Catalog}
    (built : (Catalog.build workspace root patterns ignoreFile).outcome = .ok catalog)

include built

theorem collectedPairs_eq_flatMap (skipped names : List Text) :
    collectedPairs workspace catalog skipped names =
      .ok (names.flatMap (unlessSkipped (pairsOf workspace catalog) skipped)) := by
  rw [collectedPairs, collect_eq_flatMap (selectsOf_of_build built),
    ← flatMap_filter_eq_flatMap_unlessSkipped, Except.map, List.map_flatMap]
  rfl

/--
After a successful build, other spellings of given names and of skipped names collect the same
exactly if no given name is skipped in any spelling.  For names that a text calls, it must also
call none of them twice.  This concerns only names for which something is collected at all and
that have letters; names in a skip list are the same in any letter case of the list.
-/
theorem collectedPairs_respelling_iff (skipped : List Text) :
    (∀ names,
      (∀ others otherSkipped,
          List.Forall₂ CaseVariant names others → SameNames skipped otherSkipped →
            collectedPairs workspace catalog otherSkipped others =
              collectedPairs workspace catalog skipped names) ↔
        ∀ name ∈ names, Unlisted (pairsOf workspace catalog) skipped name) ∧
      (∀ source,
        (∀ respelled otherSkipped,
            RespellsCalls source respelled → SameNames skipped otherSkipped →
              collectedPairs workspace catalog otherSkipped (calledNames respelled) =
                collectedPairs workspace catalog skipped (calledNames source)) ↔
          (∀ name ∈ Routine.calls source, Unlisted (pairsOf workspace catalog) skipped name) ∧
            Unrepeated (pairsOf workspace catalog) (Routine.calls source)) ∧
      ∀ list otherList, CaseVariant list otherList →
        SameNames (Routine.skippedNames list) (Routine.skippedNames otherList) := by
  simp only [collectedPairs_eq_flatMap built, Except.ok.injEq]
  refine ⟨fun names => ?_, fun source => ?_, fun list otherList => ?_⟩
  · exact forall_flatMap_unlessSkipped_eq_iff pairsOf_eq_of_caseVariant names
  · exact forall_flatMap_calledNames_eq_iff pairsOf_eq_of_caseVariant source
  · exact Routine.sameNames_skippedNames

end Built

theorem collectedPairs_respelling_iff_mixedWorkspace :
    Respellable (pairsOf Catalog.mixedWorkspace mixedCatalog) "b_2".toList ∧
      (∀ others otherSkipped,
        List.Forall₂ CaseVariant ["b_2".toList, "a_1".toList] others →
          SameNames ["A_1".toList] otherSkipped →
            collectedPairs Catalog.mixedWorkspace mixedCatalog otherSkipped others =
              .ok [(.absolute ["a.sql".toList], "SELECT 2;".toList)]) ∧
      ¬ (∀ respelled otherSkipped,
        RespellsCalls "CALL b_2 () CALL b_2 ()".toList respelled → SameNames [] otherSkipped →
          collectedPairs Catalog.mixedWorkspace mixedCatalog otherSkipped (calledNames respelled) =
            collectedPairs Catalog.mixedWorkspace mixedCatalog []
              (calledNames "CALL b_2 () CALL b_2 ()".toList)) := by
  rcases collectedPairs_respelling_iff build_mixedWorkspace ["A_1".toList] with ⟨ofNames, -, -⟩
  rcases collectedPairs_respelling_iff build_mixedWorkspace [] with ⟨-, ofCalls, -⟩
  have respellable : Respellable (pairsOf Catalog.mixedWorkspace mixedCatalog) "b_2".toList := by
    constructor
    · decide +kernel
    · decide
  have unskipped : ∀ name ∈ ["b_2".toList, "a_1".toList],
      Unlisted (pairsOf Catalog.mixedWorkspace mixedCatalog) ["A_1".toList] name := by
    intro name member
    rcases List.mem_cons.1 member with rfl | member
    · intro _
      decide
    · rcases List.mem_singleton.1 member with rfl
      exact fun yields => absurd (by decide +kernel) yields.1
  refine ⟨respellable, fun others otherSkipped variants same => ?_, fun invariant => ?_⟩
  · rw [(ofNames _).2 unskipped others otherSkipped variants same]
    decide +kernel
  · have unrepeated := ((ofCalls _).1 invariant).2
    have twice : Routine.calls "CALL b_2 () CALL b_2 ()".toList = ["b_2".toList, "b_2".toList] := by
      decide +kernel
    rw [Unrepeated, twice] at unrepeated
    exact (List.pairwise_cons.1 unrepeated).1 _ (List.mem_singleton_self _) respellable (.refl _)

/-- A skipped name is collected in another spelling, and one called in two spellings twice. -/
theorem respelled_collected_otherwise_mixedWorkspace :
    (Catalog.build Catalog.mixedWorkspace ['.'] ["*.sql".toList]
        Catalog.defaultIgnoreFile).outcome = .ok mixedCatalog ∧
      CaseVariant "b_2".toList "B_2".toList ∧
      collectedPairs Catalog.mixedWorkspace mixedCatalog ["b_2".toList] ["b_2".toList] = .ok [] ∧
      collectedPairs Catalog.mixedWorkspace mixedCatalog ["B_2".toList] ["b_2".toList] =
        .ok [(.absolute ["a.sql".toList], "SELECT 2;".toList)] ∧
      RespellsCalls "CALL b_2 () CALL b_2 ()".toList "CALL b_2 () CALL B_2 ()".toList ∧
      collectedPairs Catalog.mixedWorkspace mixedCatalog []
          (calledNames "CALL b_2 () CALL b_2 ()".toList) =
        .ok [(.absolute ["a.sql".toList], "SELECT 2;".toList)] ∧
      collectedPairs Catalog.mixedWorkspace mixedCatalog []
          (calledNames "CALL b_2 () CALL B_2 ()".toList) =
        .ok [(.absolute ["a.sql".toList], "SELECT 2;".toList),
          (.absolute ["a.sql".toList], "SELECT 2;".toList)] := by
  let site : Routine.CallSite :=
    { spaces := [], blanks := [' '], spaced := by simp, blank := by simp [Text.isBlank] }
  have called : Routine.IsCalledName "b_2".toList := ⟨by decide, List.all_eq_true.1 (by decide)⟩
  have variant : CaseVariant "b_2".toList "B_2".toList := by decide
  have respells : RespellsCalls "CALL b_2 () CALL b_2 ()".toList "CALL b_2 () CALL B_2 ()".toList :=
    .single (.intro "CALL b_2 () ".toList site ")".toList called variant)
  exact ⟨build_mixedWorkspace, variant, by decide +kernel, by decide +kernel, respells,
    by decide +kernel, by decide +kernel⟩

end ProcedureAudit.Audit
