import Mathlib.Data.List.Induction
import ProcedureAudit.Proofs.Routine.Callers
import ProcedureAudit.Proofs.Routine.Catalog
import ProcedureAudit.Proofs.Text.Pattern
import ProcedureAudit.Routine.Files

/-!
# The search for calls

The calls of a source can be found by a search for the pattern of a call.  Such a search tries
shorter readings when a longer one fails, and it goes on behind each call that it has found.  Still
it sees every call: a reading that fails at its longest fails altogether, and no call begins inside
another one.  So the names that a caller file yields are those for which a call is written at some
place, whatever stands before and after it.
-/

namespace ProcedureAudit.Routine

open Text (Pattern)

/-! ## The pattern of a call -/

/-- `CALL` and spaces, a name, and blanks before a parenthesis. -/
def callPattern : Pattern :=
  [ .word "CALL".toList,
    .run 1 (· = ' '),
    .run 1 inCalledName,
    .run 0 Text.isBlank,
    .word ['('] ]

/-- The name among the parts of a call, without the back-ticks around it. -/
def nameInParts (parts : List Text) : Text :=
  withoutBackticks (parts.getD 2 [])

/-- The parts of a call of a name. -/
def CallSite.parts (site : CallSite) (name : Text) : List Text :=
  ["CALL".toList, ' ' :: site.spaces, name, site.blanks, ['(']]

section Excluded

variable {character : Char}

theorem excludes_after_blanks (blank : Text.isBlank character = true) :
    Pattern.Excludes [.word ['(']] character := by
  refine Pattern.excludes_word ?_ []
  rintro rfl
  contradiction

theorem excludes_after_name (inside : inCalledName character = true) :
    Pattern.Excludes [.run 0 Text.isBlank, .word ['(']] character :=
  Pattern.excludes_run (isBlank_of_inCalledName inside) fun _ =>
    Pattern.excludes_word (ne_of_inCalledName inside (by decide)) []

theorem excludes_after_spaces (space : decide (character = ' ') = true) :
    Pattern.Excludes [.run 1 inCalledName, .run 0 Text.isBlank, .word ['(']] character := by
  obtain rfl := of_decide_eq_true space
  exact Pattern.excludes_run (by decide) fun none => absurd none Nat.one_ne_zero

end Excluded

/-- A written call is read as one, and no other way of reading it is tried. -/
theorem read?_write
    (site : CallSite)
    {name : Text}
    (called : IsCalledName name)
    (after : Text) :
    callPattern.read? (site.write name after) = some (site.parts name, after) := by
  have spaced : (Text.Piece.run 1 (· = ' ')).Fits (' ' :: site.spaces) :=
    ⟨Nat.le_add_left .., List.forall_mem_cons.2 ⟨rfl, fun character member =>
      decide_eq_true (site.spaced character member)⟩⟩
  have named : (Text.Piece.run 1 inCalledName).Fits name :=
    ⟨List.length_pos_iff.2 called.nonempty, called.inside⟩
  have stopsSpaces : ∀ character ∈ (name ++ (site.blanks ++ '(' :: after)).head?,
      decide (character = ' ') = false := by
    rcases called.exists_cons with ⟨first, rest, rfl, inside⟩
    intro character head
    obtain rfl : first = character := Option.some.inj head
    exact decide_eq_false (ne_of_inCalledName inside (by decide))
  have closed : Pattern.read? [.word ['(']] ('(' :: after) = some ([['(']], after) :=
    Pattern.read?_word ['('] after
  change callPattern.read? ("CALL".toList ++ ((' ' :: site.spaces) ++
    (name ++ (site.blanks ++ '(' :: after)))) = _
  rw [callPattern, Pattern.read?_word,
    Pattern.read?_run (fun _ => excludes_after_spaces) spaced stopsSpaces,
    Pattern.read?_run (fun _ => excludes_after_name) named
      (inCalledName_head?_blanks site.blank after),
    Pattern.read?_run (fun _ => excludes_after_blanks) ⟨Nat.zero_le _, site.blank⟩
      (by simp [Text.isBlank]),
    closed]
  rfl

/-- Wherever the pattern of a call can be read, a call is written. -/
theorem exists_write_of_read?
    {text after : Text}
    {parts : List Text}
    (found : callPattern.read? text = some (parts, after)) :
    ∃ (site : CallSite) (name : Text),
      IsCalledName name ∧ text = site.write name after ∧ parts = site.parts name := by
  obtain ⟨rfl, fits⟩ := Pattern.fits_of_read? found
  cases fits with | cons opening fits =>
  cases fits with | @cons _ spaces _ _ spaced fits =>
  cases fits with | @cons _ name _ _ named fits =>
  cases fits with | @cons _ blanks _ _ blank fits =>
  cases fits with | cons closing fits =>
  cases fits
  obtain rfl := opening
  obtain rfl := closing
  cases spaces with
  | nil => exact absurd spaced.1 (by decide)
  | cons space spaces =>
      rcases List.forall_mem_cons.1 spaced.2 with ⟨isSpace, areSpaces⟩
      obtain rfl := of_decide_eq_true isSpace
      let site : CallSite :=
        { spaces
          blanks
          spaced := fun character member => of_decide_eq_true (areSpaces character member)
          blank := blank.2 }
      refine ⟨site, name, ⟨List.length_pos_iff.1 named.1, named.2⟩, ?_, rfl⟩
      change ("CALL".toList ++ ((' ' :: spaces) ++ (name ++ (blanks ++ (['('] ++ []))))) ++ after =
        "CALL".toList ++ ((' ' :: spaces) ++ (name ++ (blanks ++ (['('] ++ after))))
      simp only [List.append_assoc, List.nil_append]

/-- The pattern of a call can be read exactly where a call begins. -/
theorem map_nameInParts_read? (text : Text) :
    (callPattern.read? text).map (fun (parts, _) => nameInParts parts) = callAt? text := by
  cases found : callPattern.read? text with
  | some reading =>
      rcases reading with ⟨parts, after⟩
      rcases exists_write_of_read? found with ⟨site, name, called, rfl, rfl⟩
      exact (callAt?_write site called after).symm
  | none =>
      cases begun : callAt? text with
      | none => rfl
      | some name =>
          rcases exists_write_of_callAt? begun with ⟨site, written, after, called, rfl, -⟩
          rw [read?_write site called after] at found
          contradiction

/-! ## No call inside of another one -/

theorem calls_isSuffix {inner text : Text} (suffix : inner <:+ text) :
    calls inner <:+ calls text := by
  induction text with
  | nil =>
      obtain rfl := List.suffix_nil.1 suffix
      exact List.suffix_refl _
  | cons first rest induction =>
      rcases List.suffix_cons_iff.1 suffix with rfl | later
      · exact List.suffix_refl _
      · exact (induction later).trans (List.suffix_append ..)

theorem CallSite.exists_cons_write (site : CallSite) (name after : Text) :
    ∃ tail, site.write name after = 'C' :: tail :=
  ⟨_, rfl⟩

/-- Between the beginning of a call and the text behind it, no call begins. -/
theorem calls_tail_write
    {site : CallSite}
    {name after tail : Text}
    {first : Char}
    (called : IsCalledName name)
    (split : site.write name after = first :: tail) :
    calls tail = calls after := by
  have begun := callAt?_write site called after
  have counted := calls_write site called after
  rw [split] at begun counted
  rw [calls, begun, Option.toList_some, List.singleton_append] at counted
  exact (List.cons.inj counted).2

/-- An inner call would be one call more than there are behind the outer one. -/
theorem apart_callPattern : callPattern.Apart := by
  intro text parts after found inner suffix short long
  cases again : callPattern.read? inner with
  | none => rfl
  | some reading =>
      rcases reading with ⟨innerParts, innerAfter⟩
      have behind : after <:+ text :=
        (Pattern.fits_of_read? found).1 ▸ List.suffix_append ..
      rcases exists_write_of_read? found with ⟨site, name, called, rfl, -⟩
      rcases exists_write_of_read? again with ⟨innerSite, innerName, innerCalled, rfl, -⟩
      rcases site.exists_cons_write name after with ⟨tail, split⟩
      rcases innerSite.exists_cons_write innerName innerAfter with ⟨innerTail, innerSplit⟩
      have inTail : innerSite.write innerName innerAfter <:+ tail := by
        rw [split] at suffix short
        rcases List.suffix_cons_iff.1 suffix with same | inTail
        · rw [same] at short
          exact absurd short (Nat.lt_irrefl _)
        · exact inTail
      have behindInner : after <:+ innerTail := by
        rw [innerSplit] at suffix long
        exact List.suffix_of_suffix_length_le behind ((List.suffix_cons ..).trans suffix)
          (Nat.le_of_lt_succ long)
      have most := (calls_isSuffix inTail).length_le
      have least := (calls_isSuffix behindInner).length_le
      rw [calls_tail_write called split, calls_write innerSite innerCalled,
        List.length_cons] at most
      rw [calls_tail_write innerCalled innerSplit] at least
      omega

/-! ## The calls that a search finds -/

/-- The places where a search finds a call, with the names that are called there. -/
def foundCalls (source : Text) : List (Nat × Text) :=
  (callPattern.search source).map fun (place, parts) => (place, nameInParts parts)

/--
At a place of the source a call of the name is written.  A space stands before the written name,
and a blank or a parenthesis behind it, so the name is as long as possible.
-/
def CalledAt (source : Text) (place : Nat) (name : Text) : Prop :=
  ∃ (before : Text) (site : CallSite) (written after : Text),
    before.length = place ∧
      IsCalledName written ∧
      source = before ++ site.write written after ∧
      withoutBackticks written = name

/-- A name is called at a place that is before every place where the other one is called. -/
def CalledBefore (source earlier later : Text) : Prop :=
  ∃ place, CalledAt source place earlier ∧ ∀ other, CalledAt source other later → place < other

theorem map_nameInParts_placesFrom (start : Nat) (text : Text) :
    (callPattern.placesFrom start text).map (fun (_, parts) => nameInParts parts) = calls text := by
  induction text generalizing start with
  | nil => rfl
  | cons character rest induction =>
      rw [Pattern.placesFrom, List.map_append, induction, calls, ← map_nameInParts_read?]
      cases callPattern.read? (character :: rest) <;> rfl

theorem map_snd_foundCalls (source : Text) :
    (foundCalls source).map Prod.snd = calls source := by
  rw [foundCalls, Pattern.search_eq_placesFrom apart_callPattern, List.map_map]
  exact map_nameInParts_placesFrom 0 source

theorem mem_foundCalls_iff {source name : Text} {place : Nat} :
    (place, name) ∈ foundCalls source ↔ CalledAt source place name := by
  have nothing : callPattern.read? [] = none := rfl
  rw [foundCalls, Pattern.search_eq_placesFrom apart_callPattern, List.mem_map]
  constructor
  · rintro ⟨⟨found, parts⟩, member, same⟩
    obtain ⟨rfl, rfl⟩ := Prod.mk.inj same
    rcases (Pattern.mem_placesFrom_iff nothing).1 member with
      ⟨before, here, after, split, counted, read⟩
    rcases exists_write_of_read? read with ⟨site, written, called, rfl, rfl⟩
    exact ⟨before, site, written, after, (counted.trans (Nat.zero_add _)).symm, called, split, rfl⟩
  · rintro ⟨before, site, written, after, rfl, called, split, rfl⟩
    refine ⟨(before.length, site.parts written), ?_, rfl⟩
    exact (Pattern.mem_placesFrom_iff nothing).2
      ⟨before, _, after, split, (Nat.zero_add _).symm, read?_write site called after⟩

theorem pairwise_foundCalls (source : Text) :
    (foundCalls source).Pairwise fun earlier later => earlier.1 < later.1 := by
  rw [foundCalls, Pattern.search_eq_placesFrom apart_callPattern, List.pairwise_map]
  exact Pattern.pairwise_placesFrom 0 source

/-! ## Names in the order of their first call -/

/-- Names without repetitions come in the order of their first places. -/
theorem pairwise_foldl_addName
    {found : List (Nat × Text)}
    (ordered : found.Pairwise fun earlier later => earlier.1 < later.1) :
    ((found.map Prod.snd).foldl addName []).Pairwise fun earlier later =>
      ∃ place, (place, earlier) ∈ found ∧ ∀ other, (other, later) ∈ found → place < other := by
  induction found using List.reverseRecOn with
  | nil => exact .nil
  | append_singleton found last induction =>
      rcases last with ⟨lastPlace, lastName⟩
      rcases List.pairwise_append.1 ordered with ⟨foundOrdered, -, before⟩
      have beforeLast {place : Nat} {name : Text} (member : (place, name) ∈ found) :
          place < lastPlace :=
        before _ member _ (List.mem_singleton_self _)
      have known : ((found.map Prod.snd).foldl addName []).Pairwise fun earlier later =>
          ∃ place, (place, earlier) ∈ found ++ [(lastPlace, lastName)] ∧
            ∀ other, (other, later) ∈ found ++ [(lastPlace, lastName)] → place < other := by
        refine (induction foundOrdered).imp ?_
        rintro earlier later ⟨place, member, first⟩
        refine ⟨place, List.mem_append_left _ member, fun other otherMember => ?_⟩
        rcases List.mem_append.1 otherMember with otherMember | otherMember
        · exact first other otherMember
        · rw [(Prod.mk.inj (List.mem_singleton.1 otherMember)).1]
          exact beforeLast member
      rw [List.map_append, List.foldl_append, List.map_singleton, List.foldl_cons, List.foldl_nil,
        addName_eq]
      split
      · exact known
      · rename_i fresh
        rw [not_or] at fresh
        refine List.pairwise_append.2 ⟨known, List.pairwise_singleton .., fun earlier member => ?_⟩
        rcases (mem_foldl_addName.1 member).resolve_left List.not_mem_nil with ⟨called, -⟩
        rcases List.mem_map.1 called with ⟨⟨place, _⟩, placed, rfl⟩
        intro later laterMember
        obtain rfl := List.mem_singleton.1 laterMember
        refine ⟨place, List.mem_append_left _ placed, fun other otherMember => ?_⟩
        rcases List.mem_append.1 otherMember with otherMember | otherMember
        · -- A name that is new has not been found before.
          refine absurd (mem_foldl_addName.2 (.inr ⟨?_, fresh.1⟩)) fresh.2
          exact List.mem_map.2 ⟨_, otherMember, rfl⟩
        · rw [(Prod.mk.inj (List.mem_singleton.1 otherMember)).1]
          exact beforeLast placed

theorem pairwise_calledNames (source : Text) :
    (calledNames source).Pairwise (CalledBefore source) := by
  have ordered := pairwise_foldl_addName (pairwise_foundCalls source)
  rw [map_snd_foundCalls] at ordered
  refine ordered.imp ?_
  rintro earlier later ⟨place, member, first⟩
  exact ⟨place, mem_foundCalls_iff.1 member, fun other called =>
    first other (mem_foundCalls_iff.2 called)⟩

theorem mem_calledNames_iff {source name : Text} :
    name ∈ calledNames source ↔ name ≠ [] ∧ ∃ place, CalledAt source place name := by
  rw [mem_calledNames, and_comm, ← map_snd_foundCalls, List.mem_map]
  refine and_congr_right fun _ => ⟨?_, ?_⟩
  · rintro ⟨⟨place, _⟩, member, rfl⟩
    exact ⟨place, mem_foundCalls_iff.1 member⟩
  · rintro ⟨place, called⟩
    exact ⟨(place, name), mem_foundCalls_iff.2 called, rfl⟩

/--
A caller file that can be read yields the names that a search finds in it, each once; and a search
finds a call of a name at a place exactly if one is written there.  So the names are those, and
only those, that are not empty and are called somewhere in the text, in the order of their first
calls.
-/
theorem calledNamesOfFile_misses_no_call
    {workspace : Workspace}
    {file : FilePath}
    {source : Text}
    (read : workspace.readText file = .ok source) :
    ∃ names,
      calledNamesOfFile workspace file = .ok names ∧
        names = ((foundCalls source).map Prod.snd).foldl addName [] ∧
        (∀ place name, (place, name) ∈ foundCalls source ↔ CalledAt source place name) ∧
        (∀ name, name ∈ names ↔ name ≠ [] ∧ ∃ place, CalledAt source place name) ∧
        names.Nodup ∧
        names.Pairwise (CalledBefore source) := by
  refine ⟨calledNames source, ?_, ?_, fun _ _ => mem_foundCalls_iff, fun _ => mem_calledNames_iff,
    nodup_calledNames source, pairwise_calledNames source⟩
  · rw [calledNamesOfFile, read]
  · rw [map_snd_foundCalls, calledNames]

/-- A caller with calls that look into one another and names of back-ticks only. -/
def entangledCaller : Text :=
  "CALL CALL `b_2`\n (1) CALL xCALL  (CALL ``()) CALL a_1(CALL b_2(); call c_3();".toList

/-- One name is called twice, one consists of back-ticks, and one is called in small letters. -/
theorem calledNamesOfFile_misses_no_call_entangledCaller :
    let workspace := Workspace.ofTexts [("calls".toList, entangledCaller)]
    let file := FilePath.parse "calls".toList
    workspace.readText file = .ok entangledCaller ∧
      calledNamesOfFile workspace file = .ok ["b_2".toList, "xCALL".toList, "a_1".toList] ∧
      (∃ place, CalledAt entangledCaller place "xCALL".toList) ∧
      (¬ ∃ place, CalledAt entangledCaller place "c_3".toList) ∧
      CalledBefore entangledCaller "xCALL".toList "a_1".toList := by
  intro workspace file
  have read : workspace.readText file = .ok entangledCaller := by
    decide +kernel
  have yielded : calledNamesOfFile workspace file =
      .ok ["b_2".toList, "xCALL".toList, "a_1".toList] := by
    decide +kernel
  rcases calledNamesOfFile_misses_no_call read with ⟨names, same, -, -, called, -, ordered⟩
  obtain rfl := Except.ok.inj (yielded.symm.trans same)
  have nonempty : "c_3".toList ≠ [] := by decide
  refine ⟨read, yielded, ((called _).1 (by decide)).2, fun some => ?_, ?_⟩
  · exact absurd ((called _).2 ⟨nonempty, some⟩) (by decide)
  · exact List.rel_of_pairwise_cons (List.pairwise_cons.1 ordered).2 (by decide)

end ProcedureAudit.Routine
