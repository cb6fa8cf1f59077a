import Mathlib.Data.List.Forall2
import Mathlib.Data.List.Nodup
import Mathlib.Data.List.Perm.Basic
import Mathlib.Data.List.TakeWhile
import Mathlib.Logic.Relation
import ProcedureAudit.Proofs.Text.Basic
import ProcedureAudit.Proofs.Text.Respelling
import ProcedureAudit.Routine.Callers

/-!
# Calls in other spellings

A call is `CALL` and spaces, a name, and blanks before an opening parenthesis.  Calls do not
overlap: no text before a call can join it to a call of its own, and nothing inside it begins
another one.  So a name that is written in another letter case is the only one to change among the
names that a text calls.
-/

namespace ProcedureAudit.Routine

/-! ## The parts of a call -/

/-- A text that can stand between `CALL` and the parenthesis. -/
structure IsCalledName (name : Text) : Prop where
  nonempty : name ≠ []
  inside : ∀ character ∈ name, inCalledName character = true

/-- What surrounds the name of a call: spaces after `CALL` and blanks before the parenthesis. -/
structure CallSite where
  spaces : Text
  blanks : Text
  spaced : ∀ character ∈ spaces, character = ' '
  blank : ∀ character ∈ blanks, Text.isBlank character = true

/-- A call of a name, followed by the rest of a text. -/
def CallSite.write (site : CallSite) (name after : Text) : Text :=
  "CALL ".toList ++ (site.spaces ++ (name ++ (site.blanks ++ '(' :: after)))

/-- The name that is called by a written one. -/
def withoutBackticks (written : Text) : Text :=
  Text.dropAround (· = '\x60') written

theorem ne_of_inCalledName
    {character other : Char}
    (inside : inCalledName character = true)
    (outside : inCalledName other = false) :
    character ≠ other := by
  rintro rfl
  rw [inside] at outside
  contradiction

theorem inCalledName_of_isBlank
    {character : Char}
    (blank : Text.isBlank character = true) :
    inCalledName character = false := by
  simp [inCalledName, blank]

theorem isBlank_of_inCalledName
    {character : Char}
    (inside : inCalledName character = true) :
    Text.isBlank character = false := by
  cases blank : Text.isBlank character with
  | true =>
      rw [inCalledName_of_isBlank blank] at inside
      contradiction
  | false => rfl

namespace IsCalledName

variable {name : Text} (called : IsCalledName name)

include called

theorem exists_cons :
    ∃ first rest, name = first :: rest ∧ inCalledName first = true := by
  cases name with
  | nil => exact (called.nonempty rfl).elim
  | cons first rest => exact ⟨first, rest, rfl, called.inside first (List.mem_cons_self ..)⟩

/-- What stops the reading of a name, whatever it is that follows the name. -/
theorem dropWhile_spaces_append
    {spaces : Text}
    (spaced : ∀ character ∈ spaces, character = ' ')
    (tail : Text) :
    (spaces ++ (name ++ tail)).dropWhile (fun character => decide (character = ' ')) =
      name ++ tail := by
  rcases called.exists_cons with ⟨first, rest, rfl, inside⟩
  refine Text.dropWhile_append_of_head? (fun character member => by simp [spaced character member])
    fun character head => ?_
  have same : first = character := Option.some.inj head
  have differs := ne_of_inCalledName inside (by decide : inCalledName ' ' = false)
  simp [← same, differs]

end IsCalledName

theorem inCalledName_head?_blanks
    {blanks : Text}
    (blank : ∀ character ∈ blanks, Text.isBlank character = true)
    (after : Text) :
    ∀ character ∈ (blanks ++ '(' :: after).head?, inCalledName character = false := by
  intro character head
  cases blanks with
  | nil =>
      have same : '(' = character := Option.some.inj head
      subst same
      decide
  | cons first blanks =>
      have same : first = character := Option.some.inj head
      exact same ▸ inCalledName_of_isBlank (blank first (List.mem_cons_self ..))

theorem dropWhile_isBlank_blanks
    {blanks : Text}
    (blank : ∀ character ∈ blanks, Text.isBlank character = true)
    (after : Text) :
    (blanks ++ '(' :: after).dropWhile Text.isBlank = '(' :: after :=
  Text.dropWhile_append_of_head? blank (by simp [Text.isBlank])

/-- A call begins at `CALL`. -/
theorem callAt?_write
    (site : CallSite)
    {name : Text}
    (called : IsCalledName name)
    (after : Text) :
    callAt? (site.write name after) = some (withoutBackticks name) := by
  have stops := inCalledName_head?_blanks site.blank after
  have full : name.isEmpty = false := by simpa using called.nonempty
  unfold callAt?
  rw [Text.dropOpening?_eq_some_iff.2 (rfl : site.write name after = "CALL ".toList ++ _)]
  dsimp only
  rw [called.dropWhile_spaces_append site.spaced,
    Text.dropWhile_append_of_head? called.inside stops,
    Text.takeWhile_append_of_head? called.inside stops, dropWhile_isBlank_blanks site.blank]
  simp [full, withoutBackticks]

/-- Wherever a call begins, the text is written as one. -/
theorem exists_write_of_callAt?
    {text called : Text}
    (found : callAt? text = some called) :
    ∃ (site : CallSite) (name after : Text),
      IsCalledName name ∧ text = site.write name after ∧ withoutBackticks name = called := by
  unfold callAt? at found
  cases opened : Text.dropOpening? "CALL ".toList text with
  | none =>
      rw [opened] at found
      contradiction
  | some rest =>
      rw [opened] at found
      dsimp only at found
      split at found
      · rename_i after reached
        split at found
        · contradiction
        · rename_i full
          let unspaced := rest.dropWhile fun character => decide (character = ' ')
          let site : CallSite :=
            { spaces := rest.takeWhile fun character => decide (character = ' ')
              blanks := (unspaced.dropWhile inCalledName).takeWhile Text.isBlank
              spaced := fun character member => by simpa using List.mem_takeWhile_imp member
              blank := fun character member => List.mem_takeWhile_imp member }
          refine ⟨site, unspaced.takeWhile inCalledName, after, ⟨?_, ?_⟩, ?_, ?_⟩
          · simpa using full
          · exact fun character member => List.mem_takeWhile_imp member
          · rw [Text.dropOpening?_eq_some_iff.1 opened, CallSite.write, ← reached,
              List.takeWhile_append_dropWhile, List.takeWhile_append_dropWhile,
              List.takeWhile_append_dropWhile]
          · exact Option.some.inj found
      · contradiction

/-! ## Calls do not overlap -/

theorem callAt?_eq_none_of_ne
    {first : Char}
    (other : first ≠ 'C')
    (rest : Text) :
    callAt? (first :: rest) = none := by
  have unopened : Text.dropOpening? "CALL ".toList (first :: rest) = none := by
    change Text.dropOpening? ('C' :: _) (first :: rest) = none
    rw [Text.dropOpening?, if_neg other]
  rw [callAt?, unopened]

theorem calls_append_of_not_mem
    {skipped : Text}
    (absent : 'C' ∉ skipped)
    (rest : Text) :
    calls (skipped ++ rest) = calls rest := by
  induction skipped with
  | nil => rfl
  | cons first skipped induction =>
      rw [List.mem_cons, not_or] at absent
      rw [List.cons_append, calls, callAt?_eq_none_of_ne (Ne.symm absent.1)]
      exact induction absent.2

/-- No call begins inside the name of another one. -/
theorem callAt?_inside_name
    {name blanks : Text}
    (called : IsCalledName name)
    (blank : ∀ character ∈ blanks, Text.isBlank character = true)
    (after : Text) :
    callAt? (name ++ (blanks ++ '(' :: after)) = none := by
  have stops := inCalledName_head?_blanks blank after
  cases opened : Text.dropOpening? "CALL ".toList (name ++ (blanks ++ '(' :: after)) with
  | none => rw [callAt?, opened]
  | some rest =>
      -- The name can only be `CALL` itself, and then no name stands before the parenthesis.
      have split := Text.dropOpening?_eq_some_iff.1 opened
      have remaining := congrArg (List.dropWhile inCalledName) split
      rw [Text.dropWhile_append_of_head? called.inside stops] at remaining
      change blanks ++ '(' :: after = ' ' :: rest at remaining
      cases blanks with
      | nil => exact absurd (List.cons.inj remaining).1 (by decide)
      | cons first blanks =>
          have tail := (List.cons.inj remaining).2
          have later : ∀ character ∈ blanks.dropWhile (fun character => decide (character = ' ')),
              Text.isBlank character = true := fun character member =>
            blank character (List.mem_cons_of_mem _ ((List.dropWhile_sublist _).mem member))
          have nameless : ((rest.dropWhile fun character => decide (character = ' ')).takeWhile
              inCalledName) = [] := by
            change (blanks ++ '(' :: after) = rest at tail
            rw [← tail, Text.dropWhile_append_stop (by decide)]
            exact Text.takeWhile_append_of_head? (fun _ member => (List.not_mem_nil member).elim)
              (inCalledName_head?_blanks later after)
          rw [callAt?, opened]
          dsimp only
          rw [nameless]
          split <;> rfl

theorem calls_inside_name
    {name blanks : Text}
    (inside : ∀ character ∈ name, inCalledName character = true)
    (blank : ∀ character ∈ blanks, Text.isBlank character = true)
    (after : Text) :
    calls (name ++ (blanks ++ '(' :: after)) = calls after := by
  induction name with
  | nil =>
      have absent : 'C' ∉ blanks ++ ['('] := by
        intro member
        rcases List.mem_append.1 member with member | member
        · exact absurd (blank 'C' member) (by decide)
        · exact absurd (List.mem_singleton.1 member) (by decide)
      have skipped := calls_append_of_not_mem absent after
      rwa [List.append_assoc] at skipped
  | cons first name induction =>
      have called : IsCalledName (first :: name) := ⟨List.cons_ne_nil _ _, inside⟩
      have nothing := callAt?_inside_name called blank after
      rw [List.cons_append] at nothing ⊢
      rw [calls, nothing]
      exact induction fun character member => inside character (List.mem_cons_of_mem _ member)

theorem calls_write
    (site : CallSite)
    {name : Text}
    (called : IsCalledName name)
    (after : Text) :
    calls (site.write name after) = withoutBackticks name :: calls after := by
  have absent : 'C' ∉ "ALL ".toList ++ site.spaces := by
    intro member
    rcases List.mem_append.1 member with member | member
    · exact absurd member (by decide)
    · exact absurd (site.spaced 'C' member) (by decide)
  have first := callAt?_write site called after
  have inner := calls_append_of_not_mem absent (name ++ (site.blanks ++ '(' :: after))
  rw [List.append_assoc, calls_inside_name called.inside site.blank] at inner
  rw [CallSite.write] at first ⊢
  change callAt? ('C' :: ("ALL ".toList ++ _)) = _ at first
  change calls ('C' :: ("ALL ".toList ++ _)) = _
  rw [calls, first, inner]
  rfl

/-- What follows the space after `CALL` ends in the last letter of the text, if not in a space. -/
theorem exists_concat_of_dropOpening?
    {word rest : Text}
    (opened : Text.dropOpening? "CALL ".toList (word ++ ['L']) = some rest) :
    ∃ init, rest = init ++ ['L'] := by
  have ends : some 'L' = rest.getLast?.or "CALL ".toList.getLast? := by
    rw [← List.getLast?_append, ← Text.dropOpening?_eq_some_iff.1 opened, List.getLast?_concat]
  cases ending : rest.getLast? with
  | none =>
      rw [ending] at ends
      exact absurd ends (by decide)
  | some last =>
      rw [ending] at ends
      rcases Option.some.inj ends with rfl
      exact List.getLast?_eq_some_iff.1 ending

/-- A blank and what follows it, unless that is a parenthesis, have no part in a call before it. -/
theorem callAt?_append_blank
    {word tail : Text}
    (long : "CALL ".toList.length ≤ (word ++ ['L']).length)
    (unopened : ∀ rest, tail.dropWhile Text.isBlank ≠ '(' :: rest) :
    callAt? ((word ++ ['L']) ++ ' ' :: tail) = callAt? (word ++ ['L']) := by
  unfold callAt?
  rw [Text.dropOpening?_append long]
  cases opened : Text.dropOpening? "CALL ".toList (word ++ ['L']) with
  | none => rfl
  | some rest =>
      rcases exists_concat_of_dropOpening? opened with ⟨init, rfl⟩
      let unspaced := init.dropWhile (fun character => decide (character = ' ')) ++ ['L']
      have short : (init ++ ['L']).dropWhile (fun character => decide (character = ' ')) =
          unspaced :=
        Text.dropWhile_append_stop (by decide) init []
      have full : (init ++ ['L'] ++ ' ' :: tail).dropWhile
          (fun character => decide (character = ' ')) = unspaced ++ ' ' :: tail := by
        rw [List.append_assoc, List.append_assoc]
        exact Text.dropWhile_append_stop (by decide) init (' ' :: tail)
      simp only [Option.map_some]
      rw [short, full, Text.takeWhile_append_stop (by decide),
        Text.dropWhile_append_stop (by decide), List.dropWhile_append]
      cases ended : (unspaced.dropWhile inCalledName).dropWhile Text.isBlank with
      | nil =>
          rw [List.isEmpty_nil, if_pos rfl, List.dropWhile_cons_of_pos (by decide)]
          split
          · rename_i rest reached
            exact (unopened rest reached).elim
          · rfl
      | cons first rest =>
          rw [List.isEmpty_cons, if_neg Bool.false_ne_true, List.cons_append]
          by_cases parenthesis : first = '('
          · subst parenthesis
            rfl
          · split
            · rename_i same
              exact (parenthesis (List.cons.inj same).1).elim
            · split
              · rename_i same
                exact (parenthesis (List.cons.inj same).1).elim
              · rfl

/-- Whether a call begins before another one is settled by the text up to the other `CALL`. -/
theorem callAt?_before_write
    {before : Text}
    (nonempty : before ≠ [])
    (site : CallSite)
    {name : Text}
    (called : IsCalledName name)
    (after : Text) :
    callAt? (before ++ site.write name after) = callAt? (before ++ "CALL".toList) := by
  have long : "CALL ".toList.length ≤ ((before ++ "CAL".toList) ++ ['L']).length := by
    have some := List.length_pos_iff.2 nonempty
    simp only [List.length_append, List.length_singleton]
    change 5 ≤ before.length + 3 + 1
    omega
  have unopened : ∀ rest,
      (site.spaces ++ (name ++ (site.blanks ++ '(' :: after))).dropWhile Text.isBlank ≠
        '(' :: rest := by
    rcases called.exists_cons with ⟨first, others, rfl, inside⟩
    intro rest equal
    rw [Text.dropWhile_append_of_head?
      (fun character member => by rw [site.spaced character member]; decide)
      (fun character head => Option.some.inj head ▸ isBlank_of_inCalledName inside)] at equal
    exact ne_of_inCalledName inside (by decide) (List.cons.inj equal).1
  have split := callAt?_append_blank long unopened
  rw [List.append_assoc, List.append_assoc, List.append_assoc] at split
  exact split

theorem calls_before_write
    {first : Char}
    {before : Text}
    (site : CallSite)
    {name : Text}
    (called : IsCalledName name)
    (after : Text) :
    calls (first :: before ++ site.write name after) =
      (callAt? (first :: before ++ "CALL".toList)).toList ++
        calls (before ++ site.write name after) := by
  rw [← callAt?_before_write (List.cons_ne_nil first before) site called after,
    List.cons_append, calls]

/-- The calls before and after a call do not depend on what it calls. -/
theorem exists_calls_append_write (before : Text) :
    ∃ earlier, ∀ (site : CallSite) (name after : Text), IsCalledName name →
      calls (before ++ site.write name after) =
        earlier ++ withoutBackticks name :: calls after := by
  induction before with
  | nil => exact ⟨[], fun site name after called => calls_write site called after⟩
  | cons first before induction =>
      rcases induction with ⟨earlier, each⟩
      refine ⟨(callAt? (first :: before ++ "CALL".toList)).toList ++ earlier, ?_⟩
      intro site name after called
      rw [calls_before_write site called, each site name after called, List.append_assoc]

/-- Each of the calls of a text is written somewhere, and any other name can stand there. -/
theorem exists_write_of_calls
    {text called : Text}
    {earlier later : List Text}
    (found : calls text = earlier ++ called :: later) :
    ∃ (before : Text) (site : CallSite) (name after : Text),
      IsCalledName name ∧
        withoutBackticks name = called ∧
        text = before ++ site.write name after ∧
        ∀ other, IsCalledName other →
          calls (before ++ site.write other after) =
            earlier ++ withoutBackticks other :: later := by
  induction text generalizing earlier with
  | nil =>
      rw [calls] at found
      exact absurd found (by simp)
  | cons first rest induction =>
      -- Either the call begins here, or it is one of the rest and an earlier one may begin here.
      have furtherOn {remaining : List Text}
          (heads : earlier = (callAt? (first :: rest)).toList ++ remaining)
          (inRest : calls rest = remaining ++ called :: later) :
          ∃ (before : Text) (site : CallSite) (name after : Text),
            IsCalledName name ∧
              withoutBackticks name = called ∧
              first :: rest = before ++ site.write name after ∧
              ∀ other, IsCalledName other →
                calls (before ++ site.write other after) =
                  earlier ++ withoutBackticks other :: later := by
        rcases induction inRest with ⟨before, site, name, after, isName, same, split, each⟩
        refine ⟨first :: before, site, name, after, isName, same,
          congrArg (List.cons first) split, fun other otherName => ?_⟩
        have settled := callAt?_before_write (List.cons_ne_nil first before) site isName after
        rw [List.cons_append, ← split] at settled
        rw [calls_before_write site otherName, each other otherName, heads, settled,
          List.append_assoc]
      rw [calls] at found
      cases here : callAt? (first :: rest) with
      | none =>
          rw [here] at found
          exact furtherOn (by rw [here]; rfl) found
      | some begun =>
          rw [here, Option.toList_some, List.singleton_append] at found
          cases earlier with
          | nil =>
              rcases List.cons.inj found with ⟨rfl, rfl⟩
              rcases exists_write_of_callAt? here with ⟨site, name, after, isName, split, same⟩
              refine ⟨[], site, name, after, isName, same, split, fun other otherName => ?_⟩
              have written := calls_write site isName after
              rw [← split, calls, here, Option.toList_some, List.singleton_append] at written
              rw [List.nil_append, calls_write site otherName, (List.cons.inj written).2]
              rfl
          | cons head remaining =>
              rcases List.cons.inj found with ⟨rfl, inRest⟩
              exact furtherOn (by rw [here]; rfl) inRest

/-! ## Other spellings of calls -/

theorem inCalledName_recase
    {recase : Char → Char}
    (recases : Text.Recases recase)
    (character : Char) :
    inCalledName (recase character) = inCalledName character :=
  recases.apply inCalledName (by decide) character

theorem withoutBackticks_map
    {recase : Char → Char}
    (recases : Text.Recases recase)
    (name : Text) :
    withoutBackticks (name.map recase) = (withoutBackticks name).map recase :=
  Text.map_dropAround_of_blind
    (recases.apply (fun character => decide (character = '\x60')) (by decide)) name

theorem IsCalledName.caseVariant
    {name other : Text}
    (called : IsCalledName name)
    (variant : Text.CaseVariant name other) :
    IsCalledName other where
  nonempty := mt variant.eq_nil_iff.2 called.nonempty
  inside := by
    intro character member
    have small : Text.smallLetter character ∈ name.map Text.smallLetter :=
      variant ▸ List.mem_map_of_mem member
    rcases List.mem_map.1 small with ⟨written, writtenMember, same⟩
    rw [← inCalledName_recase Text.recases_smallLetter, ← same,
      inCalledName_recase Text.recases_smallLetter]
    exact called.inside written writtenMember

theorem caseVariant_withoutBackticks
    {name other : Text}
    (variant : Text.CaseVariant name other) :
    Text.CaseVariant (withoutBackticks name) (withoutBackticks other) := by
  rw [Text.CaseVariant, ← withoutBackticks_map Text.recases_smallLetter, variant,
    withoutBackticks_map Text.recases_smallLetter]

/-- One text results from another by another spelling of the name in one call. -/
inductive RespellsCall : Text → Text → Prop
  | intro (before : Text) (site : CallSite) {name other : Text} (after : Text)
      (called : IsCalledName name) (variant : Text.CaseVariant name other) :
      RespellsCall (before ++ site.write name after) (before ++ site.write other after)

/-- One text results from another by other spellings of names in calls. -/
def RespellsCalls : Text → Text → Prop :=
  Relation.ReflTransGen RespellsCall

theorem RespellsCall.map_calls {source respelled : Text} (respells : RespellsCall source respelled) :
    (calls source).map (List.map Text.smallLetter) =
      (calls respelled).map (List.map Text.smallLetter) := by
  rcases respells with ⟨before, site, after, called, variant⟩
  rcases exists_calls_append_write before with ⟨earlier, each⟩
  rw [each _ _ _ called, each _ _ _ (called.caseVariant variant), List.map_append, List.map_append,
    List.map_cons, List.map_cons, caseVariant_withoutBackticks variant]

/-- Calls that are spelled otherwise call case variants, one for one. -/
theorem RespellsCalls.forall₂_calls
    {source respelled : Text}
    (respells : RespellsCalls source respelled) :
    List.Forall₂ Text.CaseVariant (calls source) (calls respelled) := by
  have same : (calls source).map (List.map Text.smallLetter) =
      (calls respelled).map (List.map Text.smallLetter) := by
    induction respells with
    | refl => rfl
    | tail _ step earlier => exact earlier.trans step.map_calls
  rw [← List.forall₂_eq_eq_eq, List.forall₂_map_left_iff, List.forall₂_map_right_iff] at same
  exact same

section Respelling

variable
    {recase : Char → Char}
    (recases : Text.Recases recase)

include recases

theorem exists_respellsCall
    {source called : Text}
    {earlier later : List Text}
    (found : calls source = earlier ++ called :: later) :
    ∃ respelled, RespellsCall source respelled ∧
      calls respelled = earlier ++ called.map recase :: later := by
  rcases exists_write_of_calls found with ⟨before, site, name, after, isName, rfl, rfl, each⟩
  have variant := recases.caseVariant name
  refine ⟨_, .intro before site after isName variant, ?_⟩
  rw [each _ (isName.caseVariant variant), withoutBackticks_map recases]

/-- All calls after the first ones can be spelled otherwise. -/
theorem exists_respellsCalls
    {source : Text}
    {kept changed : List Text}
    (found : calls source = kept ++ changed) :
    ∃ respelled, RespellsCalls source respelled ∧
      calls respelled = kept ++ changed.map (List.map recase) := by
  induction changed generalizing source kept with
  | nil => exact ⟨source, .refl, found⟩
  | cons called changed induction =>
      rcases exists_respellsCall recases found with ⟨next, step, nextCalls⟩
      have regrouped : calls next = (kept ++ [called.map recase]) ++ changed := by
        rw [nextCalls, List.append_assoc]
        rfl
      rcases induction regrouped with ⟨respelled, steps, respelledCalls⟩
      refine ⟨respelled, .head step steps, ?_⟩
      rw [respelledCalls, List.append_assoc]
      rfl

end Respelling

/-! ## Names without repetitions -/

theorem addName_eq (known : List Text) (name : Text) :
    addName known name = if name = [] ∨ name ∈ known then known else known ++ [name] := by
  simp [addName]

theorem mem_addName {known : List Text} {first name : Text} :
    name ∈ addName known first ↔ name ∈ known ∨ (name = first ∧ name ≠ []) := by
  rw [addName_eq]
  split
  · rename_i old
    constructor
    · exact .inl
    · rintro (member | ⟨rfl, nonempty⟩)
      · exact member
      · exact old.resolve_left nonempty
  · rename_i fresh
    rw [not_or] at fresh
    rw [List.mem_append, List.mem_singleton]
    constructor
    · rintro (member | rfl)
      · exact .inl member
      · exact .inr ⟨rfl, fresh.1⟩
    · rintro (member | ⟨same, -⟩)
      · exact .inl member
      · exact .inr same

theorem mem_foldl_addName {names known : List Text} {name : Text} :
    name ∈ names.foldl addName known ↔ name ∈ known ∨ (name ∈ names ∧ name ≠ []) := by
  induction names generalizing known with
  | nil => simp
  | cons first names induction =>
      rw [List.foldl_cons, induction, mem_addName, List.mem_cons, or_assoc]
      constructor
      · rintro (member | ⟨rfl, nonempty⟩ | ⟨member, nonempty⟩)
        · exact .inl member
        · exact .inr ⟨.inl rfl, nonempty⟩
        · exact .inr ⟨.inr member, nonempty⟩
      · rintro (member | ⟨rfl | member, nonempty⟩)
        · exact .inl member
        · exact .inr (.inl ⟨rfl, nonempty⟩)
        · exact .inr (.inr ⟨member, nonempty⟩)

theorem nodup_foldl_addName {names known : List Text} (distinct : known.Nodup) :
    (names.foldl addName known).Nodup := by
  induction names generalizing known with
  | nil => exact distinct
  | cons first names induction =>
      rw [List.foldl_cons]
      refine induction ?_
      rw [addName_eq]
      split
      · exact distinct
      · rename_i fresh
        rw [← List.concat_eq_append]
        exact distinct.concat fun member => fresh (.inr member)

theorem mem_calledNames {source name : Text} :
    name ∈ calledNames source ↔ name ∈ calls source ∧ name ≠ [] := by
  rw [calledNames, mem_foldl_addName, or_iff_right List.not_mem_nil]

theorem nodup_calledNames (source : Text) : (calledNames source).Nodup :=
  nodup_foldl_addName List.nodup_nil

/-- A new name in the place of a repeated one is one name more. -/
theorem calledNames_perm
    {source respelled repeated fresh : Text}
    {earlier later : List Text}
    (sourceCalls : calls source = earlier ++ repeated :: later)
    (respelledCalls : calls respelled = earlier ++ fresh :: later)
    (member : repeated ∈ earlier)
    (unmet : fresh ∉ calls source)
    (nonempty : fresh ≠ []) :
    (calledNames respelled).Perm (calledNames source ++ [fresh]) := by
  have distinct : (calledNames source ++ [fresh]).Nodup := by
    rw [← List.concat_eq_append]
    exact (nodup_calledNames source).concat fun known => unmet (mem_calledNames.1 known).1
  rw [List.perm_ext_iff_of_nodup (nodup_calledNames respelled) distinct]
  intro name
  rw [List.mem_append, List.mem_singleton, mem_calledNames, mem_calledNames, sourceCalls,
    respelledCalls, List.mem_append, List.mem_append, List.mem_cons, List.mem_cons]
  constructor
  · rintro ⟨before | rfl | after, full⟩
    · exact .inl ⟨.inl before, full⟩
    · exact .inr rfl
    · exact .inl ⟨.inr (.inr after), full⟩
  · rintro (⟨before | rfl | after, full⟩ | rfl)
    · exact ⟨.inl before, full⟩
    · exact ⟨.inl member, full⟩
    · exact ⟨.inr (.inr after), full⟩
    · exact ⟨.inr (.inl rfl), nonempty⟩

/-- A name with letters that is called twice can be respelled so that one name more is called. -/
theorem exists_calledNames_perm
    {source first later : Text}
    (sublist : [first, later].Sublist (calls source))
    (variant : Text.CaseVariant first later)
    (letter : Text.HasLetter first) :
    ∃ once twice spelled,
      RespellsCalls source once ∧
        RespellsCalls source twice ∧
        Text.CaseVariant first spelled ∧
        (calledNames twice).Perm (calledNames once ++ [spelled]) := by
  rcases List.cons_sublist_iff.1 sublist with ⟨before, rest, split, firstMember, inRest⟩
  rcases List.append_of_mem (List.singleton_sublist.1 inRest) with ⟨middle, after, rfl⟩
  rw [← List.append_assoc] at split
  rcases exists_respellsCalls Text.recases_smallLetter (List.nil_append (calls source)).symm with
    ⟨once, steps, onceCalls⟩
  rw [List.nil_append] at onceCalls
  -- All calls are in small letters, before the later one of the two is put in capitals.
  have parted := onceCalls
  rw [split, List.map_append, List.map_cons] at parted
  rcases exists_respellsCall Text.recases_capitalLetter parted with ⟨twice, step, twiceCalls⟩
  have toSmall := variant.trans (Text.recases_smallLetter.caseVariant later)
  have toCapital := toSmall.trans (Text.recases_capitalLetter.caseVariant _)
  refine ⟨once, twice, _, steps, steps.tail step, toCapital, ?_⟩
  apply calledNames_perm parted twiceCalls
  · rw [← variant]
    exact List.mem_map_of_mem (List.mem_append_left middle firstMember)
  · intro member
    rw [onceCalls] at member
    rcases List.mem_map.1 member with ⟨written, -, same⟩
    exact Text.map_capitalLetter_ne_map_smallLetter (toSmall.hasLetter_iff.1 letter) written
      same.symm
  · exact mt toCapital.eq_nil_iff.2 letter.ne_nil

/-! ## Skip lists -/

/-- The lists hold the same names, apart from the case of their letters. -/
def SameNames (names others : List Text) : Prop :=
  (∀ name ∈ names, ∃ other ∈ others, Text.CaseVariant name other) ∧
    ∀ other ∈ others, ∃ name ∈ names, Text.CaseVariant name other

theorem sameNames_refl (names : List Text) : SameNames names names :=
  ⟨fun name member => ⟨name, member, .refl name⟩, fun name member => ⟨name, member, .refl name⟩⟩

theorem SameNames.symm {names others : List Text} (same : SameNames names others) :
    SameNames others names := by
  constructor
  · intro other member
    rcases same.2 other member with ⟨name, nameMember, variant⟩
    exact ⟨name, nameMember, variant.symm⟩
  · intro name member
    rcases same.1 name member with ⟨other, otherMember, variant⟩
    exact ⟨other, otherMember, variant.symm⟩

theorem sameNames_of_forall₂
    {names others : List Text}
    (variants : List.Forall₂ Text.CaseVariant names others) :
    SameNames names others := by
  induction variants with
  | nil => exact sameNames_refl []
  | @cons name other names others variant _ induction =>
      constructor
      · intro spelled member
        rcases List.mem_cons.1 member with rfl | member
        · exact ⟨other, List.mem_cons_self .., variant⟩
        · rcases induction.1 spelled member with ⟨found, foundMember, same⟩
          exact ⟨found, List.mem_cons_of_mem _ foundMember, same⟩
      · intro spelled member
        rcases List.mem_cons.1 member with rfl | member
        · exact ⟨name, List.mem_cons_self .., variant⟩
        · rcases induction.2 spelled member with ⟨found, foundMember, same⟩
          exact ⟨found, List.mem_cons_of_mem _ foundMember, same⟩

theorem sameNames_map
    {recase : Char → Char}
    (recases : Text.Recases recase)
    (names : List Text) :
    SameNames names (names.map (List.map recase)) :=
  sameNames_of_forall₂ (recases.forall₂_caseVariant names)

/-- A name without letters has one spelling, so that it is in both lists or in none. -/
theorem SameNames.mem_iff
    {names others : List Text}
    (same : SameNames names others)
    {name : Text}
    (letterless : ¬ Text.HasLetter name) :
    name ∈ names ↔ name ∈ others := by
  constructor
  · intro member
    rcases same.1 name member with ⟨other, otherMember, variant⟩
    exact variant.eq_of_not_hasLetter letterless ▸ otherMember
  · intro member
    rcases same.2 name member with ⟨other, otherMember, variant⟩
    exact variant.symm.eq_of_not_hasLetter letterless ▸ otherMember

theorem mem_skippedNames {list name : Text} :
    name ∈ skippedNames list ↔ name ∈ (Text.splitOn '\n' list).map Text.trim ∧ name ≠ [] := by
  simp [skippedNames, mem_foldl_addName]

theorem exists_skippedNames_of_caseVariant
    {list other name : Text}
    (variant : Text.CaseVariant list other)
    (member : name ∈ skippedNames list) :
    ∃ spelled ∈ skippedNames other, Text.CaseVariant name spelled := by
  have ends : ∀ character, Text.smallLetter character = '\n' ↔ character = '\n' := by
    intro character
    simpa using Text.apply_smallLetter (fun other => decide (other = '\n')) (by decide) character
  have lines : (Text.splitOn '\n' list).map (List.map Text.smallLetter) =
      (Text.splitOn '\n' other).map (List.map Text.smallLetter) := by
    rw [← Text.map_splitOn_of_blind ends, variant, Text.map_splitOn_of_blind ends]
  rw [mem_skippedNames] at member
  rcases List.mem_map.1 member.1 with ⟨line, lineMember, rfl⟩
  have small : line.map Text.smallLetter ∈
      (Text.splitOn '\n' other).map (List.map Text.smallLetter) :=
    lines ▸ List.mem_map_of_mem lineMember
  rcases List.mem_map.1 small with ⟨otherLine, otherMember, same⟩
  have blank := Text.apply_smallLetter Text.isBlank (by decide)
  have trimmed : Text.CaseVariant (Text.trim line) (Text.trim otherLine) := by
    rw [Text.CaseVariant, Text.trim, Text.trim, ← Text.map_dropAround_of_blind blank, ← same,
      Text.map_dropAround_of_blind blank]
  refine ⟨Text.trim otherLine, ?_, trimmed⟩
  rw [mem_skippedNames]
  exact ⟨List.mem_map_of_mem otherMember, mt trimmed.eq_nil_iff.2 member.2⟩

/-- A skip list in another letter case holds the same names. -/
theorem sameNames_skippedNames
    {list other : Text}
    (variant : Text.CaseVariant list other) :
    SameNames (skippedNames list) (skippedNames other) := by
  constructor
  · intro name member
    exact exists_skippedNames_of_caseVariant variant member
  · intro name member
    rcases exists_skippedNames_of_caseVariant variant.symm member with ⟨spelled, found, same⟩
    exact ⟨spelled, found, same.symm⟩

end ProcedureAudit.Routine
