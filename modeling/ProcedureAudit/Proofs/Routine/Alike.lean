import Mathlib.Data.List.TakeWhile
import ProcedureAudit.Proofs.Routine.Scan

/-!
# What a scan sees of a line

A scan makes five decisions about a line, and lines about which they are made in the same way may
stand for one another.  None of the decisions sees the blanks at the end of a line.
-/

namespace ProcedureAudit

namespace Routine

/-- The decisions that a scan makes about a line. -/
structure Sight where
  declared : Option Text
  ends : Bool
  selects : Bool
  marked : Bool
  trimmed : Text
deriving DecidableEq, Repr

def sightOf (line : Text) : Sight where
  declared := declaredName? line
  ends := endsBody line
  selects := opensSelect line
  marked := endsStatement line
  trimmed := Text.trim line

section Alike

variable {line other : Text} (alike : sightOf other = sightOf line)

include alike

theorem opensBody_eq_of_sightOf_eq (wanted : Option Text) :
    opensBody wanted other = opensBody wanted line := by
  have declared : declaredName? other = declaredName? line := congrArg Sight.declared alike
  rw [opensBody, declared, opensBody]

theorem Place.next_eq_of_sightOf_eq (wanted : Option Text) (place : Place) :
    place.next wanted other = place.next wanted line := by
  have ends : endsBody other = endsBody line := congrArg Sight.ends alike
  have selects : opensSelect other = opensSelect line := congrArg Sight.selects alike
  have marked : endsStatement other = endsStatement line := congrArg Sight.marked alike
  have trimmed : Text.trim other = Text.trim line := congrArg Sight.trimmed alike
  cases place with
  | outside => simp only [Place.next, opensBody_eq_of_sightOf_eq alike]
  | body => simp only [Place.next, ends, selects, marked, trimmed]
  | statement opened => simp only [Place.next, ends, marked, trimmed]

theorem Place.completed_eq_of_sightOf_eq (place : Place) :
    place.completed other = place.completed line := by
  have ends : endsBody other = endsBody line := congrArg Sight.ends alike
  have selects : opensSelect other = opensSelect line := congrArg Sight.selects alike
  have marked : endsStatement other = endsStatement line := congrArg Sight.marked alike
  have trimmed : Text.trim other = Text.trim line := congrArg Sight.trimmed alike
  cases place with
  | outside => rfl
  | body => simp only [Place.completed, ends, selects, marked, trimmed]
  | statement opened => simp only [Place.completed, ends, marked, trimmed]

end Alike

/-- Scans that see the same of each line yield the same statements. -/
theorem scanLines_eq_of_map_sightOf_eq
    {lines others : List Text}
    (alike : others.map sightOf = lines.map sightOf)
    (wanted : Option Text)
    (place : Place) :
    scanLines wanted place others = scanLines wanted place lines := by
  induction lines generalizing others place with
  | nil => rw [List.map_eq_nil_iff.1 alike]
  | cons line lines induction =>
      obtain ⟨other, later, rfl, first, rest⟩ := List.map_eq_cons_iff.1 alike
      rw [scanLines_cons, scanLines_cons, Place.completed_eq_of_sightOf_eq first,
        Place.next_eq_of_sightOf_eq first, induction rest]

/-! ## Blanks at the end of a line -/

/-- A text that consists of blanks. -/
def AllBlank (text : Text) : Prop :=
  ∀ character ∈ text, Text.isBlank character = true

instance (text : Text) : Decidable (AllBlank text) :=
  List.decidableBAll _ text

theorem stopsName_of_isBlank {character : Char} (blank : Text.isBlank character = true) :
    StopsName character := by
  have gap := Text.toNat_of_isBlank blank
  have differs (other : Char) (solid : Text.isBlank other = false) : character ≠ other := by
    rintro rfl
    rw [blank] at solid
    contradiction
  constructor
  · rw [Text.isLetterVariant, Text.foldLetter_of_isBlank blank, Bool.eq_false_iff]
    intro small
    have code := Text.isSmall_iff.1 small
    omega
  · exact differs '_' (by decide)
  · rw [Bool.and_eq_false_iff, decide_eq_false_iff_not, decide_eq_false_iff_not]
    change ¬ 48 ≤ character.toNat ∨ ¬ character.toNat ≤ 57
    omega
  · exact differs '\x60' (by decide)

section Blanks

variable {blanks : Text} (blank : AllBlank blanks)

include blank

theorem leadingName?_of_blanks : leadingName? (dropBacktick blanks) = none := by
  cases blanks with
  | nil => rfl
  | cons first blanks =>
      have stops := stopsName_of_isBlank (List.forall_mem_cons.1 blank).1
      have begins := dropBacktick_append_stop stops.backtick [] blanks
      rw [List.nil_append] at begins
      rw [begins]
      exact leadingName?_append_stop stops [] blanks

theorem leadingName?_append_blanks (text : Text) :
    leadingName? (dropBacktick (text ++ blanks)) = leadingName? (dropBacktick text) := by
  cases blanks with
  | nil => rw [List.append_nil]
  | cons first blanks =>
      have stops := stopsName_of_isBlank (List.forall_mem_cons.1 blank).1
      rw [dropBacktick_append_stop stops.backtick, leadingName?_append_stop stops]

/-- The keyword of a declaration may end with a blank that was appended, but then no name follows. -/
theorem declaredName?_append_blanks (line : Text) :
    declaredName? (line ++ blanks) = declaredName? line := by
  unfold declaredName?
  cases found : Text.dropKeyword? "create procedure ".toList line with
  | some rest =>
      obtain ⟨keyword, folded, rfl⟩ := Text.dropKeyword?_eq_some_iff.1 found
      have longer : Text.dropKeyword? "create procedure ".toList (keyword ++ rest ++ blanks) =
          some (rest ++ blanks) :=
        Text.dropKeyword?_eq_some_iff.2 ⟨keyword, folded, List.append_assoc ..⟩
      rw [longer]
      exact leadingName?_append_blanks blank rest
  | none =>
      cases longer : Text.dropKeyword? "create procedure ".toList (line ++ blanks) with
      | none => rfl
      | some rest =>
          obtain ⟨keyword, folded, split⟩ := Text.dropKeyword?_eq_some_iff.1 longer
          rcases List.append_eq_append_iff.1 split with ⟨more, -, within⟩ | ⟨more, within, -⟩
          · have restBlank : AllBlank rest := fun character member =>
              blank character (within ▸ List.mem_append_right more member)
            exact leadingName?_of_blanks restBlank
          · have short := Text.dropKeyword?_eq_some_iff.2 ⟨keyword, folded, within⟩
            rw [found] at short
            contradiction

/-- A keyword without blanks stands before the blanks at the end or not at all. -/
theorem dropKeyword?_append_blanks
    {keyword : Text}
    (solid : keyword.any Text.isBlank = false)
    (text : Text) :
    Text.dropKeyword? keyword (text ++ blanks) =
      (Text.dropKeyword? keyword text).map (· ++ blanks) := by
  cases blanks with
  | nil => simp
  | cons first blanks =>
      have firstBlank := (List.forall_mem_cons.1 blank).1
      refine Text.dropKeyword?_append_stop ?_ text blanks
      rw [Text.foldLetter_of_isBlank firstBlank]
      intro member
      exact List.any_eq_false.1 solid first member firstBlank

theorem endsBody_append_blanks (line : Text) : endsBody (line ++ blanks) = endsBody line := by
  have all : blanks.all Text.isBlank = true := List.all_eq_true.2 blank
  unfold endsBody
  rw [dropKeyword?_append_blanks blank rfl]
  cases Text.dropKeyword? "end;".toList line with
  | none => rfl
  | some rest => simp [all]

theorem opensSelect_append_blanks (line : Text) :
    opensSelect (line ++ blanks) = opensSelect line := by
  unfold opensSelect
  rw [List.dropWhile_append]
  split
  · rename_i nothing
    rw [List.isEmpty_iff.1 nothing, List.dropWhile_eq_nil_iff.2 blank]
  · rw [dropKeyword?_append_blanks blank rfl, Option.isSome_map]

theorem endsStatement_append_blanks (line : Text) :
    endsStatement (line ++ blanks) = endsStatement line := by
  have unmarked : ';' ∉ blanks := fun member => absurd (blank ';' member) (by decide)
  simp [endsStatement, unmarked]

theorem sightOf_append_blanks (line : Text) : sightOf (line ++ blanks) = sightOf line := by
  simp only [sightOf, declaredName?_append_blanks blank, endsBody_append_blanks blank,
    opensSelect_append_blanks blank, endsStatement_append_blanks blank, Text.trim,
    Text.dropAround_append_of_forall blank]

end Blanks

end Routine

end ProcedureAudit
