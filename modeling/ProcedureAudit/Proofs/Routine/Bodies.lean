import Mathlib.Data.List.Flatten
import ProcedureAudit.Proofs.Routine.Grammar

/-!
# Bodies of a source text

When no line declares a procedure before the body of the declaration before it is closed, the
bodies of a text do not depend on what is asked for.  They are cut out once; the statements of all
procedures are those of all bodies, and the statements of one procedure are those of the bodies
with its name.  The reason is that all scans are outside again after the line that closes a body,
those that were inside as well as those that passed over it.
-/

namespace ProcedureAudit.Routine

/-- A body with the name that its declaration spells. -/
structure Body where
  name : Text
  lines : List Text
deriving DecidableEq, Repr

/-- The bodies of a text: each declaration outside of a body, with the lines up to the end. -/
def bodies : List Text → List Body
  | [] => []
  | line :: rest =>
    match declaredName? line with
    | none => bodies rest
    | some name =>
      { name, lines := rest.takeWhile fun line => !endsBody line } ::
        bodies (rest.dropWhile fun line => !endsBody line)
termination_by lines => lines.length
decreasing_by
  · simp
  · have shorter := (List.dropWhile_sublist (l := rest) fun line => !endsBody line).length_le
    simp only [List.length_cons]
    omega

def Body.selects (body : Body) : List Text :=
  scanLines none .body body.lines

/-! ## Scans that are inside a body -/

theorem Place.next_eq_of_inside
    {place : Place}
    (inside : place ≠ .outside)
    (wanted : Option Text)
    (line : Text) :
    place.next wanted line = place.next none line := by
  cases place with
  | outside => exact (inside rfl).elim
  | body => rfl
  | statement opened => rfl

theorem Place.next_ne_outside
    {place : Place}
    (inside : place ≠ .outside)
    (wanted : Option Text)
    {line : Text}
    (stays : endsBody line = false) :
    place.next wanted line ≠ .outside := by
  cases place with
  | outside => exact (inside rfl).elim
  | body =>
      rw [Place.next, stays]
      cases opensSelect line && !endsStatement line <;> simp
  | statement opened =>
      rw [Place.next, stays]
      cases endsStatement line <;> simp

/-- The end of a body is as good as any other line for a scan that is outside. -/
theorem scanLines_outside_of_endsBody
    {line : Text}
    (ends : endsBody line = true)
    (wanted : Option Text)
    (rest : List Text) :
    scanLines wanted .outside (line :: rest) = scanLines wanted .outside rest := by
  rw [scanLines_cons, Place.next_of_endsBody ends]
  rfl

/-- A scan inside a body reads the body in the same way whatever is asked for. -/
theorem scanLines_of_inside
    (wanted : Option Text)
    {place : Place}
    (inside : place ≠ .outside)
    (lines : List Text) :
    scanLines wanted place lines =
      scanLines none place (lines.takeWhile fun line => !endsBody line) ++
        scanLines wanted .outside (lines.dropWhile fun line => !endsBody line) := by
  induction lines generalizing place with
  | nil =>
      simp [scanLines_nil, Place.unfinished]
  | cons line rest induction =>
      cases ends : endsBody line with
      | true =>
          simp only [List.takeWhile_cons, List.dropWhile_cons, ends, Bool.not_true,
            Bool.false_eq_true, if_false]
          rw [scanLines_outside_of_endsBody ends, scanLines_cons, scanLines_nil,
            Place.completed_of_endsBody ends, Place.next_of_endsBody ends]
      | false =>
          simp only [List.takeWhile_cons, List.dropWhile_cons, ends, Bool.not_false, if_true]
          rw [scanLines_cons, induction (Place.next_ne_outside inside wanted ends),
            scanLines_cons, Place.next_eq_of_inside inside wanted, List.append_assoc]

/-- A scan that is outside passes over lines that open no body asked for. -/
theorem scanLines_outside_append
    {wanted : Option Text}
    {skipped : List Text}
    (opensNone : ∀ line ∈ skipped, opensBody wanted line = false)
    (rest : List Text) :
    scanLines wanted .outside (skipped ++ rest) = scanLines wanted .outside rest := by
  induction skipped with
  | nil => rfl
  | cons line skipped induction =>
      have opens := opensNone line (List.mem_cons_self ..)
      rw [List.cons_append, scanLines_cons, Place.next, opens]
      exact induction fun other member => opensNone other (List.mem_cons_of_mem _ member)

/-- The statements of all procedures are those of all bodies. -/
theorem scanLines_eq_flatMap_bodies (lines : List Text) :
    scanLines none .outside lines = (bodies lines).flatMap Body.selects := by
  induction lines using bodies.induct with
  | case1 => simp [scanLines_nil, Place.unfinished, bodies]
  | case2 line rest undeclared induction =>
      have opens : opensBody none line = false := by simp [opensBody, undeclared]
      rw [scanLines_cons, Place.next, opens, bodies, undeclared]
      exact induction
  | case3 line rest name declared induction =>
      have opens : opensBody none line = true := by simp [opensBody, declared, isWanted]
      rw [scanLines_cons, Place.next, opens, bodies, declared, List.flatMap_cons, ← induction]
      exact scanLines_of_inside none (by simp) rest

/-! ## Declarations with the ends of bodies between them -/

instance (property : Text → Prop) [DecidablePred property] (lines : List Text)
    (position : Nat) : Decidable (At property lines position) :=
  match found : lines[position]? with
  | none => isFalse fun holds => by
      rcases holds with ⟨line, other, -⟩
      rw [found] at other
      contradiction
  | some _ => decidable_of_iff _ (at_iff found).symm

instance (procedure : Option Text) : DecidablePred (Declares procedure) :=
  fun _ => decidable_of_iff _ opensBody_iff

instance : DecidablePred Closes :=
  fun _ => decidable_of_iff _ endsBody_iff

/-- Between two positions stands a line that closes a body. -/
def ClosesBetween (lines : List Text) (first second : Nat) : Prop :=
  ∃ between < second, first < between ∧ At Closes lines between

instance (lines : List Text) (first second : Nat) : Decidable (ClosesBetween lines first second) :=
  inferInstanceAs (Decidable (∃ between < second, _ ∧ _))

/-- Between two lines that declare procedures there is always one that closes a body. -/
def Separated (lines : List Text) : Prop :=
  ∀ second < lines.length, At (Declares none) lines second →
    ∀ first < second, At (Declares none) lines first → ClosesBetween lines first second

instance (lines : List Text) : Decidable (Separated lines) :=
  inferInstanceAs (Decidable (∀ second < lines.length, At (Declares none) lines second →
    ∀ first < second, At (Declares none) lines first → ClosesBetween lines first second))

theorem at_cons_succ_iff {property : Text → Prop} {line : Text} {rest : List Text}
    {position : Nat} :
    At property (line :: rest) (position + 1) ↔ At property rest position := by
  simp [At]

theorem Separated.tail {line : Text} {rest : List Text}
    (separated : Separated (line :: rest)) :
    Separated rest := by
  intro second within again first before declares
  obtain ⟨between, early, late, closes⟩ :=
    separated (second + 1) (Nat.succ_lt_succ within) (at_cons_succ_iff.2 again)
      (first + 1) (Nat.succ_lt_succ before) (at_cons_succ_iff.2 declares)
  cases between with
  | zero => omega
  | succ between =>
      exact ⟨between, Nat.lt_of_succ_lt_succ early, Nat.lt_of_succ_lt_succ late,
        at_cons_succ_iff.1 closes⟩

theorem Separated.suffix {lines rest : List Text}
    (separated : Separated lines)
    (suffix : rest <:+ lines) :
    Separated rest := by
  rcases suffix with ⟨before, rfl⟩
  induction before with
  | nil => exact separated
  | cons line before induction => exact induction separated.tail

/-- No line of a body declares a procedure. -/
theorem Separated.declaredName?_eq_none {line other : Text} {rest : List Text}
    (separated : Separated (line :: rest))
    (declares : Declares none line)
    (member : other ∈ rest.takeWhile fun line => !endsBody line) :
    declaredName? other = none := by
  have inRest {index : Nat} {text : Text}
      (found : (rest.takeWhile fun line => !endsBody line)[index]? = some text) :
      rest[index]? = some text := by
    have within := (List.getElem?_eq_some_iff.1 found).1
    rw [← List.takeWhile_append_dropWhile (p := fun line => !endsBody line) (l := rest),
      List.getElem?_append_left within]
    exact found
  rcases List.mem_iff_getElem?.1 member with ⟨position, found⟩
  cases again : declaredName? other with
  | none => rfl
  | some name =>
      have atPosition : At (Declares none) (line :: rest) (position + 1) :=
        at_cons_succ_iff.2 ⟨other, inRest found, name, again, trivial⟩
      obtain ⟨between, early, late, closes⟩ :=
        separated (position + 1) (lt_length_of_at atPosition) atPosition 0 (Nat.succ_pos _)
          ⟨line, rfl, declares⟩
      -- The line that closes between the two declarations would have to stand in the body itself.
      cases between with
      | zero => omega
      | succ between =>
          have within : between < (rest.takeWhile fun line => !endsBody line).length := by
            have bound := (List.getElem?_eq_some_iff.1 found).1
            omega
          have inBody := List.getElem?_eq_getElem within
          have unclosed := List.mem_takeWhile_imp (List.mem_of_getElem? inBody)
          have ends := endsBody_iff.2 ((at_iff (inRest inBody)).1 (at_cons_succ_iff.1 closes))
          simp [ends] at unclosed

/-- Where bodies are separated, the statements of one procedure are those of its bodies. -/
theorem scanLines_some_eq_flatMap_bodies
    {lines : List Text}
    (separated : Separated lines)
    (key : Text) :
    scanLines (some key) .outside lines =
      ((bodies lines).filter fun body => Text.lower body.name = key).flatMap Body.selects := by
  induction lines using bodies.induct with
  | case1 => simp [scanLines_nil, Place.unfinished, bodies]
  | case2 line rest undeclared induction =>
      have opens : opensBody (some key) line = false := by simp [opensBody, undeclared]
      rw [scanLines_cons, Place.next, opens, bodies, undeclared]
      exact induction separated.tail
  | case3 line rest name declared induction =>
      have after := induction
        (separated.tail.suffix (List.dropWhile_suffix fun line => !endsBody line))
      rw [bodies, declared]
      by_cases asked : Text.lower name = key
      · have opens : opensBody (some key) line = true := by
          simp [opensBody, declared, isWanted, asked]
        rw [scanLines_cons, Place.next, opens, List.filter_cons_of_pos (by simpa using asked),
          List.flatMap_cons, ← after]
        exact scanLines_of_inside (some key) (by simp) rest
      · -- A scan for another key stays outside and passes over the whole body.
        have opens : opensBody (some key) line = false := by
          simp [opensBody, declared, isWanted, asked]
        have skipped : ∀ other ∈ rest.takeWhile fun line => !endsBody line,
            opensBody (some key) other = false := by
          intro other member
          have undeclared :=
            separated.declaredName?_eq_none ⟨name, declared, trivial⟩ member
          simp [opensBody, undeclared]
        rw [scanLines_cons, Place.next, opens, List.filter_cons_of_neg (by simpa using asked),
          ← after, ← scanLines_outside_append skipped, List.takeWhile_append_dropWhile]
        rfl

end ProcedureAudit.Routine
