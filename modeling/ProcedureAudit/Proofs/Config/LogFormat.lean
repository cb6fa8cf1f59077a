import Mathlib.Data.List.TakeWhile
import ProcedureAudit.Config.LogFormat
import ProcedureAudit.Proofs.Text.Basic
import ProcedureAudit.Proofs.Text.LetterCase

/-!
# Fields of a log format

A field is written as a sequence of parts, some of which may be empty, and a digit zero can be a
flag as well as the beginning of a width.  A format is read from left to right with every part taken
as long as possible.  This finds a field wherever there is one, because what follows the width
cannot be mistaken for a flag or for a part of the width.
-/

namespace ProcedureAudit.LogFormat

/-! ## Fields as they are written -/

/-- A width: a star, or digits, of which there may be none. -/
def IsWidth (written : Text) : Prop :=
  written = ['*'] ∨ ∀ character ∈ written, isDigit character = true

/-- A precision: nothing, or a point with a star or with at least one digit. -/
def IsPrecision (written : Text) : Prop :=
  written = [] ∨ written = ['.', '*'] ∨
    ∃ digit digits,
      written = '.' :: digit :: digits ∧
        ∀ character ∈ digit :: digits, isDigit character = true

/-- What follows the name in a field. -/
inductive IsEnding : Text → Prop where
  | intro {flags width precision : Text} {conversion : Char}
      (flagged : ∀ character ∈ flags, isFlag character = true)
      (wide : IsWidth width)
      (precise : IsPrecision precision)
      (converts : isConversion conversion = true) :
      IsEnding (flags ++ (width ++ (precision ++ [conversion])))

/-- A field: a name in parentheses behind a percent sign, and what follows it. -/
inductive IsField : Text → Prop where
  | intro {name ending : Text}
      (named : name ≠ [])
      (word : ∀ character ∈ name, Text.isWordCharacter character = true)
      (ends : IsEnding ending) :
      IsField ('%' :: '(' :: (name ++ ')' :: ending))

/-! ## The parts of an ending -/

/-- The last of the signs is the long s: the Kelvin sign is a variant of a letter that is none. -/
theorem toNat_of_isConversion
    {character : Char}
    (converts : isConversion character = true) :
    character.toNat < 0x180 := by
  unfold isConversion Text.foldLetter at converts
  split at converts
  · rename_i capital
    have code := Text.isCapital_iff.1 capital
    omega
  · split at converts
    · rename_i longS
      rw [longS]
      decide
    · split at converts
      · exact absurd converts (by decide)
      · split at converts
        · rename_i dotted
          rcases Bool.or_eq_true_iff.1 dotted with upper | lower
          · rw [of_decide_eq_true upper]
            decide
          · rw [of_decide_eq_true lower]
            decide
        · have bounded : conversions.all (fun sign => sign.toNat < 0x180) = true := rfl
          have member : character ∈ conversions := of_decide_eq_true converts
          exact of_decide_eq_true (List.all_eq_true.1 bounded character member)

/-- The sign for how a field is shown is none of the characters that may stand before it. -/
theorem apart_of_isConversion
    {character : Char}
    (converts : isConversion character = true) :
    isFlag character = false ∧ isDigit character = false ∧ character ≠ '*' ∧ character ≠ '.' := by
  have each : ∀ code < 0x180, isConversion (Char.ofNat code) = true →
      isFlag (Char.ofNat code) = false ∧ isDigit (Char.ofNat code) = false ∧
        Char.ofNat code ≠ '*' ∧ Char.ofNat code ≠ '.' := by
    decide +kernel
  have known := each character.toNat (toNat_of_isConversion converts)
  rw [Char.ofNat_toNat] at known
  exact known converts

theorem ne_star_of_isDigit
    {character : Char}
    (digit : isDigit character = true) :
    character ≠ '*' := by
  rintro rfl
  exact absurd digit (by decide)

theorem dropWidth_eq_dropWhile {text : Text} (starless : text.head? ≠ some '*') :
    dropWidth text = text.dropWhile isDigit := by
  unfold dropWidth
  split
  · exact absurd rfl starless
  · rfl

/-- Digits of a width that were taken for flags leave a shorter width behind. -/
theorem dropWidth_dropWhile_isFlag
    {flags width rest : Text}
    {stop : Char}
    (flagged : ∀ character ∈ flags, isFlag character = true)
    (wide : IsWidth width)
    (noFlag : isFlag stop = false)
    (noDigit : isDigit stop = false)
    (noStar : stop ≠ '*') :
    dropWidth ((flags ++ (width ++ stop :: rest)).dropWhile isFlag) = stop :: rest := by
  rw [List.dropWhile_append_of_pos flagged]
  rcases wide with rfl | digits
  · rfl
  · rw [Text.dropWhile_append_stop noFlag]
    have left : ∀ character ∈ width.dropWhile isFlag, isDigit character = true :=
      fun character member => digits character ((List.dropWhile_sublist _).subset member)
    have starless : (width.dropWhile isFlag ++ stop :: rest).head? ≠ some '*' := by
      cases shorter : width.dropWhile isFlag with
      | nil => simpa using noStar
      | cons digit _ =>
          rw [shorter] at left
          simpa using ne_star_of_isDigit (left digit (List.mem_cons_self ..))
    rw [dropWidth_eq_dropWhile starless, Text.dropWhile_append_of_head? left]
    rintro character same
    obtain rfl := Option.some.inj same
    exact noDigit

theorem dropPrecision?_append
    {precision rest : Text}
    {conversion : Char}
    (precise : IsPrecision precision)
    (converts : isConversion conversion = true) :
    dropPrecision? (precision ++ conversion :: rest) = some (conversion :: rest) := by
  rcases apart_of_isConversion converts with ⟨-, noDigit, -, noPoint⟩
  rcases precise with rfl | rfl | ⟨digit, digits, rfl, all⟩
  · unfold dropPrecision?
    split
    · rename_i same
      exact absurd (List.cons.inj same).1 noPoint
    · rename_i same
      exact absurd (List.cons.inj same).1 noPoint
    · rfl
  · rfl
  · have first := all digit (List.mem_cons_self ..)
    unfold dropPrecision?
    split
    · rename_i same
      obtain ⟨-, tail⟩ := List.cons.inj same
      exact absurd (List.cons.inj tail).1 (ne_star_of_isDigit first)
    · rename_i other same
      obtain ⟨-, rfl⟩ := List.cons.inj same
      rw [if_pos (by simpa using first)]
      refine congrArg some (Text.dropWhile_append_of_head? all ?_)
      rintro character same
      obtain rfl := Option.some.inj same
      exact noDigit
    · rename_i pointless
      exact absurd rfl (pointless _)

/-- What may follow the name of a field is found to do so. -/
theorem endsField_append
    {ending : Text}
    (ends : IsEnding ending)
    (rest : Text) :
    endsField (ending ++ rest) = true := by
  rcases ends with @⟨flags, width, precision, conversion, flagged, wide, precise, converts⟩
  have parts : flags ++ (width ++ (precision ++ [conversion])) ++ rest =
      flags ++ (width ++ (precision ++ conversion :: rest)) := by
    simp only [List.append_assoc, List.singleton_append]
  have behindWidth :
      dropWidth ((flags ++ (width ++ (precision ++ conversion :: rest))).dropWhile isFlag) =
        precision ++ conversion :: rest := by
    -- The first character behind the width is a point, or it shows that there is no precision.
    rcases precise with rfl | rfl | ⟨digit, digits, rfl, -⟩
    · rcases apart_of_isConversion converts with ⟨noFlag, noDigit, noStar, -⟩
      exact dropWidth_dropWhile_isFlag flagged wide noFlag noDigit noStar
    · exact dropWidth_dropWhile_isFlag flagged wide rfl rfl (by decide)
    · exact dropWidth_dropWhile_isFlag flagged wide rfl rfl (by decide)
  rw [parts, endsField, behindWidth, dropPrecision?_append precise converts]
  exact converts

/-! ## Endings that are found -/

theorem exists_dropWidth (text : Text) :
    ∃ width, IsWidth width ∧ text = width ++ dropWidth text := by
  unfold dropWidth
  split
  · exact ⟨['*'], Or.inl rfl, rfl⟩
  · exact ⟨_, Or.inr fun _ => List.mem_takeWhile_imp, List.takeWhile_append_dropWhile.symm⟩

theorem exists_of_dropPrecision?
    {text rest : Text}
    (dropped : dropPrecision? text = some rest) :
    ∃ precision, IsPrecision precision ∧ text = precision ++ rest := by
  unfold dropPrecision? at dropped
  split at dropped
  · obtain rfl := Option.some.inj dropped
    exact ⟨['.', '*'], Or.inr (Or.inl rfl), rfl⟩
  · rename_i behindPoint _
    split at dropped
    · rename_i starts
      obtain rfl := Option.some.inj dropped
      cases behindPoint with
      | nil => contradiction
      | cons digit behind =>
          have first : isDigit digit = true := starts
          refine ⟨'.' :: digit :: behind.takeWhile isDigit, Or.inr (Or.inr ⟨_, _, rfl, ?_⟩), ?_⟩
          · exact List.forall_mem_cons.2 ⟨first, fun _ => List.mem_takeWhile_imp⟩
          · rw [List.dropWhile_cons_of_pos first, List.cons_append, List.cons_append,
              List.takeWhile_append_dropWhile]
    · contradiction
  · obtain rfl := Option.some.inj dropped
    exact ⟨[], Or.inl rfl, rfl⟩

/-- Where a field is found to end, it does. -/
theorem exists_of_endsField
    {text : Text}
    (found : endsField text = true) :
    ∃ ending rest, IsEnding ending ∧ text = ending ++ rest := by
  unfold endsField at found
  split at found
  · rename_i conversion rest dropped
    rcases exists_of_dropPrecision? dropped with ⟨precision, precise, behindWidth⟩
    rcases exists_dropWidth (text.dropWhile isFlag) with ⟨width, wide, behindFlags⟩
    have flagged : ∀ character ∈ text.takeWhile isFlag, isFlag character = true :=
      fun _ => List.mem_takeWhile_imp
    refine ⟨_, rest, .intro flagged wide precise found, ?_⟩
    calc
      text = text.takeWhile isFlag ++ text.dropWhile isFlag :=
        List.takeWhile_append_dropWhile.symm
      _ = text.takeWhile isFlag ++ (width ++ (precision ++ conversion :: rest)) := by
        rw [behindFlags, behindWidth]
      _ = _ := by simp only [List.append_assoc, List.singleton_append]
  · contradiction

/-! ## Fields that are found -/

theorem beginsField_iff {text : Text} :
    beginsField text = true ↔ ∃ field rest, IsField field ∧ text = field ++ rest := by
  constructor
  · intro found
    unfold beginsField at found
    split at found
    · rename_i named
      split at found
      · rename_i behind closed
        rcases Bool.and_eq_true_iff.1 found with ⟨nonempty, ends⟩
        rcases exists_of_endsField ends with ⟨ending, rest, isEnding, rfl⟩
        have first : named.takeWhile Text.isWordCharacter ≠ [] := by
          cases named with
          | nil => contradiction
          | cons character named =>
              have word : Text.isWordCharacter character = true := nonempty
              rw [List.takeWhile_cons_of_pos word]
              exact List.cons_ne_nil _ _
        refine ⟨_, rest, .intro first (fun _ => List.mem_takeWhile_imp) isEnding, ?_⟩
        have whole : named = named.takeWhile Text.isWordCharacter ++ ')' :: (ending ++ rest) := by
          rw [← closed, List.takeWhile_append_dropWhile]
        simpa only [List.cons_append, List.append_assoc] using congrArg ('%' :: '(' :: ·) whole
      · contradiction
    · contradiction
  · rintro ⟨-, rest, @⟨name, ending, named, word, ends⟩, rfl⟩
    have closed : (name ++ ')' :: (ending ++ rest)).dropWhile Text.isWordCharacter =
        ')' :: (ending ++ rest) :=
      Text.dropWhile_append_of_head? word (by rintro character ⟨⟩; decide)
    simp only [List.cons_append, List.append_assoc]
    rw [beginsField, closed]
    cases name with
    | nil => contradiction
    | cons character name =>
        exact Bool.and_eq_true_iff.2
          ⟨word character (List.mem_cons_self ..), endsField_append ends rest⟩

/-- A field is found in a format exactly if there is one. -/
theorem hasField_iff {format : Text} :
    hasField format = true ↔ ∃ field, IsField field ∧ field <:+: format := by
  induction format with
  | nil =>
      refine iff_of_false Bool.false_ne_true ?_
      rintro ⟨field, isField, within⟩
      cases isField
      exact absurd (List.infix_nil.1 within) (List.cons_ne_nil _ _)
  | cons character rest induction =>
      rw [hasField, Bool.or_eq_true_iff, beginsField_iff, induction]
      simp only [List.infix_cons_iff, and_or_left, exists_or]
      refine or_congr_left (exists_congr fun field => ?_)
      rw [exists_and_left]
      exact and_congr_right fun _ => exists_congr fun behind => eq_comm

/-- A log can be set up with the empty format, and with a format in which there is a field. -/
theorem isUsable_iff {format : Text} :
    isUsable format = true ↔ format = [] ∨ ∃ field, IsField field ∧ field <:+: format := by
  rw [isUsable, Bool.or_eq_true_iff, List.isEmpty_iff, hasField_iff]

example : isUsable "plain: (message)s".toList = false := by decide

example : isUsable "at %(asctime)-08.*S".toList = true := by decide

end ProcedureAudit.LogFormat
