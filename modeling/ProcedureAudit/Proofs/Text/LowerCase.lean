import ProcedureAudit.Text.CodePoint

/-!
# Lower case is final

No letter that stands for a capital is a capital of another letter, so the lower-case form of a text
is its own lower-case form.  What depends on the neighbours, the choice between the two small
sigmas, is made once: neither of them is changed again.  The same holds of texts with halves of
characters, whose runs of characters are put into lower case each by itself.
-/

namespace ProcedureAudit

namespace Text

/-! ## Runs of capitals -/

namespace CaseRun

/-- Whether a code point is a capital of a run. -/
def Holds (run : CaseRun) (code : Nat) : Prop :=
  run.1 ≤ code ∧ code ≤ run.2.1 ∧ (code - run.1) % run.2.2.1 = 0

/-- The distance between two letters of a run; the only letter of a run has none. -/
def step (run : CaseRun) : Nat :=
  if run.1 = run.2.1 then 0 else run.2.2.1

/-- The first lower-case letter of a run. -/
def first (run : CaseRun) : Nat :=
  (run.1 + run.2.2.2).toNat

/-- The last lower-case letter of a run. -/
def last (run : CaseRun) : Nat :=
  (run.2.1 + run.2.2.2).toNat

/--
Whether no lower-case letter of `run` is a capital of `other`: the two lie apart, or their letters
alternate.
-/
def misses (run other : CaseRun) : Bool :=
  Nat.blt run.last other.1 || Nat.blt other.2.1 run.first ||
    (Nat.beq (run.step % other.2.2.1) 0 &&
      !Nat.beq (run.first % other.2.2.1) (other.1 % other.2.2.1))

/-- Whether the lower-case letters of a run are code points. -/
def isLawful (run : CaseRun) : Bool :=
  decide (0 ≤ run.1 + run.2.2.2)

/-- A letter of a run lies whole steps behind the first one, and its lower-case form as well. -/
theorem Holds.exists_lowered
    {run : CaseRun}
    {code : Nat}
    (lawful : run.isLawful = true)
    (capital : run.Holds code) :
    ∃ ahead, (code + run.2.2.2).toNat = run.first + ahead ∧ run.first + ahead ≤ run.last ∧
      run.step ∣ ahead := by
  rcases capital with ⟨least, greatest, aligned⟩
  have natural := of_decide_eq_true lawful
  refine ⟨code - run.1, ?_, ?_, ?_⟩
  · unfold first
    omega
  · unfold first last
    omega
  · unfold step
    split
    · rename_i single
      exact ⟨0, by omega⟩
    · exact Nat.dvd_of_mod_eq_zero aligned

theorem not_holds_of_misses
    {run other : CaseRun}
    {code : Nat}
    (lawful : run.isLawful = true)
    (missed : run.misses other = true)
    (capital : run.Holds code) :
    ¬ other.Holds (code + run.2.2.2).toNat := by
  rintro ⟨least, greatest, aligned⟩
  rcases capital.exists_lowered lawful with ⟨ahead, lowered, within, steps⟩
  rw [lowered] at least greatest aligned
  simp only [misses, Bool.or_eq_true, Bool.and_eq_true, Nat.blt_eq, Nat.beq_eq, Bool.not_eq_true',
    ← Bool.not_eq_true] at missed
  rcases missed with (before | after) | ⟨whole, alternate⟩
  · omega
  · omega
  · -- Whole steps of one run are whole steps of the other, so the two would not alternate.
    rcases Nat.dvd_trans (Nat.dvd_of_mod_eq_zero whole) steps with ⟨jumps, jumped⟩
    rcases Nat.dvd_of_mod_eq_zero aligned with ⟨places, placed⟩
    have met : run.first + other.2.2.1 * jumps = other.1 + other.2.2.1 * places := by omega
    apply alternate
    calc
      run.first % other.2.2.1 = (run.first + other.2.2.1 * jumps) % other.2.2.1 :=
        (Nat.add_mul_mod_self_left ..).symm
      _ = other.1 % other.2.2.1 := by
        rw [met, Nat.add_mul_mod_self_left]

end CaseRun

/-- Every run of capitals, and the one capital that has two letters for it. -/
def allCapitals : List CaseRun :=
  (0x130, 0x130, 1, 0) :: capitalRuns

theorem capitalRuns_miss :
    (capitalRuns.all fun run => run.isLawful && allCapitals.all run.misses) = true := by
  decide +kernel

theorem lowerCode?_eq_some
    {code lowered : Nat}
    {runs : List CaseRun}
    (listed : lowerCode? code runs = some lowered) :
    ∃ run ∈ runs, run.Holds code ∧ lowered = (code + run.2.2.2).toNat := by
  induction runs with
  | nil => contradiction
  | cons run runs induction =>
      rcases run with ⟨first, last, distance, shift⟩
      unfold lowerCode? at listed
      split at listed
      · contradiction
      · rename_i least
        split at listed
        · rename_i found
          simp only [Bool.and_eq_true, decide_eq_true_eq, beq_iff_eq] at found
          exact ⟨_, List.mem_cons_self, ⟨Nat.le_of_not_lt least, found⟩,
            (Option.some.inj listed).symm⟩
        · rcases induction listed with ⟨run, member, held⟩
          exact ⟨run, List.mem_cons_of_mem _ member, held⟩

theorem lowerCode?_eq_none
    {code : Nat}
    {runs : List CaseRun}
    (passed : ∀ run ∈ runs, ¬ run.Holds code) :
    lowerCode? code runs = none := by
  cases listed : lowerCode? code runs with
  | none => rfl
  | some lowered =>
      rcases lowerCode?_eq_some listed with ⟨run, member, held, -⟩
      exact (passed run member held).elim

/-! ## Characters -/

/-- Whether a character is no capital, so that it stays as it is wherever it stands. -/
def IsLower (character : Char) : Prop :=
  lowerCode? character.toNat capitalRuns = none ∧ character ≠ 'İ'

theorem IsLower.lowerLetter_eq {character : Char} (lower : IsLower character) :
    lowerLetter character = character := by
  rw [lowerLetter, lower.1]

theorem IsLower.ne_sigma {character : Char} (lower : IsLower character) : character ≠ 'Σ' := by
  rintro rfl
  exact absurd lower.1 (by decide)

/-- The letter for a capital is no capital of a run. -/
theorem not_holds_lowered
    {code lowered : Nat}
    (listed : lowerCode? code capitalRuns = some lowered) :
    ∀ other ∈ allCapitals, ¬ other.Holds lowered := by
  rcases lowerCode?_eq_some listed with ⟨run, member, held, rfl⟩
  have missed := List.all_eq_true.1 capitalRuns_miss run member
  rw [Bool.and_eq_true, List.all_eq_true] at missed
  exact fun other listed => CaseRun.not_holds_of_misses missed.1 (missed.2 other listed) held

theorem isLower_ofNat {code : Nat} (passed : ∀ run ∈ allCapitals, ¬ run.Holds code) :
    IsLower (Char.ofNat code) := by
  by_cases valid : code.isValidChar
  · have same : (Char.ofNat code).toNat = code := by
      rw [Char.ofNat, dif_pos valid]
      rfl
    rcases List.forall_mem_cons.1 passed with ⟨notDotted, others⟩
    refine ⟨by rw [same]; exact lowerCode?_eq_none others, ?_⟩
    intro dotted
    have point : code = 0x130 := by
      rw [← same, dotted]
      rfl
    exact notDotted (point ▸ ⟨Nat.le_refl _, Nat.le_refl _, Nat.mod_one _⟩)
  · -- A number that is no code point stands for the character zero.
    have zero : Char.ofNat code = '\x00' := dif_neg valid
    rw [zero]
    exact ⟨by decide, by decide⟩

theorem isLower_lowerLetter {character : Char} (plain : character ≠ 'İ') :
    IsLower (lowerLetter character) := by
  unfold lowerLetter
  split
  · rename_i lowered listed
    exact isLower_ofNat (not_holds_lowered listed)
  · rename_i unlisted
    exact ⟨unlisted, plain⟩

/-! ## Texts -/

theorem isLower_of_mem_lowerFrom
    {text : Text}
    {inWord : Bool}
    {character : Char}
    (member : character ∈ lowerFrom inWord text) :
    IsLower character := by
  induction text generalizing inWord with
  | nil => contradiction
  | cons first rest induction =>
      unfold lowerFrom at member
      dsimp only at member
      split at member
      · rcases List.mem_cons.1 member with rfl | later
        · split <;> exact ⟨by decide, by decide⟩
        · exact induction later
      · split at member
        · rcases List.mem_cons.1 member with rfl | member
          · exact ⟨by decide, by decide⟩
          · rcases List.mem_cons.1 member with rfl | later
            · exact ⟨by decide, by decide⟩
            · exact induction later
        · rename_i plain
          rcases List.mem_cons.1 member with rfl | later
          · exact isLower_lowerLetter plain
          · exact induction later

theorem lowerFrom_eq_self
    {text : Text}
    (lower : ∀ character ∈ text, IsLower character)
    (inWord : Bool) :
    lowerFrom inWord text = text := by
  induction text generalizing inWord with
  | nil => rfl
  | cons first rest induction =>
      rcases List.forall_mem_cons.1 lower with ⟨small, later⟩
      unfold lowerFrom
      dsimp only
      rw [if_neg small.ne_sigma, if_neg small.2, small.lowerLetter_eq, induction later]

/-- The lower-case form of a text is its own lower-case form. -/
theorem lower_lower (text : Text) : lower (lower text) = lower text :=
  lowerFrom_eq_self (fun _ => isLower_of_mem_lowerFrom) false

end Text

/-! ## Texts with halves -/

namespace CodeText

theorem mapRuns_ofText_append (change : Text → Text) (run text : Text) (rest : CodeText) :
    mapRuns change run (ofText text ++ rest) = mapRuns change (text.reverse ++ run) rest := by
  induction text generalizing run with
  | nil => rfl
  | cons character text induction =>
      calc
        mapRuns change run (ofText (character :: text) ++ rest) =
            mapRuns change (character :: run) (ofText text ++ rest) :=
          rfl
        _ = mapRuns change ((character :: text).reverse ++ run) rest := by
          rw [induction, List.reverse_cons, List.append_assoc]
          rfl

/-- A text without halves is one run. -/
theorem lower_ofText (text : Text) : lower (ofText text) = ofText (Text.lower text) := by
  rw [lower, ← List.append_nil (ofText text), mapRuns_ofText_append, mapRuns, List.append_nil,
    List.reverse_reverse]

/-- Changing runs twice changes them once if the change of each run is final. -/
theorem mapRuns_mapRuns
    {change : Text → Text}
    (final : ∀ text, change (change text) = change text)
    (run : Text)
    (text : CodeText) :
    mapRuns change [] (mapRuns change run text) = mapRuns change run text := by
  have again (text : Text) : change (text.reverse ++ []).reverse = change text := by
    rw [List.append_nil, List.reverse_reverse]
  induction text generalizing run with
  | nil =>
      rw [mapRuns, ← List.append_nil (ofText _), mapRuns_ofText_append, mapRuns, again, final,
        List.append_nil]
  | cons point rest induction =>
      cases point with
      | character character => exact induction (character :: run)
      | half code =>
          rw [mapRuns, mapRuns_ofText_append, mapRuns, again, final, induction]

/-- The lower-case form of a text in code points is its own lower-case form. -/
theorem lower_lower (text : CodeText) : lower (lower text) = lower text :=
  mapRuns_mapRuns Text.lower_lower [] text

end CodeText

end ProcedureAudit
