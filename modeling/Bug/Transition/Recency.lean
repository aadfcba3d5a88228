import Mathlib.Data.Nat.Init

/-!
# Recency of marked positions

A stream marks some of its positions.  After each position one may ask how long
ago the latest mark was: a position lies within a window when some mark is close
enough, and a window expires at the one position where the latest mark leaves
it.  Both questions are answered by an age that is reset by a mark and grows by
one otherwise.
-/

namespace Bug.Transition

/-- Some marked position is at most `width` behind. -/
def Within (marked : Nat → Bool) (width index : Nat) : Prop :=
  ∃ mark ≤ index, marked mark = true ∧ index - mark ≤ width

/-- The latest marked position is exactly `width` behind. -/
def Expires (marked : Nat → Bool) (width index : Nat) : Prop :=
  ∃ mark ≤ index, marked mark = true ∧ (∀ later ≤ index, mark < later → marked later = false) ∧
    index - mark = width

/-- A marked position with no other one in the `width` positions before it. -/
def Begins (marked : Nat → Bool) (width index : Nat) : Prop :=
  marked index = true ∧ ∀ earlier < index, marked earlier = true → width < index - earlier

instance (marked : Nat → Bool) (width index : Nat) : Decidable (Within marked width index) :=
  inferInstanceAs (Decidable (∃ mark ≤ index, _))

instance (marked : Nat → Bool) (width index : Nat) : Decidable (Expires marked width index) :=
  inferInstanceAs (Decidable (∃ mark ≤ index, _))

instance (marked : Nat → Bool) (width index : Nat) : Decidable (Begins marked width index) :=
  inferInstanceAs (Decidable (_ ∧ ∀ earlier < index, _ → _))

/-- How far the latest mark among the first `count` positions lies behind the
last of them. -/
def age (marked : Nat → Bool) : Nat → Option Nat
  | 0 => none
  | count + 1 => if marked count then some 0 else (age marked count).map (· + 1)

theorem age_eq_some_iff (marked : Nat → Bool) (count behind : Nat) :
    age marked count = some behind ↔
      ∃ mark, mark + behind + 1 = count ∧ marked mark = true ∧
        ∀ later < count, mark < later → marked later = false := by
  induction count generalizing behind with
  | zero => simp [age]
  | succ count ih =>
      cases isMarked : marked count with
      | true =>
          simp only [age, isMarked, if_true, Option.some.injEq]
          constructor
          · rintro rfl
            exact ⟨count, rfl, isMarked, fun later inside after => by omega⟩
          · rintro ⟨mark, position, -, unmarked⟩
            rcases Nat.eq_zero_or_pos behind with latest | older
            · exact latest.symm
            · have isUnmarked := unmarked count (Nat.lt_succ_self count) (by omega)
              rw [isMarked] at isUnmarked
              cases isUnmarked
      | false =>
          simp only [age, isMarked, Bool.false_eq_true, if_false, Option.map_eq_some_iff]
          constructor
          · rintro ⟨before, aged, rfl⟩
            rcases (ih before).mp aged with ⟨mark, position, markedAt, unmarked⟩
            refine ⟨mark, by omega, markedAt, ?_⟩
            intro later inside after
            rcases Nat.lt_succ_iff_lt_or_eq.mp inside with earlier | rfl
            · exact unmarked later earlier after
            · exact isMarked
          · rintro ⟨mark, position, markedAt, unmarked⟩
            have different : mark ≠ count := by
              rintro rfl
              rw [isMarked] at markedAt
              cases markedAt
            refine ⟨behind - 1, (ih _).mpr ⟨mark, by omega, markedAt, ?_⟩, by omega⟩
            intro later inside after
            exact unmarked later (Nat.lt_succ_of_lt inside) after

theorem expires_iff (marked : Nat → Bool) (width index : Nat) :
    Expires marked width index ↔ age marked (index + 1) = some width := by
  rw [age_eq_some_iff]
  constructor
  · rintro ⟨mark, inside, markedAt, unmarked, distance⟩
    refine ⟨mark, by omega, markedAt, ?_⟩
    exact fun later bound after => unmarked later (Nat.lt_succ_iff.mp bound) after
  · rintro ⟨mark, position, markedAt, unmarked⟩
    refine ⟨mark, by omega, markedAt, ?_, by omega⟩
    exact fun later bound after => unmarked later (Nat.lt_succ_of_le bound) after

/-- A window around some mark is a window around the latest one. -/
theorem within_iff (marked : Nat → Bool) (width index : Nat) :
    Within marked width index ↔ ∃ behind ≤ width, age marked (index + 1) = some behind := by
  constructor
  · rintro ⟨mark, inside, markedAt, close⟩
    induction distance : index - mark using Nat.strong_induction_on generalizing mark with
    | _ _ ih =>
        by_cases later : ∃ next ≤ index, mark < next ∧ marked next = true
        · rcases later with ⟨next, nextInside, after, nextMarked⟩
          exact ih _ (by omega) next nextInside nextMarked (by omega) rfl
        · refine ⟨index - mark, close, (age_eq_some_iff _ _ _).mpr ⟨mark, by omega, markedAt, ?_⟩⟩
          intro next bound after
          rw [Bool.eq_false_iff]
          exact fun isMarked => later ⟨next, Nat.lt_succ_iff.mp bound, after, isMarked⟩
  · rintro ⟨behind, close, aged⟩
    rcases (age_eq_some_iff _ _ _).mp aged with ⟨mark, position, markedAt, -⟩
    exact ⟨mark, by omega, markedAt, by omega⟩

/-- A position lies in a window when it is marked or the position before lies in
it with room to spare. -/
theorem within_iff_marked_or (marked : Nat → Bool) (width index : Nat) :
    Within marked width index ↔
      marked index = true ∨ ∃ behind < width, age marked index = some behind := by
  rw [within_iff, age]
  cases marked index with
  | true => simp
  | false =>
      simp only [Bool.false_eq_true, if_false, Option.map_eq_some_iff, false_or]
      constructor
      · rintro ⟨behind, close, before, aged, rfl⟩
        exact ⟨before, close, aged⟩
      · rintro ⟨before, close, aged⟩
        exact ⟨before + 1, close, before, aged, rfl⟩

theorem not_expires_of_within {marked : Nat → Bool} {width index : Nat}
    (within : Within marked width index) : ¬ Expires marked (width + 1) index := by
  rw [expires_iff]
  intro expired
  rcases (within_iff _ _ _).mp within with ⟨behind, close, aged⟩
  cases expired.symm.trans aged
  exact absurd close (Nat.not_succ_le_self width)

/-- Outside of the window, the window has just expired if the position before
was still inside. -/
theorem expires_iff_of_not_within {marked : Nat → Bool} {width index : Nat}
    (outside : ¬ Within marked width index) :
    Expires marked (width + 1) index ↔ ∃ behind ≤ width, age marked index = some behind := by
  rw [within_iff] at outside
  have unmarked : marked index = false := by
    rw [Bool.eq_false_iff]
    intro isMarked
    exact outside ⟨0, Nat.zero_le _, if_pos isMarked⟩
  have grows : age marked (index + 1) = (age marked index).map (· + 1) := by
    simp [age, unmarked]
  rw [grows] at outside
  rw [expires_iff, grows, Option.map_eq_some_iff]
  constructor
  · rintro ⟨behind, aged, behindEq⟩
    exact ⟨behind, by omega, aged⟩
  · rintro ⟨behind, close, aged⟩
    rcases Nat.lt_or_eq_of_le close with inside | brim
    · exact absurd ⟨behind + 1, inside, by rw [aged]; rfl⟩ outside
    · exact ⟨behind, aged, by rw [brim]⟩

/-- A mark begins a window when the position before lies in none. -/
theorem begins_iff (marked : Nat → Bool) (width index : Nat) :
    Begins marked (width + 1) index ↔
      marked index = true ∧ ¬ ∃ behind ≤ width, age marked index = some behind := by
  apply and_congr_right
  intro _
  cases index with
  | zero => simp [age]
  | succ index =>
      rw [← within_iff]
      constructor
      · rintro alone ⟨mark, inside, isMarked, close⟩
        have far := alone mark (Nat.lt_succ_of_le inside) isMarked
        omega
      · intro outside earlier before isMarked
        apply Nat.lt_of_not_le
        intro close
        exact outside ⟨earlier, Nat.lt_succ_iff.mp before, isMarked, by omega⟩

end Bug.Transition
