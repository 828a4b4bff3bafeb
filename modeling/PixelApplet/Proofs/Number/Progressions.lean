import PixelApplet.Proofs.Value.IntegerArithmetic

/-!
# Steps towards a limit

Slices and ranges start at an integer and go on in equal steps, upwards or downwards, as long as
they lie before a limit.  What they meet is described by its positions, so that it is unique, and
there is one list that fits: its length is the distance to the limit divided by the size of the
steps, rounded up.

A loop over machine words meets the same integers unless one of its steps leaves the words.
-/

namespace PixelApplet

/-- An integer lies strictly before a limit in the direction of a step. -/
def Before (step i limit : Int) : Prop :=
  if 0 < step then i < limit else limit < i

instance {step i limit : Int} : Decidable (Before step i limit) :=
  inferInstanceAs (Decidable (if 0 < step then i < limit else limit < i))

/-- The integers `first`, `first + step`, `first + 2 * step` and so on that lie strictly before a
limit, in this order. -/
def IsProgression (first limit step : Int) (places : List Int) : Prop :=
  ∀ k : Nat, places[k]?
    = if Before step (first + k * step) limit then some (first + k * step) else none

variable {first limit step i : Int} {places : List Int} {k : Nat}

theorem before_of_pos (upwards : 0 < step) : Before step i limit ↔ i < limit := by
  rw [Before, if_pos upwards]

theorem before_of_not_pos (downwards : ¬ 0 < step) : Before step i limit ↔ limit < i := by
  rw [Before, if_neg downwards]

/-- Who lies before a limit after a step lay before it already. -/
theorem Before.back (before : Before step (i + step) limit) : Before step i limit := by
  unfold Before at *
  split <;> rename_i direction
  · rw [if_pos direction] at before
    omega
  · rw [if_neg direction] at before
    omega

theorem add_succ_mul (i step : Int) (k : Nat) : i + (k + 1 : Nat) * step = i + step + k * step := by
  rw [Nat.cast_succ, Int.add_mul, Int.one_mul]
  omega

theorem Before.start (before : Before step (i + k * step) limit) : Before step i limit := by
  induction k generalizing i with
  | zero => simpa using before
  | succ k ih =>
    rw [add_succ_mul] at before
    exact (ih before).back

/-- Steps from an integer do not turn back, and stay on this side of the limit. -/
theorem Before.between (before : Before step (i + k * step) limit) :
    (0 < step ∧ i ≤ i + k * step ∧ i + k * step < limit)
      ∨ (¬ 0 < step ∧ limit < i + k * step ∧ i + k * step ≤ i) := by
  have many : (0 : Int) ≤ k := Int.natCast_nonneg k
  by_cases upwards : 0 < step
  · have forth := Int.mul_nonneg many upwards.le
    exact .inl ⟨upwards, by omega, (before_of_pos upwards).mp before⟩
  · have back := Int.mul_nonpos_of_nonneg_of_nonpos many (Int.not_lt.mp upwards)
    exact .inr ⟨upwards, (before_of_not_pos upwards).mp before, by omega⟩

namespace IsProgression

theorem unique {others : List Int} (these : IsProgression first limit step places)
    (those : IsProgression first limit step others) : places = others :=
  List.ext_getElem? fun k => (these k).trans (those k).symm

theorem exists_of_mem (these : IsProgression first limit step places) (member : i ∈ places) :
    ∃ k : Nat, i = first + k * step ∧ Before step i limit := by
  obtain ⟨k, found⟩ := List.mem_iff_getElem?.mp member
  rw [these k] at found
  split at found
  · rename_i before
    cases found
    exact ⟨k, rfl, before⟩
  · cases found

/-- Nothing lies before a limit if the first integer does not. -/
theorem nil (behind : ¬ Before step first limit) : IsProgression first limit step [] := by
  intro k
  rw [if_neg (mt Before.start behind)]
  rfl

theorem cons (before : Before step first limit)
    (later : IsProgression (first + step) limit step places) :
    IsProgression first limit step (first :: places) := by
  intro k
  cases k with
  | zero => simpa using before
  | succ k => rw [List.getElem?_cons_succ, later k, add_succ_mul]

theorem behind_of_nil (these : IsProgression first limit step []) :
    ¬ Before step first limit := by
  intro before
  have none := these 0
  simp [before] at none

theorem uncons (these : IsProgression first limit step (i :: places)) :
    i = first ∧ Before step first limit ∧ IsProgression (first + step) limit step places := by
  have start := these 0
  have before : Before step first limit := by
    by_contra behind
    simp [behind] at start
  refine ⟨by simpa [before] using start, before, fun k => ?_⟩
  rw [← List.getElem?_cons_succ (a := i), these (k + 1), add_succ_mul]

end IsProgression

/-! ## Their number -/

/-- The distance to a limit in the direction of a step. -/
def distance (first limit step : Int) : Int :=
  if step > 0 then limit - first else first - limit

/-- How many integers a progression has: the distance divided by the size of the steps, rounded
up. -/
def stepCount (first limit step : Int) : Nat :=
  ((distance first limit step + step.natAbs - 1) / step.natAbs).toNat

/-- Division rounded up counts the multiples that are less. -/
theorem lt_div_up_iff {size span : Int} (positive : 0 < size) :
    (k : Int) < (span + size - 1) / size ↔ k * size < span := by
  rw [← Int.add_one_le_iff, Int.le_ediv_iff_mul_le positive, Int.add_mul, Int.one_mul]
  omega

theorem before_iff_lt_distance :
    Before step (first + k * step) limit ↔ k * (step.natAbs : Int) < distance first limit step := by
  unfold distance
  by_cases upwards : 0 < step
  · rw [before_of_pos upwards, if_pos upwards, Int.natAbs_of_nonneg upwards.le]
    omega
  · rw [before_of_not_pos upwards, if_neg upwards, Int.ofNat_natAbs_of_nonpos (by omega),
      Int.mul_neg]
    omega

theorem before_iff_lt_stepCount (nonzero : step ≠ 0) :
    Before step (first + k * step) limit ↔ k < stepCount first limit step := by
  rw [before_iff_lt_distance, stepCount, Int.lt_toNat,
    lt_div_up_iff (Int.natCast_pos.mpr (Int.natAbs_pos.mpr nonzero))]

/-- Nothing is divided if the limit lies behind. -/
theorem natCast_stepCount (nonzero : step ≠ 0) : (stepCount first limit step : Int)
    = if distance first limit step ≤ 0 then 0
      else (distance first limit step + step.natAbs - 1) / step.natAbs := by
  have positive := Int.natAbs_pos.mpr nonzero
  split
  · rename_i behind
    have none : ¬ 0 < stepCount first limit step := by
      rw [← before_iff_lt_stepCount nonzero, before_iff_lt_distance]
      omega
    omega
  · exact Int.toNat_of_nonneg (Int.ediv_nonneg (by omega) (by omega))

theorem isProgression_range (nonzero : step ≠ 0) :
    IsProgression first limit step
      ((List.range (stepCount first limit step)).map fun (k : Nat) => first + k * step) := by
  intro k
  rw [List.getElem?_map]
  by_cases inside : k < stepCount first limit step
  · rw [List.getElem?_range inside, if_pos ((before_iff_lt_stepCount nonzero).mpr inside)]
    rfl
  · rw [List.getElem?_eq_none (by simpa using inside),
      if_neg (mt (before_iff_lt_stepCount nonzero).mp inside)]
    rfl

/-! ## Steps in machine words -/

/-- What a loop meets that goes on from an integer as long as it lies before a limit; a step that
leaves the machine words has no outcome. -/
inductive Steps (limit step : Int) : Int → List Int → Prop where
  | stop {i : Int} (behind : ¬ Before step i limit) : Steps limit step i []
  | next {i : Int} {places : List Int} (before : Before step i limit)
    (fits : Word.Fits (i + step)) (later : Steps limit step (i + step) places) :
    Steps limit step i (i :: places)

/-- No step to the limit, nor the one that reaches or passes it, leaves the machine words. -/
def StepsFit (first limit step : Int) : Prop :=
  ∀ k : Nat, Before step (first + k * step) limit → Word.Fits (first + k * step + step)

/-- A loop meets the integers of a progression unless it leaves the machine words. -/
theorem IsProgression.steps (these : IsProgression first limit step places)
    (fit : StepsFit first limit step) : Steps limit step first places := by
  induction places generalizing first with
  | nil => exact .stop these.behind_of_nil
  | cons i places ih =>
    obtain ⟨rfl, before, later⟩ := these.uncons
    refine .next before (by simpa using fit 0 (by simpa using before)) (ih later fun k ahead => ?_)
    rw [← add_succ_mul] at ahead ⊢
    exact fit (k + 1) ahead

end PixelApplet
