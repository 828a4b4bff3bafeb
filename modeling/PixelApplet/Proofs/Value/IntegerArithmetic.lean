import Mathlib.Algebra.Order.Group.Unbundled.Int
import Mathlib.Tactic.Linarith
import PixelApplet.Library.Universe
import PixelApplet.Proofs.Machine.Courses

/-!
# Integer arithmetic

A word is what an integer operation makes exactly if the integer it stands for fits a word, and
otherwise the operation is refused; nothing wraps.  There is one exception: the remainder of the
least word by -1 is zero, but it is refused as the quotient is.

The quotient and the remainder are those that the division of words gives, put right by one step
where the remainder does not have the sign of the divisor.
-/

namespace PixelApplet

namespace Word

/-- An integer is the value of a word. -/
def Fits (n : Int) : Prop :=
  least ≤ n ∧ n ≤ greatest

instance {n : Int} : Decidable (Fits n) :=
  inferInstanceAs (Decidable (_ ∧ _))

theorem fits_toInt (i : Int64) : Fits i.toInt :=
  ⟨i.le_toInt, Int.le_of_lt_add_one i.toInt_lt⟩

theorem toInt_ofInt {n : Int} (fits : Fits n) : (Int64.ofInt n).toInt = n :=
  Int64.toInt_ofInt_of_le fits.1 (Int.lt_add_one_of_le fits.2)

theorem ofInt?_of_fits {n : Int} (fits : Fits n) : ofInt? n = some (Int64.ofInt n) :=
  if_pos fits

theorem ofInt?_eq_some_iff {n : Int} {i : Int64} : ofInt? n = some i ↔ i.toInt = n := by
  unfold ofInt?
  constructor
  · intro made
    split at made
    · rename_i fits
      obtain rfl := Option.some.inj made
      exact toInt_ofInt fits
    · cases made
  · rintro rfl
    exact (if_pos (fits_toInt i)).trans (congrArg some (Int64.ofInt_toInt i))

theorem ofInt?_eq_none_iff {n : Int} : ofInt? n = none ↔ ¬ Fits n := by
  unfold ofInt? Fits
  split
  · rename_i fits
    exact ⟨nofun, fun beyond => absurd fits beyond⟩
  · rename_i beyond
    exact ⟨fun _ => beyond, fun _ => rfl⟩

/-! ## Division -/

section Division

variable {a b : Int64}

/-- The one division of words whose quotient is no word. -/
def DivisionOverflows (a b : Int64) : Prop :=
  a = Int64.minValue ∧ b = -1

instance : Decidable (DivisionOverflows a b) :=
  inferInstanceAs (Decidable (_ ∧ _))

theorem toInt_ne_zero (nonzero : b ≠ 0) : b.toInt ≠ 0 :=
  fun zero => nonzero (Int64.toInt_inj.mp zero)

/-- Apart from one division, the quotient of two words is a word. -/
theorem toInt_div (regular : ¬ DivisionOverflows a b) : (a / b).toInt = a.toInt.tdiv b.toInt := by
  rcases not_and_or.mp regular with other | other
  · exact Int64.toInt_div_of_ne_left a b other
  · exact Int64.toInt_div_of_ne_right a b other

/-- The quotient rounded towards zero is a word unless the division overflows. -/
theorem ofInt?_tdiv : ofInt? (a.toInt.tdiv b.toInt)
    = if DivisionOverflows a b then none else some (a / b) := by
  split
  · rename_i overflows
    obtain ⟨rfl, rfl⟩ := overflows
    rfl
  · rename_i regular
    exact ofInt?_eq_some_iff.mpr (toInt_div regular)

/-- Whether the quotient rounded towards zero lies above the exact one. -/
def RoundsUp (a b : Int64) : Prop :=
  a % b ≠ 0 ∧ (a < 0 ↔ ¬ b < 0)

instance : Decidable (RoundsUp a b) :=
  inferInstanceAs (Decidable (_ ∧ _))

theorem roundsUp_iff : RoundsUp a b ↔
    a.toInt.tmod b.toInt ≠ 0 ∧ (a.toInt < 0 ↔ ¬ b.toInt < 0) := by
  have zero : (0 : Int64).toInt = 0 := rfl
  rw [RoundsUp, Int64.lt_iff_toInt_lt, Int64.lt_iff_toInt_lt, zero, ne_eq, ← Int64.toInt_inj,
    Int64.toInt_mod, zero]

/-- Division towards minus infinity is division towards zero put right by one step. -/
theorem fdiv_and_fmod {a b : Int} (nonzero : b ≠ 0) :
    (a.fdiv b = a.tdiv b - if a.tmod b ≠ 0 ∧ (a < 0 ↔ ¬ b < 0) then 1 else 0) ∧
      a.fmod b = a.tmod b + if a.tmod b ≠ 0 ∧ (a < 0 ↔ ¬ b < 0) then b else 0 := by
  have divides : b ∣ a ↔ a.tmod b = 0 := Int.dvd_iff_tmod_eq_zero
  rw [Int.fdiv_eq_tdiv, Int.fmod_eq_tmod]
  by_cases rest : a.tmod b = 0
  · simp [divides, rest]
  · rw [if_neg (divides.not.mpr rest), if_neg (divides.not.mpr rest)]
    rcases Int.lt_or_gt_of_ne nonzero with negative | positive
    · have sign : b.sign = -1 := Int.sign_eq_neg_one_of_neg negative
      have none : b.toNat = 0 := Int.toNat_of_nonpos negative.le
      by_cases below : a < 0
      · simp [rest, negative, below, sign, none, Int.not_le.mpr below, Int.not_le.mpr negative]
      · simp [rest, negative, below, Int.not_lt.mp below, Int.not_le.mpr negative]
    · have sign : b.sign = 1 := Int.sign_eq_one_of_pos positive
      by_cases below : a < 0
      · simp [rest, positive.le, below, sign, Int.not_le.mpr below, Int.not_lt.mpr positive.le,
          abs_of_pos positive]
      · simp [rest, positive.le, below, Int.not_lt.mp below, Int.not_lt.mpr positive.le]

/-- A remainder is smaller than the divisor, and has its sign. -/
theorem fmod_bounds {a b : Int} (nonzero : b ≠ 0) :
    0 ≤ a.fmod b ∧ a.fmod b < b ∨ b < a.fmod b ∧ a.fmod b ≤ 0 := by
  rcases Int.lt_or_gt_of_ne nonzero with negative | positive
  · have positive : 0 < -b := Int.neg_pos_of_neg negative
    have same : (-a).fmod (-b) = -a.fmod b := Int.neg_fmod_neg a b
    have lower := Int.fmod_nonneg_of_pos (-a) positive
    have upper := Int.fmod_lt_of_pos (-a) positive
    exact .inr ⟨by omega, by omega⟩
  · exact .inl ⟨Int.fmod_nonneg_of_pos a positive, Int.fmod_lt_of_pos a positive⟩

theorem fits_fmod (nonzero : b ≠ 0) : Fits (a.toInt.fmod b.toInt) := by
  have bounds := @fmod_bounds a.toInt b.toInt (toInt_ne_zero nonzero)
  have fits := fits_toInt b
  unfold Fits least greatest at *
  omega

/-- Where a quotient is put right, the divisor is no unit, so the quotient is far from the ends. -/
theorem fits_fdiv (nonzero : b ≠ 0) (regular : ¬ DivisionOverflows a b) :
    Fits (a.toInt.fdiv b.toInt) := by
  rw [(fdiv_and_fmod (toInt_ne_zero nonzero)).1]
  have fits := toInt_div regular ▸ fits_toInt (a / b)
  split
  · rename_i roundsUp
    have noUnit : b.toInt.natAbs ≠ 1 := fun unit =>
      roundsUp.1 (Int.tmod_eq_zero_of_dvd (Int.natAbs_dvd.mp (unit ▸ one_dvd _)))
    have wide : 2 ≤ b.toInt.natAbs := by
      have := toInt_ne_zero nonzero
      omega
    have half : (a.toInt.tdiv b.toInt).natAbs ≤ a.toInt.natAbs / 2 := by
      rw [Int.natAbs_tdiv]
      exact Nat.div_le_div_left wide Nat.two_pos
    have whole := fits_toInt a
    unfold Fits least greatest at *
    omega
  · rw [Int.sub_zero]
    exact fits

theorem toInt_fdiv_steps (nonzero : b ≠ 0) (regular : ¬ DivisionOverflows a b) :
    a.toInt.fdiv b.toInt = (a / b).toInt - if RoundsUp a b then 1 else 0 := by
  rw [(fdiv_and_fmod (toInt_ne_zero nonzero)).1, toInt_div regular,
    if_congr roundsUp_iff rfl rfl]

theorem toInt_fmod_steps (nonzero : b ≠ 0) :
    a.toInt.fmod b.toInt = (a % b).toInt + if RoundsUp a b then b.toInt else 0 := by
  rw [(fdiv_and_fmod (toInt_ne_zero nonzero)).2, Int64.toInt_mod, if_congr roundsUp_iff rfl rfl]

theorem toInt_sub_of_fits {x y : Int64} (fits : Fits (x.toInt - y.toInt)) :
    (x - y).toInt = x.toInt - y.toInt := by
  rw [Int64.toInt_sub]
  exact Int.bmod_eq_of_le fits.1 (Int.lt_add_one_of_le fits.2)

theorem toInt_add_of_fits {x y : Int64} (fits : Fits (x.toInt + y.toInt)) :
    (x + y).toInt = x.toInt + y.toInt := by
  rw [Int64.toInt_add]
  exact Int.bmod_eq_of_le fits.1 (Int.lt_add_one_of_le fits.2)

/-- The quotient is the one of the division of words, less one where that is rounded up; the
subtraction does not wrap. -/
theorem floorDiv?_eq (nonzero : b ≠ 0) : floorDiv? a b
    = if DivisionOverflows a b then none
      else some (if RoundsUp a b then a / b - 1 else a / b) := by
  split
  · rename_i overflows
    obtain ⟨rfl, rfl⟩ := overflows
    rfl
  · rename_i regular
    have fits := fits_fdiv nonzero regular
    have steps := toInt_fdiv_steps nonzero regular
    refine ofInt?_eq_some_iff.mpr ?_
    rw [steps] at fits ⊢
    split
    · rename_i roundsUp
      rw [if_pos roundsUp] at fits
      exact toInt_sub_of_fits fits
    · exact (Int.sub_zero _).symm

/-- The remainder is the one of the division of words, and one divisor more where the quotient is
rounded up; the addition does not wrap. -/
theorem floorMod?_eq (nonzero : b ≠ 0) : floorMod? a b
    = if DivisionOverflows a b then none
      else some (if RoundsUp a b then a % b + b else a % b) := by
  rw [floorMod?, ofInt?_tdiv]
  split
  · rfl
  · have fits := @fits_fmod a b nonzero
    have steps := @toInt_fmod_steps a b nonzero
    refine ofInt?_eq_some_iff.mpr ?_
    rw [steps] at fits ⊢
    split
    · rename_i roundsUp
      rw [if_pos roundsUp] at fits
      exact toInt_add_of_fits fits
    · exact (Int.add_zero _).symm

end Division

end Word

/-! ## Operators -/

namespace Eval

/-- An action makes the word with the value of an integer and changes nothing, or fails for there is
no such word. -/
def MakesExactly (n : Int) (act : Eval Value) : Prop :=
  ∀ m : Machine, (∃ i : Int64, i.toInt = n ∧ act m = .ok (.int i) m) ∨
    (¬ Word.Fits n ∧ act m = Eval.fail "integer overflow" m)

/-- An action fails with a message and changes nothing. -/
def Refuses (message : String) (act : Eval Value) : Prop :=
  ∀ m : Machine, act m = Eval.fail message m

/-- An operator between two ints. -/
def operateInts (op : BinaryOp) (a b : Int64) : Eval Value :=
  Eval.produce fun h => Value.binary h op (.int a) (.int b)

/-- The opposite of an int. -/
def oppositeInt (a : Int64) : Eval Value :=
  Eval.operate fun h => (Value.int a).unary h .neg

variable {n : Int} {op : BinaryOp} {a b : Int64}

theorem operateInts_of_fault {fault : OperatorFault}
    (made : ∀ h, Value.binary h op (.int a) (.int b) = .error fault) :
    Refuses fault.text (operateInts op a b) := by
  intro m
  rw [operateInts, Eval.produce, bind_run, operate_run, made]
  rfl

theorem operateInts_of_exact
    (made : ∀ h, Value.binary h op (.int a) (.int b) = Value.exact (Word.ofInt? n)) :
    MakesExactly n (operateInts op a b) := by
  intro m
  rw [operateInts, Eval.produce, bind_run, operate_run, made]
  cases fits : Word.ofInt? n with
  | none => exact .inr ⟨Word.ofInt?_eq_none_iff.mp fits, rfl⟩
  | some i => exact .inl ⟨i, Word.ofInt?_eq_some_iff.mp fits, rfl⟩

theorem oppositeInt_exact : MakesExactly (-a.toInt) (oppositeInt a) := by
  intro m
  rw [oppositeInt, operate_run, Value.unary]
  cases fits : Word.neg? a with
  | none => exact .inr ⟨Word.ofInt?_eq_none_iff.mp fits, rfl⟩
  | some i => exact .inl ⟨i, Word.ofInt?_eq_some_iff.mp fits, rfl⟩

theorem absolute_exact : MakesExactly a.toInt.natAbs (Universe.absolute (.int a)) := by
  intro m
  rw [Universe.absolute]
  cases fits : Word.abs? a with
  | none => exact .inr ⟨Word.ofInt?_eq_none_iff.mp fits, rfl⟩
  | some i => exact .inl ⟨i, Word.ofInt?_eq_some_iff.mp fits, rfl⟩

/-- The remainder is refused where the quotient is, although it always is a word. -/
theorem binary_mod (h : Heap) (nonzero : b ≠ 0) : Value.binary h .mod (.int a) (.int b)
    = if Word.DivisionOverflows a b then .error .overflow
      else Value.exact (Word.ofInt? (a.toInt.fmod b.toInt)) := by
  have made : Value.binary h .mod (.int a) (.int b)
      = if b = 0 then .error .integerModuloByZero else Value.exact (Word.floorMod? a b) := rfl
  rw [made, if_neg nonzero, Word.floorMod?, Word.ofInt?_tdiv]
  split <;> rfl

end Eval

open Eval in
/-- What the integer operations do with two words. -/
structure ExactArithmetic (a b : Int64) : Prop where
  sum : MakesExactly (a.toInt + b.toInt) (operateInts .add a b)
  difference : MakesExactly (a.toInt - b.toInt) (operateInts .sub a b)
  product : MakesExactly (a.toInt * b.toInt) (operateInts .mul a b)
  opposite : MakesExactly (-a.toInt) (oppositeInt a)
  absolute : MakesExactly |a.toInt| (Universe.absolute (.int a))
  /-- The remainder has the sign of the divisor, so the quotient is rounded towards minus infinity.
  -/
  division : b ≠ 0 → ∃ quotient remainder : Int, a.toInt = quotient * b.toInt + remainder ∧
    (0 ≤ remainder ∧ remainder < b.toInt ∨ b.toInt < remainder ∧ remainder ≤ 0) ∧
    MakesExactly quotient (operateInts .floorDiv a b) ∧
    (¬ Word.DivisionOverflows a b → MakesExactly remainder (operateInts .mod a b))
  /-- The remainder of one division is refused. -/
  overflow : Word.DivisionOverflows a b → Refuses "integer overflow" (operateInts .mod a b)
  byZero : b = 0 → Refuses "integer division by zero" (operateInts .floorDiv a b) ∧
    Refuses "integer modulo by zero" (operateInts .mod a b)

open Eval in
/-- Integer operations are exact or refused. -/
theorem integers_exact_or_refused (a b : Int64) : ExactArithmetic a b where
  sum := operateInts_of_exact fun _ => rfl
  difference := operateInts_of_exact fun _ => rfl
  product := operateInts_of_exact fun _ => rfl
  opposite := oppositeInt_exact
  absolute := Int.natCast_natAbs a.toInt ▸ absolute_exact
  division nonzero := by
    refine ⟨a.toInt.fdiv b.toInt, a.toInt.fmod b.toInt, ?_,
      Word.fmod_bounds (Word.toInt_ne_zero nonzero), ?_, fun regular => ?_⟩
    · rw [Int.fmod_def, Int.mul_comm]
      omega
    · exact operateInts_of_exact fun h => if_neg nonzero
    · exact operateInts_of_exact fun h => (binary_mod h nonzero).trans (if_neg regular)
  overflow overflows := operateInts_of_fault fun h =>
    (binary_mod h (overflows.2 ▸ by decide)).trans (if_pos overflows)
  byZero zero := by
    subst zero
    constructor
    · exact @operateInts_of_fault .floorDiv a 0 .integerDivisionByZero fun _ => rfl
    · exact @operateInts_of_fault .mod a 0 .integerModuloByZero fun _ => rfl

/-- The remainder of the least word by -1 is zero, but it is refused. -/
theorem remainder_refused : Word.Fits (Int64.minValue.toInt.fmod (-1)) ∧
    Eval.Refuses "integer overflow" (Eval.operateInts .mod Int64.minValue (-1)) :=
  ⟨by decide, (integers_exact_or_refused Int64.minValue (-1)).overflow ⟨rfl, rfl⟩⟩

end PixelApplet
