import PixelApplet.Evaluation.Call
import PixelApplet.Proofs.Machine.Courses
import PixelApplet.Proofs.Number.Progressions

/-!
# Ranges

A range is a list of the integers that steps from its start meet before its end.  How many they are
is not found by stepping: the distance is divided by the size of the steps, rounded up.  Carried out
in machine words one after the other, these operations give the same number unless one of them
overflows, and where they do not, no element overflows either.
-/

namespace PixelApplet

namespace Universe

variable {call : Value → Arguments → Eval Value} {given : List Value}
  {start stop step count : Int64} {m : Machine} {k : Nat}

/-- The start, the end and the step of a range as its positional arguments say them. -/
inductive RangeOf : List Value → Int64 → Int64 → Int64 → Prop where
  | stop (stop : Int64) : RangeOf [.int stop] 0 stop 1
  | start (start stop : Int64) : RangeOf [.int start, .int stop] start stop 1
  | step (start stop step : Int64) : RangeOf [.int start, .int stop, .int step] start stop step

/-- The distance to the end of a range as a machine word, if it is one. -/
def spanWord? (start stop step : Int64) : Option Int64 :=
  if step > 0 then Word.sub? stop start else Word.sub? start stop

/-- The number of elements of a range, computed in machine words; there is none where an operation
overflows. -/
def countWords? (start stop step : Int64) : Option Int64 := do
  let span ← spanWord? start stop step
  if span ≤ 0 then some 0
  else
    let size ← Word.abs? step
    let sum ← Word.add? span size
    let most ← Word.sub? sum 1
    some (most / size)

/-- An element of a range, computed in machine words. -/
def elementWord? (start step k : Int64) : Option Int64 := do
  let far ← Word.mul? k step
  Word.add? start far

/-! ## The number of elements -/

theorem toInt_pos_iff : step > 0 ↔ step.toInt > 0 :=
  Int64.lt_iff_toInt_lt

theorem toInt_spanWord {span : Int64} (made : spanWord? start stop step = some span) :
    span.toInt = distance start.toInt stop.toInt step.toInt := by
  unfold spanWord? at made
  unfold distance
  split at made <;> rename_i direction
  · rw [if_pos (toInt_pos_iff.mp direction)]
    exact Word.ofInt?_eq_some_iff.mp made
  · rw [if_neg (mt toInt_pos_iff.mpr direction)]
    exact Word.ofInt?_eq_some_iff.mp made

/-- The division of words rounds as the one of integers, for nothing is negative. -/
theorem toInt_div_of_nonneg {a b : Int64} (nonneg : 0 ≤ a.toInt) (positive : 0 < b.toInt) :
    (a / b).toInt = a.toInt / b.toInt := by
  have regular : ¬ Word.DivisionOverflows a b := by
    rintro ⟨rfl, rfl⟩
    exact absurd positive (by decide)
  rw [Word.toInt_div regular, Int.tdiv_eq_ediv_of_nonneg nonneg]

/-- Machine words give the number of integers before the end, and the distance to the end is a
machine word. -/
theorem count_of_words (nonzero : step ≠ 0) (counts : countWords? start stop step = some count) :
    count.toInt = stepCount start.toInt stop.toInt step.toInt
      ∧ Word.Fits (distance start.toInt stop.toInt step.toInt) := by
  obtain ⟨span, made, counts⟩ := Option.bind_eq_some_iff.mp counts
  have is := toInt_spanWord made
  refine ⟨?_, is ▸ Word.fits_toInt span⟩
  have zero : (0 : Int64).toInt = 0 := rfl
  rw [natCast_stepCount (Word.toInt_ne_zero nonzero), ← is]
  split at counts <;> rename_i behind
  · obtain rfl := Option.some.inj counts
    rw [Int64.le_iff_toInt_le, zero] at behind
    rw [if_pos behind]
    rfl
  · rw [Int64.le_iff_toInt_le, zero] at behind
    obtain ⟨size, isSize, counts⟩ := Option.bind_eq_some_iff.mp counts
    obtain ⟨sum, isSum, counts⟩ := Option.bind_eq_some_iff.mp counts
    obtain ⟨most, isMost, counts⟩ := Option.bind_eq_some_iff.mp counts
    obtain rfl := Option.some.inj counts
    have size' := Word.ofInt?_eq_some_iff.mp isSize
    have sum' := Word.ofInt?_eq_some_iff.mp isSum
    have most' := Word.ofInt?_eq_some_iff.mp isMost
    have one : (1 : Int64).toInt = 1 := rfl
    have positive := Int.natAbs_pos.mpr (Word.toInt_ne_zero nonzero)
    rw [if_neg behind, toInt_div_of_nonneg (by omega) (by omega), most', sum', size', one]

/-! ## The elements -/

theorem fits_of_before (before : Before step.toInt (start.toInt + k * step.toInt) stop.toInt) :
    Word.Fits (start.toInt + k * step.toInt) := by
  have fits := Word.fits_toInt start
  have fits' := Word.fits_toInt stop
  unfold Word.Fits at *
  rcases before.between with ⟨_, lower, upper⟩ | ⟨_, lower, upper⟩ <;> omega

/-- The elements of a range as machine words. -/
def rangeWords (start stop step : Int64) : List Int64 :=
  (List.range (stepCount start.toInt stop.toInt step.toInt)).map fun (k : Nat) =>
    Int64.ofInt (start.toInt + k * step.toInt)

theorem length_rangeWords : (rangeWords start stop step).length
    = stepCount start.toInt stop.toInt step.toInt := by
  rw [rangeWords, List.length_map, List.length_range]

theorem toInt_rangeWords (nonzero : step ≠ 0) :
    (rangeWords start stop step).map Int64.toInt
      = (List.range (stepCount start.toInt stop.toInt step.toInt)).map fun (k : Nat) =>
        start.toInt + k * step.toInt := by
  rw [rangeWords, List.map_map]
  refine List.map_congr_left fun k member => ?_
  have before := (before_iff_lt_stepCount (Word.toInt_ne_zero nonzero)).mpr (List.mem_range.mp member)
  exact Word.toInt_ofInt (fits_of_before before)

theorem rangeItems_eq (nonzero : step ≠ 0) :
    rangeItems start.toInt stop.toInt step.toInt = (rangeWords start stop step).map Value.int := by
  rw [rangeWords, List.map_map, ← Int.toNat_natCast (stepCount _ _ _),
    natCast_stepCount (Word.toInt_ne_zero nonzero)]
  rfl

/-- No element overflows where the distance does not. -/
theorem elementWord?_of_fits {word : Int64} (nonzero : step ≠ 0)
    (fits : Word.Fits (distance start.toInt stop.toInt step.toInt))
    (found : (rangeWords start stop step)[k]? = some word) :
    elementWord? start step (Int64.ofNat k) = some word := by
  have many : k < stepCount start.toInt stop.toInt step.toInt := by
    rw [← length_rangeWords]
    exact (List.getElem?_eq_some_iff.mp found).1
  rw [rangeWords, List.getElem?_map, List.getElem?_range many] at found
  obtain rfl := Option.some.inj found
  have before := (before_iff_lt_stepCount (Word.toInt_ne_zero nonzero)).mpr many
  have near := before_iff_lt_distance.mp before
  have size : (k * step.toInt).natAbs = (k * step.toInt.natAbs : Int) := by
    rw [Int.natAbs_mul, Int.natAbs_natCast, Nat.cast_mul]
  have least : (k : Int) ≤ k * step.toInt.natAbs := by
    have positive := Int.natAbs_pos.mpr (Word.toInt_ne_zero nonzero)
    exact_mod_cast Nat.le_mul_of_pos_right k positive
  have index : (Int64.ofNat k).toInt = k := by
    rw [← Int64.ofInt_eq_ofNat]
    exact Word.toInt_ofInt (by unfold Word.Fits Word.least at *; omega)
  have far : Word.Fits (k * step.toInt) := by
    unfold Word.Fits Word.least Word.greatest at *
    omega
  calc elementWord? start step (Int64.ofNat k)
    _ = (Word.ofInt? (k * step.toInt)).bind (Word.add? start) := by
      rw [elementWord?, Word.mul?, index]
      rfl
    _ = Word.ofInt? (start.toInt + k * step.toInt) := by
      rw [Word.ofInt?_of_fits far, Option.bind_some, Word.add?, Word.toInt_ofInt far]
    _ = some (Int64.ofInt (start.toInt + k * step.toInt)) :=
      Word.ofInt?_of_fits (fits_of_before before)

/-! ## The function -/

theorem range_of_given (gives : RangeOf given start stop step) (nonzero : step ≠ 0) :
    range (.ofList given) m
      = if 10000000 < stepCount start.toInt stop.toInt step.toInt then
          Eval.fail s!"range: {stepCount start.toInt stop.toInt step.toInt} elements is too many" m
        else Eval.newList ((rangeWords start stop step).map Value.int) m := by
  have nonzero' := Word.toInt_ne_zero nonzero
  have runs : range (.ofList given) m
      = (do
          if step.toInt = 0 then Eval.fail "range: step argument must not be zero"
          let span := distance start.toInt stop.toInt step.toInt
          let count := if span ≤ 0 then 0 else (span + step.toInt.natAbs - 1) / step.toInt.natAbs
          if count > longestRange then Eval.fail s!"range: {count} elements is too many"
          Eval.newList (rangeItems start.toInt stop.toInt step.toInt) : Eval Value) m := by
    cases gives <;> rfl
  have long : (stepCount start.toInt stop.toInt step.toInt : Int) > longestRange
      ↔ 10000000 < stepCount start.toInt stop.toInt step.toInt := by
    unfold longestRange
    omega
  rw [runs, rangeItems_eq nonzero]
  simp only [if_neg nonzero', ← natCast_stepCount nonzero', long]
  split <;> rfl

/-- Where no operation on machine words overflows, a range is the list of the integers that steps
from its start meet strictly before its end, in this order, or is refused as too long, exactly if
there are more than 10,000,000 of them.  Their number and each of them is what the operations on
machine words give. -/
theorem range_exact (gives : RangeOf given start stop step) (nonzero : step ≠ 0)
    (counts : countWords? start stop step = some count) (m : Machine) :
    ∃ words : List Int64,
      IsProgression start.toInt stop.toInt step.toInt (words.map Int64.toInt)
      ∧ count.toInt = words.length
      ∧ (∀ (k : Nat) (word : Int64), words[k]? = some word →
          elementWord? start step (Int64.ofNat k) = some word)
      ∧ (words.length ≤ 10000000 → run call .range (.ofList given) m
          = .ok (.list m.heap.nextList)
            { m with heap := m.heap.addList ⟨(words.map Value.int).toArray, false⟩ })
      ∧ (10000000 < words.length → run call .range (.ofList given) m
          = Eval.fail s!"range: {words.length} elements is too many" m) := by
  obtain ⟨isCount, fits⟩ := count_of_words nonzero counts
  have nonzero' := Word.toInt_ne_zero nonzero
  have ran : run call .range (.ofList given) m = range (.ofList given) m := rfl
  rw [ran, range_of_given gives nonzero, ← length_rangeWords]
  refine ⟨rangeWords start stop step, ?_, ?_, fun k word found => ?_, fun short => ?_,
    fun long => if_pos long⟩
  · rw [toInt_rangeWords nonzero]
    exact isProgression_range nonzero'
  · rw [isCount, length_rangeWords]
  · exact elementWord?_of_fits nonzero fits found
  · rw [if_neg (Nat.not_lt.mpr short)]
    rfl

/-- Downwards in steps of two, where the last step would pass the end. -/
theorem range_downwards : countWords? 5 0 (-2) = some 3 ∧ ∃ words : List Int64,
    IsProgression 5 0 (-2) (words.map Int64.toInt)
    ∧ run (fun _ _ => refuseCall) .range (.ofList [.int 5, .int 0, .int (-2)]) (.initial (.under []))
      = .ok (.list (Machine.initial (.under [])).heap.nextList)
        { Machine.initial (.under []) with
          heap := (Machine.initial (.under [])).heap.addList
            ⟨(words.map Value.int).toArray, false⟩ } := by
  have counts : countWords? 5 0 (-2) = some 3 := by decide
  obtain ⟨words, progression, number, -, short, -⟩ := range_exact
    (.step 5 0 (-2)) (by decide) counts (.initial (.under []))
  have three : (3 : Int) = words.length := number
  exact ⟨counts, words, progression, short (by omega)⟩

end Universe

end PixelApplet
