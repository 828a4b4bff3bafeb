import Mathlib.Data.List.Forall2
import PixelApplet.Evaluation.Call
import PixelApplet.Proofs.Machine.Courses
import PixelApplet.Proofs.Number.Progressions
import PixelApplet.Proofs.Value.Sound

/-!
# Slices

A slice is made of the elements at the places that steps from one end meet before the other.  Where
the ends lie depends on the direction: they are counted from the back if they are negative, moved to
the nearest place that the direction allows, and are the outermost places if they are absent.  So
every place that is met is inside the sequence, although the places are found without looking at it.
Cutting a sequence in two loses nothing, and steps of -1 turn it round.
-/

namespace PixelApplet

namespace Value

variable {h : Heap} {elements values : List Value} {places : List Int}

/-- The elements of a list, a tuple or a text; those of a text are texts of one character. -/
def elements? (h : Heap) : Value → Option (List Value)
  | list ref => some (h.list ref).items.toList
  | tuple items => some items
  | str text => some (text.toList.map fun c => str (String.ofList [c]))
  | _ => Option.none

/-- A value stands at a place of a sequence. -/
def StandsAt (elements : List Value) (place : Int) (v : Value) : Prop :=
  0 ≤ place ∧ elements[place.toNat]? = some v

/-! ## Places -/

section Places

variable {first limit step : Int} {length k : Nat}

/-- Division towards minus infinity, put off by the step less its sign, rounds up. -/
theorem fdiv_eq_div_up (nonzero : step ≠ 0) : (limit - first + step - step.sign).fdiv step
    = (distance first limit step + step.natAbs - 1) / step.natAbs := by
  unfold distance
  rcases Int.lt_or_gt_of_ne nonzero with downwards | upwards
  · have size : (step.natAbs : Int) = -step := Int.ofNat_natAbs_of_nonpos downwards.le
    have turned : limit - first + step - -1 = -(first - limit + -step - 1) := by omega
    rw [if_neg (Int.not_lt.mpr downwards.le), Int.sign_eq_neg_one_of_neg downwards, turned, size,
      ← Int.neg_fdiv_neg, Int.neg_neg, Int.fdiv_eq_ediv_of_nonneg _ (by omega)]
  · rw [if_pos upwards, Int.sign_eq_one_of_pos upwards, Int.natAbs_of_nonneg upwards.le,
      Int.fdiv_eq_ediv_of_nonneg _ upwards.le]

/-- The places are those of the one progression that there is. -/
theorem steppedPlaces_eq (nonzero : step ≠ 0) (these : IsProgression first limit step places) :
    steppedPlaces first limit step = places.map Int.toNat := by
  rw [these.unique (isProgression_range nonzero), List.map_map, stepCount,
    ← fdiv_eq_div_up nonzero]
  rfl

/-- The place nearest to an integer among those from `low` to `high`. -/
structure IsNearest (low high i place : Int) : Prop where
  inside : low ≤ i → i ≤ high → place = i
  below : i < low → place = low
  above : high < i → place = high

/-- Where an end of a slice lies: an absent one at a place of its own; a given one, which counts
from the back if it is negative, at the nearest place. -/
def EndsAt (length : Nat) (low high absent : Int) (given : Option Int64) (place : Int) : Prop :=
  match given with
  | Option.none => place = absent
  | some i => IsNearest low high (if i.toInt < 0 then i.toInt + length else i.toInt) place

/-- Where a slice in steps starts and before which place it stops. -/
def Ends (length : Nat) (start stop : Option Int64) (step first limit : Int) : Prop :=
  if 0 < step then
    EndsAt length 0 length 0 start first ∧ EndsAt length 0 length length stop limit
  else
    EndsAt length (-1) (length - 1) (length - 1) start first
      ∧ EndsAt length (-1) (length - 1) (-1) stop limit

variable {start stop given : Option Int64} {low high absent place : Int}

theorem IsNearest.unique {i other : Int} (nearest : IsNearest low high i place)
    (nearest' : IsNearest low high i other) : place = other := by
  obtain ⟨inside, below, above⟩ := nearest
  obtain ⟨inside', below', above'⟩ := nearest'
  omega

theorem EndsAt.bounds (endsAt : EndsAt length low high absent given place) (least : low ≤ absent)
    (most : absent ≤ high) : low ≤ place ∧ place ≤ high := by
  cases given with
  | none =>
    obtain rfl : place = absent := endsAt
    exact ⟨least, most⟩
  | some i =>
    obtain ⟨inside, below, above⟩ : IsNearest low high _ place := endsAt
    omega

theorem endsAt_clampBound (least : low ≤ high) : EndsAt length low high absent given
    ((given.map fun i => clampBound length low high i.toInt).getD absent) := by
  cases given with
  | none => rfl
  | some i =>
    show IsNearest low high _ (clampBound length low high i.toInt)
    unfold clampBound
    generalize (if i.toInt < 0 then i.toInt + length else i.toInt) = counted
    constructor <;> omega

/-- A slice picks the places between its ends. -/
theorem exists_ends (length : Nat) (start stop : Option Int64) (step : Int) :
    ∃ first limit, Ends length start stop step first limit
      ∧ slicePlaces length (start.map Int64.toInt) (stop.map Int64.toInt) step
        = steppedPlaces first limit step := by
  unfold Ends slicePlaces
  simp only [Option.map_map]
  by_cases upwards : 0 < step
  · have least : (0 : Int) ≤ length := Int.natCast_nonneg length
    simp only [if_pos upwards]
    exact ⟨_, _, ⟨endsAt_clampBound least, endsAt_clampBound least⟩, rfl⟩
  · have least : (-1 : Int) ≤ length - 1 := by omega
    simp only [if_neg upwards]
    exact ⟨_, _, ⟨endsAt_clampBound least, endsAt_clampBound least⟩, rfl⟩

/-- No place outside the sequence lies between the ends of a slice. -/
theorem Ends.inside (ends : Ends length start stop step first limit)
    (before : Before step (first + k * step) limit) :
    0 ≤ first + k * step ∧ first + k * step < length := by
  unfold Ends at ends
  rcases before.between with ⟨upwards, lower, upper⟩ | ⟨downwards, lower, upper⟩
  · rw [if_pos upwards] at ends
    have := ends.1.bounds (by omega) (by omega)
    have := ends.2.bounds (by omega) (by omega)
    omega
  · rw [if_neg downwards] at ends
    have := ends.1.bounds (by omega) (by omega)
    have := ends.2.bounds (by omega) (by omega)
    omega

end Places

/-! ## Picked elements -/

theorem pick_standsAt (inside : ∀ place ∈ places, 0 ≤ place ∧ place < elements.length) :
    List.Forall₂ (StandsAt elements) places
      (pick elements.toArray (places.map Int.toNat)) := by
  induction places with
  | nil => exact .nil
  | cons place rest ih =>
    obtain ⟨lower, upper⟩ := inside place (.head _)
    have here : elements[place.toNat]? = some elements[place.toNat] :=
      List.getElem?_eq_getElem (by omega)
    have picked : pick elements.toArray ((place :: rest).map Int.toNat)
        = elements[place.toNat] :: pick elements.toArray (rest.map Int.toNat) := by
      rw [← List.getElem?_toArray] at here
      exact List.filterMap_cons_some here
    rw [picked]
    exact .cons ⟨lower, here⟩ (ih fun place member => inside place (.tail _ member))

theorem pick_map {α β : Type} (f : α → β) (items : List α) (places : List Nat) :
    pick (items.map f).toArray places = (pick items.toArray places).map f := by
  simp only [pick, List.map_filterMap, List.getElem?_toArray, List.getElem?_map]

theorem getElem?_of_standsAt (standing : List.Forall₂ (StandsAt elements) places values) (k : Nat) :
    values[k]? = places[k]?.bind fun place => elements[place.toNat]? := by
  induction standing generalizing k with
  | nil => rfl
  | cons here _ ih =>
    cases k with
    | zero => exact here.2.symm
    | succ k => exact ih k

end Value

/-! ## The operation -/

/-- A bound of a slice as it is written: absent, `None` or an int. -/
inductive IsBound : Option Value → Option Int64 → Prop where
  | absent : IsBound none none
  | none : IsBound (some .none) none
  | int (i : Int64) : IsBound (some (.int i)) (some i)

theorem IsBound.sliceBound {written : Option Value} {bound : Option Int64}
    (isBound : IsBound written bound) : Value.sliceBound written = .ok (bound.map Int64.toInt) := by
  cases isBound <;> rfl

/-- The part of an object that a slice picks, as the evaluator makes it. -/
def Eval.sliced (object : Value) (start stop step : Option Value) : Eval Value :=
  Eval.produce fun h => object.slice h start stop step

/-- An action succeeds with a sequence of the same kind as another, with given elements. -/
def Eval.MakesPart (m : Machine) (object : Value) (elements : List Value) (act : Eval Value) :
    Prop :=
  ∃ v m', act m = .ok v m' ∧ v.typeName = object.typeName ∧ v.elements? m'.heap = some elements

section Slicing

variable {m : Machine} {object : Value} {elements : List Value} {start stop step : Option Value}
  {start' stop' step' : Option Int64}

theorem toInt_stride_ne_zero (nonzero : step' ≠ some 0) : (step'.getD 1).toInt ≠ 0 := by
  cases step' with
  | none => decide
  | some i => exact Word.toInt_ne_zero fun zero => nonzero (congrArg some zero)

/-- What a slice of a sequence makes. -/
theorem Value.slice_of_bounds (isStart : IsBound start start') (isStop : IsBound stop stop')
    (isStep : IsBound step step') (nonzero : step' ≠ some 0) (h : Heap) :
    object.slice h start stop step
      = let places (length : Nat) := slicePlaces length (start'.map Int64.toInt)
          (stop'.map Int64.toInt) (step'.getD 1).toInt
        match object with
        | list ref => .ok (.list (pick (h.list ref).items (places (h.list ref).items.size)))
        | tuple items => .ok (.value (.tuple (pick items.toArray (places items.length))))
        | str text =>
          let chars := text.toList.toArray
          .ok (.value (.str (String.ofList (pick chars (places chars.size)))))
        | other => .error (.notSliceable other.typeName) := by
  have stride : (step'.map Int64.toInt).getD 1 = (step'.getD 1).toInt := by
    cases step' <;> rfl
  have nonzero' := toInt_stride_ne_zero nonzero
  rw [slice, isStart.sliceBound, isStop.sliceBound, isStep.sliceBound]
  simp only [bind, Except.bind, stride, if_neg nonzero']
  cases object <;> rfl

theorem Eval.sliced_makesPart (sequence : object.elements? m.heap = some elements)
    (isStart : IsBound start start') (isStop : IsBound stop stop') (isStep : IsBound step step')
    (nonzero : step' ≠ some 0) :
    MakesPart m object
      (Value.pick elements.toArray (Value.slicePlaces elements.length (start'.map Int64.toInt)
        (stop'.map Int64.toInt) (step'.getD 1).toInt))
      (sliced object start stop step) := by
  rw [MakesPart, sliced, produce, bind_run, operate_run,
    Value.slice_of_bounds isStart isStop isStep nonzero]
  cases object with
  | list ref =>
    obtain rfl := Option.some.inj sequence
    refine ⟨_, _, rfl, rfl, ?_⟩
    rw [Value.elements?, Heap.list_addList, if_pos rfl]
    rfl
  | tuple items =>
    obtain rfl := Option.some.inj sequence
    exact ⟨_, _, rfl, rfl, rfl⟩
  | str text =>
    obtain rfl := Option.some.inj sequence
    refine ⟨_, _, rfl, rfl, ?_⟩
    rw [Value.elements?, String.toList_ofList, Value.pick_map, List.length_map, List.size_toArray]
  | _ => cases sequence

/-- A slice makes the part of a sequence whose elements stand at the places between its ends. -/
theorem Eval.sliced_between (sequence : object.elements? m.heap = some elements)
    (isStart : IsBound start start') (isStop : IsBound stop stop') (isStep : IsBound step step')
    (nonzero : step' ≠ some 0) :
    ∃ first limit, Value.Ends elements.length start' stop' (step'.getD 1).toInt first limit
      ∧ ∃ places part, IsProgression first limit (step'.getD 1).toInt places
        ∧ List.Forall₂ (Value.StandsAt elements) places part
        ∧ MakesPart m object part (sliced object start stop step) := by
  have nonzero' : (step'.getD 1).toInt ≠ 0 := toInt_stride_ne_zero nonzero
  have made := sliced_makesPart sequence isStart isStop isStep nonzero
  obtain ⟨first, limit, ends, picks⟩ :=
    Value.exists_ends elements.length start' stop' (step'.getD 1).toInt
  have these : IsProgression first limit (step'.getD 1).toInt _ := isProgression_range nonzero'
  refine ⟨first, limit, ends, _, _, these, Value.pick_standsAt fun place member => ?_, ?_⟩
  · obtain ⟨k, rfl, before⟩ := these.exists_of_mem member
    exact ends.inside before
  · rwa [← Value.steppedPlaces_eq nonzero' these, ← picks]

/-- The elements of a part, by their number. -/
theorem Eval.getElem?_part {first limit stride : Int} {places : List Int} {part : List Value}
    (these : IsProgression first limit stride places)
    (standing : List.Forall₂ (Value.StandsAt elements) places part) (k : Nat) :
    part[k]? = if Before stride (first + k * stride) limit
      then elements[(first + k * stride).toNat]? else none := by
  rw [Value.getElem?_of_standsAt standing, these k]
  split <;> rfl

theorem Eval.part_eq_take {limit : Int} {places : List Int} {part : List Value}
    (these : IsProgression 0 limit 1 places)
    (standing : List.Forall₂ (Value.StandsAt elements) places part) :
    part = elements.take limit.toNat := by
  refine List.ext_getElem? fun k => ?_
  have before : Before 1 (0 + k * 1) limit ↔ k < limit.toNat := by
    rw [before_of_pos Int.one_pos]
    omega
  rw [getElem?_part these standing, List.getElem?_take, if_congr before rfl rfl, Int.mul_one,
    Int.zero_add, Int.toNat_natCast]

theorem Eval.part_eq_drop {first : Int} {places : List Int} {part : List Value} (nonneg : 0 ≤ first)
    (these : IsProgression first elements.length 1 places)
    (standing : List.Forall₂ (Value.StandsAt elements) places part) :
    part = elements.drop first.toNat := by
  refine List.ext_getElem? fun k => ?_
  have before : Before 1 (first + k * 1) elements.length ↔ first.toNat + k < elements.length := by
    rw [before_of_pos Int.one_pos]
    omega
  have place : (first + k * 1).toNat = first.toNat + k := by omega
  rw [getElem?_part these standing, List.getElem?_drop, if_congr before rfl rfl, place]
  split
  · rfl
  · exact (List.getElem?_eq_none (by omega)).symm

theorem Eval.part_eq_reverse {places : List Int} {part : List Value}
    (these : IsProgression (elements.length - 1) (-1) (-1) places)
    (standing : List.Forall₂ (Value.StandsAt elements) places part) : part = elements.reverse := by
  refine List.ext_getElem? fun k => ?_
  have before : Before (-1) ((elements.length : Int) - 1 + k * -1) (-1) ↔ k < elements.length := by
    rw [before_of_not_pos (by decide)]
    omega
  rw [getElem?_part these standing, if_congr before rfl rfl]
  split
  · rename_i inside
    have place : ((elements.length : Int) - 1 + k * -1).toNat = elements.length - 1 - k := by omega
    rw [place, List.getElem?_reverse inside]
  · rename_i outside
    exact (List.getElem?_eq_none (by simpa using outside)).symm

theorem Eval.sliced_splits (sequence : object.elements? m.heap = some elements) (k : Int64) :
    ∃ front back, MakesPart m object front (sliced object none (some (.int k)) none)
      ∧ MakesPart m object back (sliced object (some (.int k)) none none)
      ∧ front ++ back = elements := by
  obtain ⟨first, limit, ends, places, front, these, standing, made⟩ :=
    sliced_between sequence .absent (.int k) .absent nofun
  obtain ⟨first', limit', ends', places', back, these', standing', made'⟩ :=
    sliced_between sequence (.int k) .absent .absent nofun
  obtain ⟨(rfl : first = 0), isLimit⟩ := (if_pos (by decide)).mp ends
  obtain ⟨isFirst, (rfl : limit' = elements.length)⟩ := (if_pos (by decide)).mp ends'
  have bounds := isFirst.bounds (Int.le_refl 0) (Int.natCast_nonneg _)
  have same : limit = first' := Value.IsNearest.unique isLimit isFirst
  refine ⟨front, back, made, made', ?_⟩
  rw [part_eq_take these standing, part_eq_drop bounds.1 these' standing', same,
    List.take_append_drop]

theorem Eval.sliced_reverses (sequence : object.elements? m.heap = some elements) :
    MakesPart m object elements.reverse (sliced object none none (some (.int (-1)))) := by
  obtain ⟨first, limit, ends, places, part, these, standing, made⟩ :=
    sliced_between sequence .absent .absent (.int (-1)) (by decide)
  obtain ⟨(rfl : first = elements.length - 1), (rfl : limit = -1)⟩ := (if_neg (by decide)).mp ends
  rwa [← part_eq_reverse these standing]

/-- What slices of a sequence are. -/
structure SlicesExactly (m : Machine) (object : Value) (elements : List Value) : Prop where
  /-- A slice consists of the elements that stand at the places between its ends.  If the places
  never leave the machine words, they are what stepping in machine words meets. -/
  picks {start stop step : Option Value} {start' stop' step' : Option Int64} :
    IsBound start start' → IsBound stop stop' → IsBound step step' → step' ≠ some 0 →
    ∃ first limit, Value.Ends elements.length start' stop' (step'.getD 1).toInt first limit
      ∧ (StepsFit first limit (step'.getD 1).toInt →
        ∃ places part, IsProgression first limit (step'.getD 1).toInt places
          ∧ Steps limit (step'.getD 1).toInt first places
          ∧ List.Forall₂ (Value.StandsAt elements) places part
          ∧ Eval.MakesPart m object part (Eval.sliced object start stop step))
  /-- The part before a place and the part from it on make the whole. -/
  splits (k : Int64) : ∃ front back,
    Eval.MakesPart m object front (Eval.sliced object none (some (.int k)) none)
      ∧ Eval.MakesPart m object back (Eval.sliced object (some (.int k)) none none)
      ∧ front ++ back = elements
  reverses : Eval.MakesPart m object elements.reverse
    (Eval.sliced object none none (some (.int (-1))))

/-- Slices of lists, tuples and texts pick the elements between their ends, in both directions. -/
theorem slices_exact (sequence : object.elements? m.heap = some elements) :
    SlicesExactly m object elements where
  picks isStart isStop isStep nonzero := by
    obtain ⟨first, limit, ends, places, part, these, standing, made⟩ :=
      Eval.sliced_between sequence isStart isStop isStep nonzero
    exact ⟨first, limit, ends, fun fit =>
      ⟨places, part, these, these.steps fit, standing, made⟩⟩
  splits := Eval.sliced_splits sequence
  reverses := Eval.sliced_reverses sequence

/-- Three ints. -/
def threeInts : Value :=
  .tuple [.int 7, .int 8, .int 9]

/-- All but the first of three, from the end. -/
theorem slices_threeInts :
    threeInts.elements? (Machine.initial (.under [])).heap = some [.int 7, .int 8, .int 9]
      ∧ Value.Ends 3 none (some 0) (-1) 2 0 ∧ StepsFit 2 0 (-1)
      ∧ Eval.MakesPart (.initial (.under [])) threeInts [.int 9, .int 8]
        (Eval.sliced threeInts none (some (.int 0)) (some (.int (-1)))) := by
  have fit : StepsFit 2 0 (-1) := by
    intro k before
    have bounds := before.between
    unfold Word.Fits Word.least Word.greatest
    omega
  have slices : SlicesExactly (.initial (.under [])) threeInts [.int 7, .int 8, .int 9] :=
    slices_exact rfl
  obtain ⟨first, limit, ends, picks⟩ := slices.picks .absent (.int 0) (.int (-1)) (by decide)
  obtain ⟨(rfl : first = 2), isLimit⟩ := (if_neg (by decide)).mp ends
  obtain rfl : limit = 0 := isLimit.inside (by decide) (by decide)
  obtain ⟨places, part, these, -, standing, made⟩ := picks fit
  obtain rfl : places = [2, 1] :=
    these.unique (.cons (by decide) (.cons (by decide) (.nil (by decide))))
  obtain _ | ⟨⟨-, nine⟩, _ | ⟨⟨-, eight⟩, _ | _⟩⟩ := standing
  obtain rfl := Option.some.inj nine
  obtain rfl := Option.some.inj eight
  exact ⟨rfl, ends, fit, made⟩

end Slicing

end PixelApplet
