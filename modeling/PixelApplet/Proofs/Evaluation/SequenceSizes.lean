import PixelApplet.Proofs.Library.Sequences

/-!
# The sizes of sequences

Concatenation and repetition look at the size of what they are to make before they make it.  So what
an operator makes of operands within the limit is within the limit, and where it would not be the
operator is refused and leaves everything as it was.  There are two ways past the limit: a filled
format has the size of its pieces, and a list that is extended in place grows by what is added.
-/

namespace PixelApplet

/-- The bytes of a text, or the elements of a list or tuple; what is no sequence has size zero. -/
def Value.sequenceSize (h : Heap) : Value → Nat
  | str text => text.utf8ByteSize
  | list ref => (h.list ref).items.size
  | tuple items => items.length
  | _ => 0

/-- The size of what an operator makes. -/
def Made.sequenceSize (h : Heap) : Made → Nat
  | value v => v.sequenceSize h
  | list items => items.length

namespace Value

/-- Whatever an operator makes, it is no sequence beyond the limit. -/
def Outcome.Fits (h : Heap) (outcome : Outcome Made) : Prop :=
  ∀ made, outcome = .ok made → made.sequenceSize h ≤ longestSequence

namespace Outcome

variable {h : Heap} {fault : OperatorFault} {made : Made}

theorem fits_error : Fits h (.error fault) := nofun

theorem fits_ok (size : made.sequenceSize h ≤ longestSequence) : Fits h (.ok made) := by
  rintro _ ⟨⟩
  exact size

theorem fits_bind {α : Type} {outcome : Outcome α} {next : α → Outcome Made}
    (fits : ∀ value, outcome = .ok value → Fits h (next value)) : Fits h (outcome >>= next) := by
  cases outcome with
  | error fault => exact fits_error
  | ok value => exact fits value rfl

end Outcome

open Outcome

variable {h : Heap} {left right : Value}

/-! ## Numbers and truth values -/

theorem exact_fits (result : Option Int64) : Fits h (exact result) := by
  cases result with
  | none => exact fits_error
  | some i => exact fits_ok (Nat.zero_le _)

theorem arithmetic_fits (op : BinaryOp) (onInts : Int64 → Int64 → Option Int64)
    (onFloats : Float → Float → Float) : Fits h (arithmetic op onInts onFloats left right) := by
  unfold arithmetic
  split
  · exact exact_fits _
  · split
    · exact fits_ok (Nat.zero_le _)
    · exact fits_error

theorem floatQuotient_fits (op : BinaryOp) (zero : OperatorFault) (f : Float → Float → Float) :
    Fits h (floatQuotient op zero f left right) := by
  unfold floatQuotient
  split
  · split
    · exact fits_error
    · exact fits_ok (Nat.zero_le _)
  · exact fits_error

theorem ordered_fits (holds : Ordering → Bool) : Fits h (ordered h left right holds) := by
  unfold ordered
  split
  · exact fits_ok (Nat.zero_le _)
  · exact fits_error

/-! ## Concatenation and repetition -/

theorem le_of_checkJoined {a b : Nat} (checked : checkJoined a b = .ok ()) :
    a + b ≤ longestSequence := by
  unfold checkJoined at checked
  split at checked
  · assumption
  · cases checked

theorem le_of_checkRepeated {length times : Nat} {count : Int64}
    (checked : checkRepeated length count = .ok times) : length * times ≤ longestSequence := by
  unfold checkRepeated at checked
  split at checked
  · cases checked
    assumption
  · cases checked

theorem add_fits : Fits h (add h left right) := by
  unfold add
  split
  · refine fits_bind fun _ checked => fits_ok ?_
    rw [Made.sequenceSize, sequenceSize, String.utf8ByteSize_append]
    exact le_of_checkJoined checked
  · refine fits_bind fun _ checked => fits_ok ?_
    rw [Made.sequenceSize, List.length_append, Array.length_toList, Array.length_toList]
    exact le_of_checkJoined checked
  · refine fits_bind fun _ checked => fits_ok ?_
    rw [Made.sequenceSize, sequenceSize, List.length_append]
    exact le_of_checkJoined checked
  · exact arithmetic_fits _ _ _

theorem utf8ByteSize_repeatText (text : String) (times : Nat) :
    (repeatText text times).utf8ByteSize = text.utf8ByteSize * times := by
  induction times with
  | zero => rfl
  | succ times ih => rw [repeatText, String.utf8ByteSize_append, ih, Nat.mul_succ]

theorem repeatedText_fits (text : String) (count : Int64) : Fits h (repeatedText text count) := by
  refine fits_bind fun times checked => fits_ok ?_
  rw [Made.sequenceSize, sequenceSize]
  split
  · exact Nat.zero_le _
  · rw [utf8ByteSize_repeatText]
    exact le_of_checkRepeated checked

theorem length_repeatedItems {items repeated : List Value} {count : Int64}
    (made : repeatedItems items count = .ok repeated) : repeated.length ≤ longestSequence := by
  unfold repeatedItems at made
  cases checked : checkRepeated items.length count with
  | error fault =>
    rw [checked] at made
    cases made
  | ok times =>
    rw [checked] at made
    cases made
    split
    · exact Nat.zero_le _
    · rw [List.length_flatten, List.map_replicate, List.sum_replicate_nat, Nat.mul_comm]
      exact le_of_checkRepeated checked

theorem multiply_fits : Fits h (multiply h left right) := by
  unfold multiply
  split
  · exact repeatedText_fits _ _
  · exact repeatedText_fits _ _
  · exact fits_bind fun items made => fits_ok (length_repeatedItems made)
  · exact fits_bind fun items made => fits_ok (length_repeatedItems made)
  · exact fits_bind fun items made => fits_ok (length_repeatedItems made)
  · exact fits_bind fun items made => fits_ok (length_repeatedItems made)
  · exact arithmetic_fits _ _ _

/-! ## All operators -/

/-- What an operator makes of operands within the limit is within the limit, unless it fills a
format. -/
theorem binary_fits (op : BinaryOp) (noFormat : op = .mod → ∀ format, left ≠ .str format)
    (fitsLeft : left.sequenceSize h ≤ longestSequence)
    (fitsRight : right.sequenceSize h ≤ longestSequence) : Fits h (binary h op left right) := by
  cases op with
  | eq | ne => exact fits_ok (Nat.zero_le _)
  | lt | le | gt | ge => exact ordered_fits _
  | in_ | notIn => exact fits_bind fun _ _ => fits_ok (Nat.zero_le _)
  | and | or =>
    refine fits_ok ?_
    rw [Made.sequenceSize]
    split <;> assumption
  | add => exact add_fits
  | sub => exact arithmetic_fits _ _ _
  | mul => exact multiply_fits
  | div => exact floatQuotient_fits _ _ _
  | floorDiv =>
    show Fits h (floorDivide left right)
    unfold floorDivide
    split
    · split
      · exact fits_error
      · exact exact_fits _
    · exact floatQuotient_fits _ _ _
  | mod =>
    show Fits h (modulo h left right)
    unfold modulo
    split
    · exact absurd rfl (noFormat rfl _)
    · split
      · exact fits_error
      · exact exact_fits _
    · exact floatQuotient_fits _ _ _

/-- A filled format joins its pieces, whatever their size. -/
theorem binary_joins (first second : String) :
    binary h .mod (.str "%s%s") (.tuple [.str first, .str second])
      = .ok (.value (.str (first ++ second))) := by
  have pieces : formatted h "%s%s" (.tuple [.str first, .str second])
      = .ok (String.ofList (first.toList ++ (second.toList ++ []))) := rfl
  show (do return Made.value (.str (← formatted h "%s%s" (.tuple [.str first, .str second])))) = _
  rw [pieces, List.append_nil, ← String.toList_append, String.ofList_toList]
  rfl

end Value

/-! ## Assignments -/

section Machines

variable {m : Machine} {ref : ListRef} {value : Value}

/-- An action either fails and changes nothing, or makes no sequence beyond the limit and changes no
list. -/
def Eval.MakesFitting (act : Eval Value) (m : Machine) : Prop :=
  (∃ abort, act m = .error abort m) ∨
    ∃ made m', act m = .ok made m' ∧ made.sequenceSize m'.heap ≤ longestSequence ∧
      ∀ ref : ListRef, ref.index < m.heap.extent.lists → m'.heap.list ref = m.heap.list ref

/-- What the heap takes up of an operator is as large as what the operator makes. -/
theorem Eval.produce_fits {f : Heap → Value.Outcome Made} (fits : (f m.heap).Fits m.heap) :
    Eval.MakesFitting (Eval.produce f) m := by
  unfold Eval.MakesFitting Eval.produce
  rw [bind_run, operate_run]
  cases made : f m.heap with
  | error fault => exact .inl ⟨_, rfl⟩
  | ok made' =>
    have size := fits made' made
    cases made' with
    | value v => exact .inr ⟨v, m, rfl, size, fun _ _ => rfl⟩
    | list items =>
      refine .inr ⟨_, _, rfl, ?_, fun ref inside => ?_⟩
      · rw [Value.sequenceSize, Heap.list_addList, if_pos rfl, List.size_toArray]
        exact size
      · rw [Heap.list_addList, if_neg]
        rintro rfl
        exact Nat.lt_irrefl _ inside

/-- The value of an augmented assignment of operands within the limit is within the limit, unless it
fills a format or extends a list. -/
theorem augmented_fits (op : BinaryOp) {current : Value}
    (noFormat : op = .mod → ∀ format, current ≠ .str format)
    (noList : op = .add → ∀ ref, current ≠ .list ref)
    (fitsCurrent : current.sequenceSize m.heap ≤ longestSequence)
    (fitsValue : value.sequenceSize m.heap ≤ longestSequence) :
    Eval.MakesFitting (augmented op current value) m := by
  unfold augmented
  split
  · exact absurd rfl (noList rfl _)
  · exact Eval.produce_fits (Value.binary_fits _ noFormat fitsCurrent fitsValue)

/-- A list that is extended by an augmented assignment grows by all that is added, whatever its size
is then; an assignment that fails leaves everything as it was. -/
theorem augmented_extends (inside : ref.index < m.heap.extent.lists)
    (thawed : (m.heap.list ref).frozen = false) :
    (∃ fault, value.iterate m.heap = .error fault ∧
        augmented .add (.list ref) value m = .error (.error (.ofMessage fault.text)) m) ∨
      ∃ more m', value.iterate m.heap = .ok more ∧
        augmented .add (.list ref) value m = .ok (.list ref) m' ∧
        (Value.list ref).sequenceSize m'.heap
          = (Value.list ref).sequenceSize m.heap + more.length := by
  have steps : augmented .add (.list ref) value m = _ := Eval.bind_run _ _ m
  rw [Eval.iterate_run] at steps
  cases iterated : value.iterate m.heap with
  | error fault =>
    rw [iterated] at steps
    exact .inl ⟨fault, rfl, steps⟩
  | ok more =>
    rw [iterated] at steps
    refine .inr ⟨more, _, rfl, steps.trans (Eval.bind_ok (Eval.changeList_run thawed _)), ?_⟩
    rw [Value.sequenceSize, Value.sequenceSize, Machine.list_withItems inside, List.size_toArray,
      Array.toList_append, List.length_append, Array.length_toList]

/-- A list of the greatest length an operator makes, extended by an element. -/
theorem augmented_beyond_limit : ∃ (m m' : Machine) (ref : ListRef),
    (Value.list ref).sequenceSize m.heap = longestSequence ∧
      augmented .add (.list ref) (.tuple [.none]) m = .ok (.list ref) m' ∧
      (Value.list ref).sequenceSize m'.heap = longestSequence + 1 := by
  let start := Machine.initial (.under [])
  let cell : ListCell := ⟨(List.replicate longestSequence .none).toArray, false⟩
  let m : Machine := { start with heap := start.heap.addList cell }
  have there : m.heap.list start.heap.nextList = cell := by
    rw [Heap.list_addList, if_pos rfl]
  have size : (Value.list start.heap.nextList).sequenceSize m.heap = longestSequence := by
    rw [Value.sequenceSize, there, List.size_toArray, List.length_replicate]
  have inside : start.heap.nextList.index < m.heap.extent.lists := Nat.lt_succ_self _
  obtain ⟨_, refused, _⟩ | ⟨more, m', iterated, ran, grown⟩ :=
    @augmented_extends m _ (.tuple [.none]) inside (by rw [there])
  · cases refused
  · cases iterated
    exact ⟨m, m', _, size, ran, by rw [grown, size]; rfl⟩

end Machines

end PixelApplet
