import PixelApplet.Evaluation.Statement
import PixelApplet.Proofs.Machine.Courses

/-!
# Lists are sequences

The pure model of a list is the sequence of its elements.  What an operation on a list is given, and
what it sees of the rest of the heap, is read first; then the operation on the list is one on the
sequence, which knows nothing of the heap.  An operation that is refused leaves both as they were.
-/

namespace PixelApplet

/-- An operation on a sequence of values: which elements are wanted, and how a message shows what is
missing, is said with it. -/
inductive SequenceOperation where
  | append (item : Value)
  /-- Extending answers nothing as a method, and the list itself as an operator. -/
  | extend (more : List Value) (answer : Value)
  | insert (position : Int) (item : Value)
  /-- Takes an element out, the last one where no position is given. -/
  | pop (position : Option Int)
  | remove (wanted : Value → Bool) (shown : String)
  | find (wanted : Value → Bool) (shown : String)
  | clear
  | assign (position : Int) (item : Value)
  | element (position : Int)

namespace SequenceOperation

/-- The place of a position in a sequence: positions are those from minus the length up to the
length, and count modulo the length. -/
def place? (length : Nat) (position : Int) : Option Nat :=
  if -(length : Int) ≤ position ∧ position < length then some (position % length).toNat else none

/-- The place before which an element is inserted, the nearest one to a position. -/
def nearest (length : Nat) (position : Int) : Nat :=
  if position < 0 then (length + position).toNat else min position.toNat length

/-- What an operation answers, and the sequence after it. -/
def apply : SequenceOperation → List Value → Except String (Value × List Value)
  | append item, items => .ok (.none, items ++ [item])
  | extend more answer, items => .ok (answer, items ++ more)
  | insert position item, items =>
    .ok (.none, items.insertIdx (nearest items.length position) item)
  | pop position, items =>
    let position := position.getD (items.length - 1)
    match place? items.length position with
    | some i => .ok (items.getD i .none, items.eraseIdx i)
    | none => .error s!"pop: index {position} out of range: length {items.length}"
  | remove wanted shown, items =>
    if items.any wanted then .ok (.none, items.eraseP wanted)
    else .error s!"remove: element {shown} not found"
  | find wanted shown, items =>
    if items.any wanted then .ok (.int (Int64.ofNat (items.findIdx wanted)), items)
    else .error s!"index: value {shown} not in list"
  | clear, _ => .ok (.none, [])
  | assign position item, items =>
    match place? items.length position with
    | some i => .ok (.none, items.set i item)
    | none => .error s!"index {position} out of range: length {items.length}"
  | element position, items =>
    match place? items.length position with
    | some i => .ok (items.getD i .none, items)
    | none => .error s!"index {position} out of range: length {items.length}"

end SequenceOperation

/-- The positional arguments of a function that takes no others. -/
def Arguments.expect (arguments : Arguments) (function : String) (low high : Nat) :
    Except String (List Value) :=
  (arguments.positionalBetween low high).mapError (ArgumentFault.text function)

/-- The one argument of a function. -/
def Arguments.expectOne (arguments : Arguments) (function : String) : Except String Value :=
  (arguments.expect function 1 1).map (·.headD .none)

/-- The absence of arguments. -/
def Arguments.expectNone (arguments : Arguments) (function : String) : Except String Unit :=
  (arguments.expect function 0 0).map fun _ => ()

/-- The int that an argument must be. -/
def Value.expectInt (function : String) : Value → Except String Int
  | .int i => .ok i.toInt
  | other => .error s!"{function}: got {other.typeName}, want int"

/-- An operation on a list: a method, an assignment to an element, `+=`, or looking at one. -/
inductive ListOperation where
  | method (m : ListMethod) (arguments : Arguments)
  | assign (index value : Value)
  | extend (value : Value)
  | element (index : Value)

namespace ListOperation

/-- Carries an operation out. -/
def run (ref : ListRef) : ListOperation → Eval Value
  | method m arguments => ListMethods.run m ref arguments
  | assign index value => do
    Eval.assignIndex (.list ref) index value
    return .none
  | extend value => augmented .add (.list ref) value
  | element index => Eval.operate fun h => Value.index h (.list ref) index

/-- The position that an index names. -/
def position : Value → Except String Int
  | .int i => .ok i.toInt
  | other => .error (OperatorFault.indexType "list" other.typeName).text

/-- The operation on sequences that is asked for, as the heap is. -/
def requested (h : Heap) (ref : ListRef) : ListOperation → Except String SequenceOperation
  | method .append arguments => do
    return .append (← arguments.expectOne "append")
  | method .clear arguments => do
    arguments.expectNone "clear"
    return .clear
  | method .extend arguments => do
    let given ← arguments.expectOne "extend"
    return .extend (← (given.iterate h).mapError OperatorFault.text) .none
  | method .index arguments => do
    let wanted ← arguments.expectOne "index"
    return .find (fun v => v.equal h wanted) (wanted.repr h)
  | method .insert arguments => do
    let given ← arguments.expect "insert" 2 2
    return .insert (← (given.headD .none).expectInt "insert") (given.getD 1 .none)
  | method .pop arguments => do
    match ← arguments.expect "pop" 0 1 with
    | [] => return .pop none
    | position :: _ => return .pop (some (← position.expectInt "pop"))
  | method .remove arguments => do
    let wanted ← arguments.expectOne "remove"
    return .remove (fun v => v.equal h wanted) (wanted.repr h)
  | assign index value => do
    return .assign (← position index) value
  | extend value => do
    return .extend (← (value.iterate h).mapError OperatorFault.text) (.list ref)
  | element index => do
    return .element (← position index)

end ListOperation

/-- A machine in which the elements of a list are others. -/
def Machine.withItems (m : Machine) (ref : ListRef) (items : List Value) : Machine :=
  { m with heap := m.heap.modifyList ref fun cell => { cell with items := items.toArray } }

namespace Heap

/-- Changing a list depends on its own cell only. -/
theorem modifyList_congr {h : Heap} {ref : ListRef} {f g : ListCell → ListCell}
    (same : f (h.list ref) = g (h.list ref)) : h.modifyList ref f = h.modifyList ref g := by
  have lists : h.lists.modify ref.index f = h.lists.modify ref.index g := by
    refine Array.ext (by simp) fun i _ inside => ?_
    rw [Array.getElem_modify, Array.getElem_modify]
    split
    · rename_i here
      have there : i < h.lists.size := by simpa using inside
      have cell : h.list ref = h.lists[i] := by
        simp [list, here, there]
      rw [← cell, same]
    · rfl
  rw [modifyList, modifyList, lists]

theorem modifyList_self {h : Heap} {ref : ListRef} {f : ListCell → ListCell}
    (same : f (h.list ref) = h.list ref) : h.modifyList ref f = h := by
  have nothing : h.modifyList ref f = h.modifyList ref id := modifyList_congr same
  have lists : h.lists.modify ref.index id = h.lists :=
    Array.ext (by simp) fun i _ _ => by simp [Array.getElem_modify]
  rw [nothing, modifyList, lists]

end Heap

namespace Machine

variable {m : Machine} {ref : ListRef} {items : List Value}

theorem withItems_self (m : Machine) (ref : ListRef) :
    m.withItems ref (m.heap.list ref).items.toList = m := by
  unfold withItems
  rw [Heap.modifyList_self rfl]

theorem list_withItems (inside : ref.index < m.heap.extent.lists) :
    (m.withItems ref items).heap.list ref = ⟨items.toArray, (m.heap.list ref).frozen⟩ := by
  unfold withItems
  rw [Heap.list_modifyList, if_pos ⟨rfl, inside⟩]

end Machine

namespace Eval

variable {m : Machine} {function : String}

theorem receiveBetween_run (low high : Nat) (arguments : Arguments) :
    receiveBetween function low high arguments m
      = answering (arguments.expect function low high) m :=
  accept_run _ _ _

theorem receiveOne_run (arguments : Arguments) :
    receiveOne function arguments m = answering (arguments.expectOne function) m := by
  unfold receiveOne Arguments.expectOne
  rw [bind_run, receiveBetween_run]
  cases arguments.expect function 1 1 <;> rfl

theorem receiveNothing_run (arguments : Arguments) :
    receiveNothing function arguments m = answering (arguments.expectNone function) m := by
  unfold receiveNothing Arguments.expectNone
  rw [bind_run, receiveBetween_run]
  cases arguments.expect function 0 0 <;> rfl

theorem intArgument_run (value : Value) :
    ListMethods.intArgument function value m = answering (value.expectInt function) m := by
  cases value <;> rfl

theorem iterate_run (value : Value) :
    Eval.iterate value m = answering ((value.iterate m.heap).mapError OperatorFault.text) m :=
  operate_run _ _

theorem changeList_run {ref : ListRef} (thawed : (m.heap.list ref).frozen = false)
    (f : Array Value → Array Value) :
    Eval.changeList ref f m
      = .ok () (m.withItems ref (f (m.heap.list ref).items).toList) := by
  rw [changeList_of_thawed thawed, Machine.withItems, Heap.modifyList_congr]
  rfl

end Eval

/-- An accepted number of arguments is one that was asked for. -/
theorem Arguments.length_of_expect {arguments : Arguments} {function : String} {low high : Nat}
    {given : List Value} (accepted : arguments.expect function low high = .ok given) :
    low ≤ given.length ∧ given.length ≤ high := by
  unfold expect positionalBetween at accepted
  split at accepted
  · cases accepted
  · dsimp only at accepted
    split at accepted
    · cases accepted
    · rename_i counted
      cases accepted
      omega

/-! ## Positions -/

namespace SequenceOperation

/-- The place of a position is found by counting negative positions from the end. -/
theorem place?_eq (length : Nat) (position : Int) :
    place? length position =
      let at_ := if position < 0 then position + length else position
      if at_ < 0 ∨ at_ ≥ length then none else some at_.toNat := by
  unfold place?
  dsimp only
  by_cases inside : -(length : Int) ≤ position ∧ position < length
  · have counted : (if position < 0 then position + length else position) = position % length := by
      split
      · rw [← Int.add_emod_right, Int.emod_eq_of_lt (by omega) (by omega)]
      · rw [Int.emod_eq_of_lt (by omega) (by omega)]
    have low := Int.emod_nonneg position (b := length) (by omega)
    have high := Int.emod_lt_of_pos position (b := length) (by omega)
    rw [counted, if_pos inside, if_neg (by omega)]
  · rw [if_neg inside, if_pos]
    split <;> omega

theorem nearest_eq (length : Nat) (position : Int) :
    nearest length position = ListMethods.insertionPlace length position := by
  unfold nearest ListMethods.insertionPlace
  split <;> omega

theorem insertIdx_eq (items : List Value) {place : Nat} (inside : place ≤ items.length)
    (item : Value) : items.insertIdx place item = items.take place ++ item :: items.drop place := by
  induction items generalizing place with
  | nil =>
    cases Nat.le_zero.mp inside
    rfl
  | cons first rest ih =>
    cases place with
    | zero => rfl
    | succ place =>
      rw [List.insertIdx_succ_cons, ih (Nat.le_of_succ_le_succ inside)]
      rfl

theorem nearest_le (length : Nat) (position : Int) : nearest length position ≤ length := by
  unfold nearest
  split <;> omega

end SequenceOperation

/-! ## Searching -/

section Searching

theorem getD_toList (items : Array Value) (i : Nat) (default : Value) :
    items.toList.getD i default = items.getD i default := by
  rw [List.getD_eq_getElem?_getD, Array.getD_eq_getD_getElem?, Array.getElem?_toList]

variable {items : Array Value} {wanted : Value → Bool}

theorem any_of_findIdx? {i : Nat} (found : items.findIdx? wanted = some i) :
    items.toList.any wanted = true ∧ items.toList.findIdx wanted = i
      ∧ items.toList.eraseP wanted = items.toList.eraseIdx i := by
  rw [← items.toArray_toList, List.findIdx?_toArray] at found
  obtain ⟨inside, first⟩ := List.findIdx?_eq_some_iff_findIdx_eq.mp found
  refine ⟨List.any_eq_true.mpr (List.findIdx_lt_length.mp (first ▸ inside)), first, ?_⟩
  rw [List.eraseP_eq_eraseIdx, found]

theorem any_of_findIdx?_none (missing : items.findIdx? wanted = none) :
    items.toList.any wanted = false := by
  rw [← items.toArray_toList, List.findIdx?_toArray] at missing
  exact List.any_eq_false.mpr fun item member =>
    Bool.eq_false_iff.mp (List.findIdx?_eq_none_iff.mp missing item member)

end Searching

/-! ## Operations -/

namespace ListOperation

open Eval

/-- What is done to a list is what is asked for on the sequence of its elements, if anything is. -/
def Follows (m : Machine) (ref : ListRef) (act : Eval Value)
    (asked : Except String SequenceOperation) : Prop :=
  act m = match asked.bind (·.apply (m.heap.list ref).items.toList) with
    | .ok (answer, items) => .ok answer (m.withItems ref items)
    | .error message => answering (.error message) m

namespace Follows

variable {α : Type} {m : Machine} {ref : ListRef} {asked : SequenceOperation}

/-- What is refused beforehand is refused on both sides. -/
theorem bind {act : Eval α} {outcome : Except String α} {next : α → Eval Value}
    {ask : α → Except String SequenceOperation} (ran : act m = answering outcome m)
    (follows : ∀ value, outcome = .ok value → Follows m ref (next value) (ask value)) :
    Follows m ref (act >>= next) (outcome >>= ask) := by
  unfold Follows
  rw [bind_run, ran]
  cases accepted : outcome with
  | error message => rfl
  | ok value => exact follows value accepted

/-- What is seen of the heap is seen by both sides. -/
theorem see {f : Heap → α} {next : α → Eval Value} {ask : Except String SequenceOperation}
    (follows : Follows m ref (next (f m.heap)) ask) :
    Follows m ref (Eval.readHeap f >>= next) ask :=
  follows

/-- A list that is not frozen is changed. -/
theorem change (thawed : (m.heap.list ref).frozen = false) {f : Array Value → Array Value}
    {answer : Value} (applies : asked.apply (m.heap.list ref).items.toList
      = .ok (answer, (f (m.heap.list ref).items).toList)) :
    Follows m ref (Eval.changeList ref f >>= fun _ => Pure.pure answer) (.ok asked) := by
  unfold Follows
  dsimp only [Except.bind]
  rw [applies, bind_run, changeList_run thawed]
  rfl

/-- A list is looked at. -/
theorem look {answer : Value} (applies : asked.apply (m.heap.list ref).items.toList
    = .ok (answer, (m.heap.list ref).items.toList)) :
    Follows m ref (Pure.pure answer) (.ok asked) := by
  unfold Follows
  dsimp only [Except.bind]
  rw [applies]
  exact congrArg (EStateM.Result.ok answer) (m.withItems_self ref).symm

/-- What is asked for is impossible. -/
theorem refuse {message : String}
    (applies : asked.apply (m.heap.list ref).items.toList = .error message) :
    Follows m ref (Eval.fail message) (.ok asked) := by
  unfold Follows
  dsimp only [Except.bind]
  rw [applies]
  rfl

/-- What is asked for turns out to be impossible or not. -/
theorem check {act : Eval α} {outcome : Except String α} {next : α → Eval Value}
    (ran : act m = answering outcome m)
    (impossible : ∀ message, outcome = .error message →
      asked.apply (m.heap.list ref).items.toList = .error message)
    (follows : ∀ value, outcome = .ok value → Follows m ref (next value) (.ok asked)) :
    Follows m ref (act >>= next) (.ok asked) := by
  cases checked : outcome with
  | error message =>
    have refused : Follows m ref (Eval.fail message) (.ok asked) :=
      refuse (impossible message checked)
    unfold Follows at *
    rw [← refused, bind_of_error ran checked]
    rfl
  | ok value =>
    have followed := follows value checked
    unfold Follows at *
    rw [← followed, bind_of_ok ran checked]

/-- What is asked for is impossible in one case only. -/
theorem guarded {c : Prop} [Decidable c] {message : String} {next : Eval Value}
    (impossible : c → asked.apply (m.heap.list ref).items.toList = .error message)
    (follows : ¬c → Follows m ref next (.ok asked)) :
    Follows m ref (if c then (Eval.fail message : Eval PUnit) >>= fun _ => next else next)
      (.ok asked) := by
  split
  · rename_i holds
    have refused : (Eval.fail message : Eval PUnit) m = answering (.error message) m := rfl
    refine check refused ?_ nofun
    rintro _ ⟨⟩
    exact impossible holds
  · rename_i fails
    exact follows fails

end Follows

variable {m : Machine} {ref : ListRef} (thawed : (m.heap.list ref).frozen = false)
  (arguments : Arguments)

include thawed

theorem append_follows : Follows m ref (run ref (method .append arguments))
    (requested m.heap ref (method .append arguments)) := by
  refine .bind (receiveOne_run arguments) fun item _ => .change thawed ?_
  rw [Array.toList_push]
  rfl

theorem clear_follows : Follows m ref (run ref (method .clear arguments))
    (requested m.heap ref (method .clear arguments)) := by
  refine .bind (receiveNothing_run arguments) fun item _ => .change thawed ?_
  rfl

theorem extend_follows : Follows m ref (run ref (method .extend arguments))
    (requested m.heap ref (method .extend arguments)) := by
  refine .bind (receiveOne_run arguments) fun given _ => ?_
  refine .bind (iterate_run given) fun more _ => .change thawed ?_
  rw [Array.toList_append]
  rfl

omit thawed in
theorem index_follows : Follows m ref (run ref (method .index arguments))
    (requested m.heap ref (method .index arguments)) := by
  refine .bind (receiveOne_run arguments) fun wanted _ => .see ?_
  cases found : (m.heap.list ref).items.findIdx? fun v => v.equal m.heap wanted with
  | some i =>
    obtain ⟨present, first, _⟩ := any_of_findIdx? found
    refine .look ?_
    rw [SequenceOperation.apply, if_pos present, first]
  | none =>
    refine .see (.refuse ?_)
    rw [SequenceOperation.apply, any_of_findIdx?_none found]
    rfl

theorem insert_follows : Follows m ref (run ref (method .insert arguments))
    (requested m.heap ref (method .insert arguments)) := by
  refine .bind (receiveBetween_run 2 2 arguments) fun given accepted => ?_
  obtain ⟨low, high⟩ := Arguments.length_of_expect accepted
  match given, low, high with
  | [position, item], _, _ =>
    refine .bind (intArgument_run position) fun position _ => .change thawed ?_
    have inside := SequenceOperation.nearest_le (m.heap.list ref).items.toList.length position
    rw [SequenceOperation.apply, SequenceOperation.insertIdx_eq _ inside,
      SequenceOperation.nearest_eq]
    rfl

theorem remove_follows : Follows m ref (run ref (method .remove arguments))
    (requested m.heap ref (method .remove arguments)) := by
  refine .bind (receiveOne_run arguments) fun wanted _ => .see ?_
  cases found : (m.heap.list ref).items.findIdx? fun v => v.equal m.heap wanted with
  | some i =>
    obtain ⟨present, _, erased⟩ := any_of_findIdx? found
    refine .change thawed ?_
    rw [SequenceOperation.apply, if_pos present, erased, Array.toList_eraseIdxIfInBounds]
  | none =>
    refine .see (.refuse ?_)
    rw [SequenceOperation.apply, any_of_findIdx?_none found]
    rfl

/-- Taking the element at a position out. -/
theorem popAt_follows (position : Option Int) :
    Follows m ref (do
      let items := (m.heap.list ref).items
      let length : Int := items.size
      let position := position.getD (length - 1)
      let place := if position < 0 then position + length else position
      if place < 0 ∨ place ≥ length then
        Eval.fail s!"pop: index {position} out of range: length {length}"
      Eval.changeList ref fun items => items.eraseIdxIfInBounds place.toNat
      return items.getD place.toNat .none) (.ok (.pop position)) := by
  dsimp only
  generalize wanted : position.getD ((m.heap.list ref).items.size - 1) = at_
  have placed := SequenceOperation.place?_eq (m.heap.list ref).items.size at_
  dsimp only at placed
  generalize (if at_ < 0 then at_ + ((m.heap.list ref).items.size : Int) else at_) = place
    at placed ⊢
  refine .guarded (fun outside => ?_) fun inside => .change thawed ?_
  · rw [if_pos outside] at placed
    rw [SequenceOperation.apply]
    simp only [Array.length_toList, wanted, placed]
    rfl
  · rw [if_neg inside] at placed
    rw [SequenceOperation.apply]
    simp only [Array.length_toList, wanted, placed, Array.toList_eraseIdxIfInBounds,
      getD_toList]

theorem pop_follows : Follows m ref (run ref (method .pop arguments))
    (requested m.heap ref (method .pop arguments)) := by
  refine .bind (receiveBetween_run 0 1 arguments) fun given accepted => .see ?_
  cases given with
  | nil => exact popAt_follows thawed none
  | cons value rest =>
    refine .bind (intArgument_run value) fun position _ => ?_
    exact popAt_follows thawed (some position)

omit thawed in
/-- The place of an element, or the refusal of its index. -/
theorem place_run (i : Int64) (length : Nat) :
    (Value.place "list" length (.int i)).mapError OperatorFault.text
      = match SequenceOperation.place? length i.toInt with
        | some place => .ok place
        | none => .error s!"index {i.toInt} out of range: length {length}" := by
  rw [SequenceOperation.place?_eq]
  unfold Value.place
  dsimp only
  generalize (if i.toInt < 0 then i.toInt + (length : Int) else i.toInt) = place
  split <;> rfl

theorem assign_follows (index value : Value) : Follows m ref (run ref (assign index value))
    (requested m.heap ref (assign index value)) := by
  cases index with
  | int i =>
    have placed := place_run i (m.heap.list ref).items.size
    have steps : Follows m ref
        ((Eval.accept OperatorFault.text
            (Value.place "list" (m.heap.list ref).items.size (.int i)) >>= fun place =>
          Eval.changeList ref fun items => items.setIfInBounds place value) >>= fun _ =>
            Pure.pure .none)
        (.ok (.assign i.toInt value)) := by
      rw [bind_assoc]
      refine .check (accept_run _ _ _) (fun message refused => ?_) fun place found =>
        .change thawed ?_
      · rw [placed] at refused
        rw [SequenceOperation.apply, Array.length_toList]
        split at refused <;> simp_all
      · rw [placed] at found
        rw [SequenceOperation.apply, Array.length_toList, Array.toList_setIfInBounds]
        split at found <;> simp_all
    exact steps
  | _ => rfl

omit thawed in
theorem element_follows (index : Value) : Follows m ref (run ref (element index))
    (requested m.heap ref (element index)) := by
  cases index with
  | int i =>
    have looks : run ref (element (.int i)) m
        = answering (((Value.place "list" (m.heap.list ref).items.size (.int i)).mapError
            OperatorFault.text).map fun place => (m.heap.list ref).items.getD place .none) m := by
      refine (operate_run _ m).trans ?_
      dsimp only [Value.index]
      cases Value.place "list" (m.heap.list ref).items.size (.int i) <;> rfl
    have steps : Follows m ref (run ref (element (.int i))) (.ok (.element i.toInt)) := by
      unfold Follows
      rw [looks, place_run]
      dsimp only [Except.bind]
      rw [SequenceOperation.apply, Array.length_toList]
      split
      · rw [getD_toList]
        exact congrArg (EStateM.Result.ok _) (m.withItems_self ref).symm
      · rfl
    exact steps
  | _ => rfl

theorem extended_follows (value : Value) : Follows m ref (run ref (extend value))
    (requested m.heap ref (extend value)) := by
  refine .bind (iterate_run value) fun more _ => .change thawed ?_
  rw [Array.toList_append]
  rfl

/-- Every operation on a list that is not frozen does to the sequence of the elements what is asked
for. -/
theorem follows (operation : ListOperation) :
    Follows m ref (operation.run ref) (operation.requested m.heap ref) := by
  cases operation with
  | method method arguments =>
    cases method with
    | append => exact append_follows thawed arguments
    | clear => exact clear_follows thawed arguments
    | extend => exact extend_follows thawed arguments
    | index => exact index_follows arguments
    | insert => exact insert_follows thawed arguments
    | pop => exact pop_follows thawed arguments
    | remove => exact remove_follows thawed arguments
  | assign index value => exact assign_follows thawed index value
  | extend value => exact extended_follows thawed value
  | element index => exact element_follows index

omit thawed in
/-- What the model answers to an operation on a machine, and the sequence after it. -/
def model (ref : ListRef) (m : Machine) (operation : ListOperation) (items : List Value) :
    Except String Value × List Value :=
  match (operation.requested m.heap ref).bind (·.apply items) with
  | .ok (answer, items) => (.ok answer, items)
  | .error message => (.error message, items)

/-- An operation answers as the model does, and changes nothing but the elements of its list. -/
theorem run_eq (operation : ListOperation) :
    let outcome := operation.model ref m (m.heap.list ref).items.toList
    operation.run ref m = answering outcome.1 (m.withItems ref outcome.2) := by
  have followed := follows thawed operation
  unfold Follows at followed
  dsimp only [model]
  rw [followed]
  cases (operation.requested m.heap ref).bind (·.apply (m.heap.list ref).items.toList) with
  | ok outcome => rfl
  | error message => exact congrArg (EStateM.Result.error _) (m.withItems_self ref).symm

end ListOperation

/-- A list that can be changed has a sequence of elements. -/
structure Machine.HasItems (ref : ListRef) (m : Machine) (items : List Value) : Prop where
  inside : ref.index < m.heap.extent.lists
  thawed : (m.heap.list ref).frozen = false
  elements : (m.heap.list ref).items.toList = items

/-- From one machine to another, a list was left alone. -/
structure Machine.SparesList (ref : ListRef) (m m' : Machine) : Prop where
  extent : m.heap.extent ≤ m'.heap.extent
  cell : m'.heap.list ref = m.heap.list ref

/-- An operation leaves a list that can be changed with the sequence of the model. -/
theorem ListOperation.attempt_has {ref : ListRef} {m : Machine} {items : List Value}
    (has : m.HasItems ref items) (operation : ListOperation) :
    ∃ m', Eval.attempt (operation.run ref) m
        = .ok ((operation.model ref m items).1.mapError EvalError.ofMessage) m'
      ∧ m'.HasItems ref (operation.model ref m items).2 := by
  have carried := run_eq has.thawed operation
  rw [has.elements] at carried
  refine ⟨_, Eval.attempt_of_answering _ carried, ?_, ?_, ?_⟩
  · rw [Machine.withItems, Heap.extent_modifyList]
    exact has.inside
  · rw [Machine.list_withItems has.inside]
    exact has.thawed
  · rw [Machine.list_withItems has.inside]

theorem Machine.HasItems.spared {ref : ListRef} {m m' : Machine} {items : List Value}
    (has : m.HasItems ref items) (spares : m.SparesList ref m') : m'.HasItems ref items :=
  ⟨Nat.lt_of_lt_of_le has.inside spares.extent.lists, spares.cell ▸ has.thawed,
    spares.cell ▸ has.elements⟩

/-- Operations on a list that is not frozen answer as the pure model does, and leave the elements as
it says. -/
theorem ListOperation.refines (ref : ListRef) :
    Course.Refines (run ref) (Machine.SparesList ref) (Machine.HasItems ref) (model ref)
      fun moment answer => moment.answer = answer.mapError EvalError.ofMessage := by
  refine Course.refines (fun {m items} operation has => ?_) fun has spares => has.spared spares
  obtain ⟨m', ran, has'⟩ := attempt_has has operation
  exact ⟨_, m', ran, has', rfl⟩

end PixelApplet
