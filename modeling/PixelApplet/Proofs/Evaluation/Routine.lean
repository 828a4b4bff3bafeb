import PixelApplet.Evaluation.Call
import PixelApplet.Proofs.Evaluation.Conduct
import PixelApplet.Proofs.Evaluation.FailureLogs
import PixelApplet.Proofs.Value.Changes
import PixelApplet.Proofs.Value.Freezing

/-!
# Routine actions

Nearly all that scripts are made of is put together from few steps: the machine is looked at, the
heap is changed where it is not frozen, something is attached to the running thread, a failed
assertion is reported, a line is printed, a text is recalled from the cache.  Actions put together
from these steps are routine.

What holds of each step, and of actions one after the other, holds of all routine actions.  So what
the library does is gone through once, and every property of this kind is then proved by looking at
the steps.
-/

namespace PixelApplet

/-- Lists and dicts that are frozen in one heap are the same in another. -/
structure Heap.KeepsFrozen (h h' : Heap) : Prop where
  lists : ∀ ref, (h.list ref).frozen = true → h'.list ref = h.list ref
  dicts : ∀ ref, (h.dict ref).frozen = true → h'.dict ref = h.dict ref

namespace Heap

theorem KeepsFrozen.refl (h : Heap) : h.KeepsFrozen h :=
  ⟨fun _ _ => rfl, fun _ _ => rfl⟩

theorem KeepsFrozen.trans {a b c : Heap} (first : a.KeepsFrozen b) (second : b.KeepsFrozen c) :
    a.KeepsFrozen c where
  lists ref frozen := by
    have same := first.lists ref frozen
    rw [second.lists ref (by rw [same]; exact frozen), same]
  dicts ref frozen := by
    have same := first.dicts ref frozen
    rw [second.dicts ref (by rw [same]; exact frozen), same]

theorem Keeps.frozen {h h' : Heap} (keeps : h.Keeps h') : h.KeepsFrozen h' :=
  ⟨keeps.lists, keeps.dicts⟩

theorem keepsFrozen_modifyModule (h : Heap) (ref : ModuleRef) (f : ModuleCell → ModuleCell) :
    h.KeepsFrozen (h.modifyModule ref f) :=
  ⟨fun _ _ => rfl, fun _ _ => rfl⟩

theorem keepsFrozen_freezeModule (h : Heap) (ref : ModuleRef) :
    h.KeepsFrozen (h.freezeModule ref) := by
  unfold freezeModule
  split
  · exact .refl h
  · exact (keepsFrozen_modifyModule h ref _).trans (marks_freezeAll _ _).keeps.frozen

end Heap

namespace Eval

/-- An action is put together from steps that look at the machine, change what is not frozen, attach
something to the thread, report a failed assertion or recall a text from the cache. -/
inductive Routine : {α : Type} → Eval α → Prop where
  | pure {α : Type} (value : α) : Routine (Pure.pure value : Eval α)
  | bind {α β : Type} {act : Eval α} {next : α → Eval β} (first : Routine act)
    (rest : ∀ value, Routine (next value)) : Routine (act >>= next)
  | fail {α : Type} (message : String) : Routine (Eval.fail message : Eval α)
  /-- What is looked at is neither the cache, nor the places of open calls, nor the log of failed
  assertions. -/
  | look {α : Type} (f : Machine → α) (blind : ∀ m cache, f { m with cache := cache } = f m)
    (placeless : ∀ m : Machine, f m.unplaced = f m) (deaf : ∀ m : Machine, f m.unlogged = f m) :
    Routine (Eval.read f)
  | remember (key : String) : Routine (Eval.read fun m => m.cache.get? m.thread.name key m.clock)
  | forget (key : String) : Routine (MonadState.modifyGet fun m =>
      ((), { m with cache := m.cache.erase m.thread.name key }) : Eval Unit)
  | edit {α : Type} (f : Heap → α × Heap) (keeps : ∀ h : Heap, h.KeepsFrozen (f h).2) :
    Routine fun m => .ok (f m.heap).1 { m with heap := (f m.heap).2 }
  | changeList (ref : ListRef) (f : Array Value → Array Value) : Routine (Eval.changeList ref f)
  | changeDict (ref : DictRef) (f : DictCell → DictCell) : Routine (Eval.changeDict ref f)
  | attach (key : String) (attachment : Attachment) (other : key ≠ Assertions.key) :
    Routine (Eval.changeThread fun thread => thread.attach key attachment)
  | report (message : String) : Routine (Assertions.report message)
  | record (event : Event) : Routine (Eval.record event)
  | register (registry : Descriptor.Registry) :
    Routine (MonadState.modifyGet fun m => ((), { m with registry := registry }) : Eval Unit)

/-! ## What routine actions leave as it was -/

end Eval

/-- What routine actions leave as it was. -/
structure Machine.Undisturbed (m m' : Machine) : Prop where
  stack : m'.thread.stack = m.thread.stack
  depth : m'.thread.depth = m.thread.depth
  name : m'.thread.name = m.thread.name
  cell : m'.thread.cell = m.thread.cell
  cleanups : m'.thread.cleanups = m.thread.cleanups
  cells : m'.cells = m.cells
  tokens : m'.tokens = m.tokens
  hostToken : m'.hostToken = m.hostToken
  loading : m'.loading = m.loading
  data : m.heap.KeepsFrozen m'.heap

namespace Machine.Undisturbed

theorem refl (m : Machine) : m.Undisturbed m :=
  ⟨rfl, rfl, rfl, rfl, rfl, rfl, rfl, rfl, rfl, .refl _⟩

theorem trans {a b c : Machine} (first : a.Undisturbed b) (second : b.Undisturbed c) :
    a.Undisturbed c where
  stack := second.stack.trans first.stack
  depth := second.depth.trans first.depth
  name := second.name.trans first.name
  cell := second.cell.trans first.cell
  cleanups := second.cleanups.trans first.cleanups
  cells := second.cells.trans first.cells
  tokens := second.tokens.trans first.tokens
  hostToken := second.hostToken.trans first.hostToken
  loading := second.loading.trans first.loading
  data := first.data.trans second.data

theorem edited {m : Machine} {h : Heap} (keeps : m.heap.KeepsFrozen h) :
    m.Undisturbed { m with heap := h } :=
  ⟨rfl, rfl, rfl, rfl, rfl, rfl, rfl, rfl, rfl, keeps⟩

theorem posture {m m' : Machine} (undisturbed : m.Undisturbed m') : m'.posture = m.posture := by
  unfold Machine.posture
  rw [undisturbed.stack, undisturbed.depth]

/-- What cancels no thread tells none. -/
theorem untouched {m m' : Machine} (undisturbed : m.Undisturbed m') : m.Untouched m' where
  posture := undisturbed.posture
  cell := undisturbed.cell
  told told := by
    unfold Machine.Told at *
    rw [undisturbed.cells]
    exact told
  loading := undisturbed.loading

end Machine.Undisturbed

namespace Eval

section Changes

variable {m : Machine}

theorem changeList_of_frozen {ref : ListRef} (frozen : (m.heap.list ref).frozen = true)
    (f : Array Value → Array Value) :
    Eval.changeList ref f m = Eval.fail (OperatorFault.frozen "list").text m := by
  show (if (m.heap.list ref).frozen = true then Eval.fail _ else Eval.changeHeap _) m = _
  rw [if_pos frozen]

theorem changeList_of_thawed {ref : ListRef} (thawed : (m.heap.list ref).frozen = false)
    (f : Array Value → Array Value) :
    Eval.changeList ref f m = .ok () { m with
      heap := m.heap.modifyList ref fun cell => { cell with items := f cell.items } } := by
  show (if (m.heap.list ref).frozen = true then Eval.fail _ else Eval.changeHeap _) m = _
  rw [if_neg (Bool.eq_false_iff.mp thawed)]
  rfl

theorem changeDict_of_frozen {ref : DictRef} (frozen : (m.heap.dict ref).frozen = true)
    (f : DictCell → DictCell) :
    Eval.changeDict ref f m = Eval.fail (OperatorFault.frozen "dict").text m := by
  show (if (m.heap.dict ref).frozen = true then Eval.fail _ else Eval.changeHeap _) m = _
  rw [if_pos frozen]

theorem changeDict_of_thawed {ref : DictRef} (thawed : (m.heap.dict ref).frozen = false)
    (f : DictCell → DictCell) :
    Eval.changeDict ref f m = .ok () { m with heap := m.heap.modifyDict ref f } := by
  show (if (m.heap.dict ref).frozen = true then Eval.fail _ else Eval.changeHeap _) m = _
  rw [if_neg (Bool.eq_false_iff.mp thawed)]
  rfl

end Changes

/-- What a routine action leaves as it was, and that it was not stopped by a load statement or by
the host, if it was stopped. -/
theorem Routine.undisturbed {α : Type} {act : Eval α} (routine : Routine act) (m : Machine) :
    m.Undisturbed (act.after m) ∧ ∀ panics, Mild panics (act.stop? m) := by
  induction routine generalizing m with
  | pure value => exact ⟨.refl m, fun _ => trivial⟩
  | @bind _ _ act next _ _ first rest =>
    have ⟨calm, mild⟩ := first m
    cases ran : act m with
    | ok value m' =>
      rw [after_ok ran] at calm
      have ⟨calm', mild'⟩ := rest value m'
      have goes : (act >>= next) m = next value m' := bind_ok ran
      unfold after stop? at *
      rw [goes]
      exact ⟨calm.trans calm', mild'⟩
    | error abort m' =>
      have stops : (act >>= next) m = .error abort m' := bind_error ran
      rw [after_error ran] at calm
      rw [stop?_error ran] at mild
      rw [after_error stops, stop?_error stops]
      exact ⟨calm, mild⟩
  | fail message => exact ⟨.refl m, fun _ => rfl⟩
  | look f _ _ _ => exact ⟨.refl m, fun _ => trivial⟩
  | remember key => exact ⟨.refl m, fun _ => trivial⟩
  | forget key =>
    exact ⟨⟨rfl, rfl, rfl, rfl, rfl, rfl, rfl, rfl, rfl, .refl _⟩, fun _ => trivial⟩
  | edit f keeps => exact ⟨.edited (keeps _), fun _ => trivial⟩
  | changeList ref f =>
    unfold after stop?
    cases frozen : (m.heap.list ref).frozen with
    | true =>
      rw [changeList_of_frozen frozen]
      exact ⟨.refl m, fun _ => rfl⟩
    | false =>
      rw [changeList_of_thawed frozen]
      exact ⟨.edited (Heap.keeps_modifyList _ frozen).frozen, fun _ => trivial⟩
  | changeDict ref f =>
    unfold after stop?
    cases frozen : (m.heap.dict ref).frozen with
    | true =>
      rw [changeDict_of_frozen frozen]
      exact ⟨.refl m, fun _ => rfl⟩
    | false =>
      rw [changeDict_of_thawed frozen]
      exact ⟨.edited (Heap.keeps_modifyDict _ frozen).frozen, fun _ => trivial⟩
  | attach key attachment _ =>
    exact ⟨⟨rfl, rfl, rfl, rfl, rfl, rfl, rfl, rfl, rfl, .refl _⟩, fun _ => trivial⟩
  | report message =>
    unfold after stop?
    cases logs : m.log? with
    | none =>
      rw [report_of_no_log logs]
      exact ⟨.refl m, fun _ => rfl⟩
    | some messages =>
      rw [report_of_log logs]
      exact ⟨⟨rfl, rfl, rfl, rfl, rfl, rfl, rfl, rfl, rfl, .refl _⟩, fun _ => trivial⟩
  | record event =>
    exact ⟨⟨rfl, rfl, rfl, rfl, rfl, rfl, rfl, rfl, rfl, .refl _⟩, fun _ => trivial⟩
  | register registry =>
    exact ⟨⟨rfl, rfl, rfl, rfl, rfl, rfl, rfl, rfl, rfl, .refl _⟩, fun _ => trivial⟩

/-! ## Routine actions of every program -/

namespace Routine

variable {α β : Type}

/-- Routine actions are modest. -/
@[grind ←]
theorem modest {panics : Prop} {act : Eval α} (routine : Routine act) : Modest panics act := by
  intro m _
  obtain ⟨calm, mild⟩ := routine.undisturbed m
  exact ⟨rfl, calm.untouched, mild panics⟩

/-- Routine actions obey every conduct. -/
theorem concurs {panics : Prop} {C : Conduct panics} {act : Eval α} (routine : Routine act) :
    Concurs C act act :=
  routine.modest.concurs

theorem bindConcurs {panics : Prop} {C : Conduct panics} {act : Eval α} {next next' : α → Eval β}
    (routine : Routine act) (concurs : ∀ value, Concurs C (next value) (next' value)) :
    Concurs C (act >>= next) (act >>= next') :=
  routine.concurs.bind concurs

attribute [grind ←] Routine.pure Routine.bind Routine.fail Routine.changeList Routine.changeDict
  Routine.report Routine.record

@[grind ←]
theorem require (message : String) (result : Option α) :
    Routine (Eval.require message result) := by
  cases result with
  | none => exact fail message
  | some value => exact pure value

@[grind ←]
theorem accept {ε : Type} (wording : ε → String) (result : Except ε α) :
    Routine (Eval.accept wording result) := by
  cases result with
  | error e => exact fail (wording e)
  | ok value => exact pure value

@[grind ←]
theorem readHeap (f : Heap → α) : Routine (Eval.readHeap f) :=
  look _ (fun _ _ => rfl) (fun _ => rfl) fun _ => rfl

/-- A change of the heap that keeps what is frozen. -/
theorem changeHeap {f : Heap → Heap} (keeps : ∀ h : Heap, h.KeepsFrozen (f h)) :
    Routine (Eval.changeHeap f) :=
  edit (fun h => ((), f h)) keeps

theorem changeModule (ref : ModuleRef) (f : ModuleCell → ModuleCell) :
    Routine (Eval.changeHeap fun h => h.modifyModule ref f) :=
  changeHeap fun h => h.keepsFrozen_modifyModule ref f

@[grind ←]
theorem freezeModule (ref : ModuleRef) : Routine (Eval.changeHeap (Heap.freezeModule ref)) :=
  changeHeap fun h => h.keepsFrozen_freezeModule ref

@[grind ←]
theorem newIdentity : Routine Eval.newIdentity :=
  edit (fun h => (Identity.fresh h.nextIdentity, { h with nextIdentity := h.nextIdentity + 1 }))
    fun _ => ⟨fun _ _ => rfl, fun _ _ => rfl⟩

@[grind ←]
theorem newList (items : List Value) : Routine (Eval.newList items) :=
  edit (fun h => (Value.list h.nextList, h.addList ⟨items.toArray, false⟩))
    fun h => (h.keeps_addList _).frozen

@[grind ←]
theorem newDict (cell : DictCell) : Routine (Eval.newDict cell) :=
  edit (fun h => (Value.dict h.nextDict, h.addDict cell)) fun h => (h.keeps_addDict _).frozen

@[grind ←]
theorem newModule (cell : ModuleCell) : Routine (Eval.newModule cell) :=
  edit (fun h => (h.nextModule, h.addModule cell)) fun h => (h.keeps_addModule _).frozen

@[grind ←]
theorem checkCancelled : Routine Eval.checkCancelled := by
  refine bind (look _ (fun _ _ => rfl) (fun _ => rfl) fun _ => rfl) fun told => ?_
  grind

/-- What looks at the thread, but neither at its open calls nor at its log. -/
theorem lookAtThread {next : Thread → Eval α}
    (alike : ∀ thread : Thread, next { thread with stack := thread.stack.unplaced } = next thread)
    (deaf : ∀ thread : Thread, next thread.unlogged = next thread)
    (rest : ∀ thread, Routine (next thread)) : Routine (Eval.read Machine.thread >>= next) := by
  have same : Eval.read Machine.thread >>= next
      = Eval.read (fun m => m.unplaced.unlogged.thread) >>= next := by
    rw [read_thread_unplaced alike]
    exact funext fun m => (congrFun (deaf m.unplaced.thread) m).symm
  rw [same]
  refine bind (look _ (fun _ _ => rfl) (fun m => ?_) fun m => ?_) rest
  · rw [Machine.unplaced_unplaced]
  · show m.unplaced.unlogged.unlogged.thread = _
    rw [Machine.unlogged_unlogged]

/-- What is attached to the thread may be looked at, except the log. -/
theorem lookAttached {key : String} (other : key ≠ Assertions.key) :
    Routine (Eval.read fun m => m.thread.attached? key) :=
  look _ (fun _ _ => rfl) (fun _ => rfl) fun m => m.thread.attached?_unlogged other

@[grind ←]
theorem print (message : String) : Routine (Eval.print message) := by
  refine lookAtThread (fun _ => rfl) (fun _ => rfl) fun thread => ?_
  grind

/-- A refusal in one case only. -/
theorem guarded {c : Prop} [Decidable c] {message : String} {next : Eval α}
    (routine : Routine next) :
    Routine (if c then (Eval.fail message : Eval PUnit) >>= fun _ => next else next) := by
  split
  · exact bind (fail message) fun _ => routine
  · exact routine

@[grind ←]
theorem mapM {item : Type} {step : item → Eval α} {items : List item}
    (routine : ∀ i, Routine (step i)) : Routine (items.mapM step) := by
  induction items with
  | nil =>
    rw [List.mapM_nil]
    exact pure []
  | cons i items ih =>
    rw [List.mapM_cons]
    exact (routine i).bind fun value => ih.bind fun values => pure _

end Routine

/-!
## Actions that are woven alike

Evaluation leaves some actions open: how values are called, how modules are found, what the host
does.  Two actions are woven alike if they are put together in the same way from the same routine
actions, and from open ones that are related.  Expressions go one level deeper, and an assertion may
take the message of an error as a result; nothing else happens in between.
-/

/-- Runs an action and gives the message of its error as a result. -/
def attemptMessage {α : Type} (act : Eval α) : Eval (Except String α) := do
  return (← Eval.attempt act).mapError EvalError.message

/-- A relation between actions with results of the same type. -/
abbrev Relation :=
  (α : Type) → Eval α → Eval α → Prop

/-- Two actions are put together in the same way, from the same routine actions and from actions
that are related. -/
inductive Woven (related : Relation) : {α : Type} → Eval α → Eval α → Prop where
  | of_related {α : Type} {act other : Eval α} (same : related α act other) :
    Woven related act other
  | of_routine {α : Type} {act : Eval α} (routine : Routine act) : Woven related act act
  | bind {α β : Type} {act other : Eval α} {next next' : α → Eval β}
    (first : Woven related act other) (rest : ∀ value, Woven related (next value) (next' value)) :
    Woven related (act >>= next) (other >>= next')
  | attempt {α : Type} {act other : Eval α} (within : Woven related act other) :
    Woven related (Eval.attemptMessage act) (Eval.attemptMessage other)
  | nested {α : Type} {act other : Eval α} (within : Woven related act other) :
    Woven related (Eval.nested act) (Eval.nested other)

variable {related : Relation} {α β : Type}

theorem Routine.woven {act : Eval α} (routine : Routine act) : Woven related act act :=
  .of_routine routine

theorem Routine.bindWoven {act : Eval α} {next next' : α → Eval β} (routine : Routine act)
    (rest : ∀ value, Woven related (next value) (next' value)) :
    Woven related (act >>= next) (act >>= next') :=
  routine.woven.bind rest

theorem attempt_bind {act : Eval α} {next : Except EvalError α → Eval β}
    (plain : ∀ e : EvalError, next (.error e) = next (.error (.ofMessage e.message))) :
    Eval.attempt act >>= next
      = attemptMessage act >>= fun outcome => next (outcome.mapError EvalError.ofMessage) := by
  unfold attemptMessage
  rw [bind_assoc]
  refine congrArg (Eval.attempt act >>= ·) (funext fun outcome => ?_)
  rw [pure_bind]
  cases outcome with
  | ok value => rfl
  | error e => exact plain e

/-- What follows an action may look at its result, and at the message of its error. -/
theorem Woven.attemptThen {act other : Eval α} {next next' : Except EvalError α → Eval β}
    (within : Woven related act other)
    (plain : ∀ e : EvalError, next (.error e) = next (.error (.ofMessage e.message)))
    (plain' : ∀ e : EvalError, next' (.error e) = next' (.error (.ofMessage e.message)))
    (rest : ∀ outcome, Woven related (next outcome) (next' outcome)) :
    Woven related (Eval.attempt act >>= next) (Eval.attempt other >>= next') := by
  rw [attempt_bind plain, attempt_bind plain']
  exact within.attempt.bind fun outcome => rest _

/-- An action under the mark of the statement at a place: the thread moves there, and an error is
marked with the open calls. -/
def marked (pos : Position) (act : Eval α) : Eval α := do
  moveTo pos
  mapError (do
    checkCancelled
    act) fun m e => e.trace m.thread.stack.trace

/-- What holds between the executions of statements, if what they do is woven alike, and between
blocks. -/
structure Relation.Executes (related executed : Relation) : Prop where
  pure : ∀ {α : Type} (value : α), executed α (Pure.pure value) (Pure.pure value)
  bind : ∀ {α β : Type} {act other : Eval α} {next next' : α → Eval β}, executed α act other →
    (∀ value, executed β (next value) (next' value)) → executed β (act >>= next) (other >>= next')
  marked : ∀ {α : Type} (pos : Position) {act other : Eval α}, Woven related act other →
    executed α (Eval.marked pos act) (Eval.marked pos other)
  woven : ∀ {α : Type} {act other : Eval α}, executed α act other → Woven related act other

/-- What is woven from actions that concur concurs. -/
theorem Woven.concurs {panics : Prop} {C : Conduct panics} {act other : Eval α}
    (woven : Woven (fun _ act other => Concurs C act other) act other) : Concurs C act other := by
  induction woven with
  | of_related same => exact same
  | of_routine routine => exact routine.concurs
  | bind _ _ first rest => exact first.bind rest
  | attempt _ within => exact within.attempt.bind fun _ => (Routine.pure _).concurs
  | nested _ within => exact within.nested

theorem Concurs.marked {panics : Prop} {C : Conduct panics} {act other : Eval α}
    (concurs : Concurs C act other) (pos : Position) :
    Concurs C (Eval.marked pos act) (Eval.marked pos other) :=
  (Modest.moveTo pos).concurs.bind fun _ =>
    .mapError (fun _ e => e.cause_trace _) (Routine.checkCancelled.bindConcurs fun _ => concurs)

theorem Concurs.executes {panics : Prop} (C : Conduct panics) :
    Relation.Executes (fun _ act other => Concurs C act other)
      fun _ act other => Concurs C act other where
  pure value := (Routine.pure value).concurs
  bind := Concurs.bind
  marked pos _ _ woven := woven.concurs.marked pos
  woven concurs := .of_related concurs

end Eval

end PixelApplet
