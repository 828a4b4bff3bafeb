import PixelApplet.Proofs.Evaluation.Agreement
import PixelApplet.Proofs.Evaluation.CallStack

/-!
# Disciplines

A discipline is a property of actions that evaluation passes on: routine actions have it, so do the
few things that only the host provides, and what is put together from actions that have it has it
too.  If what finds modules has the property, then so do all calls, however deep they are nested,
and the execution of every file.
-/

namespace PixelApplet

/-- A property of actions that holds of what expressions and builtin functions are put together
from, calls aside, and of all that is put together in their ways. -/
structure Eval.Groundwork (P : {α : Type} → Eval α → Prop) : Prop where
  routine : ∀ {α : Type} {act : Eval α}, Routine act → P act
  bind : ∀ {α β : Type} {act : Eval α} {next : α → Eval β}, P act → (∀ value, P (next value)) →
    P (act >>= next)
  attempt : ∀ {α : Type} {act : Eval α}, P act → P (Eval.attemptMessage act)
  nested : ∀ {α : Type} {act : Eval α}, P act → P (Eval.nested act)
  /-- The host may fail. -/
  panics : ∀ {α : Type} (message : String), P (MonadExcept.throw (.panic message) : Eval α)
  /-- A text is kept for later. -/
  stores : ∀ (key value : String) (expires : Nat), P (MonadState.modifyGet fun m =>
    ((), { m with cache := m.cache.set m.thread.name key value expires }) : Eval Unit)
  /-- The host cancels its token. -/
  cancels : ∀ reason : String, P (MonadState.modifyGet fun m =>
    ((), match m.hostToken with
      | some token => m.cancelToken token reason
      | none => m) : Eval Unit)

/-- A property of actions that also holds of statements and calls, as soon as it holds of what they
do. -/
structure Eval.Discipline (P : {α : Type} → Eval α → Prop) : Prop extends Groundwork P where
  moveTo : ∀ pos : Position, P (Eval.moveTo pos)
  mapError : ∀ {α : Type} {act : Eval α} {f : Machine → EvalError → EvalError},
    (∀ m e, (f m e).cause = e.cause) → (∀ m cache e, f { m with cache := cache } e = f m e) →
      (∀ m e, f (Machine.unplaced m) (EvalError.unplaced e) = (f m e).unplaced) →
        (∀ m e, f (Machine.unlogged m) e = f m e) → (∀ m e, (f m e).message = e.message) →
          P act → P (Eval.mapError act f)
  inFrame : ∀ {α : Type} {act : Eval α} (frame : Frame), P act → P (Eval.inFrame frame act)

namespace Eval.Groundwork

variable {P : {α : Type} → Eval α → Prop} (groundwork : Groundwork P)
include groundwork

theorem woven {α : Type} {act other : Eval α} (woven : Woven (fun _ act _ => P act) act other) :
    P act := by
  induction woven with
  | of_related same => exact same
  | of_routine routine => exact groundwork.routine routine
  | bind _ _ first rest => exact groundwork.bind first rest
  | attempt _ within => exact groundwork.attempt within
  | nested _ within => exact groundwork.nested within

theorem pure {α : Type} (value : α) : P (Pure.pure value : Eval α) :=
  groundwork.routine (.pure value)

theorem fail {α : Type} (message : String) : P (Eval.fail message : Eval α) :=
  groundwork.routine (.fail message)

theorem after_routine {α β : Type} {act : Eval α} {next : α → Eval β} (routine : Routine act)
    (rest : ∀ value, P (next value)) : P (act >>= next) :=
  groundwork.bind (groundwork.routine routine) rest

/-- What a function of the host does. -/
theorem hosted {call : Value → Arguments → Eval Value} (b : Builtin Value) (arguments : Arguments)
    (hosted : b.action.isHosted = true) : P (b.run call arguments) := by
  unfold Builtin.run
  cases action : b.action with
  | host f =>
    cases f with
    | cancel =>
      refine groundwork.after_routine .receiveOne fun _ => ?_
      refine groundwork.after_routine (.readHeap _) fun reason => ?_
      exact groundwork.bind (groundwork.cancels reason) fun _ => groundwork.pure _
    | panic =>
      refine groundwork.after_routine .receiveOne fun _ => ?_
      exact groundwork.after_routine (.readHeap _) fun _ => groundwork.panics _
  | cache f =>
    cases f with
    | set =>
      refine groundwork.after_routine .receive fun r => groundwork.after_routine .text fun key => ?_
      refine groundwork.after_routine .text fun value => groundwork.after_routine .int? ?_
      intro seconds
      have keeps : P (do
          let now ← Eval.read Machine.clock
          let expires := now + (seconds.getD Caching.defaultSeconds).toInt.toNat
          if expires > Caching.lastSecond then
            throw (.panic "overflow when adding duration to instant")
          modify fun m => { m with cache := m.cache.set m.thread.name key value expires }
          return Value.none) := by
        refine groundwork.after_routine (.look _ (fun _ _ => rfl) (fun _ => rfl) fun _ => rfl) fun now => ?_
        dsimp only
        split
        · exact groundwork.bind (groundwork.panics _) fun _ : PUnit =>
            groundwork.bind (groundwork.stores _ _ _) fun _ => groundwork.pure _
        · exact groundwork.bind (groundwork.stores _ _ _) fun _ => groundwork.pure _
      dsimp only
      split
      · exact groundwork.bind (groundwork.fail _) fun _ : PUnit => keeps
      · exact keeps
    | get => exact groundwork.routine .cached
  | _ => simp [action, Action.isHosted] at hosted

theorem builtin {call : Caller} (calls : ∀ callee arguments, P (call callee arguments))
    (b : Builtin Value) (arguments : Arguments) : P (b.run call arguments) := by
  cases hosted : b.action.isHosted with
  | true => exact groundwork.hosted b arguments hosted
  | false =>
    have back : CallbacksWoven (fun _ act _ => P act) call call :=
      fun callee arguments _ => .of_related (calls callee arguments)
    exact groundwork.woven (.builtin back b hosted)

end Eval.Groundwork

namespace Eval.Discipline

variable {P : {α : Type} → Eval α → Prop} (discipline : Discipline P)
include discipline

theorem marked {α : Type} {act : Eval α} (pos : Position) (within : P act) :
    P (Eval.marked pos act) := by
  refine discipline.bind (discipline.moveTo pos) fun _ => ?_
  refine discipline.mapError (fun _ e => e.cause_trace _) (fun _ _ _ => rfl) (fun m e => ?_)
    (fun _ _ => rfl) (fun _ e => e.message_trace _) ?_
  · rw [e.trace_unplaced]
    exact congrArg e.unplaced.trace m.thread.stack.trace_unplaced
  exact discipline.after_routine .checkCancelled fun _ => within

theorem executes : Relation.Executes (fun _ act _ => P act) fun _ act _ => P act where
  pure := discipline.pure
  bind := discipline.bind
  marked pos _ _ woven := discipline.marked pos (discipline.woven woven)
  woven within := .of_related within

variable {call : Caller} (calls : ∀ callee arguments, P (call callee arguments))
  {load : Loader}
  (loads : ∀ home module bindings, P (PixelApplet.loadModule load home module bindings))

section Calls

include calls loads

theorem execBlock (scope : Scope) (block : Block) :
    P (PixelApplet.execBlock call load scope block) := by
  have alike : call.Woven (fun _ act _ => P act) call :=
    fun pos callee arguments =>
      .of_related (discipline.bind (discipline.moveTo pos) fun _ => calls callee arguments)
  exact Woven.execBlock alike discipline.executes
    (fun home module bindings => .of_related (loads home module bindings)) block

theorem enterFunction (f : Function Value) (arguments : Arguments) :
    P (PixelApplet.enterFunction call load f arguments) := by
  refine discipline.after_routine (.readHeap _) fun held => ?_
  split
  · refine discipline.after_routine (.accept _ _) fun bound => ?_
    refine discipline.after_routine (.bindLocals bound []) fun locals => discipline.inFrame _ ?_
    refine discipline.bind (discipline.execBlock calls loads _ _) fun left => ?_
    obtain ⟨flow, scope⟩ := left
    cases flow <;> exact discipline.pure _
  · exact discipline.fail _

end Calls

theorem callOnce {enter : Entry} {callBack : Caller} (enters : ∀ f arguments, P (enter f arguments))
    (back : ∀ callee arguments, P (callBack callee arguments)) (callee : Value)
    (arguments : Arguments) : P (PixelApplet.callOnce enter callBack callee arguments) := by
  refine discipline.after_routine .checkCancelled fun _ => ?_
  cases callee with
  | function identity f => exact enters f arguments
  | builtin identity b =>
    exact discipline.mapError (fun _ e => e.cause_blame _) (fun _ _ _ => rfl)
      (fun _ e => e.blame_unplaced _) (fun _ _ => rfl) (fun _ e => e.message_blame _)
      (discipline.builtin back b arguments)
  | _ => exact discipline.fail _

theorem callWith {enter : Entry} (enters : ∀ f arguments, P (enter f arguments)) (callee : Value)
    (arguments : Arguments) : P (PixelApplet.callWith enter callee arguments) :=
  discipline.callOnce enters (discipline.callOnce enters fun _ _ => discipline.fail _) callee
    arguments

include loads

/-- Calls are disciplined, however deep they may be nested. -/
theorem callTo (levels : Nat) (callee : Value) (arguments : Arguments) :
    P (PixelApplet.callTo load levels callee arguments) := by
  induction levels generalizing callee arguments with
  | zero => exact discipline.callWith (fun _ _ => discipline.fail _) callee arguments
  | succ levels ih => exact discipline.callWith (discipline.enterFunction ih loads) callee arguments

theorem executeFile (name source : String) (predeclared : Bindings Value) :
    P (PixelApplet.executeFile load name source predeclared) := by
  unfold PixelApplet.executeFile
  split
  · exact discipline.pure _
  · refine discipline.after_routine (.newModule _) fun home => ?_
    refine discipline.bind (discipline.inFrame _
      (discipline.execBlock (discipline.callTo loads _) loads _ _)) fun _ => ?_
    exact discipline.after_routine (.freezeModule _) fun _ => discipline.pure _

end Eval.Discipline

/-!
## Calls and files obey

Obeying a conduct is a discipline, as long as the conduct is the same inside of calls as outside.
So calling a value, and executing a file, obey every conduct that what finds modules obeys.  The
functions of the machine's own host may fail, so this is about the conducts that allow it.
-/

variable {C : Conduct True} {load : Loader}

theorem Eval.Frames.discipline (frames : Frames C C) : Discipline fun act => Obeys C act where
  routine := Routine.concurs
  bind := Concurs.bind
  moveTo pos := (Modest.moveTo pos).concurs
  mapError keeps _ _ _ _ := Concurs.mapError keeps
  attempt concurs := concurs.attempt.bind fun _ => (Routine.pure _).concurs
  nested := Concurs.nested
  inFrame := frames
  panics message := (Modest.throw_panic trivial message).concurs
  stores key value expires := by
    have modest : Modest True (MonadState.modifyGet fun m =>
        ((), { m with cache := m.cache.set m.thread.name key value expires }) : Eval Unit) :=
      .modify fun _ => ⟨rfl, rfl, id, rfl⟩
    exact modest.concurs
  cancels reason := by
    refine Modest.concurs (.modify fun m => ?_)
    split
    · exact untouched_cancelToken _ _ _
    · exact .refl m

theorem Builtin.obeys {call : Caller} (obeys : call.Obeys C) (b : Builtin Value)
    (arguments : Arguments) : Eval.Obeys C (b.run call arguments) := by
  cases hosted : b.action.isHosted with
  | true => exact (Eval.Modest.hosted b hosted trivial).concurs
  | false => exact .builtin (fun callee arguments _ => obeys callee arguments) b hosted

/-- Calls obey, however deep they may be nested. -/
theorem callTo_obeys (frames : Eval.Frames C C) (obeys : load.Obeys C) (calls : Nat) :
    (callTo load calls).Obeys C :=
  frames.discipline.callTo (fun _ _ _ => .loadModule obeys) calls

theorem executeFile_obeys (frames : Eval.Frames C C) (obeys : load.Obeys C) (name source : String)
    (predeclared : Bindings Value) :
    Eval.Obeys C (executeFile load name source predeclared) :=
  frames.discipline.executeFile (fun _ _ _ => .loadModule obeys) name source predeclared

end PixelApplet
