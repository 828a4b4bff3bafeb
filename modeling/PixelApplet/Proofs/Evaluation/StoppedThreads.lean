import PixelApplet.Proofs.Evaluation.Discipline
import PixelApplet.Proofs.Evaluation.StoppedExpressions
import Mathlib.Logic.Relation

/-!
# Stopped threads

From the moment a thread is told to stop, no statement, no item of a loop or of a comprehension, no
function and no builtin function is started on it: each of them looks first, and nothing that runs
on the thread takes back what it was told.  A builtin function that runs at that moment is refused
every call that it makes, also where it would go on with the error.
-/

namespace PixelApplet

/-- The caller that refuses every call of a thread that was told to stop. -/
def refusing (reason : String) : Caller :=
  fun _ _ => throw (.error (cancellation reason))

/-- Nothing is started on a thread that was told to stop. -/
structure Machine.StartsNothing (load : Loader) (m : Machine) (reason : String) : Prop where
  /-- A block stops at its first statement. -/
  block : ∀ (call : Caller) (scope : Scope) (s : Stmt) (rest : List Stmt),
    execBlock call load scope (s :: rest) m
      = .error (.error ((cancellation reason).trace (m.movedTo s.pos).thread.stack.trace))
          (m.movedTo s.pos)
  /-- A call is refused, however functions would be entered and builtin functions call back. -/
  call : ∀ (enter : Entry) (callBack : Caller) (callee : Value) (arguments : Arguments),
    callOnce enter callBack callee arguments m = .error (.error (cancellation reason)) m
  value : ∀ (callee : Value) (arguments : Arguments),
    callValue load callee arguments m = .error (.error (cancellation reason)) m
  /-- A loop stops at its next item. -/
  iteration : ∀ (step : Scope → Value → Eval (Flow × Scope)) (item : Value) (rest : List Value)
    (scope : Scope),
    eachIteration step (item :: rest) scope m = .error (.error (cancellation reason)) m
  /-- A comprehension stops at its next item. -/
  item : ∀ {σ : Type} (step : σ → Value → Eval σ) (item : Value) (rest : List Value) (state : σ),
    eachItem step (item :: rest) state m = .error (.error (cancellation reason)) m
  /-- An expression is evaluated as if every call were refused, and does nothing but add to the
  heap. -/
  expression : ∀ (enter : Entry) (callBack : Caller) (scope : Scope) (e : Expr),
    evalExpr (callOnce enter callBack) scope e m = evalExpr (refusing reason) scope e m
      ∧ m.Spares m.heap.lists.size m.heap.dicts.size
          ((evalExpr (callOnce enter callBack) scope e).after m)
  /-- A builtin function that runs already goes on as if all its calls were refused. -/
  builtin : ∀ (enter : Entry) (callBack : Caller) (b : Builtin Value) (arguments : Arguments),
    b.run (callOnce enter callBack) arguments m = b.run (refusing reason) arguments m

/-- What may happen on a thread between one moment of a run and another. -/
inductive Machine.GoesOn (load : Loader) : Machine → Machine → Prop where
  | call {m : Machine} (calls : Nat) (callee : Value) (arguments : Arguments) :
    GoesOn load m ((callTo load calls callee arguments).after m)
  | expression {m : Machine} (calls : Nat) (scope : Scope) (e : Expr) :
    GoesOn load m ((evalExpr (callTo load calls) scope e).after m)
  | statement {m : Machine} (calls : Nat) (scope : Scope) (s : Stmt) :
    GoesOn load m ((execStmt (callTo load calls) load scope s).after m)
  | block {m : Machine} (calls : Nat) (scope : Scope) (block : Block) :
    GoesOn load m ((execBlock (callTo load calls) load scope block).after m)
  | builtin {m : Machine} (calls : Nat) (b : Builtin Value) (arguments : Arguments) :
    GoesOn load m ((b.run (callTo load calls) arguments).after m)
  | file {m : Machine} (name source : String) (predeclared : Bindings Value) :
    GoesOn load m ((executeFile load name source predeclared).after m)
  /-- A load statement finds its module. -/
  | finds {m : Machine} {find : String → Eval (Except LoadFault ModuleRef)}
    (present : load = some find) (module : String) : GoesOn load m ((find module).after m)
  /-- A step of evaluation that is neither a call nor a load statement. -/
  | step {m : Machine} {α : Type} {act : Eval α} (modest : act.Modest True) :
    GoesOn load m (act.after m)
  | inCalls {m : Machine} (stack : CallStack) : GoesOn load m (m.withStack stack)
  | atDepth {m : Machine} (depth : Depth) : GoesOn load m (m.atDepth depth)

/-! ## What was told stays told -/

/-- The conduct of actions that keep the cell of the running thread and take back nothing that
threads were told. -/
def Conduct.lasting : Conduct True where
  within _ := True
  step m _ m' := m'.thread.cell = m.thread.cell
    ∧ ∀ (ref : CellRef) (reason : String), m.Told ref reason → m'.Told ref reason
  stays _ _ := trivial
  trans first second := ⟨second.1.trans first.1, fun ref reason told =>
    second.2 ref reason (first.2 ref reason told)⟩
  modest untouched _ := ⟨untouched.cell, fun _ _ told => untouched.told told⟩
  caught := id
  relabel step _ := step
  deeper _ _ := trivial
  leave _ step := step

theorem Eval.lasting_frames : Frames .lasting .lasting :=
  frames_of_enclosing (fun _ _ => trivial) fun _ step => step

theorem Loader.obeys_none {panics : Prop} (C : Conduct panics) : Loader.Obeys C none := by
  rintro find ⟨⟩

section Lasting

variable {load : Loader} {m m' : Machine} {reason : String}

theorem Eval.Concurs.keepsStopped {α : Type} {act other : Eval α}
    (concurs : Concurs .lasting act other) (told : m.Stopped reason) :
    (act.after m).Stopped reason := by
  obtain ⟨cell, lasts⟩ := (concurs m trivial).2
  unfold Machine.Stopped Machine.cell
  rw [cell]
  exact lasts _ reason told

/-- A thread that was told to stop stays told, whatever happens on it. -/
theorem Machine.GoesOn.stopped (lasting : load.Obeys .lasting) (goesOn : m.GoesOn load m')
    (told : m.Stopped reason) : m'.Stopped reason := by
  have calls (calls : Nat) := callTo_obeys Eval.lasting_frames lasting calls
  cases goesOn with
  | call n callee arguments => exact (calls n callee arguments).keepsStopped told
  | expression n scope e => exact (Eval.Concurs.evalExpr (calls n) e).keepsStopped told
  | statement n scope s => exact (Eval.Concurs.execStmt (calls n) lasting s).keepsStopped told
  | block n scope block =>
    exact (Eval.Concurs.execBlock (calls n) lasting block).keepsStopped told
  | builtin n b arguments => exact (b.obeys (calls n) arguments).keepsStopped told
  | file name source predeclared =>
    exact (executeFile_obeys Eval.lasting_frames lasting name source predeclared).keepsStopped told
  | finds present module => exact (lasting _ present module).1.keepsStopped told
  | step modest => exact modest.concurs.keepsStopped told
  | inCalls stack => exact told
  | atDepth depth => exact told

end Lasting

/-! ## What is started looks first -/

/-- The conduct of actions on a thread that was told to stop. -/
def Conduct.stopped (reason : String) : Conduct True where
  within m := m.Stopped reason
  step m _ m' := m.Stopped reason → m'.Stopped reason
  stays told step := step told
  trans first second told := second (first told)
  modest untouched _ told := by
    unfold Machine.Stopped Machine.cell
    rw [untouched.cell]
    exact untouched.told told
  caught := id
  relabel step _ := step
  deeper _ told := told
  leave _ step := step

theorem callOnce_polls (enter : Entry) (callBack : Caller) :
    Caller.Polls (callOnce enter callBack) :=
  fun _ _ _ _ told => Eval.checkCancelled_bind_stopped told

theorem callTo_polls (load : Loader) (calls : Nat) : (callTo load calls).Polls := by
  cases calls with
  | zero => exact callOnce_polls _ _
  | succ calls => exact callOnce_polls _ _

theorem Caller.Polls.concurs {call : Caller} (polls : call.Polls) (reason : String) :
    call.Concurs (.stopped reason) (refusing reason) := by
  intro callee arguments m told
  have refused := polls callee arguments m reason told
  refine ⟨refused, fun _ => ?_⟩
  rw [Eval.after_error refused]
  exact told

section Starting

variable {call : Caller} {load : Loader} {m : Machine} {reason : String}

theorem execBlock_stopped (told : m.Stopped reason) (scope : Scope) (s : Stmt) (rest : List Stmt) :
    execBlock call load scope (s :: rest) m
      = .error (.error ((cancellation reason).trace (m.movedTo s.pos).thread.stack.trace))
          (m.movedTo s.pos) := by
  have toldMoved : (m.movedTo s.pos).Stopped reason := told
  have refused : execStmt call load scope s m
      = .error (.error ((cancellation reason).trace (m.movedTo s.pos).thread.stack.trace))
          (m.movedTo s.pos) := by
    rw [execStmt.eq_def]
    have moves : Eval.moveTo s.pos m = .ok () (m.movedTo s.pos) := rfl
    rw [Eval.bind_ok moves, Eval.mapError, Eval.checkCancelled_bind_stopped toldMoved]
  rw [execBlock]
  exact Eval.bind_error refused

theorem Builtin.run_stopped (polls : call.Polls) (told : m.Stopped reason) (b : Builtin Value)
    (arguments : Arguments) : b.run call arguments m = b.run (refusing reason) arguments m := by
  cases hosted : b.action.isHosted with
  | false =>
    have concurs : Eval.ConcurOnCallbacks (.stopped reason) call (refusing reason) :=
      fun callee arguments _ => polls.concurs reason callee arguments
    exact (Eval.Concurs.builtin concurs b hosted m told).1
  | true => rw [← b.runOn_own call, ← b.runOn_own (refusing reason), runOn, runOn, hosted]; rfl

theorem Machine.Stopped.startsNothing (told : m.Stopped reason) :
    m.StartsNothing load reason where
  block call scope s rest := execBlock_stopped told scope s rest
  call enter callBack callee arguments :=
    callOnce_polls enter callBack callee arguments m reason told
  value callee arguments := callTo_polls load _ callee arguments m reason told
  iteration step item rest scope := Eval.checkCancelled_bind_stopped told
  item step item rest state := Eval.checkCancelled_bind_stopped told
  expression enter callBack scope e := by
    have polls := callOnce_polls enter callBack
    exact ⟨(Eval.Concurs.evalExpr (polls.concurs reason) e m told).1,
      Eval.Idles.evalExpr polls e m told (Nat.le_refl _) (Nat.le_refl _)⟩
  builtin enter callBack b arguments := b.run_stopped (callOnce_polls enter callBack) told arguments

end Starting

/-- From the moment at which a thread is told to stop, it stays stopped for the reason that it was
given first, and nothing is started on it. -/
theorem stopped_thread_starts_nothing {load : Loader} {m m' : Machine} {reason : String}
    (lasting : load.Obeys .lasting) (told : m.Stopped reason)
    (later : Relation.ReflTransGen (Machine.GoesOn load) m m') :
    m'.Stopped reason ∧ m'.StartsNothing load reason := by
  have stopped : m'.Stopped reason := by
    induction later with
    | refl => exact told
    | tail _ goesOn ih => exact goesOn.stopped lasting ih
  exact ⟨stopped, stopped.startsNothing⟩

/-- A machine whose thread was told to stop. -/
def haltedMachine : Machine :=
  (Machine.initial (.under [])).cancelCell ⟨0⟩ "enough"

/-- A call of a function that prints. -/
def latePrint : Expr :=
  .call .start (.name .start "print") [.positional (.literal .start (.string "late"))]

/-- The thread evaluates the call and is refused it; then it is refused the statement, too. -/
theorem halted_thread_prints_nothing : Loader.Obeys .lasting none
    ∧ haltedMachine.Stopped "enough"
    ∧ ∃ m', Machine.GoesOn none haltedMachine m'
      ∧ m'.events = []
      ∧ execBlock (callValue none) none (.topLevel ⟨0⟩ "late.star") [.expr .start latePrint] m'
        = .error (.error ((cancellation "enough").trace
            (m'.movedTo .start).thread.stack.trace)) (m'.movedTo .start) := by
  have lasting : Loader.Obeys .lasting none := Loader.obeys_none _
  have told : haltedMachine.Stopped "enough" := rfl
  have goesOn : Machine.GoesOn none haltedMachine _ :=
    .expression 0 (.topLevel ⟨0⟩ "late.star") latePrint
  have nothing := (stopped_thread_starts_nothing lasting told (.single goesOn)).2
  exact ⟨lasting, told, _, goesOn, by rfl, nothing.block _ _ (.expr .start latePrint) []⟩

end PixelApplet
