import PixelApplet.Proofs.Evaluation.Posture

/-!
# The places of open calls

Every open call has reached a place, which tracebacks show and nothing else.  Machines and errors
are compared as if all calls were at no place.
-/

namespace PixelApplet

/-- The call at no place. -/
def Frame.unplaced (frame : Frame) : Frame :=
  { frame with pos := .nowhere }

/-- The line of a traceback without its place. -/
def StackFrame.unplaced (frame : StackFrame) : StackFrame :=
  { frame with pos := { frame.pos with pos := .nowhere } }

namespace CallStack

/-- The open calls at no place. -/
def unplaced (stack : CallStack) : CallStack :=
  ⟨stack.frames.map Frame.unplaced, by
    rw [List.length_map]
    exact stack.fits⟩

theorem eq_of_frames {stack other : CallStack} (same : stack.frames = other.frames) :
    stack = other := by
  cases stack
  cases other
  cases same
  rfl

variable (stack : CallStack)

@[simp] theorem unplaced_unplaced : stack.unplaced.unplaced = stack.unplaced :=
  eq_of_frames (List.map_map.trans rfl)

@[simp] theorem unplaced_moveTo (pos : Position) :
    (stack.moveTo pos).unplaced = stack.unplaced := by
  unfold moveTo
  split
  · rfl
  · rename_i frame rest frames
    exact eq_of_frames (congrArg (List.map Frame.unplaced) frames).symm

@[simp] theorem unplaced_pop : stack.pop.unplaced = stack.unplaced.pop :=
  eq_of_frames List.map_tail

theorem push?_unplaced (frame : Frame) :
    stack.unplaced.push? frame.unplaced = (stack.push? frame).map unplaced := by
  have length : stack.unplaced.frames.length = stack.frames.length := List.length_map _
  unfold push?
  by_cases room : stack.frames.length < deepestCalls
  · rw [dif_pos room, dif_pos (length ▸ room)]
    rfl
  · rw [dif_neg room, dif_neg (length ▸ room)]
    rfl

@[simp] theorem trace_unplaced : stack.unplaced.trace = stack.trace.map StackFrame.unplaced := by
  unfold trace unplaced
  rw [← List.map_reverse, List.map_map, List.map_map]
  rfl

end CallStack

/-- The error with a traceback that shows no places. -/
def EvalError.unplaced (e : EvalError) : EvalError :=
  { e with backtrace := e.backtrace.map StackFrame.unplaced }

namespace EvalError

variable (e : EvalError)

@[simp] theorem unplaced_unplaced : e.unplaced.unplaced = e.unplaced := by
  show { e with backtrace := (e.backtrace.map StackFrame.unplaced).map StackFrame.unplaced } = _
  rw [List.map_map]
  rfl

/-- Whether calls are noted already has nothing to do with places. -/
theorem isEmpty_unplaced : e.unplaced.backtrace.isEmpty = e.backtrace.isEmpty := by
  unfold unplaced
  cases e.backtrace <;> rfl

theorem trace_unplaced (frames : List StackFrame) :
    (e.trace frames).unplaced = e.unplaced.trace (frames.map StackFrame.unplaced) := by
  unfold trace
  rw [isEmpty_unplaced]
  split <;> rfl

theorem blame_unplaced (name : String) : e.unplaced.blame name = (e.blame name).unplaced := by
  unfold blame
  rw [isEmpty_unplaced]
  show (if (e.callee.isNone && e.backtrace.isEmpty) = true then _ else _) = _
  split <;> rfl

end EvalError

/-- What stopped an action, without places. -/
def Abort.unplaced : Abort → Abort
  | .error e => .error e.unplaced
  | .panic message => .panic message

@[simp] theorem Abort.unplaced_unplaced (abort : Abort) :
    abort.unplaced.unplaced = abort.unplaced := by
  cases abort with
  | error e => exact congrArg Abort.error e.unplaced_unplaced
  | panic message => rfl

/-- The machine with its open calls at no place. -/
def Machine.unplaced (m : Machine) : Machine :=
  m.withStack m.thread.stack.unplaced

namespace Machine

variable (m : Machine)

@[simp] theorem unplaced_unplaced : m.unplaced.unplaced = m.unplaced :=
  congrArg m.withStack m.thread.stack.unplaced_unplaced

@[simp] theorem unplaced_movedTo (pos : Position) : (m.movedTo pos).unplaced = m.unplaced :=
  congrArg m.withStack (m.thread.stack.unplaced_moveTo pos)

end Machine

namespace Eval

variable {α : Type}

/-- How an action ended: its result or what stopped it, and the machine. -/
abbrev Ending (α : Type) :=
  EStateM.Result Abort Machine α

namespace Ending

/-- How an action ended, without places. -/
def unplaced : Ending α → Ending α
  | .ok value m => .ok value m.unplaced
  | .error abort m => .error abort.unplaced m.unplaced

variable {ending : Ending α} {m : Machine}

theorem of_unplaced_ok {value : α} (same : ending.unplaced = .ok value m) :
    ∃ m', ending = .ok value m' ∧ m'.unplaced = m := by
  cases ending with
  | ok value' m' =>
    cases same
    exact ⟨m', rfl, rfl⟩
  | error abort m' => cases same

theorem of_unplaced_error {abort : Abort} (same : ending.unplaced = .error abort m) :
    ∃ abort' m', ending = .error abort' m' ∧ abort'.unplaced = abort ∧ m'.unplaced = m := by
  cases ending with
  | ok value' m' => cases same
  | error abort' m' =>
    cases same
    exact ⟨abort', m', rfl, rfl, rfl⟩

end Ending

/-- What follows a look at the thread does as if its open calls were at no place, if it looks at
none of them. -/
theorem read_thread_unplaced {next : Thread → Eval α}
    (alike : ∀ thread : Thread,
      next { thread with stack := thread.stack.unplaced } = next thread) :
    Eval.read Machine.thread >>= next = Eval.read (fun m => m.unplaced.thread) >>= next :=
  funext fun m => (congrFun (alike m.thread) m).symm

end Eval

end PixelApplet
