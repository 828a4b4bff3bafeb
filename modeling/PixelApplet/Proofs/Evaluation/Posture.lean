import PixelApplet.Machine.State

/-!
# Posture

The posture of a machine is what its thread remembers of the calls and expressions that are open.
An action is steady if it leaves the posture as it was, however it ends.  Two actions agree above a
number of open calls if they are steady and do the same wherever at least so many calls are open;
steadiness is the agreement of an action with itself.

An action ends with a value, with an error or with a failure of the host.  Whether the host may
fail is a parameter, so that one proof serves both a host whose functions return and any other.
-/

namespace PixelApplet

/-- The open calls of a thread, without the places they have reached, and how deep its expressions
are nested. -/
structure Posture where
  /-- Names and files, innermost call first. -/
  calls : List (String × String)
  depth : Depth

/-- What a frame shows of its call, the place aside. -/
def Frame.call (frame : Frame) : String × String :=
  (frame.name, frame.file)

namespace Machine

/-- The posture of the running thread. -/
def posture (m : Machine) : Posture :=
  ⟨m.thread.stack.frames.map Frame.call, m.thread.depth⟩

/-- The number of open calls of the running thread. -/
def openCalls (m : Machine) : Nat :=
  m.thread.stack.frames.length

/-- The machine with its expressions nested to a depth. -/
def atDepth (m : Machine) (depth : Depth) : Machine :=
  { m with thread := { m.thread with depth := depth } }

/-- The machine with the given calls open. -/
def withStack (m : Machine) (stack : CallStack) : Machine :=
  { m with thread := { m.thread with stack := stack } }

/-- The machine with the innermost call of its thread at a place. -/
def movedTo (m : Machine) (pos : Position) : Machine :=
  { m with thread := { m.thread with stack := m.thread.stack.moveTo pos } }

/-- The machine at the beginning of a new thread. -/
def started (m : Machine) (name : String) : Machine :=
  { m with cells := m.cells.push .fresh, thread := .named name ⟨m.cells.size⟩ }

theorem openCalls_eq (m : Machine) : m.openCalls = m.posture.calls.length :=
  (List.length_map _).symm

theorem openCalls_le (m : Machine) : m.openCalls ≤ deepestCalls :=
  m.thread.stack.fits

end Machine

/-- The machine after an action, whether the action succeeded or stopped. -/
def Eval.after {α : Type} (act : Eval α) (m : Machine) : Machine :=
  match act m with
  | .ok _ m' => m'
  | .error _ m' => m'

namespace Eval

variable {α β : Type} {panics : Prop} {calls : Nat}

/-- The host fails in the course of an action. -/
def Panics (act : Eval α) (m : Machine) : Prop :=
  ∃ message m', act m = .error (.panic message) m'

/-- Where so many calls are open, two actions do the same and leave the posture as it was. -/
def Agree (panics : Prop) (calls : Nat) (act other : Eval α) : Prop :=
  ∀ m : Machine, calls ≤ m.openCalls →
    act m = other m ∧ (act.after m).posture = m.posture ∧ (act.Panics m → panics)

/-- An action leaves the posture as it was. -/
def Steady (panics : Prop) (act : Eval α) : Prop :=
  ∀ m : Machine, (act.after m).posture = m.posture ∧ (act.Panics m → panics)

theorem Steady.agree {act : Eval α} (steady : Steady panics act) : Agree panics calls act act :=
  fun m _ => ⟨rfl, steady m⟩

theorem Agree.steady {act other : Eval α} (agree : Agree panics 0 act other) :
    Steady panics act :=
  fun m => (agree m (Nat.zero_le _)).2

theorem after_ok {act : Eval α} {m m' : Machine} {value : α} (ran : act m = .ok value m') :
    act.after m = m' := by
  rw [after, ran]

theorem after_error {act : Eval α} {m m' : Machine} {abort : Abort}
    (ran : act m = .error abort m') : act.after m = m' := by
  rw [after, ran]

theorem bind_ok {act : Eval α} {next : α → Eval β} {m m' : Machine} {value : α}
    (ran : act m = .ok value m') : (act >>= next) m = next value m' := by
  show EStateM.bind act next m = _
  rw [EStateM.bind, ran]

theorem bind_error {act : Eval α} {next : α → Eval β} {m m' : Machine} {abort : Abort}
    (ran : act m = .error abort m') : (act >>= next) m = .error abort m' := by
  show EStateM.bind act next m = _
  rw [EStateM.bind, ran]

theorem not_panics_ok {act : Eval α} {m m' : Machine} {value : α} (ran : act m = .ok value m') :
    ¬act.Panics m := by
  rintro ⟨message, m'', failed⟩
  rw [ran] at failed
  cases failed

/-! ## Calls and levels -/

theorem after_followedBy {act : Eval α} {finish : Machine → Machine} (m : Machine) :
    (followedBy act finish).after m = finish (act.after m) := by
  unfold after followedBy
  rcases act m with _ | _ <;> rfl

theorem after_bind_congr {γ : Type} {act : Eval α} {next : α → Eval β} {next' : α → Eval γ}
    (same : ∀ value m, (next value).after m = (next' value).after m) (m : Machine) :
    (act >>= next).after m = (act >>= next').after m := by
  cases ran : act m with
  | ok value m' =>
    have goes : (act >>= next) m = next value m' := bind_ok ran
    have goes' : (act >>= next') m = next' value m' := bind_ok ran
    unfold after at *
    rw [goes, goes', same]
  | error abort m' => rw [after_error (bind_error ran), after_error (bind_error ran)]

theorem after_bind_pure {act : Eval α} (f : α → β) (m : Machine) :
    (act >>= fun value => pure (f value)).after m = act.after m := by
  cases ran : act m with
  | ok value m' =>
    rw [after_ok ran]
    exact after_ok ((bind_ok ran).trans rfl)
  | error abort m' => rw [after_error (bind_error ran), after_error ran]

theorem after_mapError {act : Eval α} {f : Machine → EvalError → EvalError} (m : Machine) :
    (mapError act f).after m = act.after m := by
  unfold after mapError
  rcases act m with _ | ⟨_ | _, _⟩ <;> rfl

theorem after_attempt {act : Eval α} (m : Machine) : (attempt act).after m = act.after m := by
  unfold after attempt
  rcases act m with _ | ⟨_ | _, _⟩ <;> rfl

theorem recover_ok {act : Eval α} {value : α} {m m' : Machine} (ran : act m = .ok value m') :
    recover act m = .ok (.ok value) m' := by
  rw [recover, ran]

theorem recover_error {act : Eval α} {abort : Abort} {m m' : Machine}
    (ran : act m = .error abort m') : recover act m = .ok (.error abort) m' := by
  rw [recover, ran]

theorem after_recover {act : Eval α} (m : Machine) : (recover act).after m = act.after m := by
  unfold after recover
  rcases act m with _ | _ <;> rfl

theorem panics_of_followedBy {act : Eval α} {finish : Machine → Machine} {m : Machine}
    (failed : (followedBy act finish).Panics m) : act.Panics m := by
  obtain ⟨message, m', failed⟩ := failed
  unfold followedBy at failed
  split at failed <;> cases failed
  exact ⟨_, _, ‹_›⟩

theorem leave_of_enter {depth deeper : Depth} (entered : depth.enter? = some deeper) :
    deeper.leave = depth := by
  unfold Depth.enter? at entered
  split at entered
  · cases entered
    rfl
  · cases entered

theorem frames_of_push {stack more : CallStack} {frame : Frame}
    (pushed : stack.push? frame = some more) : more.frames = frame :: stack.frames := by
  unfold CallStack.push? at pushed
  split at pushed
  · cases pushed
    rfl
  · cases pushed

theorem nested_refused {act : Eval α} {m : Machine} (full : m.thread.depth.enter? = none) :
    Eval.nested act m = Eval.fail s!"expression nesting exceeds {deepestNesting}" m := by
  unfold Eval.nested
  show EStateM.bind (Eval.read fun m => m.thread.depth) _ m = _
  unfold EStateM.bind Eval.read
  dsimp only
  rw [full]

theorem nested_entered {act : Eval α} {m : Machine} {deeper : Depth}
    (entered : m.thread.depth.enter? = some deeper) :
    Eval.nested act m
      = followedBy act (fun m => m.atDepth m.thread.depth.leave) (m.atDepth deeper) := by
  unfold Eval.nested
  show EStateM.bind (Eval.read fun m => m.thread.depth) _ m = _
  unfold EStateM.bind Eval.read
  dsimp only
  rw [entered]
  rfl

theorem inFrame_refused {frame : Frame} {act : Eval α} {m : Machine}
    (full : m.thread.stack.push? frame = none) :
    Eval.inFrame frame act m = Eval.fail s!"call stack depth exceeds {deepestCalls}" m := by
  unfold Eval.inFrame
  show EStateM.bind (Eval.read fun m => m.thread.stack) _ m = _
  unfold EStateM.bind Eval.read
  dsimp only
  rw [full]

theorem inFrame_pushed {frame : Frame} {act : Eval α} {m : Machine} {stack : CallStack}
    (pushed : m.thread.stack.push? frame = some stack) :
    Eval.inFrame frame act m
      = followedBy act (fun m => m.withStack m.thread.stack.pop) (m.withStack stack) := by
  unfold Eval.inFrame
  show EStateM.bind (Eval.read fun m => m.thread.stack) _ m = _
  unfold EStateM.bind Eval.read
  dsimp only
  rw [pushed]
  rfl

theorem onThread_eq {name : String} {act : Eval α} {m : Machine} :
    Eval.onThread name act m = followedBy act (endThread m.thread) (m.started name) :=
  rfl

/-! ## Agreement -/

namespace Agree

theorem mono {act other : Eval α} {more : Nat} (agree : Agree panics calls act other)
    (above : calls ≤ more) : Agree panics more act other :=
  fun m open_ => agree m (Nat.le_trans above open_)

/-- No machine has more calls open than the limit allows. -/
theorem of_beyond {act other : Eval α} (beyond : deepestCalls < calls) :
    Agree panics calls act other :=
  fun m open_ => absurd (Nat.le_trans open_ m.openCalls_le) (Nat.not_le_of_lt beyond)

end Agree

/-! ## Results -/

theorem exists_of_bind_ok {act : Eval α} {next : α → Eval β} {value : β}
    {m m'' : Machine} (ran : (act >>= next) m = .ok value m'') :
    ∃ first m', act m = .ok first m' ∧ next first m' = .ok value m'' := by
  change EStateM.bind act next m = .ok value m'' at ran
  unfold EStateM.bind at ran
  cases first : act m with
  | error abort m' =>
    rw [first] at ran
    cases ran
  | ok a m' =>
    rw [first] at ran
    exact ⟨a, m', rfl, ran⟩

/-- Every result of an action has a property. -/
def Assures (act : Eval α) (property : α → Prop) : Prop :=
  ∀ m value m', act m = .ok value m' → property value

namespace Assures

variable {property : α → Prop}

theorem pure {value : α} (holds : property value) : Assures (Pure.pure value) property := by
  rintro _ _ _ ⟨⟩
  exact holds

theorem bind {act : Eval α} {next : α → Eval β} {later : β → Prop} (first : Assures act property)
    (rest : ∀ value, property value → Assures (next value) later) :
    Assures (act >>= next) later := by
  intro m value m'' ran
  obtain ⟨between, m', ranFirst, ranRest⟩ := Eval.exists_of_bind_ok ran
  exact rest between (first m between m' ranFirst) m' value m'' ranRest

/-- A step whose result does not matter. -/
theorem andThen {act : Eval α} {next : α → Eval β} {later : β → Prop}
    (rest : ∀ value, Assures (next value) later) : Assures (act >>= next) later :=
  bind (fun _ _ _ _ => trivial : Assures act fun _ => True) fun value _ => rest value

theorem mono {act : Eval α} {weaker : α → Prop} (assures : Assures act property)
    (follows : ∀ value, property value → weaker value) : Assures act weaker :=
  fun m value m' ran => follows value (assures m value m' ran)

theorem mapError {act : Eval α} {f : Machine → EvalError → EvalError}
    (assures : Assures act property) : Assures (Eval.mapError act f) property := by
  intro m value m' ran
  unfold Eval.mapError at ran
  split at ran
  · rename_i made
    cases ran
    exact assures m value m' made
  · cases ran
  · cases ran

end Assures

end Eval

end PixelApplet
