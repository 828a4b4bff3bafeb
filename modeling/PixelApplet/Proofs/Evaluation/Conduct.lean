import PixelApplet.Proofs.Evaluation.Posture

/-!
# Conduct

A conduct is what can be said of an action by the machine where it starts, the machine where it ends
and what stopped it, if it is said of actions one after the other as soon as it is said of each.
Two actions concur under a conduct if both do the same and conduct themselves so, wherever the
conduct looks; an action obeys a conduct if it concurs with itself.

Most of what scripts are made of is modest: it works on the heap, but has nothing to do with calls,
with what cancels a thread or with what is being loaded.  Modest actions obey every conduct.  So
what is proved of evaluation under every conduct is there for each of them, the posture included.
-/

namespace PixelApplet

/-- The threads that watch a cell were told to stop. -/
def Machine.Told (m : Machine) (ref : CellRef) (reason : String) : Prop :=
  (m.cells.getD ref.index default).reason = some reason

/-- A thread that begins does not take back what others were told. -/
theorem Machine.Told.started {m : Machine} {ref : CellRef} {reason : String}
    (told : m.Told ref reason) (name : String) : (m.started name).Told ref reason := by
  by_cases present : ref.index < m.cells.size
  · unfold Told at *
    simpa [Machine.started, Array.getElem?_push_lt, present] using told
  · -- Beyond the cells, the default is read, which was told nothing.
    have untold : m.cells.getD ref.index default = default := by simp [present]
    rw [Told, untold] at told
    cases told

/-- What modest actions leave as it was. -/
structure Machine.Untouched (m m' : Machine) : Prop where
  posture : m'.posture = m.posture
  cell : m'.thread.cell = m.thread.cell
  told : ∀ {ref : CellRef} {reason : String}, m.Told ref reason → m'.Told ref reason
  loading : m'.loading = m.loading

/-- What stopped an action, if something did, was not a load statement, and was a failure of the
host only where that is allowed. -/
def Mild (panics : Prop) : Option Abort → Prop
  | none => True
  | some (.error e) => e.cause = none
  | some (.panic _) => panics

theorem Machine.Untouched.refl (m : Machine) : m.Untouched m :=
  ⟨rfl, rfl, id, rfl⟩

theorem Machine.Untouched.trans {a b c : Machine} (first : a.Untouched b) (second : b.Untouched c) :
    a.Untouched c :=
  ⟨second.posture.trans first.posture, second.cell.trans first.cell,
    fun told => second.told (first.told told), second.loading.trans first.loading⟩

theorem Machine.posture_leave {m m' : Machine} {deeper : Depth}
    (entered : m.thread.depth.enter? = some deeper)
    (same : m'.posture = (m.atDepth deeper).posture) :
    (m'.atDepth m'.thread.depth.leave).posture = m.posture := by
  have calls : m'.posture.calls = m.posture.calls := by rw [same]; rfl
  have depth : m'.posture.depth = deeper := by rw [same]; rfl
  show Posture.mk m'.posture.calls m'.posture.depth.leave = m.posture
  rw [calls, depth, Eval.leave_of_enter entered]
  rfl

/-- The innermost call moves, but it stays the call that it is. -/
theorem Machine.untouched_movedTo (m : Machine) (pos : Position) : m.Untouched (m.movedTo pos) := by
  refine ⟨?_, rfl, id, rfl⟩
  have same : (m.thread.stack.moveTo pos).frames.map Frame.call
      = m.thread.stack.frames.map Frame.call := by
    unfold CallStack.moveTo
    split
    · rfl
    · rename_i frame rest frames
      exact (congrArg (List.map Frame.call) frames).symm
  exact congrArg (Posture.mk · m.thread.depth) same

theorem EvalError.cause_trace (e : EvalError) (frames : List StackFrame) :
    (e.trace frames).cause = e.cause := by
  unfold trace
  split <;> rfl

theorem EvalError.cause_blame (e : EvalError) (name : String) : (e.blame name).cause = e.cause := by
  unfold blame
  split <;> rfl

theorem EvalError.message_trace (e : EvalError) (frames : List StackFrame) :
    (e.trace frames).message = e.message := by
  unfold trace
  split <;> rfl

theorem EvalError.message_blame (e : EvalError) (name : String) :
    (e.blame name).message = e.message := by
  unfold blame
  split <;> rfl

/-- What can be said of actions by where they start, what stops them and where they end. -/
structure Conduct (panics : Prop) where
  /-- Where a conduct looks at actions. -/
  within : Machine → Prop
  step : Machine → Option Abort → Machine → Prop
  stays : ∀ {m m' : Machine}, within m → step m none m' → within m'
  trans : ∀ {a b c : Machine} {ending : Option Abort}, step a none b → step b ending c →
    step a ending c
  modest : ∀ {m m' : Machine} {ending : Option Abort}, m.Untouched m' → Mild panics ending →
    step m ending m'
  caught : ∀ {m m' : Machine} {abort : Abort}, step m (some abort) m' → step m none m'
  relabel : ∀ {m m' : Machine} {e e' : EvalError}, step m (some (.error e)) m' →
    e'.cause = e.cause → step m (some (.error e')) m'
  deeper : ∀ {m : Machine} (depth : Depth), within m → within (m.atDepth depth)
  leave : ∀ {m m' : Machine} {ending : Option Abort} {depth : Depth},
    m.thread.depth.enter? = some depth → step (m.atDepth depth) ending m' →
      step m ending (m'.atDepth m'.thread.depth.leave)

/-- The same conduct, but whatever it is that stops an action. -/
def Conduct.loose {panics : Prop} (C : Conduct panics) : Conduct panics where
  within := C.within
  step m _ m' := C.step m none m'
  stays := C.stays
  trans := C.trans
  modest untouched _ := C.modest untouched trivial
  caught := id
  relabel step _ := step
  deeper := C.deeper
  leave := C.leave

namespace Eval

variable {α β : Type} {panics : Prop} {calls : Nat}

/-- What stops an action. -/
def stop? (act : Eval α) (m : Machine) : Option Abort :=
  match act m with
  | .ok _ _ => none
  | .error abort _ => some abort

theorem stop?_ok {act : Eval α} {m m' : Machine} {value : α} (ran : act m = .ok value m') :
    act.stop? m = none := by
  rw [stop?, ran]

theorem stop?_error {act : Eval α} {m m' : Machine} {abort : Abort}
    (ran : act m = .error abort m') : act.stop? m = some abort := by
  rw [stop?, ran]

theorem stop?_followedBy {act : Eval α} {finish : Machine → Machine} (m : Machine) :
    (followedBy act finish).stop? m = act.stop? m := by
  unfold stop? followedBy
  rcases act m with _ | _ <;> rfl

/-- An action conducts itself from a machine. -/
def Behaves (C : Conduct panics) (act : Eval α) (m : Machine) : Prop :=
  C.step m (act.stop? m) (act.after m)

/-- Where a conduct looks, two actions do the same and conduct themselves. -/
def Concurs (C : Conduct panics) (act other : Eval α) : Prop :=
  ∀ m : Machine, C.within m → act m = other m ∧ act.Behaves C m

/-- An action conducts itself wherever the conduct looks. -/
abbrev Obeys (C : Conduct panics) (act : Eval α) : Prop :=
  Concurs C act act

theorem Behaves.ok {C : Conduct panics} {act : Eval α} {m m' : Machine} {value : α}
    (behaves : act.Behaves C m) (ran : act m = .ok value m') : C.step m none m' := by
  rw [Behaves, stop?_ok ran, after_ok ran] at behaves
  exact behaves

theorem Behaves.error {C : Conduct panics} {act : Eval α} {m m' : Machine} {abort : Abort}
    (behaves : act.Behaves C m) (ran : act m = .error abort m') : C.step m (some abort) m' := by
  rw [Behaves, stop?_error ran, after_error ran] at behaves
  exact behaves

theorem behaves_of_ok {C : Conduct panics} {act : Eval α} {m m' : Machine} {value : α}
    (ran : act m = .ok value m') (step : C.step m none m') : act.Behaves C m := by
  rw [Behaves, stop?_ok ran, after_ok ran]
  exact step

theorem behaves_of_error {C : Conduct panics} {act : Eval α} {m m' : Machine} {abort : Abort}
    (ran : act m = .error abort m') (step : C.step m (some abort) m') : act.Behaves C m := by
  rw [Behaves, stop?_error ran, after_error ran]
  exact step

theorem Behaves.loose {C : Conduct panics} {act : Eval α} {m : Machine}
    (behaves : act.Behaves C m) : C.step m none (act.after m) := by
  unfold Behaves at behaves
  cases ending : act.stop? m with
  | none =>
    rw [ending] at behaves
    exact behaves
  | some abort =>
    rw [ending] at behaves
    exact C.caught behaves

/-- An action that ends with a value, and what follows it. -/
theorem Behaves.followed {C : Conduct panics} {act : Eval α} {next : α → Eval β} {m m' : Machine}
    {value : α} (step : C.step m none m') (behaves : (next value).Behaves C m')
    (ran : act m = .ok value m') : (act >>= next).Behaves C m := by
  unfold Behaves stop? after
  rw [bind_ok ran]
  exact C.trans step behaves

namespace Concurs

variable {C : Conduct panics} {act other : Eval α}

theorem loose (concurs : Concurs C act other) : Concurs C.loose act other :=
  fun m inside => ⟨(concurs m inside).1, (concurs m inside).2.loose⟩

theorem bind {next next' : α → Eval β} (concurs : Concurs C act other)
    (concursNext : ∀ value, Concurs C (next value) (next' value)) :
    Concurs C (act >>= next) (other >>= next') := by
  intro m inside
  obtain ⟨same, behaves⟩ := concurs m inside
  cases ran : act m with
  | error abort m' =>
    have stops : (act >>= next) m = .error abort m' := bind_error ran
    exact ⟨stops.trans (bind_error (same.symm.trans ran)).symm,
      behaves_of_error stops (behaves.error ran)⟩
  | ok value m' =>
    have goes : (act >>= next) m = next value m' := bind_ok ran
    have goes' : (other >>= next') m = next' value m' := bind_ok (same.symm.trans ran)
    have step := behaves.ok ran
    obtain ⟨same', behaves'⟩ := concursNext value m' (C.stays inside step)
    exact ⟨goes.trans (same'.trans goes'.symm), .followed step behaves' ran⟩

/-- An error that keeps its cause is the same error to a conduct. -/
theorem mapError {f : Machine → EvalError → EvalError} (keeps : ∀ m e, (f m e).cause = e.cause)
    (concurs : Concurs C act other) :
    Concurs C (Eval.mapError act f) (Eval.mapError other f) := by
  intro m inside
  obtain ⟨same, behaves⟩ := concurs m inside
  refine ⟨by rw [Eval.mapError, Eval.mapError, same], ?_⟩
  unfold Behaves stop? after Eval.mapError
  unfold Behaves stop? after at behaves
  rcases ran : act m with ⟨value, m'⟩ | ⟨e | message, m'⟩
  · rw [ran] at behaves
    exact behaves
  · rw [ran] at behaves
    exact C.relabel behaves (keeps m' e)
  · rw [ran] at behaves
    exact behaves

theorem attempt (concurs : Concurs C act other) :
    Concurs C (Eval.attempt act) (Eval.attempt other) := by
  intro m inside
  obtain ⟨same, behaves⟩ := concurs m inside
  refine ⟨by rw [Eval.attempt, Eval.attempt, same], ?_⟩
  unfold Behaves stop? after Eval.attempt
  unfold Behaves stop? after at behaves
  rcases ran : act m with ⟨value, m'⟩ | ⟨e | message, m'⟩
  · rw [ran] at behaves
    exact behaves
  · rw [ran] at behaves
    exact C.caught behaves
  · rw [ran] at behaves
    exact behaves

/-- Between an opening and a closing step, an action runs from another machine. -/
theorem enclosed {inner : Conduct panics} {finish : Machine → Machine} {m opened : Machine}
    (concurs : Concurs inner act other) (inside : inner.within opened)
    (closes : ∀ ending m', inner.step opened ending m' → C.step m ending (finish m')) :
    followedBy act finish opened = followedBy other finish opened
      ∧ C.step m ((followedBy act finish).stop? opened) ((followedBy act finish).after opened) := by
  obtain ⟨same, behaves⟩ := concurs opened inside
  refine ⟨by rw [followedBy, followedBy, same], ?_⟩
  rw [after_followedBy, stop?_followedBy]
  exact closes _ _ behaves

theorem of_same_fail {message : String} {m : Machine} (stops : act m = Eval.fail message m)
    (stops' : other m = Eval.fail message m) : act m = other m ∧ act.Behaves C m :=
  ⟨stops.trans stops'.symm, behaves_of_error stops (C.modest (.refl m) rfl)⟩

/-- Actions that concur still do so one level deeper. -/
theorem nested (concurs : Concurs C act other) :
    Concurs C (Eval.nested act) (Eval.nested other) := by
  intro m inside
  cases entered : m.thread.depth.enter? with
  | none => exact of_same_fail (nested_refused entered) (nested_refused entered)
  | some deeper =>
    unfold Behaves stop? after
    rw [nested_entered entered, nested_entered entered]
    exact concurs.enclosed (C.deeper deeper inside) fun _ _ step => C.leave entered step

end Concurs

/-- Actions that concur under one conduct inside of calls concur under another outside. -/
def Frames (C inner : Conduct panics) : Prop :=
  ∀ {α : Type} {act other : Eval α} (frame : Frame), Concurs inner act other →
    Concurs C (Eval.inFrame frame act) (Eval.inFrame frame other)

theorem frames_of_enclosing {C inner : Conduct panics}
    (opens : ∀ {m : Machine} {stack : CallStack} {frame : Frame}, C.within m →
      m.thread.stack.push? frame = some stack → inner.within (m.withStack stack))
    (closes : ∀ {m m' : Machine} {stack : CallStack} {frame : Frame} {ending : Option Abort},
      m.thread.stack.push? frame = some stack → inner.step (m.withStack stack) ending m' →
        C.step m ending (m'.withStack m'.thread.stack.pop)) : Frames C inner := by
  intro α act other frame concurs m inside
  cases pushed : m.thread.stack.push? frame with
  | none => exact Concurs.of_same_fail (inFrame_refused pushed) (inFrame_refused pushed)
  | some stack =>
    unfold Behaves stop? after
    rw [inFrame_pushed pushed, inFrame_pushed pushed]
    exact concurs.enclosed (opens inside pushed) fun _ _ step => closes pushed step

end Eval

/-! ## The conduct of modest actions -/

/-- The conduct of actions that leave alone what only calls, cancelling and loading change. -/
def Conduct.modesty (panics : Prop) : Conduct panics where
  within _ := True
  step m ending m' := m.Untouched m' ∧ Mild panics ending
  stays _ _ := trivial
  trans first second := ⟨first.1.trans second.1, second.2⟩
  modest untouched mild := ⟨untouched, mild⟩
  caught step := ⟨step.1, trivial⟩
  relabel step same := ⟨step.1, same.trans step.2⟩
  deeper _ _ := trivial
  leave entered step :=
    ⟨⟨Machine.posture_leave entered step.1.posture, step.1.cell, step.1.told, step.1.loading⟩,
      step.2⟩

namespace Eval

variable {α β : Type} {panics : Prop}

/-- An action that leaves alone what only calls, cancelling and loading change. -/
def Modest (panics : Prop) (act : Eval α) : Prop :=
  Obeys (.modesty panics) act

namespace Modest

/-- Modest actions obey every conduct. -/
theorem concurs {C : Conduct panics} {act : Eval α} (modest : Modest panics act) :
    Concurs C act act := by
  intro m _
  obtain ⟨untouched, mild⟩ := (modest m trivial).2
  exact ⟨rfl, C.modest untouched mild⟩

@[grind ←]
theorem bind {act : Eval α} {next : α → Eval β} (modest : Modest panics act)
    (modestNext : ∀ value, Modest panics (next value)) : Modest panics (act >>= next) :=
  Concurs.bind modest modestNext

theorem of_ok {act : Eval α}
    (steps : ∀ m : Machine, ∃ value m', act m = .ok value m' ∧ m.Untouched m') :
    Modest panics act := by
  intro m _
  obtain ⟨value, m', ran, untouched⟩ := steps m
  exact ⟨rfl, behaves_of_ok ran ⟨untouched, trivial⟩⟩

@[grind ←]
theorem pure (value : α) : Modest panics (Pure.pure value : Eval α) :=
  of_ok fun m => ⟨_, _, rfl, .refl m⟩

theorem throw {e : EvalError} (uncaused : e.cause = none) :
    Modest panics (MonadExcept.throw (.error e) : Eval α) :=
  fun m _ => ⟨rfl, .refl m, uncaused⟩

/-- The host may fail where that is allowed. -/
theorem throw_panic (allowed : panics) (message : String) :
    Modest panics (MonadExcept.throw (.panic message) : Eval α) :=
  fun m _ => ⟨rfl, .refl m, allowed⟩

@[grind ←]
theorem fail (message : String) : Modest panics (Eval.fail message : Eval α) :=
  throw rfl

@[grind ←]
theorem read (f : Machine → α) : Modest panics (Eval.read f) :=
  of_ok fun m => ⟨_, _, rfl, .refl m⟩

@[grind ←]
theorem readHeap (f : Heap → α) : Modest panics (Eval.readHeap f) :=
  read _

/-- A change of something else. -/
theorem modify {f : Machine → Machine} (untouched : ∀ m : Machine, m.Untouched (f m)) :
    Modest panics (MonadState.modifyGet fun m => ((), f m) : Eval Unit) :=
  of_ok fun m => ⟨_, _, rfl, untouched m⟩

theorem moveTo (pos : Position) : Modest panics (Eval.moveTo pos) :=
  modify fun m => m.untouched_movedTo pos

@[grind ←]
theorem newToken : Modest panics Eval.newToken :=
  of_ok fun _ => ⟨_, _, rfl, rfl, rfl, id, rfl⟩

/-- A refusal in one case only. -/
theorem guarded {c : Prop} [Decidable c] {message : String} {next : Eval α}
    (modest : Modest panics next) :
    Modest panics (if c then (Eval.fail message : Eval PUnit) >>= fun _ => next else next) := by
  split
  · exact bind (fail message) fun _ => modest
  · exact modest

end Modest

end Eval

/-! ## The posture as a conduct -/

/-- The conduct of actions that, where so many calls are open, leave the posture as it was. -/
def Conduct.posture (panics : Prop) (calls : Nat) : Conduct panics where
  within m := calls ≤ m.openCalls
  step m ending m' := m'.posture = m.posture ∧ ∀ message, ending = some (.panic message) → panics
  stays open_ step := by
    rw [Machine.openCalls_eq, step.1, ← Machine.openCalls_eq]
    exact open_
  trans first second := ⟨second.1.trans first.1, second.2⟩
  modest untouched mild := ⟨untouched.posture, by rintro message rfl; exact mild⟩
  caught step := ⟨step.1, nofun⟩
  relabel step _ := ⟨step.1, nofun⟩
  deeper _ open_ := open_
  leave entered step := ⟨Machine.posture_leave entered step.1, step.2⟩

namespace Eval

variable {α β : Type} {panics : Prop} {calls : Nat}

/-- Inside a call one more call is open. -/
theorem posture_frames : Frames (.posture panics calls) (.posture panics (calls + 1)) := by
  refine frames_of_enclosing ?_ ?_
  · intro m stack frame open_ pushed
    show calls + 1 ≤ stack.frames.length
    rw [frames_of_push pushed, List.length_cons]
    exact Nat.succ_le_succ open_
  · rintro m m' stack frame ending pushed ⟨same, fails⟩
    refine ⟨?_, fails⟩
    have calls_ : m'.posture.calls = frame.call :: m.posture.calls := by
      rw [same]
      show stack.frames.map Frame.call = _
      rw [frames_of_push pushed]
      rfl
    have depth : m'.posture.depth = m.posture.depth := by rw [same]; rfl
    show Posture.mk (m'.thread.stack.frames.tail.map Frame.call) m'.posture.depth = m.posture
    have tail : m'.thread.stack.frames.tail.map Frame.call = m'.posture.calls.tail :=
      List.map_tail
    rw [tail, calls_, depth]
    rfl

theorem panics_iff {act : Eval α} {m : Machine} :
    act.Panics m ↔ ∃ message, act.stop? m = some (.panic message) := by
  unfold Panics stop?
  rcases act m with ⟨value, m'⟩ | ⟨abort, m'⟩
  · simp
  · simp

theorem agree_iff {act other : Eval α} :
    Agree panics calls act other ↔ Concurs (.posture panics calls) act other := by
  refine forall₂_congr fun m _ => and_congr Iff.rfl (and_congr Iff.rfl ?_)
  rw [panics_iff, exists_imp]

theorem steady_iff {act : Eval α} : Steady panics act ↔ Obeys (.posture panics 0) act :=
  ⟨fun steady => agree_iff.mp steady.agree, fun obeys => (agree_iff.mpr obeys).steady⟩

/-! ## Steady actions -/

namespace Steady

@[grind ←]
theorem of_modest {act : Eval α} (modest : Modest panics act) : Steady panics act :=
  steady_iff.mpr modest.concurs

@[grind ←]
theorem bind {act : Eval α} {next : α → Eval β} (steady : Steady panics act)
    (steadyNext : ∀ value, Steady panics (next value)) : Steady panics (act >>= next) :=
  steady_iff.mpr ((steady_iff.mp steady).bind fun value => steady_iff.mp (steadyNext value))

theorem pure (value : α) : Steady panics (Pure.pure value : Eval α) :=
  of_modest (.pure value)

/-- A change that does not touch the posture. -/
theorem modify {f : Machine → Machine} (same : ∀ m, (f m).posture = m.posture) :
    Steady panics (MonadState.modifyGet fun m => ((), f m) : Eval Unit) :=
  fun m => ⟨same m, fun failed => absurd failed (@not_panics_ok _ _ _ _ () rfl)⟩

/-- What runs on a thread of its own leaves the running thread as it was. -/
theorem onThread (name : String) {act : Eval α} (returns : ∀ m, act.Panics m → panics) :
    Steady panics (Eval.onThread name act) := by
  intro m
  refine ⟨?_, fun failed => ?_⟩
  · rw [after, onThread_eq]
    show ((followedBy act (endThread m.thread)).after _).posture = _
    rw [after_followedBy]
    rfl
  · obtain ⟨message, m', failed⟩ := failed
    rw [onThread_eq] at failed
    exact returns _ (panics_of_followedBy ⟨message, m', failed⟩)

end Steady

end Eval

end PixelApplet
