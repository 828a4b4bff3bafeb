import PixelApplet.Proofs.Evaluation.Discipline
import PixelApplet.Proofs.Evaluation.ErrorCourse

/-!
# Tracebacks are the calls that were in progress

Whatever stops a call, or the execution of a file, with an error, the error was raised by something
that marks none, or for want of room, and left a course that is possible where it started.  This is
shown for what is called, for what is evaluated and for what is executed, by an induction on the
syntax and on the calls that may still be opened.  What the error shows follows from its course.
-/

namespace PixelApplet

namespace Eval

variable {α β : Type} {m m' : Machine} {e : EvalError}

/-- An action raises an error, which leaves a course. -/
inductive Raises : {α : Type} → Eval α → Machine → EvalError → List Layer → Machine → Prop where
  | routine {α : Type} {act : Eval α} {m m' : Machine} {e : EvalError} (routine : Routine act)
    (ran : act m = .error (.error e) m') : Raises act m e [] m'
  | thrown {α : Type} {m : Machine} (e : EvalError) :
    Raises (MonadExcept.throw (.error e) : Eval α) m e [] m
  | first {α β : Type} {act : Eval α} {next : α → Eval β} {m m' : Machine} {e : EvalError}
    {course : List Layer} (within : Raises act m e course m') : Raises (act >>= next) m e course m'
  | later {α β : Type} {act : Eval α} {next : α → Eval β} {m between m' : Machine} {value : α}
    {e : EvalError} {course : List Layer} (ran : act m = .ok value between)
    (within : Raises (next value) between e course m') : Raises (act >>= next) m e course m'
  | tooDeep {α : Type} {act : Eval α} {m : Machine} (full : m.thread.depth.enter? = none) :
    Raises (Eval.nested act) m (.ofMessage s!"expression nesting exceeds {deepestNesting}") [] m
  | nested {α : Type} {act : Eval α} {m m' : Machine} {deeper : Depth} {e : EvalError}
    {course : List Layer} (entered : m.thread.depth.enter? = some deeper)
    (within : Raises act (m.atDepth deeper) e course m') :
    Raises (Eval.nested act) m e course (m'.atDepth m'.thread.depth.leave)
  /-- What is refused for want of room is raised outside of the body. -/
  | noRoom {α : Type} {act : Eval α} {m : Machine} {frame : Frame}
    (full : m.thread.stack.push? frame = none) :
    Raises (Eval.inFrame frame act) m (.ofMessage s!"call stack depth exceeds {deepestCalls}") [] m
  | body {α : Type} {act : Eval α} {m m' : Machine} {frame : Frame} {stack : CallStack}
    {e : EvalError} {course : List Layer} (pushed : m.thread.stack.push? frame = some stack)
    (within : Raises act (m.withStack stack) e course m') :
    Raises (Eval.inFrame frame act) m e (.body frame :: course)
      (m'.withStack m'.thread.stack.pop)
  | call {act : Eval Value} {m m' : Machine} {pos : Position} {e : EvalError}
    {course : List Layer} (within : Raises act (m.movedTo pos) e course m') :
    Raises (moveTo pos >>= fun _ => act) m e (.call pos :: course) m'
  | statement {α : Type} {act : Eval α} {m m' : Machine} {pos : Position} {e : EvalError}
    {course : List Layer}
    (within : Raises (checkCancelled >>= fun _ => act) (m.movedTo pos) e course m') :
    Raises (marked pos act) m e (.statement m'.thread.stack :: course) m'
  | builtin {b : Builtin Value} {callBack : Caller} {arguments : Arguments} {m m' : Machine}
    {e : EvalError} {course : List Layer}
    (within : Raises (b.run callBack arguments) m e course m') :
    Raises (mapError (b.run callBack arguments) fun _ e => e.blame b.name) m e
      (.builtin b.name :: course) m'

/-- What is raised stops the action, marked by its course. -/
theorem Raises.ran {act : Eval α} {course : List Layer} (raises : Raises act m e course m') :
    act m = .error (.error (e.leaving course)) m' := by
  induction raises with
  | routine _ ran => exact ran
  | thrown e => rfl
  | first _ ih => exact bind_error ih
  | later ran _ ih => exact (bind_ok ran).trans ih
  | tooDeep full => exact nested_refused full
  | nested entered _ ih => rw [nested_entered entered, followedBy, ih]
  | noRoom full => exact inFrame_refused full
  | body pushed _ ih =>
    rw [inFrame_pushed pushed, followedBy, ih]
    rfl
  | @call act m _ pos _ _ _ ih =>
    have moves : moveTo pos m = .ok () (m.movedTo pos) := rfl
    exact (bind_ok moves).trans ih
  | @statement _ _ m _ pos _ _ _ ih =>
    have moves : moveTo pos m = .ok () (m.movedTo pos) := rfl
    rw [marked, bind_ok moves, mapError, ih]
    rfl
  | builtin _ ih =>
    rw [mapError, ih]
    rfl

/-! ## Where errors come from -/

theorem error_of_bind {act : Eval α} {next : α → Eval β} {abort : Abort}
    (ran : (act >>= next) m = .error abort m') :
    act m = .error abort m'
      ∨ ∃ value between, act m = .ok value between ∧ next value between = .error abort m' := by
  cases first : act m with
  | ok value between =>
    rw [bind_ok first] at ran
    exact .inr ⟨value, between, rfl, ran⟩
  | error abort' between =>
    rw [bind_error first] at ran
    cases ran
    exact .inl rfl

theorem error_of_followedBy {act : Eval α} {finish : Machine → Machine} {abort : Abort}
    (ran : followedBy act finish m = .error abort m') :
    ∃ between, act m = .error abort between ∧ m' = finish between := by
  unfold followedBy at ran
  split at ran
  · cases ran
  · cases ran
    exact ⟨_, ‹_›, rfl⟩

theorem error_of_mapError {act : Eval α} {f : Machine → EvalError → EvalError}
    (ran : mapError act f m = .error (.error e) m') :
    ∃ inner, act m = .error (.error inner) m' := by
  unfold mapError at ran
  split at ran
  · cases ran
  · cases ran
    exact ⟨_, ‹_›⟩
  · cases ran

theorem Routine.unmarked {act : Eval α} (routine : Routine act)
    (ran : act m = .error (.error e) m') : e.Unmarked := by
  induction routine generalizing m with
  | bind _ _ first rest =>
    rcases error_of_bind ran with stops | ⟨value, between, -, stops⟩
    · exact first stops
    · exact rest value stops
  | fail message =>
    cases ran
    exact ⟨rfl, rfl⟩
  | changeList ref f =>
    cases frozen : (m.heap.list ref).frozen with
    | true =>
      rw [changeList_of_frozen frozen] at ran
      cases ran
      exact ⟨rfl, rfl⟩
    | false =>
      rw [changeList_of_thawed frozen] at ran
      cases ran
  | changeDict ref f =>
    cases frozen : (m.heap.dict ref).frozen with
    | true =>
      rw [changeDict_of_frozen frozen] at ran
      cases ran
      exact ⟨rfl, rfl⟩
    | false =>
      rw [changeDict_of_thawed frozen] at ran
      cases ran
  | report message =>
    cases logs : m.log? with
    | none =>
      rw [report_of_no_log logs] at ran
      cases ran
      exact ⟨rfl, rfl⟩
    | some messages =>
      rw [report_of_log logs] at ran
      cases ran
  | _ => cases ran

/-- An action leaves the calls of the running thread alone, and no error stops it. -/
def Settled (act : Eval α) : Prop :=
  ∀ m, (act.after m).thread.stack = m.thread.stack ∧ ∀ e m', act m ≠ .error (.error e) m'

/-- An action keeps the open calls, and accounts for its errors by courses that are possible where
it starts. -/
structure Accounts (stage : Stage) (act : Eval α) : Prop where
  keeps : ∀ m : Machine, stage.Keeps m.thread.stack.frames (act.after m).thread.stack.frames
  raises : ∀ m e m', act m = .error (.error e) m' → ∃ raw course, raw.Unmarked
    ∧ Raises act m raw course m' ∧ Crosses stage m.thread.stack.frames course

namespace Accounts

variable {stage : Stage} {act : Eval α}

theorem of_routine (raised : ∀ frames, Crosses stage frames []) (routine : Routine act) :
    Accounts stage act where
  keeps m := .of_eq (congrArg CallStack.frames (routine.undisturbed m).1.stack).symm
  raises _ e _ ran := ⟨e, [], routine.unmarked ran, .routine routine ran, raised _⟩

/-- An action that no error stops. -/
theorem of_settled (settled : Settled act) : Accounts stage act where
  keeps m := .of_eq (congrArg CallStack.frames (settled m).1).symm
  raises m e m' ran := absurd ran ((settled m).2 e m')

theorem pure (value : α) : Accounts stage (Pure.pure value : Eval α) :=
  of_settled fun _ => ⟨rfl, fun _ _ ran => nomatch ran⟩

theorem bind {next : α → Eval β} (accounts : Accounts stage act)
    (accountsNext : ∀ value, Accounts stage (next value)) : Accounts stage (act >>= next) where
  keeps m := by
    have keeps := accounts.keeps m
    cases ran : act m with
    | error abort between =>
      rw [after_error ran] at keeps
      rw [after_error (bind_error ran)]
      exact keeps
    | ok value between =>
      rw [after_ok ran] at keeps
      have goes : (act >>= next).after m = (next value).after between := by
        rw [after, bind_ok ran, after]
      exact goes ▸ keeps.trans ((accountsNext value).keeps between)
  raises m e m' ran := by
    rcases error_of_bind ran with stops | ⟨value, between, first, stops⟩
    · obtain ⟨raw, course, unmarked, raises, crosses⟩ := accounts.raises m e m' stops
      exact ⟨raw, course, unmarked, .first raises, crosses⟩
    · obtain ⟨raw, course, unmarked, raises, crosses⟩ :=
        (accountsNext value).raises between e m' stops
      have keeps := accounts.keeps m
      rw [after_ok first] at keeps
      exact ⟨raw, course, unmarked, .later first raises, crosses.of_keeps keeps⟩

theorem attempt (accounts : Accounts stage act) : Accounts stage (Eval.attempt act) where
  keeps m := by
    rw [after_attempt]
    exact accounts.keeps m
  raises m e m' ran := by
    unfold Eval.attempt at ran
    split at ran <;> cases ran

theorem nested (raised : ∀ frames, Crosses stage frames []) (accounts : Accounts stage act) :
    Accounts stage (Eval.nested act) where
  keeps m := by
    cases entered : m.thread.depth.enter? with
    | none =>
      rw [after, nested_refused entered]
      exact .of_eq rfl
    | some deeper =>
      rw [after, nested_entered entered]
      show stage.Keeps _ ((followedBy act _).after _).thread.stack.frames
      rw [after_followedBy]
      exact accounts.keeps (m.atDepth deeper)
  raises m e m' ran := by
    cases entered : m.thread.depth.enter? with
    | none =>
      rw [nested_refused entered] at ran
      cases ran
      exact ⟨_, [], ⟨rfl, rfl⟩, .tooDeep entered, raised _⟩
    | some deeper =>
      rw [nested_entered entered] at ran
      obtain ⟨between, stops, rfl⟩ := error_of_followedBy ran
      obtain ⟨raw, course, unmarked, raises, crosses⟩ := accounts.raises _ e between stops
      exact ⟨raw, course, unmarked, .nested entered raises, crosses⟩

/-- What is called, and what is evaluated, is put together from actions that account for their
errors. -/
theorem groundwork (raised : ∀ frames, Crosses stage frames []) :
    Groundwork fun act => Accounts stage act where
  routine := of_routine raised
  bind := bind
  attempt accounts := bind (attempt accounts) fun _ => of_routine raised (.pure _)
  nested := nested raised
  panics message := of_settled fun _ => ⟨rfl, fun _ _ ran => nomatch ran⟩
  stores key value expires := of_settled fun _ => ⟨rfl, fun _ _ ran => nomatch ran⟩
  cancels reason := by
    refine of_settled fun m => ⟨?_, fun _ _ ran => nomatch ran⟩
    unfold after
    dsimp only [modifyGet, MonadStateOf.modifyGet, EStateM.modifyGet]
    split
    · rw [thread_cancelToken]
    · rfl

/-! ## Calls, statements and bodies -/

theorem calling : Groundwork fun act => Accounts .calling act :=
  groundwork fun _ => .called

theorem evaluating : Groundwork fun act => Accounts .evaluating act :=
  groundwork fun _ => .evaluated

theorem executed (accounts : Accounts .executing act) : Accounts .evaluating act where
  keeps := accounts.keeps
  raises m e m' ran := by
    obtain ⟨raw, course, unmarked, raises, crosses⟩ := accounts.raises m e m' ran
    exact ⟨raw, course, unmarked, raises, .inner crosses⟩

/-- The innermost call moves to the call expression, and then something is called. -/
theorem called {act : Eval Value} (accounts : Accounts .calling act) (pos : Position) :
    Accounts .evaluating (moveTo pos >>= fun _ => act) := by
  have moves (m : Machine) : moveTo pos m = .ok () (m.movedTo pos) := rfl
  have frames (m : Machine) :
      (m.movedTo pos).thread.stack.frames = Frame.moveTo pos m.thread.stack.frames :=
    m.thread.stack.frames_moveTo pos
  refine ⟨fun m => ?_, fun m e m' ran => ?_⟩
  · have keeps : _ = _ := accounts.keeps (m.movedTo pos)
    have goes : (moveTo pos >>= fun _ => act).after m = act.after (m.movedTo pos) := by
      rw [after, bind_ok (moves m), after]
    rw [goes, ← keeps, frames]
    exact (Frame.SameCalls.moveTo pos _).symm
  · rw [bind_ok (moves m)] at ran
    obtain ⟨raw, course, unmarked, raises, crosses⟩ := accounts.raises _ e m' ran
    exact ⟨raw, _, unmarked, .call raises, .call (frames m ▸ crosses)⟩

theorem marked (accounts : Accounts .evaluating act) (pos : Position) :
    Accounts .executing (Eval.marked pos act) := by
  have moves (m : Machine) : moveTo pos m = .ok () (m.movedTo pos) := rfl
  have frames (m : Machine) :
      Frame.SameCalls m.thread.stack.frames (m.movedTo pos).thread.stack.frames :=
    m.thread.stack.frames_moveTo pos ▸ (Frame.SameCalls.moveTo pos _).symm
  have checked : Accounts .evaluating (checkCancelled >>= fun _ => act) :=
    evaluating.after_routine .checkCancelled fun _ => accounts
  refine ⟨fun m => ?_, fun m e m' ran => ?_⟩
  · rw [after, Eval.marked, bind_ok (moves m)]
    show Frame.SameCalls _ ((mapError _ _).after _).thread.stack.frames
    rw [after_mapError]
    exact (frames m).trans (checked.keeps (m.movedTo pos))
  · rw [Eval.marked, bind_ok (moves m)] at ran
    obtain ⟨inner, stops⟩ := error_of_mapError ran
    obtain ⟨raw, course, unmarked, raises, crosses⟩ := checked.raises _ inner m' stops
    have keeps := checked.keeps (m.movedTo pos)
    rw [after_error stops] at keeps
    exact ⟨raw, _, unmarked, .statement raises,
      .statement ((frames m).trans keeps) (crosses.of_keeps (frames m))⟩

theorem executes :
    Relation.Executes (fun _ act _ => Accounts .evaluating act)
      fun _ act _ => Accounts .executing act where
  pure := pure
  bind := bind
  marked pos _ _ woven := (evaluating.woven woven).marked pos
  woven accounts := .of_related accounts.executed

theorem inFrame (accounts : Accounts .executing act) (frame : Frame) :
    Accounts .calling (Eval.inFrame frame act) := by
  refine ⟨fun m => ?_, fun m e m' ran => ?_⟩
  · cases pushed : m.thread.stack.push? frame with
    | none =>
      rw [after, inFrame_refused pushed]
      rfl
    | some stack =>
      have keeps : Frame.SameCalls _ _ := accounts.keeps (m.withStack stack)
      rw [after, inFrame_pushed pushed]
      show _ = ((followedBy act _).after _).thread.stack.frames
      rw [after_followedBy]
      show _ = (act.after (m.withStack stack)).thread.stack.frames.tail
      rw [← keeps.2]
      exact congrArg List.tail (frames_of_push pushed).symm
  · cases pushed : m.thread.stack.push? frame with
    | none =>
      rw [inFrame_refused pushed] at ran
      cases ran
      exact ⟨_, [], ⟨rfl, rfl⟩, .noRoom pushed, .called⟩
    | some stack =>
      rw [inFrame_pushed pushed] at ran
      obtain ⟨between, stops, rfl⟩ := error_of_followedBy ran
      obtain ⟨raw, course, unmarked, raises, crosses⟩ := accounts.raises _ e between stops
      exact ⟨raw, _, unmarked, .body pushed raises, .body (frames_of_push pushed ▸ crosses)⟩

theorem blamed {b : Builtin Value} {callBack : Caller} {arguments : Arguments}
    (accounts : Accounts .calling (b.run callBack arguments)) :
    Accounts .calling (mapError (b.run callBack arguments) fun _ e => e.blame b.name) where
  keeps m := by
    rw [after_mapError]
    exact accounts.keeps m
  raises m e m' ran := by
    obtain ⟨inner, stops⟩ := error_of_mapError ran
    obtain ⟨raw, course, unmarked, raises, crosses⟩ := accounts.raises m inner m' stops
    exact ⟨raw, _, unmarked, .builtin raises, .builtin b.name crosses⟩

theorem callOnce {enter : Entry} {callBack : Caller}
    (enters : ∀ f arguments, Accounts .calling (enter f arguments))
    (back : ∀ callee arguments, Accounts .calling (callBack callee arguments)) (callee : Value)
    (arguments : Arguments) :
    Accounts .calling (PixelApplet.callOnce enter callBack callee arguments) := by
  refine calling.after_routine .checkCancelled fun _ => ?_
  cases callee with
  | function identity f => exact enters f arguments
  | builtin identity b => exact (calling.builtin back b arguments).blamed
  | _ => exact calling.fail _

theorem callWith {enter : Entry} (enters : ∀ f arguments, Accounts .calling (enter f arguments))
    (callee : Value) (arguments : Arguments) :
    Accounts .calling (PixelApplet.callWith enter callee arguments) :=
  callOnce enters (callOnce enters fun _ _ => calling.fail _) callee arguments

end Accounts

end Eval

/-- That a module cannot be loaded is a result of what finds it, and not an error which stops it. -/
def Loader.Settles (load : Loader) : Prop :=
  ∀ find ∈ load, ∀ module, Eval.Settled (find module)

namespace Eval.Accounts

variable {load : Loader} (settles : load.Settles)
include settles

theorem loadModule (home : ModuleRef) (module : String) (bindings : List LoadBinding) :
    Accounts .evaluating (PixelApplet.loadModule load home module bindings) := by
  cases load with
  | none => exact evaluating.fail _
  | some find =>
    have finds : Accounts .evaluating (find module) :=
      of_settled (settles find rfl module)
    refine finds.bind fun found => ?_
    cases found with
    | ok loaded => exact evaluating.routine (.bindLoaded bindings)
    | error fault =>
      refine ⟨fun _ => .of_eq rfl, fun m e m' ran => ?_⟩
      cases ran
      exact ⟨_, [], ⟨rfl, rfl⟩, .thrown _, .evaluated⟩

section Calls

variable {call : Caller} (calls : ∀ callee arguments, Accounts .calling (call callee arguments))
include calls

theorem execBlock (scope : Scope) (block : Block) :
    Accounts .executing (PixelApplet.execBlock call load scope block) := by
  have alike : call.Woven (fun _ act _ => Accounts .evaluating act) call :=
    fun pos callee arguments => .of_related ((calls callee arguments).called pos)
  exact Woven.execBlock alike executes
    (fun home module bindings => .of_related (loadModule settles home module bindings)) block

theorem enterFunction (f : Function Value) (arguments : Arguments) :
    Accounts .calling (PixelApplet.enterFunction call load f arguments) := by
  refine calling.after_routine (.readHeap _) fun held => ?_
  split
  · refine calling.after_routine (.accept _ _) fun bound => ?_
    refine calling.after_routine (.bindLocals bound []) fun locals => inFrame ?_ _
    refine (execBlock settles calls _ _).bind fun left => ?_
    obtain ⟨flow, scope⟩ := left
    cases flow <;> exact pure _
  · exact calling.fail _

end Calls

/-- Calls account for their errors, however deep they may be nested. -/
theorem callTo (levels : Nat) (callee : Value) (arguments : Arguments) :
    Accounts .calling (PixelApplet.callTo load levels callee arguments) := by
  induction levels generalizing callee arguments with
  | zero => exact callWith (fun _ _ => calling.fail _) callee arguments
  | succ levels ih => exact callWith (enterFunction settles ih) callee arguments

theorem executeFile (name source : String) (predeclared : Bindings Value) :
    Accounts .calling (PixelApplet.executeFile load name source predeclared) := by
  unfold PixelApplet.executeFile
  split
  · exact pure _
  · refine calling.after_routine (.newModule _) fun home => ?_
    refine (inFrame (execBlock settles (callTo settles _) _ _) _).bind fun _ => ?_
    exact calling.after_routine (.freezeModule _) fun _ => pure _

end Eval.Accounts

/-! ## What a traceback lists -/

namespace Eval

variable {α : Type} {act : Eval α}

/-- Whatever error stops an action, it shows the course that it has left since it was raised. -/
def ShowsCourses (act : Eval α) : Prop :=
  ∀ m e m', act m = .error (.error e) m' → ∃ raw course, raw.Unmarked
    ∧ Raises act m raw course m' ∧ Crosses .calling m.thread.stack.frames course
    ∧ e.Shows m.thread.stack.frames raw course

/-- Whatever error stops an action, all lines of its traceback but the last show the place of the
call expression that was being evaluated there. -/
def PlacesCalls (act : Eval α) : Prop :=
  ∀ m e m', act m = .error (.error e) m' → ∃ raw course, raw.Unmarked
    ∧ Raises act m raw course m' ∧ Crosses .calling m.thread.stack.frames course
    ∧ e.PlacesCalls m.thread.stack.frames course

theorem Raises.eq_leaving {m m' : Machine} {raw e : EvalError} {course : List Layer}
    (raises : Raises act m raw course m') (ran : act m = .error (.error e) m') :
    raw.leaving course = e := by
  have same := raises.ran.symm.trans ran
  cases same
  rfl

theorem Accounts.showsCourses (accounts : Accounts .calling act) : act.ShowsCourses := by
  intro m e m' ran
  obtain ⟨raw, course, unmarked, raises, crosses⟩ := accounts.raises m e m' ran
  exact ⟨raw, course, unmarked, raises, crosses, raises.eq_leaving ran ▸ crosses.shows unmarked⟩

theorem Accounts.placesCalls (accounts : Accounts .calling act) : act.PlacesCalls := by
  intro m e m' ran
  obtain ⟨raw, course, unmarked, raises, crosses⟩ := accounts.raises m e m' ran
  exact ⟨raw, course, unmarked, raises, crosses,
    raises.eq_leaving ran ▸ crosses.placesCalls unmarked⟩

end Eval

section Entering

variable {call : Caller} {load : Loader} {f : Function Value} {arguments : Arguments} {m : Machine}

theorem exists_of_bindLocals (bound : List (String × Bound)) (locals : Bindings Value)
    (m : Machine) : ∃ all m', bindLocals bound locals m = .ok all m' := by
  induction bound generalizing locals m with
  | nil => exact ⟨locals, m, rfl⟩
  | cons binding rest ih =>
    obtain ⟨name, value | named⟩ := binding
    · exact ih _ m
    · have makes : Eval.newDict (.ofBindings named) m
          = .ok (.dict m.heap.nextDict) { m with heap := m.heap.addDict (.ofBindings named) } := rfl
      obtain ⟨all, m', ran⟩ := ih (locals.insert name (.dict m.heap.nextDict)) _
      exact ⟨all, m', (Eval.bind_ok makes).trans ran⟩

/-- Arguments that do not fit are refused before the body is entered. -/
theorem raises_of_misfit {fault : BindingFault} (held : (m.heap.module f.home).held = true)
    (misfits : f.bind arguments = .error fault) :
    Eval.Raises (enterFunction call load f arguments) m (.ofMessage fault.text) [] m := by
  have looks : Eval.readHeap (fun h => (h.module f.home).held) m = .ok true m := by
    rw [← held]
    rfl
  have refuses : Eval.accept BindingFault.text (f.bind arguments) m
      = .error (.error (.ofMessage fault.text)) m := by
    rw [misfits]
    rfl
  exact .later looks (.first (.routine (.accept _ _) refuses))

/-- A call for which there is no room is refused before the body is entered. -/
theorem raises_of_noRoom {bound : List (String × Bound)}
    (held : (m.heap.module f.home).held = true) (fits : f.bind arguments = .ok bound)
    (full : m.openCalls = deepestCalls) : ∃ m',
    Eval.Raises (enterFunction call load f arguments) m
      (.ofMessage s!"call stack depth exceeds {deepestCalls}") [] m'
      ∧ m'.thread.stack = m.thread.stack := by
  have looks : Eval.readHeap (fun h => (h.module f.home).held) m = .ok true m := by
    rw [← held]
    rfl
  have accepts : Eval.accept BindingFault.text (f.bind arguments) m = .ok bound m := by
    rw [fits]
    rfl
  obtain ⟨locals, m', binds⟩ := exists_of_bindLocals bound [] m
  have same : m'.thread.stack = m.thread.stack := by
    have undisturbed := ((Eval.Routine.bindLocals bound []).undisturbed m).1
    rw [Eval.after_ok binds] at undisturbed
    exact undisturbed.stack
  have noRoom (frame : Frame) : m'.thread.stack.push? frame = none := by
    unfold CallStack.push?
    rw [same]
    exact dif_neg (Nat.not_lt.mpr (Nat.le_of_eq full.symm))
  exact ⟨m', .later looks (.later accepts (.later binds (.noRoom (noRoom _)))), same⟩

end Entering

/-- Whatever error stops a call or the execution of a file, its traceback lists the calls that were
open when the innermost statement failed, and it names the builtin function that was in progress in
that statement, if there was one.  Calls are refused while their caller is the innermost. -/
theorem tracebacks_show_open_calls (load : Loader) (settles : load.Settles) :
    (∀ callee arguments, (callValue load callee arguments).ShowsCourses)
      ∧ (∀ name source predeclared, (executeFile load name source predeclared).ShowsCourses)
      ∧ ∀ (call : Caller) (f : Function Value) (arguments : Arguments) (m : Machine),
        (m.heap.module f.home).held = true →
          (∀ fault, f.bind arguments = .error fault →
            Eval.Raises (enterFunction call load f arguments) m (.ofMessage fault.text) [] m)
          ∧ (∀ bound, f.bind arguments = .ok bound → m.openCalls = 128 → ∃ m',
            Eval.Raises (enterFunction call load f arguments) m
              (.ofMessage "call stack depth exceeds 128") [] m'
              ∧ m'.thread.stack = m.thread.stack) := by
  refine ⟨fun callee arguments => ?_, fun name source predeclared => ?_,
    fun call f arguments m held => ⟨fun fault misfits => ?_, fun bound fits full => ?_⟩⟩
  · exact (Eval.Accounts.callTo settles _ callee arguments).showsCourses
  · exact (Eval.Accounts.executeFile settles name source predeclared).showsCourses
  · exact raises_of_misfit held misfits
  · exact raises_of_noRoom held fits full

/-- A loader that finds no module. -/
def Loader.refusing : Loader :=
  some fun module => pure (.error (.refused s!"no module {module}"))

theorem Loader.settles_refusing : Loader.refusing.Settles := by
  rintro find ⟨⟩ module m
  exact ⟨rfl, fun e m' ran => nomatch ran⟩

/-- A script in which a function fails that a builtin function calls back. -/
def failingKeyScript : String :=
  "def invert(x):\n    return 1 // x\nsorted([2, 0], key = invert)\n"

/-- The calls that the error which ended a run lists, and the builtin function that it names. -/
def Eval.listed? {α : Type} :
    EStateM.Result Abort Machine α → Option (List (String × String) × Option String)
  | .error (.error e) _ => some (e.backtrace.map StackFrame.call, e.callee)
  | _ => none

theorem failingKeyScript_listed :
    Eval.listed? (executeFile .refusing "keys.star" failingKeyScript [] (.initial (.under [])))
      = some ([("<toplevel>", "keys.star"), ("invert", "keys.star")], none) := by
  decide +kernel

/-- A function with one parameter, of a module that is there. -/
def lonelyFunction : Function Value :=
  ⟨.mk "invert" .nowhere [.mk "x" .nowhere .required] [], ⟨0⟩, [none], none, "keys.star"⟩

/-- A machine with as many open calls as there may be, and with the module of the function. -/
def crowdedMachine : Machine :=
  { Machine.initial (.under []) with
    heap := Heap.initial.addModule (.ofFile "keys.star" [])
    thread := { Thread.named "" ⟨0⟩ with
      stack := ⟨List.replicate 128 ⟨"invert", "keys.star", .nowhere⟩,
        Nat.le_of_eq List.length_replicate⟩ } }

/-- The function that is called back is listed, and so the builtin function is not named; neither a
call without its argument nor one for which there is no room enters a function. -/
theorem failingKeyScript_shows_invert :
    (∃ e m' raw course,
      executeFile .refusing "keys.star" failingKeyScript [] (.initial (.under []))
          = .error (.error e) m'
        ∧ e.backtrace.map StackFrame.call = [("<toplevel>", "keys.star"), ("invert", "keys.star")]
        ∧ e.callee = none
        ∧ Eval.Raises (executeFile .refusing "keys.star" failingKeyScript [])
          (.initial (.under [])) raw course m'
        ∧ e.Shows [] raw course)
      ∧ Eval.Raises (enterFunction (callValue .refusing) .refusing lonelyFunction .empty)
        crowdedMachine (.ofMessage (BindingFault.missing "invert" "x").text) [] crowdedMachine
      ∧ ∃ m', Eval.Raises
        (enterFunction (callValue .refusing) .refusing lonelyFunction (.ofList [.int 0]))
        crowdedMachine (.ofMessage "call stack depth exceeds 128") [] m'
        ∧ m'.thread.stack = crowdedMachine.thread.stack := by
  obtain ⟨-, files, calls⟩ := tracebacks_show_open_calls .refusing Loader.settles_refusing
  obtain ⟨misfit, noRoom⟩ := calls (callValue .refusing) lonelyFunction .empty crowdedMachine rfl
  obtain ⟨-, crowded⟩ :=
    calls (callValue .refusing) lonelyFunction (.ofList [.int 0]) crowdedMachine rfl
  refine ⟨?_, misfit _ rfl, crowded _ rfl List.length_replicate⟩
  have listed := failingKeyScript_listed
  unfold Eval.listed? at listed
  split at listed
  · rename_i e m' ran
    obtain ⟨lines, callee⟩ := Prod.mk.inj (Option.some.inj listed)
    obtain ⟨raw, course, -, raises, -, shows_⟩ := files _ _ _ _ _ _ ran
    exact ⟨e, m', raw, course, ran, lines, callee, raises, shows_⟩
  · cases listed

-- Without a function of a script in between, the builtin function is named.
example : Eval.listed? (executeFile none "pairs.star" "sorted([1, \"a\"])\n" []
    (.initial (.under []))) = some ([("<toplevel>", "pairs.star")], some "sorted") := by
  decide +kernel

/-- Whatever error stops a call or the execution of a file, all lines of its traceback but the last
show where the call expressions stand that were being evaluated. -/
theorem outer_lines_show_calls_in_progress (load : Loader) (settles : load.Settles) :
    (∀ callee arguments, (callValue load callee arguments).PlacesCalls)
      ∧ ∀ name source predeclared, (executeFile load name source predeclared).PlacesCalls :=
  ⟨fun callee arguments => (Eval.Accounts.callTo settles _ callee arguments).placesCalls,
    fun name source predeclared =>
      (Eval.Accounts.executeFile settles name source predeclared).placesCalls⟩

-- The last line shows what was reached last, here a call that has returned: the statement that
-- fails stands in the first column.
example : (match executeFile none "sum.star" "x = len(\"abc\") + 1 // 0\n" []
    (.initial (.under [])) with
    | .error (.error e) _ => e.backtrace.map StackFrame.text
    | _ => []) = ["sum.star:1:8: in <toplevel>"] := by
  decide +kernel

end PixelApplet
