import PixelApplet.Proofs.Evaluation.Discipline

/-!
# Places do not matter

An action is placeless if it does the same wherever the open calls have got to: it ends in the same
way, with the same message if it fails, and with the same machine but for places.  Being placeless
is a discipline, so all that scripts evaluate and call is placeless if what finds modules is.
-/

namespace PixelApplet

theorem Machine.cancelToken_unplaced (m : Machine) (ref : TokenRef) (reason : String) :
    m.unplaced.cancelToken ref reason = (m.cancelToken ref reason).unplaced := by
  have tells (refs : List CellRef) (m : Machine) :
      refs.foldl (fun m cell => m.cancelCell cell reason) m.unplaced
        = (refs.foldl (fun m cell => m.cancelCell cell reason) m).unplaced := by
    induction refs generalizing m with
    | nil => rfl
    | cons first rest ih => exact ih (m.cancelCell first reason)
  exact tells _ (m.setToken ref _)

namespace Eval

variable {α β : Type} {act : Eval α} {m m' : Machine}

namespace Ending

/-- The ending with the message of an error for a result. -/
def answered : Ending α → Ending (Except String α)
  | .ok value m => .ok (.ok value) m
  | .error (.error e) m => .ok (.error e.message) m
  | .error (.panic message) m => .error (.panic message) m

/-- The ending with another error, if it is one. -/
def withErrors (f : Machine → EvalError → EvalError) : Ending α → Ending α
  | .ok value m => .ok value m
  | .error (.error e) m => .error (.error (f m e)) m
  | .error (.panic message) m => .error (.panic message) m

/-- The ending after a last change of the machine. -/
def finishedBy (finish : Machine → Machine) : Ending α → Ending α
  | .ok value m => .ok value (finish m)
  | .error abort m => .error abort (finish m)

end Ending

/-- An action does the same wherever the open calls have got to. -/
def Placeless (act : Eval α) : Prop :=
  ∀ m m' : Machine, m.unplaced = m'.unplaced →
    Ending.unplaced (act m) = Ending.unplaced (act m')

namespace Placeless

/-- An action that gives what places have nothing to do with, and changes the machine alike. -/
theorem of_ok (value : Machine → α) (change : Machine → Machine)
    (ran : ∀ m, act m = .ok (value m) (change m)) (same : ∀ m : Machine, value m.unplaced = value m)
    (commutes : ∀ m : Machine, (change m.unplaced).unplaced = (change m).unplaced) :
    Placeless act := by
  intro m m' alike
  rw [ran, ran]
  show EStateM.Result.ok (value m) (change m).unplaced = .ok (value m') (change m').unplaced
  rw [← same m, ← same m', ← commutes m, ← commutes m', alike]

theorem modify {change : Machine → Machine}
    (commutes : ∀ m : Machine, change m.unplaced = (change m).unplaced) :
    Placeless (MonadState.modifyGet fun m => ((), change m) : Eval Unit) :=
  of_ok (fun _ => ()) change (fun _ => rfl) (fun _ => rfl) fun m => by
    rw [commutes, Machine.unplaced_unplaced]

/-- An action that stops at once, with an error that shows no places. -/
theorem of_error {abort : Abort} (stops : ∀ m, act m = .error abort m) : Placeless act := by
  intro m m' alike
  rw [stops, stops]
  exact congrArg (EStateM.Result.error abort.unplaced) alike

theorem pure (value : α) : Placeless (Pure.pure value : Eval α) :=
  fun _ _ alike => congrArg (EStateM.Result.ok value) alike

theorem fail (message : String) : Placeless (Eval.fail message : Eval α) :=
  of_error fun _ => rfl

theorem bind {next : α → Eval β} (placeless : Placeless act)
    (rest : ∀ value, Placeless (next value)) : Placeless (act >>= next) := by
  intro m m' alike
  have first := placeless m m' alike
  cases ran : act m with
  | ok value between =>
    rw [ran] at first
    obtain ⟨between', ran', alike'⟩ := Ending.of_unplaced_ok first.symm
    rw [bind_ok ran, bind_ok ran']
    exact rest value between between' alike'.symm
  | error abort between =>
    rw [ran] at first
    obtain ⟨abort', between', ran', told, alike'⟩ := Ending.of_unplaced_error first.symm
    rw [bind_error ran, bind_error ran']
    show EStateM.Result.error abort.unplaced between.unplaced
      = .error abort'.unplaced between'.unplaced
    rw [told, alike']

/-- What is made of the ending of a placeless action alone. -/
theorem turned {other : Eval β} (placeless : Placeless act) (turn : Ending α → Ending β)
    (ran : ∀ m, other m = turn (act m))
    (commutes : ∀ ending : Ending α, (turn ending.unplaced).unplaced = (turn ending).unplaced) :
    Placeless other := by
  intro m m' alike
  rw [ran, ran, ← commutes (act m), ← commutes (act m'), placeless m m' alike]

theorem attemptMessage (placeless : Placeless act) : Placeless (Eval.attemptMessage act) := by
  refine placeless.turned Ending.answered (fun m => ?_) fun ending => ?_
  · unfold Eval.attemptMessage
    show EStateM.bind (Eval.attempt act) _ m = _
    unfold EStateM.bind Eval.attempt
    rcases act m with _ | ⟨_ | _, _⟩ <;> rfl
  · rcases ending with ⟨value, m⟩ | ⟨e | message, m⟩
    · exact congrArg (EStateM.Result.ok _) m.unplaced_unplaced
    · exact congrArg (EStateM.Result.ok _) m.unplaced_unplaced
    · exact congrArg (EStateM.Result.error _) m.unplaced_unplaced

theorem mapError {f : Machine → EvalError → EvalError}
    (same : ∀ m e, f (Machine.unplaced m) (EvalError.unplaced e) = (f m e).unplaced)
    (placeless : Placeless act) : Placeless (Eval.mapError act f) := by
  refine placeless.turned (Ending.withErrors f) (fun m => ?_) fun ending => ?_
  · unfold Eval.mapError
    rcases act m with _ | ⟨_ | _, _⟩ <;> rfl
  · rcases ending with ⟨value, m⟩ | ⟨e | message, m⟩
    · exact congrArg (EStateM.Result.ok _) m.unplaced_unplaced
    · show EStateM.Result.error (Abort.error (f m.unplaced e.unplaced).unplaced) m.unplaced.unplaced
        = .error (.error (f m e).unplaced) m.unplaced
      rw [same, EvalError.unplaced_unplaced, Machine.unplaced_unplaced]
    · exact congrArg (EStateM.Result.error _) m.unplaced_unplaced

/-- Whatever changes the machine afterwards, if it leaves places alone. -/
theorem followedBy (finish : Machine → Machine)
    (commutes : ∀ m : Machine, (finish m).unplaced = finish m.unplaced)
    (placeless : Placeless act) : Placeless (Eval.followedBy act finish) := by
  have finished (m : Machine) : (finish m.unplaced).unplaced = (finish m).unplaced := by
    rw [commutes, commutes, Machine.unplaced_unplaced]
  refine placeless.turned (Ending.finishedBy finish) (fun m => ?_) fun ending => ?_
  · unfold Eval.followedBy
    rcases act m with _ | _ <;> rfl
  · rcases ending with ⟨value, m⟩ | ⟨abort, m⟩
    · exact congrArg (EStateM.Result.ok _) (finished m)
    · show EStateM.Result.error abort.unplaced.unplaced (finish m.unplaced).unplaced
        = .error abort.unplaced (finish m).unplaced
      rw [Abort.unplaced_unplaced, finished]

theorem nested (placeless : Placeless act) : Placeless (Eval.nested act) := by
  intro m m' alike
  have depth : m.unplaced.thread.depth = m'.unplaced.thread.depth := by rw [alike]
  cases entered : m.thread.depth.enter? with
  | none =>
    rw [nested_refused entered, nested_refused (depth ▸ entered)]
    exact fail _ m m' alike
  | some deeper =>
    rw [nested_entered entered, nested_entered (depth ▸ entered)]
    refine placeless.followedBy (fun m => m.atDepth m.thread.depth.leave) (fun _ => rfl) _ _ ?_
    exact congrArg (Machine.atDepth · deeper) alike

theorem inFrame (frame : Frame) (placeless : Placeless act) :
    Placeless (Eval.inFrame frame act) := by
  intro m m' alike
  have held : m.unplaced.thread.stack = m'.unplaced.thread.stack := by rw [alike]
  have pushes : (m.thread.stack.push? frame).map CallStack.unplaced
      = (m'.thread.stack.push? frame).map CallStack.unplaced := by
    rw [← CallStack.push?_unplaced, ← CallStack.push?_unplaced]
    exact congrArg (CallStack.push? · frame.unplaced) held
  cases pushed : m.thread.stack.push? frame with
  | none =>
    rw [pushed, Option.map_none, eq_comm, Option.map_eq_none_iff] at pushes
    rw [inFrame_refused pushed, inFrame_refused pushes]
    exact fail _ m m' alike
  | some stack =>
    rw [pushed, Option.map_some, eq_comm, Option.map_eq_some_iff] at pushes
    obtain ⟨stack', pushed', same⟩ := pushes
    rw [inFrame_pushed pushed, inFrame_pushed pushed']
    refine placeless.followedBy _ (fun m => ?_) _ _ ?_
    · exact congrArg m.withStack m.thread.stack.unplaced_pop
    · show (m.unplaced).withStack stack.unplaced = m'.unplaced.withStack stack'.unplaced
      rw [alike, same]

theorem readHeap (f : Heap → α) : Placeless (Eval.readHeap f) :=
  of_ok _ id (fun _ => rfl) (fun _ => rfl) fun m => m.unplaced_unplaced

/-- Routine actions are placeless. -/
theorem of_routine (routine : Routine act) : Placeless act := by
  induction routine with
  | pure value => exact pure value
  | bind _ _ first rest => exact first.bind rest
  | fail message => exact fail message
  | look f _ placeless _ =>
    exact of_ok f id (fun _ => rfl) placeless fun m => m.unplaced_unplaced
  | remember key => exact of_ok _ id (fun _ => rfl) (fun _ => rfl) fun m => m.unplaced_unplaced
  | forget key => exact modify fun _ => rfl
  | edit f keeps =>
    refine of_ok _ (fun m => { m with heap := (f m.heap).2 }) (fun _ => rfl)
      (fun _ => rfl) fun m => ?_
    exact Machine.unplaced_unplaced { m with heap := (f m.heap).2 }
  | changeList ref f =>
    refine (readHeap _).bind fun frozen => ?_
    split
    · exact fail _
    · exact modify fun _ => rfl
  | changeDict ref f =>
    refine (readHeap _).bind fun frozen => ?_
    split
    · exact fail _
    · exact modify fun _ => rfl
  | attach key attachment _ => exact modify fun _ => rfl
  | report message =>
    intro m m' alike
    have same : m.unplaced.log? = m'.unplaced.log? := by rw [alike]
    cases logs : m.log? with
    | none =>
      have logs' : m'.log? = none := same.symm.trans logs
      rw [report_of_no_log logs, report_of_no_log logs']
      exact fail message m m' alike
    | some messages =>
      have logs' : m'.log? = some messages := same.symm.trans logs
      rw [report_of_log logs, report_of_log logs']
      show EStateM.Result.ok Value.none (m.unplaced.logging (messages ++ [message]))
        = .ok .none (m'.unplaced.logging (messages ++ [message]))
      rw [alike]
  | record event => exact modify fun _ => rfl
  | register registry => exact modify fun _ => rfl

theorem moveTo (pos : Position) : Placeless (Eval.moveTo pos) :=
  of_ok (fun _ => ()) (fun m => m.movedTo pos) (fun _ => rfl) (fun _ => rfl)
    fun m => by rw [Machine.unplaced_movedTo, Machine.unplaced_movedTo, Machine.unplaced_unplaced]

end Placeless

/-- Being placeless is a discipline. -/
theorem placeless_discipline : Discipline fun act => Placeless act where
  routine := Placeless.of_routine
  bind := Placeless.bind
  attempt := Placeless.attemptMessage
  nested := Placeless.nested
  panics message := .of_error fun _ => rfl
  stores key value expires := .modify fun _ => rfl
  cancels reason := .modify fun m => by
    have told : m.unplaced.hostToken = m.hostToken := rfl
    rw [told]
    cases m.hostToken with
    | none => rfl
    | some token => exact m.cancelToken_unplaced token reason
  moveTo := Placeless.moveTo
  mapError _ _ placeless _ _ := Placeless.mapError placeless
  inFrame := Placeless.inFrame

end Eval

/-! ## Calls -/

/-- What finds modules does the same wherever the open calls have got to. -/
def Loader.Placeless (load : Loader) : Prop :=
  ∀ find, load = some find → ∀ module, (find module).Placeless

theorem Loader.placeless_none : Loader.Placeless none := by
  intro find found
  cases found

namespace Eval.Placeless

variable {load : Loader}

theorem loadModule (placeless : load.Placeless) (home : ModuleRef) (module : String)
    (bindings : List LoadBinding) :
    Placeless (PixelApplet.loadModule load home module bindings) := by
  cases found : load with
  | none => exact fail _
  | some find =>
    refine (placeless find found module).bind fun outcome => ?_
    cases outcome with
    | error fault => exact of_error fun _ => rfl
    | ok loaded => exact of_routine (.bindLoaded _)

theorem callTo (placeless : load.Placeless) (calls : Nat) (callee : Value)
    (arguments : Arguments) : Placeless (PixelApplet.callTo load calls callee arguments) :=
  placeless_discipline.callTo (loadModule placeless) calls callee arguments

variable {call : Caller} (calls : ∀ callee arguments, Placeless (call callee arguments))
include calls

theorem alike : call.Woven (fun _ act _ => Placeless act) call :=
  fun pos callee arguments => .of_related ((moveTo pos).bind fun _ => calls callee arguments)

theorem evalExpr (scope : Scope) (e : Expr) : Placeless (PixelApplet.evalExpr call scope e) :=
  placeless_discipline.woven (Woven.evalExpr (alike calls) e)

theorem assignTarget (scope : Scope) (target : Expr) (value : Value) :
    Placeless (PixelApplet.assignTarget call scope target value) :=
  placeless_discipline.woven (Woven.assignTarget (alike calls) target)

end Eval.Placeless

end PixelApplet
