import PixelApplet.Library.Modules
import PixelApplet.Proofs.Evaluation.Discipline

/-!
# Reported assertions

A failed assertion is reported, to the log of the thread if it has one.  What an action reports is
read off the way it is put together, together with the calls that assertions made around it: inside
of such a call an error is what the assertion waits for, and not what stops the script.

A log tells how the script would have fared without it.  As long as nothing is reported the log
makes no difference, and without it the first failed assertion stops the script with its message,
unless another assertion made the call in which it failed.
-/

namespace PixelApplet

/-- An assertion that failed, inside of a number of calls that assertions made. -/
structure FailedAssertion where
  enclosing : Nat
  message : String
  deriving DecidableEq

/-- The failed assertion as it is seen from outside of a call that an assertion made. -/
def FailedAssertion.enclose (failed : FailedAssertion) : FailedAssertion :=
  { failed with enclosing := failed.enclosing + 1 }

theorem FailedAssertion.messages_enclose (raised : List FailedAssertion) :
    (raised.map enclose).map message = raised.map message :=
  List.map_map

namespace Eval

/-- An action has nothing to do with the log: it does the same without it, and leaves it as it was.
-/
structure Deaf {α : Type} (act : Eval α) : Prop where
  same : ∀ m : Machine, act m.unlogged = Ending.unlogged (act m)
  keeps : ∀ m : Machine, (act.after m).log? = m.log?

/-- A change of the machine has nothing to do with the log. -/
structure DeafChange (change : Machine → Machine) : Prop where
  same : ∀ m : Machine, change m.unlogged = (change m).unlogged
  keeps : ∀ m : Machine, (change m).log? = m.log?

section Deaf

variable {α β : Type} {act : Eval α}

theorem Deaf.of_ok {change : Machine → Machine} (value : Machine → α)
    (ran : ∀ m, act m = .ok (value m) (change m)) (deaf : ∀ m : Machine, value m.unlogged = value m)
    (changes : DeafChange change) : Deaf act where
  same m := by
    rw [ran, ran, deaf, changes.same]
    rfl
  keeps m := by
    rw [after_ok (ran m)]
    exact changes.keeps m

theorem Deaf.modify {change : Machine → Machine} (changes : DeafChange change) :
    Deaf (MonadState.modifyGet fun m => ((), change m) : Eval Unit) :=
  .of_ok (fun _ => ()) (fun _ => rfl) (fun _ => rfl) changes

theorem Deaf.of_error {abort : Abort} (stops : ∀ m, act m = .error abort m) : Deaf act where
  same m := by
    rw [stops, stops]
    rfl
  keeps m := by rw [after_error (stops m)]

theorem Deaf.bind {next : α → Eval β} (deaf : Deaf act) (rest : ∀ value, Deaf (next value)) :
    Deaf (act >>= next) where
  same m := by
    have bare := deaf.same m
    cases ran : act m with
    | ok value m' =>
      rw [ran] at bare
      rw [bind_ok ran, bind_ok bare]
      exact (rest value).same m'
    | error abort m' =>
      rw [ran] at bare
      rw [bind_error ran, bind_error bare]
      rfl
  keeps m := by
    have kept := deaf.keeps m
    cases ran : act m with
    | ok value m' =>
      rw [after_ok ran] at kept
      unfold after
      rw [bind_ok ran]
      exact ((rest value).keeps m').trans kept
    | error abort m' =>
      rw [after_error ran] at kept
      rw [after_error (bind_error ran)]
      exact kept

theorem Deaf.pure (value : α) : Deaf (Pure.pure value : Eval α) :=
  .of_ok (fun _ => value) (fun _ => rfl) (fun _ => rfl) ⟨fun _ => rfl, fun _ => rfl⟩

theorem Deaf.forM {hooks : List (Eval Unit)} (deaf : ∀ hook ∈ hooks, Deaf hook) :
    Deaf (hooks.forM fun hook => hook) := by
  induction hooks with
  | nil => exact .pure ()
  | cons first rest ih =>
    exact (deaf first (.head _)).bind fun _ => ih fun other later => deaf other (.tail _ later)

end Deaf

/-- An action reports some failed assertions, in this order, when it is started on a machine. -/
inductive Reports : {α : Type} → Eval α → Machine → List FailedAssertion → Prop where
  | quiet {α : Type} {act : Eval α} {m : Machine} (deaf : Deaf act) : Reports act m []
  | report {m : Machine} (message : String) : Reports (Assertions.report message) m [⟨0, message⟩]
  | done {α β : Type} {act : Eval α} {next : α → Eval β} {m m' : Machine} {value : α}
    {raised raised' : List FailedAssertion} (ran : act m = .ok value m')
    (first : Reports act m raised) (rest : Reports (next value) m' raised') :
    Reports (act >>= next) m (raised ++ raised')
  | stopped {α β : Type} {act : Eval α} {next : α → Eval β} {m m' : Machine} {abort : Abort}
    {raised : List FailedAssertion} (ran : act m = .error abort m')
    (first : Reports act m raised) : Reports (act >>= next) m raised
  /-- An assertion makes a call. -/
  | attempt {α : Type} {act : Eval α} {m : Machine} {raised : List FailedAssertion}
    (within : Reports act m raised) :
    Reports (attemptMessage act) m (raised.map FailedAssertion.enclose)
  | mapError {α : Type} {act : Eval α} {f : Machine → EvalError → EvalError} {m : Machine}
    {raised : List FailedAssertion} (deaf : ∀ m e, f (Machine.unlogged m) e = f m e)
    (keeps : ∀ m e, (f m e).message = e.message) (within : Reports act m raised) :
    Reports (Eval.mapError act f) m raised
  | followedBy {α : Type} {act : Eval α} {finish : Machine → Machine} {m : Machine}
    {raised : List FailedAssertion} (deaf : DeafChange finish) (within : Reports act m raised) :
    Reports (Eval.followedBy act finish) m raised
  | tooDeep {α : Type} {act : Eval α} {m : Machine} (full : m.thread.depth.enter? = none) :
    Reports (Eval.nested act) m []
  | nested {α : Type} {act : Eval α} {m : Machine} {deeper : Depth} {raised : List FailedAssertion}
    (entered : m.thread.depth.enter? = some deeper)
    (within : Reports act (m.atDepth deeper) raised) :
    Reports (Eval.nested act) m raised
  | noRoom {α : Type} {act : Eval α} {m : Machine} {frame : Frame}
    (full : m.thread.stack.push? frame = none) : Reports (Eval.inFrame frame act) m []
  | inFrame {α : Type} {act : Eval α} {m : Machine} {frame : Frame} {stack : CallStack}
    {raised : List FailedAssertion} (pushed : m.thread.stack.push? frame = some stack)
    (within : Reports act (m.withStack stack) raised) : Reports (Eval.inFrame frame act) m raised

/-! ## What a log tells -/

/-- What the failed assertions that an action reports tell of a run without a log. -/
def Foretells {α : Type} (act : Eval α) (m : Machine) : List FailedAssertion → Prop
  | [] => act m.unlogged = Ending.unlogged (act m)
  | first :: _ => first.enclosing = 0 →
      ∃ e m', act m.unlogged = .error (.error e) m' ∧ e.message = first.message

section Telling

variable {α β : Type} {act : Eval α} {m m' : Machine} {messages : List String}
  {raised raised' : List FailedAssertion}

theorem foretells_of_enclosed (told : Foretells act m raised) :
    Foretells (attemptMessage act) m (raised.map FailedAssertion.enclose) := by
  cases raised with
  | nil =>
    show attemptMessage act m.unlogged = Ending.unlogged (attemptMessage act m)
    have alike : act m.unlogged = Ending.unlogged (act m) := told
    have attempts : Eval.attempt act m.unlogged = Ending.unlogged (Eval.attempt act m) := by
      unfold Eval.attempt
      rw [alike]
      rcases act m with _ | ⟨_ | _, _⟩ <;> rfl
    unfold attemptMessage
    cases ran : Eval.attempt act m with
    | ok outcome m' =>
      rw [ran] at attempts
      rw [bind_ok ran, bind_ok attempts]
      rfl
    | error abort m' =>
      rw [ran] at attempts
      rw [bind_error ran, bind_error attempts]
      rfl
  | cons first rest => exact fun outermost => absurd outermost (Nat.succ_ne_zero _)

theorem Foretells.mapError {f : Machine → EvalError → EvalError}
    (deaf : ∀ m e, f (Machine.unlogged m) e = f m e) (keeps : ∀ m e, (f m e).message = e.message)
    (told : Foretells act m raised) : Foretells (Eval.mapError act f) m raised := by
  cases raised with
  | nil =>
    have alike : act m.unlogged = Ending.unlogged (act m) := told
    show Eval.mapError act f m.unlogged = Ending.unlogged (Eval.mapError act f m)
    unfold Eval.mapError
    rw [alike]
    rcases act m with ⟨value, m'⟩ | ⟨e | message, m'⟩
    · rfl
    · exact congrArg (fun e => EStateM.Result.error (Abort.error e) m'.unlogged) (deaf m' e)
    · rfl
  | cons first rest =>
    intro outermost
    obtain ⟨e, m', stops, same⟩ := told outermost
    refine ⟨f m' e, m', ?_, (keeps m' e).trans same⟩
    rw [Eval.mapError, stops]

theorem Foretells.followedBy {finish : Machine → Machine} (deaf : DeafChange finish)
    (told : Foretells act m raised) : Foretells (Eval.followedBy act finish) m raised := by
  cases raised with
  | nil =>
    have alike : act m.unlogged = Ending.unlogged (act m) := told
    show Eval.followedBy act finish m.unlogged = Ending.unlogged (Eval.followedBy act finish m)
    unfold Eval.followedBy
    rw [alike]
    rcases act m with ⟨value, m'⟩ | ⟨abort, m'⟩
    · exact congrArg (EStateM.Result.ok value) (deaf.same m')
    · exact congrArg (EStateM.Result.error abort) (deaf.same m')
  | cons first rest =>
    intro outermost
    obtain ⟨e, m', stops, same⟩ := told outermost
    exact ⟨e, finish m', by rw [Eval.followedBy, stops], same⟩

/-- An action does what another does that is started elsewhere, with the log and without it. -/
theorem Foretells.of_eq {other : Eval α} {m' : Machine} (same : act m = other m')
    (bare : act m.unlogged = other m'.unlogged) (told : Foretells other m' raised) :
    Foretells act m raised := by
  cases raised with
  | nil => exact bare.trans ((show other m'.unlogged = _ from told).trans (by rw [same]))
  | cons first rest => exact fun outermost => bare ▸ told outermost

/-- What is reported first tells the same of an action that goes on with another one. -/
theorem Foretells.bind_of_reported {next : α → Eval β} {first : FailedAssertion}
    {others others' : List FailedAssertion} (told : Foretells act m (first :: others)) :
    Foretells (act >>= next) m (first :: others') := by
  intro outermost
  obtain ⟨e, stopped, stops, same⟩ := told outermost
  exact ⟨e, stopped, bind_error stops, same⟩

theorem Foretells.bind_ok {next : α → Eval β} {value : α} (ran : act m = .ok value m')
    (told : Foretells act m raised) (rest : Foretells (next value) m' raised') :
    Foretells (act >>= next) m (raised ++ raised') := by
  cases raised with
  | nil =>
    have bare : act m.unlogged = .ok value m'.unlogged :=
      (show act m.unlogged = _ from told).trans (by rw [ran]; rfl)
    exact rest.of_eq (Eval.bind_ok ran) (Eval.bind_ok bare)
  | cons first others => exact told.bind_of_reported

theorem Foretells.bind_error {next : α → Eval β} {abort : Abort} (ran : act m = .error abort m')
    (told : Foretells act m raised) : Foretells (act >>= next) m raised := by
  cases raised with
  | nil =>
    have bare : act m.unlogged = .error abort m'.unlogged :=
      (show act m.unlogged = _ from told).trans (by rw [ran]; rfl)
    show (act >>= next) m.unlogged = Ending.unlogged ((act >>= next) m)
    rw [Eval.bind_error ran, Eval.bind_error bare]
    rfl
  | cons first others => exact told.bind_of_reported

/-- An action that is refused, with the log and without it, leaves the log as it is. -/
theorem logged_of_refused {abort : Abort} (logs : m.log? = some messages)
    (refused : act m = .error abort m) (bare : act m.unlogged = .error abort m.unlogged) :
    (act.after m).log? = some (messages ++ [].map FailedAssertion.message)
      ∧ Foretells act m [] := by
  constructor
  · rw [after_error refused, List.map_nil, List.append_nil]
    exact logs
  · show act m.unlogged = Ending.unlogged (act m)
    rw [refused, bare]
    rfl

/-- An action that enters a level, does what another one does there and leaves the level again, logs
and tells what the other one does. -/
theorem logged_of_entered {inner : Eval α} {leave : Machine → Machine} {inside : Machine}
    (leaves : DeafChange leave) (entered : act m = Eval.followedBy inner leave inside)
    (bare : act m.unlogged = Eval.followedBy inner leave inside.unlogged)
    (within : (inner.after inside).log? = some messages ∧ Foretells inner inside raised) :
    (act.after m).log? = some messages ∧ Foretells act m raised := by
  obtain ⟨logs, told⟩ := within
  refine ⟨?_, (told.followedBy leaves).of_eq entered bare⟩
  have ends : act.after m = (Eval.followedBy inner leave).after inside := by
    unfold after
    rw [entered]
  rw [ends, after_followedBy, leaves.keeps, logs]

end Telling

/-- What is reported is logged, and tells how a run without the log goes. -/
theorem Reports.logged {α : Type} {act : Eval α} {m : Machine} {raised : List FailedAssertion}
    (reports : Reports act m raised) {messages : List String} (logs : m.log? = some messages) :
    (act.after m).log? = some (messages ++ raised.map FailedAssertion.message)
      ∧ Foretells act m raised := by
  induction reports generalizing messages with
  | quiet deaf =>
    rw [deaf.keeps, List.map_nil, List.append_nil]
    exact ⟨logs, deaf.same _⟩
  | report message =>
    have ran := report_of_log logs message
    refine ⟨?_, fun _ => ⟨.ofMessage message, _, report_of_no_log (Machine.log?_unlogged _) _, rfl⟩⟩
    rw [after_ok ran]
    exact Machine.log?_logging _ _
  | @done _ _ act next m between value raised raised' ran _ _ first rest =>
    obtain ⟨logs', told⟩ := first logs
    rw [after_ok ran] at logs'
    obtain ⟨logs'', told'⟩ := rest logs'
    have goes : (act >>= next).after m = (next value).after between := by
      unfold after
      rw [bind_ok ran]
    rw [goes, logs'', List.map_append, List.append_assoc]
    exact ⟨rfl, told.bind_ok ran told'⟩
  | @stopped _ _ act next m between abort raised ran _ first =>
    obtain ⟨logs', told⟩ := first logs
    rw [after_error ran] at logs'
    rw [after_error (bind_error ran)]
    exact ⟨logs', told.bind_error ran⟩
  | @attempt _ act m raised _ within =>
    obtain ⟨logs', told⟩ := within logs
    refine ⟨?_, foretells_of_enclosed told⟩
    rw [FailedAssertion.messages_enclose, ← logs']
    have ends : (attemptMessage act).after m = (Eval.attempt act).after m := after_bind_pure _ m
    rw [ends, after_attempt]
  | mapError deaf keeps _ within =>
    obtain ⟨logs', told⟩ := within logs
    exact ⟨by rw [after_mapError]; exact logs', told.mapError deaf keeps⟩
  | followedBy deaf _ within =>
    obtain ⟨logs', told⟩ := within logs
    exact ⟨by rw [after_followedBy, deaf.keeps]; exact logs', told.followedBy deaf⟩
  | @tooDeep _ act m full =>
    have full' : m.unlogged.thread.depth.enter? = none := full
    exact logged_of_refused logs (nested_refused full) (nested_refused full')
  | @nested _ act m deeper raised entered _ within =>
    have entered' : m.unlogged.thread.depth.enter? = some deeper := entered
    have leaves : DeafChange fun m => m.atDepth m.thread.depth.leave :=
      ⟨fun _ => rfl, fun _ => rfl⟩
    exact logged_of_entered leaves (nested_entered entered) (nested_entered entered') (within logs)
  | @noRoom _ act m frame full =>
    have full' : m.unlogged.thread.stack.push? frame = none := full
    exact logged_of_refused logs (inFrame_refused full) (inFrame_refused full')
  | @inFrame _ act m frame stack raised pushed _ within =>
    have pushed' : m.unlogged.thread.stack.push? frame = some stack := pushed
    have leaves : DeafChange fun m => m.withStack m.thread.stack.pop :=
      ⟨fun _ => rfl, fun _ => rfl⟩
    exact logged_of_entered leaves (inFrame_pushed pushed) (inFrame_pushed pushed') (within logs)

/-! ## What evaluation reports -/

/-- Wherever failures are logged, an action reports some failed assertions. -/
def Candid {α : Type} (act : Eval α) : Prop :=
  ∀ (m : Machine) (messages : List String), m.log? = some messages → ∃ raised, Reports act m raised

section Candid

variable {α β : Type} {act : Eval α}

theorem Candid.of_deaf (deaf : Deaf act) : Candid act :=
  fun _ _ _ => ⟨[], .quiet deaf⟩

theorem Candid.bind {next : α → Eval β} (candid : Candid act)
    (rest : ∀ value, Candid (next value)) : Candid (act >>= next) := by
  intro m messages logs
  obtain ⟨raised, first⟩ := candid m messages logs
  cases ran : act m with
  | error abort m' => exact ⟨raised, .stopped ran first⟩
  | ok value m' =>
    have logs' := (first.logged logs).1
    rw [after_ok ran] at logs'
    obtain ⟨raised', later⟩ := rest value m' _ logs'
    exact ⟨raised ++ raised', .done ran first later⟩

theorem deaf_fail (message : String) : Deaf (Eval.fail message : Eval α) :=
  .of_error fun _ => rfl

theorem deaf_readHeap (f : Heap → α) : Deaf (Eval.readHeap f) :=
  .of_ok (fun m => f m.heap) (fun _ => rfl) (fun _ => rfl) ⟨fun _ => rfl, fun _ => rfl⟩

theorem deaf_changeHeap (f : Heap → Heap) : Deaf (Eval.changeHeap f) :=
  .modify ⟨fun _ => rfl, fun _ => rfl⟩

/-- What is attached beside the log has nothing to do with it. -/
theorem deaf_attach {key : String} (other : key ≠ Assertions.key) (attachment : Attachment) :
    DeafChange fun m => { m with thread := m.thread.attach key attachment } where
  same m := congrArg (fun thread => { m with thread := thread })
    (m.thread.unlogged_attach other attachment).symm
  keeps m := Assertions.failures?_attach m.thread other attachment

theorem Candid.followedBy {finish : Machine → Machine} (deaf : DeafChange finish)
    (candid : Candid act) : Candid (Eval.followedBy act finish) := by
  intro m messages logs
  obtain ⟨raised, within⟩ := candid m messages logs
  exact ⟨raised, .followedBy deaf within⟩

/-- Routine actions report nothing but what they report outright. -/
theorem Routine.candid (routine : Routine act) : Candid act := by
  induction routine with
  | pure value => exact .of_deaf (.pure value)
  | bind _ _ first rest => exact first.bind rest
  | fail message => exact .of_deaf (deaf_fail message)
  | look f _ _ deaf =>
    exact .of_deaf (.of_ok f (fun _ => rfl) deaf ⟨fun _ => rfl, fun _ => rfl⟩)
  | remember key =>
    exact .of_deaf (.of_ok _ (fun _ => rfl) (fun _ => rfl) ⟨fun _ => rfl, fun _ => rfl⟩)
  | forget key => exact .of_deaf (.modify ⟨fun _ => rfl, fun _ => rfl⟩)
  | edit f keeps =>
    exact .of_deaf (.of_ok _ (fun _ => rfl) (fun _ => rfl) ⟨fun _ => rfl, fun _ => rfl⟩)
  | changeList ref f =>
    refine (Candid.of_deaf (deaf_readHeap _)).bind fun frozen => ?_
    split
    · exact .of_deaf (deaf_fail _)
    · exact .of_deaf (deaf_changeHeap _)
  | changeDict ref f =>
    refine (Candid.of_deaf (deaf_readHeap _)).bind fun frozen => ?_
    split
    · exact .of_deaf (deaf_fail _)
    · exact .of_deaf (deaf_changeHeap _)
  | attach key attachment other => exact .of_deaf (.modify (deaf_attach other attachment))
  | report message => exact fun _ _ _ => ⟨_, .report message⟩
  | record event => exact .of_deaf (.modify ⟨fun _ => rfl, fun _ => rfl⟩)
  | register registry => exact .of_deaf (.modify ⟨fun _ => rfl, fun _ => rfl⟩)

end Candid

theorem deaf_cancelToken (token : TokenRef) (reason : String) :
    DeafChange fun m => m.cancelToken token reason := by
  have tells (refs : List CellRef) (m : Machine) :
      refs.foldl (fun m cell => m.cancelCell cell reason) m.unlogged
        = (refs.foldl (fun m cell => m.cancelCell cell reason) m).unlogged := by
    induction refs generalizing m with
    | nil => rfl
    | cons first rest ih => exact ih (m.cancelCell first reason)
  refine ⟨fun m => tells _ (m.setToken token _), fun m => ?_⟩
  exact congrArg Assertions.failures? (thread_cancelToken m token reason)

/-- What is reported by evaluation can be read off the way it is put together. -/
theorem candid_discipline : Discipline fun act => Candid act where
  routine := Routine.candid
  bind := Candid.bind
  attempt candid m messages logs :=
    have ⟨raised, within⟩ := candid m messages logs
    ⟨_, .attempt within⟩
  nested {_ act} candid m messages logs := by
    cases entered : m.thread.depth.enter? with
    | none => exact ⟨[], .tooDeep entered⟩
    | some deeper =>
      obtain ⟨raised, within⟩ := candid (m.atDepth deeper) messages logs
      exact ⟨raised, .nested entered within⟩
  inFrame {_ act} frame candid m messages logs := by
    cases pushed : m.thread.stack.push? frame with
    | none => exact ⟨[], .noRoom pushed⟩
    | some stack =>
      obtain ⟨raised, within⟩ := candid (m.withStack stack) messages logs
      exact ⟨raised, .inFrame pushed within⟩
  panics message := .of_deaf (.of_error fun _ => rfl)
  stores key value expires := .of_deaf (.modify ⟨fun _ => rfl, fun _ => rfl⟩)
  cancels reason := by
    refine .of_deaf (.modify ⟨fun m => ?_, fun m => ?_⟩)
    · have told : m.unlogged.hostToken = m.hostToken := rfl
      rw [told]
      cases m.hostToken with
      | none => rfl
      | some token => exact (deaf_cancelToken token reason).same m
    · cases m.hostToken with
      | none => rfl
      | some token => exact (deaf_cancelToken token reason).keeps m
  moveTo pos := .of_deaf (.modify ⟨fun _ => rfl, fun _ => rfl⟩)
  mapError _ _ _ deaf keeps candid m messages logs :=
    have ⟨raised, within⟩ := candid m messages logs
    ⟨raised, .mapError deaf keeps within⟩

end Eval

/-- What finds modules has nothing to do with the log. -/
def Loader.Deaf (load : Loader) : Prop :=
  ∀ find, load = some find → ∀ module, (find module).Deaf

theorem Loader.deaf_none : Loader.Deaf none :=
  nofun

namespace Eval.Candid

variable {load : Loader}

theorem loadModule (deaf : load.Deaf) (home : ModuleRef) (module : String)
    (bindings : List LoadBinding) : Candid (PixelApplet.loadModule load home module bindings) := by
  cases found : load with
  | none => exact .of_deaf (deaf_fail _)
  | some find =>
    refine (Candid.of_deaf (deaf find found module)).bind fun outcome => ?_
    cases outcome with
    | error fault => exact .of_deaf (.of_error fun _ => rfl)
    | ok loaded => exact Routine.candid (.bindLoaded _)

theorem callValue (deaf : load.Deaf) (callee : Value) (arguments : Arguments) :
    Candid (PixelApplet.callValue load callee arguments) :=
  candid_discipline.callTo (loadModule deaf) _ callee arguments

end Eval.Candid

/-! ## Verdicts -/

namespace Eval

/-- An action gives the same verdict with a log, in which it leaves some messages, and without. -/
structure SameVerdict {α : Type} (act : Eval α) (m : Machine) (messages : List String) : Prop where
  passes : act.stop? (m.logging []) = none ∧ messages = [] ↔ act.stop? m.unlogged = none
  fails : act.stop? m.unlogged ≠ none →
    match messages with
    | [] => act.stop? m.unlogged = act.stop? (m.logging [])
    | first :: _ => ∃ e, act.stop? m.unlogged = some (.error e) ∧ e.message = first

theorem stop?_of_unlogged {α : Type} {act : Eval α} {m m' : Machine}
    (same : act m' = Ending.unlogged (act m)) : act.stop? m' = act.stop? m := by
  unfold stop?
  rw [same]
  rcases act m with _ | _ <;> rfl

/-- The verdict is the same unless an assertion made the call in which the first one failed. -/
theorem Foretells.sameVerdict {α : Type} {act : Eval α} {m : Machine}
    {raised : List FailedAssertion} (told : Foretells act (m.logging []) raised)
    (outermost : ∀ first ∈ raised.head?, first.enclosing = 0) :
    SameVerdict act m (raised.map FailedAssertion.message) := by
  cases raised with
  | nil =>
    have alike : act (m.logging []).unlogged = Ending.unlogged (act (m.logging [])) := told
    rw [Machine.unlogged_logging] at alike
    have stops := stop?_of_unlogged alike
    exact ⟨by rw [stops]; exact and_iff_left rfl, fun _ => stops⟩
  | cons first rest =>
    obtain ⟨e, m', stops, same⟩ := told (outermost first rfl)
    rw [Machine.unlogged_logging] at stops
    have stop := stop?_error stops
    exact ⟨⟨nofun, by rw [stop]; nofun⟩, fun _ => ⟨e, stop, same⟩⟩

end Eval

/-- A call whose failed assertions are logged leaves their messages in the log, in order.  If there
are none, the call ends without a log as it does with one; and if the first of them failed outside
of all calls that assertions made, the call gives the same verdict without a log. -/
theorem logged_call_foretells {load : Loader} (deaf : load.Deaf) (callee : Value)
    (arguments : Arguments) (m : Machine) :
    (∃ raised, (callValue load callee arguments).Reports (m.logging []) raised)
    ∧ ∀ raised, (callValue load callee arguments).Reports (m.logging []) raised →
      ((callValue load callee arguments).after (m.logging [])).log?
          = some (raised.map FailedAssertion.message)
        ∧ (raised = [] → callValue load callee arguments m.unlogged
          = Eval.Ending.unlogged (callValue load callee arguments (m.logging [])))
        ∧ ((∀ first ∈ raised.head?, first.enclosing = 0) →
          (callValue load callee arguments).SameVerdict m
            (raised.map FailedAssertion.message)) := by
  have logs : (m.logging []).log? = some [] := m.log?_logging []
  refine ⟨Eval.Candid.callValue deaf callee arguments _ _ logs, fun raised reports => ?_⟩
  obtain ⟨logged, told⟩ := reports.logged logs
  refine ⟨logged, ?_, told.sameVerdict⟩
  rintro rfl
  have alike : callValue load callee arguments (m.logging []).unlogged = _ := told
  rw [Machine.unlogged_logging] at alike
  exact alike

/-- The machine on which a script was executed that may use assertions. -/
def machineAfter (script : String) : Machine :=
  (executeFile none "check.star" script ((LibraryModule.bindings? "assert.star").getD [])).after
    (.initial (.under []))

/-- What a script binds to the name `check`. -/
def checkOf (script : String) : Value :=
  (((machineAfter script).heap.module ⟨0⟩).vars.get? "check").getD .none

/-- A check that stops after an assertion that holds. -/
def stoppingCheck : String :=
  "def check():\n    assert.fails(lambda: fail(\"boom\"), \"bo+m\")\n    return 1 // 0\n"

theorem stoppingCheck_foretold : Loader.Deaf none ∧ (checkOf stoppingCheck).isFunction = true
    ∧ ((callValue none (checkOf stoppingCheck) .empty).stop?
      ((machineAfter stoppingCheck).logging [])).isSome = true
    ∧ (callValue none (checkOf stoppingCheck) .empty).SameVerdict
      (machineAfter stoppingCheck) [] := by
  obtain ⟨⟨raised, reports⟩, tells⟩ := logged_call_foretells Loader.deaf_none
    (checkOf stoppingCheck) .empty (machineAfter stoppingCheck)
  obtain ⟨logged, _, verdict⟩ := tells raised reports
  have empty : ((callValue none (checkOf stoppingCheck) .empty).after
      ((machineAfter stoppingCheck).logging [])).log? = some [] := by decide +kernel
  have nothing : raised = [] := List.map_eq_nil_iff.mp (Option.some.inj (logged.symm.trans empty))
  subst nothing
  exact ⟨Loader.deaf_none, by decide +kernel, by decide +kernel, verdict nofun⟩

/-- A check in which an assertion fails inside of a call that another one makes. -/
def catchingCheck : String :=
  "def check():\n    assert.fails(lambda: assert.eq(1, 2), \"1 != 2\")\n"

/-- What an assertion waits for does not happen if the failure inside of its call is logged. -/
theorem catchingCheck_changes_verdict : ¬∀ (callee : Value) (m : Machine),
    callee.isFunction = true →
      ((callValue none callee .empty).stop? (m.logging []) = none
          ∧ ((callValue none callee .empty).after (m.logging [])).log? = some []
        ↔ (callValue none callee .empty).stop? m.unlogged = none) := by
  intro always
  have passes : (callValue none (checkOf catchingCheck) .empty).stop?
      (machineAfter catchingCheck).unlogged = none :=
    Option.isNone_iff_eq_none.mp (by decide +kernel)
  have logged : ((callValue none (checkOf catchingCheck) .empty).after
      ((machineAfter catchingCheck).logging [])).log? = some ["1 != 2",
        "evaluation succeeded unexpectedly (want error matching \"1 != 2\")"] := by decide +kernel
  have isFunction : (checkOf catchingCheck).isFunction = true := by decide +kernel
  have empty := ((always _ _ isFunction).mpr passes).2
  rw [logged] at empty
  cases empty

end PixelApplet
