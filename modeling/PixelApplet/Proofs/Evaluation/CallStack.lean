import PixelApplet.Proofs.Evaluation.Agreement

/-!
# Calls and files end, and leave no calls behind

Calling is cut off after a number of rounds, and the limit on open calls bounds the rounds that
matter.  So an induction on the rounds shows what calls and files leave on the call stack.
-/

namespace PixelApplet

/-!
## How many rounds calls need

Calling is a recursion that no argument bounds: the body of a function calls what it finds in the
heap.  Cut off after a number of rounds, one for each call on a path, it is a recursion on that
number.  The limit on open calls bounds the rounds that matter: a script function opens a call, and
a builtin function that is called back calls nothing.  Two ways of calling that have enough rounds
left agree, whatever they do when the rounds are used up.

What the functions of the host do is a parameter, since they are not bound by anything here.
-/

/-- What the functions that a host provides do. -/
abbrev Host :=
  Builtin Value → Arguments → Eval Value

/-- The host of the machine. -/
def Host.own : Host :=
  fun b arguments => b.run (fun _ _ => refuseCall) arguments

/-- The functions of a host leave the posture of the running thread as it was. -/
def Host.Steady (panics : Prop) (host : Host) : Prop :=
  ∀ b arguments, b.action.isHosted = true → Eval.Steady panics (host b arguments)

/-- The functions of a host obey a conduct. -/
def Host.Obeys {panics : Prop} (C : Conduct panics) (host : Host) : Prop :=
  ∀ b arguments, b.action.isHosted = true → Eval.Obeys C (host b arguments)

/-- The functions of the machine's own host are modest, but may fail. -/
theorem Host.own_modest (b : Builtin Value) (arguments : Arguments)
    (hosted : b.action.isHosted = true) : Eval.Modest True (Host.own b arguments) :=
  Eval.Modest.hosted b hosted trivial

theorem Host.own_obeys (C : Conduct True) : Host.own.Obeys C :=
  fun b arguments hosted => (Host.own_modest b arguments hosted).concurs

theorem Host.own_steady : Host.own.Steady True :=
  fun b arguments hosted => .of_modest (Host.own_modest b arguments hosted)

theorem Host.Steady.obeys {panics : Prop} {calls : Nat} {host : Host}
    (steady : host.Steady panics) : host.Obeys (.posture panics calls) :=
  fun b arguments hosted => Eval.agree_iff.mp (steady b arguments hosted).agree

/-- What a builtin function does, given what the functions of the host do. -/
def Builtin.runOn (host : Host) (call : Caller) (b : Builtin Value) (arguments : Arguments) :
    Eval Value :=
  if b.action.isHosted then host b arguments else b.run call arguments

/-- Calls a value, given what the functions of the host do, how script functions are entered and how
builtin functions call back. -/
def callOnceOn (host : Host) (enter : Entry) (callBack : Caller) : Caller :=
  fun callee arguments => do
    Eval.checkCancelled
    match callee with
    | .function _ f => enter f arguments
    | .builtin _ b => Eval.mapError (b.runOn host callBack arguments) fun _ e => e.blame b.name
    | other => Eval.fail s!"invalid call of non-function ({other.typeName})"

/-- Calls a value; every call takes a round, and `beyond` is what happens to a call for which no
round is left. -/
def callWithin (host : Host) (load : Loader) (beyond : Caller) : (rounds : Nat) → Caller
  | 0 => beyond
  | rounds + 1 =>
    callOnceOn host (enterFunction (callWithin host load beyond rounds) load)
      (callWithin host load beyond rounds)

/-- The functions of the machine's own host call nothing. -/
theorem Builtin.runOn_own (call : Caller) (b : Builtin Value) (arguments : Arguments) :
    b.runOn .own call arguments = b.run call arguments := by
  unfold Builtin.runOn
  split
  · rename_i hosted
    unfold Host.own Builtin.run
    cases action : b.action with
    | cache f => rfl
    | host f => rfl
    | _ => simp [action, Action.isHosted] at hosted
  · rfl

theorem callOnceOn_own (enter : Entry) (callBack : Caller) :
    callOnceOn .own enter callBack = callOnce enter callBack := by
  funext callee arguments
  unfold callOnceOn callOnce
  cases callee with
  | builtin _ b => simp only [Builtin.runOn_own]
  | _ => rfl

/-- A way of calling in which script functions are entered down to a number of levels, and builtin
functions are called back. -/
def Caller.Unrolls (host : Host) (load : Loader) : (levels : Nat) → Caller → Prop
  | 0, _ => True
  | levels + 1, call =>
    ∃ inside insideBack beyond : Caller,
      Unrolls host load levels inside ∧ Unrolls host load levels insideBack
        ∧ call = callOnceOn host (enterFunction inside load)
            (callOnceOn host (enterFunction insideBack load) beyond)

section Rounds

variable {panics : Prop} {calls levels : Nat} {host : Host} {load : Loader}

/-- Two rounds are a level. -/
theorem callWithin_unrolls {beyond : Caller} {rounds : Nat} (enough : 2 * levels ≤ rounds) :
    (callWithin host load beyond rounds).Unrolls host load levels := by
  induction levels generalizing rounds with
  | zero => trivial
  | succ levels ih =>
    obtain ⟨rounds, rfl⟩ : ∃ fewer, rounds = fewer + 2 := ⟨rounds - 2, by omega⟩
    exact ⟨callWithin host load beyond (rounds + 1), callWithin host load beyond rounds,
      callWithin host load beyond rounds, ih (by omega), ih (by omega), rfl⟩

theorem callTo_unrolls (levels : Nat) : (callTo load levels).Unrolls .own load levels := by
  induction levels with
  | zero => trivial
  | succ levels ih =>
    refine ⟨callTo load levels, callTo load levels, fun _ _ => refuseCall, ih, ih, ?_⟩
    rw [callOnceOn_own, callOnceOn_own]
    rfl

namespace Eval.Concurs

variable {C inner : Conduct panics}

/-- The body of a script function is executed inside a call. -/
theorem enterFunction {call other : Caller} (frames : Frames C inner) (obeys : load.Obeys inner)
    (concur : call.Concurs inner other) (f : Function Value) (arguments : Arguments) :
    Concurs C (PixelApplet.enterFunction call load f arguments)
      (PixelApplet.enterFunction other load f arguments) := by
  unfold PixelApplet.enterFunction
  refine (Routine.readHeap _).bindConcurs fun held => ?_
  split
  · refine (Routine.accept _ _).bindConcurs fun bound => ?_
    refine (Routine.bindLocals bound []).bindConcurs fun locals => frames _ ?_
    refine (execBlock concur obeys f.decl.body).bind fun left => Routine.concurs ?_
    grind
  · exact (Routine.fail _).concurs

/-- A call concurs with another if they enter functions alike and, as far as the arguments let a
builtin function call back, call back alike. -/
theorem callOnceOn {enter enter' : Entry} {callBack callBack' : Caller} {callee : Value}
    {arguments : Arguments} (obeys : host.Obeys C)
    (concurEnter : ∀ f, Concurs C (enter f arguments) (enter' f arguments))
    (concurBack : arguments.IsPlain ∨ ConcurOnCallbacks C callBack callBack') :
    Concurs C (PixelApplet.callOnceOn host enter callBack callee arguments)
      (PixelApplet.callOnceOn host enter' callBack' callee arguments) := by
  refine Routine.checkCancelled.bindConcurs fun _ => ?_
  cases callee with
  | function identity f => exact concurEnter f
  | builtin identity b =>
    refine mapError (fun _ e => e.cause_blame _) ?_
    unfold Builtin.runOn
    cases hosted : b.action.isHosted with
    | true => exact obeys b arguments hosted
    | false =>
      rcases concurBack with plain | concurBack
      · have calm : ConcurOnCallbacks C (fun _ _ => refuseCall) fun _ _ => refuseCall :=
          fun _ _ _ => (Routine.fail _).concurs
        show Concurs C (b.run callBack arguments) (b.run callBack' arguments)
        rw [b.run_plain callBack (fun _ _ => refuseCall) plain,
          b.run_plain callBack' (fun _ _ => refuseCall) plain]
        exact builtin calm b hosted
      · exact builtin concurBack b hosted
  | _ => exact (Routine.fail _).concurs

end Eval.Concurs

/-- Where more calls are open than the limit leaves levels, ways of calling with so many levels
agree. -/
theorem Caller.Unrolls.agree {call other : Caller} (steadyHost : host.Steady panics)
    (steady : load.Steady panics) (unrolls : call.Unrolls host load levels)
    (unrolls' : other.Unrolls host load levels) (enough : deepestCalls < calls + levels) :
    call.Agree panics calls other := by
  rw [Caller.agree_iff]
  -- each level opens one more call, until no machine has so many open
  induction levels generalizing calls call other with
  | zero => exact Caller.agree_iff.mp fun _ _ => .of_beyond enough
  | succ levels ih =>
    obtain ⟨inside, insideBack, beyond, unrolled, unrolledBack, rfl⟩ := unrolls
    obtain ⟨inside', insideBack', beyond', unrolled', unrolledBack', rfl⟩ := unrolls'
    have deeper : deepestCalls < calls + 1 + levels := by omega
    have concurBack : Eval.ConcurOnCallbacks (.posture panics calls)
        (callOnceOn host (enterFunction insideBack load) beyond)
        (callOnceOn host (enterFunction insideBack' load) beyond') := fun callee arguments plain =>
      .callOnceOn steadyHost.obeys (.enterFunction Eval.posture_frames steady.obeys
        (ih unrolledBack unrolledBack' deeper) · arguments) (.inl plain)
    exact fun callee arguments =>
      .callOnceOn steadyHost.obeys (.enterFunction Eval.posture_frames steady.obeys
        (ih unrolled unrolled' deeper) · arguments) (.inr concurBack)

end Rounds

/-!
## What is left of the call stack

Whatever is called or executed on a thread, and however it ends, the calls that were open before are
open afterwards, no others are, and expressions are nested as deeply as before.  On the way every
call and every level is taken only where the limits leave room.
-/

variable {panics : Prop} {load : Loader}

namespace Eval

variable {α : Type}

/-- An action ends with a value or an error, and leaves a machine. -/
def EndsIn (act : Eval α) (m m' : Machine) : Prop :=
  (∃ value, act m = .ok value m') ∨ ∃ e, act m = .error (.error e) m'

theorem EndsIn.after {act : Eval α} {m m' : Machine} (ends : act.EndsIn m m') :
    act.after m = m' := by
  rcases ends with ⟨value, ran⟩ | ⟨e, ran⟩
  · exact after_ok ran
  · exact after_error ran

theorem Steady.endsIn {act : Eval α} {m m' : Machine} (steady : Steady panics act)
    (ends : act.EndsIn m m') : m'.posture = m.posture :=
  ends.after ▸ (steady m).1

end Eval

/-- A file executed on the running thread, given how values are called. -/
def executeFileBy (call : Caller) (load : Loader) (name source : String)
    (predeclared : Bindings Value) : Eval (Except ScriptError ModuleRef) := do
  match parseScript source with
  | .error e => return .error e
  | .ok block => do
    let home ← Eval.newModule (ModuleCell.ofFile name predeclared)
    let _ ← Eval.inFrame ⟨"<toplevel>", name, .nowhere⟩
      (execBlock call load (Scope.topLevel home name) block)
    Eval.changeHeap (Heap.freezeModule home)
    return .ok home

theorem Eval.Concurs.executeFileBy {C inner : Conduct panics} {call other : Caller}
    (frames : Frames C inner) (obeys : load.Obeys inner) (concur : call.Concurs inner other)
    (name source : String) (predeclared : Bindings Value) :
    Concurs C (PixelApplet.executeFileBy call load name source predeclared)
      (PixelApplet.executeFileBy other load name source predeclared) := by
  unfold PixelApplet.executeFileBy
  split
  · exact (Routine.pure _).concurs
  · rename_i block _
    refine (Routine.newModule _).bindConcurs fun home => ?_
    refine (frames _ (execBlock concur obeys block)).bind fun _ => ?_
    exact (Routine.freezeModule _).bindConcurs fun _ => (Routine.pure _).concurs

theorem executeFileBy_steady {call : Caller} (steady : load.Steady panics)
    (agree : call.Agree panics 0 call) (name source : String) (predeclared : Bindings Value) :
    Eval.Steady panics (executeFileBy call load name source predeclared) := by
  have inside : call.Agree panics 1 call := fun callee arguments =>
    (agree callee arguments).mono (Nat.zero_le 1)
  exact Eval.steady_iff.mpr (.executeFileBy Eval.posture_frames steady.obeys
    (Caller.agree_iff.mp inside) name source predeclared)

/-- Calls have more levels than the limit allows. -/
theorem callValue_unrolls : (callValue load).Unrolls .own load (deepestCalls + 1) :=
  callTo_unrolls _

theorem callValue_agree (steady : load.Steady True) :
    (callValue load).Agree True 0 (callValue load) :=
  callValue_unrolls.agree Host.own_steady steady callValue_unrolls (by omega)

theorem Loader.steady_none (panics : Prop) : Loader.Steady panics none := by
  rintro find ⟨⟩

/-- An action inside a call: with the limit of open calls reached it is refused where it stands,
otherwise it runs with one more call open. -/
theorem Eval.inFrame_limited {α : Type} (frame : Frame) (act : Eval α) (m : Machine) :
    (m.openCalls = deepestCalls ∧ Eval.inFrame frame act m
        = .error (.error (.ofMessage s!"call stack depth exceeds {deepestCalls}")) m)
      ∨ ∃ stack, m.openCalls < deepestCalls ∧ stack.frames = frame :: m.thread.stack.frames
        ∧ Eval.inFrame frame act m
          = followedBy act (fun m => m.withStack m.thread.stack.pop) (m.withStack stack) := by
  cases pushed : m.thread.stack.push? frame with
  | none =>
    refine .inl ⟨Nat.le_antisymm m.openCalls_le ?_, inFrame_refused pushed⟩
    unfold CallStack.push? at pushed
    split at pushed
    · cases pushed
    · rename_i full
      exact Nat.le_of_not_lt full
  | some stack =>
    have frames := frames_of_push pushed
    refine .inr ⟨stack, ?_, frames, inFrame_pushed pushed⟩
    have fits := stack.fits
    rw [frames] at fits
    exact fits

/-- An expression: with the deepest level reached it is refused where it stands, otherwise it is
evaluated one level deeper. -/
theorem Eval.nested_limited {α : Type} (act : Eval α) (m : Machine) :
    (m.posture.depth.val = deepestNesting ∧ Eval.nested act m
        = .error (.error (.ofMessage s!"expression nesting exceeds {deepestNesting}")) m)
      ∨ ∃ deeper : Depth, deeper.val = m.posture.depth.val + 1
        ∧ Eval.nested act m
          = followedBy act (fun m => m.atDepth m.thread.depth.leave) (m.atDepth deeper) := by
  cases entered : m.thread.depth.enter? with
  | none =>
    refine .inl ⟨Nat.le_antisymm (Nat.le_of_lt_succ m.thread.depth.isLt) ?_, nested_refused entered⟩
    unfold Depth.enter? at entered
    split at entered
    · cases entered
    · rename_i full
      exact Nat.le_of_not_lt full
  | some deeper =>
    refine .inr ⟨deeper, ?_, nested_entered entered⟩
    unfold Depth.enter? at entered
    split at entered
    · cases entered
      rfl
    · cases entered

/-- Calls and files leave the open calls and the depth of expressions as they were; no machine has
more than 128 calls open or is more than 1000 levels deep, because what would go beyond is
refused. -/
theorem calls_and_files_keep_posture (load : Loader) (steady : load.Steady True) :
    (∀ callee arguments m m', (callValue load callee arguments).EndsIn m m' →
        m'.posture = m.posture)
      ∧ (∀ name source predeclared m m',
        (executeFile load name source predeclared).EndsIn m m' → m'.posture = m.posture)
      ∧ (∀ m : Machine, m.posture.calls.length ≤ 128 ∧ m.posture.depth.val ≤ 1000)
      ∧ (∀ {α : Type} (frame : Frame) (act : Eval α) (m : Machine),
        (m.openCalls = 128 ∧ Eval.inFrame frame act m
            = .error (.error (.ofMessage s!"call stack depth exceeds {deepestCalls}")) m)
          ∨ ∃ stack, m.openCalls < 128 ∧ stack.frames = frame :: m.thread.stack.frames
            ∧ Eval.inFrame frame act m = Eval.followedBy act
              (fun m => m.withStack m.thread.stack.pop) (m.withStack stack))
      ∧ (∀ {α : Type} (act : Eval α) (m : Machine),
        (m.posture.depth.val = 1000 ∧ Eval.nested act m
            = .error (.error (.ofMessage s!"expression nesting exceeds {deepestNesting}")) m)
          ∨ ∃ deeper : Depth, deeper.val = m.posture.depth.val + 1
            ∧ Eval.nested act m = Eval.followedBy act
              (fun m => m.atDepth m.thread.depth.leave) (m.atDepth deeper)) := by
  refine ⟨fun callee arguments m m' ends => ?_, fun name source predeclared m m' ends => ?_,
    fun m => ?_, Eval.inFrame_limited, Eval.nested_limited⟩
  · exact (callValue_agree steady callee arguments).steady.endsIn ends
  · exact (executeFileBy_steady steady (callValue_agree steady) name source predeclared).endsIn ends
  · rw [← m.openCalls_eq]
    exact ⟨m.openCalls_le, Nat.le_of_lt_succ m.posture.depth.isLt⟩

/-- A script whose function calls itself without end. -/
def endlessScript : String :=
  "def again():\n    return again()\nagain()\n"

/-- The message of the error that ended a run. -/
def Eval.refusal? {α : Type} : EStateM.Result Abort Machine α → Option String
  | .error (.error e) _ => some e.message
  | _ => none

theorem Eval.exists_of_refusal? {α : Type} {act : Eval α} {m : Machine} {message : String}
    (refused : refusal? (act m) = some message) :
    ∃ e, act m = .error (.error e) (act.after m) ∧ e.message = message := by
  unfold after
  unfold refusal? at refused
  split at refused
  · rename_i e m' ran
    rw [ran]
    exact ⟨e, rfl, Option.some.inj refused⟩
  · cases refused

theorem endlessScript_refused :
    Eval.refusal? (executeFile none "again.star" endlessScript [] (.initial (.under [])))
      = some "call stack depth exceeds 128" := by
  decide +kernel

/-- The error is raised with all calls open; afterwards none is. -/
theorem endlessScript_keeps_posture : ∃ e m',
    executeFile none "again.star" endlessScript [] (.initial (.under [])) = .error (.error e) m'
      ∧ e.message = "call stack depth exceeds 128"
      ∧ m'.posture = (Machine.initial (.under [])).posture := by
  obtain ⟨e, ran, same⟩ := Eval.exists_of_refusal? endlessScript_refused
  exact ⟨e, _, ran, same, (calls_and_files_keep_posture none (Loader.steady_none _)).2.1 _ _ _ _ _
    (.inr ⟨e, ran⟩)⟩

end PixelApplet

/-!
## Every script ends

The recursion of calls is bounded by nothing that a call is given.  Still it has a solution that a
fixed number of rounds reaches from wherever it starts, and with which every call and every file
ends with a value or an error, as long as what the host provides does.  Keeping texts in the cache
counts as provided by the host: it is where a script itself can make a call fail.
-/

namespace PixelApplet

variable {host : Host} {load : Loader}

/-- As many rounds as calls can be open, and one more, each for a script function and a builtin
function that it calls. -/
def sufficientRounds : Nat :=
  2 * (deepestCalls + 1)

/-- An action that agrees with itself, and in which no host fails, ends with a value or an error. -/
theorem Eval.Steady.exists_endsIn {α : Type} {act : Eval α} (steady : Steady False act)
    (m : Machine) : ∃ m', act.EndsIn m m' := by
  cases ran : act m with
  | ok value m' => exact ⟨m', .inl ⟨value, ran⟩⟩
  | error abort m' =>
    cases abort with
    | error e => exact ⟨m', .inr ⟨e, ran⟩⟩
    | panic message => exact ((steady m).2 ⟨message, m', ran⟩).elim

theorem Eval.Agree.eq {α : Type} {panics : Prop} {act other : Eval α}
    (agree : Agree panics 0 act other) : act = other :=
  funext fun m => (agree m (Nat.zero_le _)).1

theorem Caller.Agree.eq {panics : Prop} {call other : Caller} (agree : call.Agree panics 0 other) :
    call = other :=
  funext fun callee => funext fun arguments => (agree callee arguments).eq

/-- What happens after sufficiently many rounds is never reached. -/
theorem callWithin_eq {panics : Prop} (steadyHost : host.Steady panics)
    (steady : load.Steady panics) {beyond : Caller} {call : Caller} {rounds : Nat}
    (enough : sufficientRounds ≤ rounds) (unrolls : call.Unrolls host load (deepestCalls + 1)) :
    callWithin host load beyond rounds = call :=
  (Caller.Unrolls.agree steadyHost steady (callWithin_unrolls enough) unrolls (by omega)).eq

/-- The recursion of calls has a solution which every sufficient number of rounds reaches, and with
which every call and every file ends with a value or an error. -/
theorem calls_and_files_end (host : Host) (load : Loader) (hostReturns : host.Steady False)
    (loadReturns : load.Steady False) :
    ∃ run : Caller, run = callOnceOn host (enterFunction run load) run
      ∧ (∀ beyond rounds, sufficientRounds ≤ rounds → callWithin host load beyond rounds = run)
      ∧ (∀ callee arguments m, ∃ m', (run callee arguments).EndsIn m m')
      ∧ ∀ name source predeclared m,
        ∃ m', (executeFileBy run load name source predeclared).EndsIn m m' := by
  let beyond : Caller := fun _ _ => refuseCall
  let run := callWithin host load beyond sufficientRounds
  have unrolls : run.Unrolls host load (deepestCalls + 1) := callWithin_unrolls (Nat.le_refl _)
  have reached (beyond : Caller) (rounds : Nat) (enough : sufficientRounds ≤ rounds) :
      callWithin host load beyond rounds = run :=
    callWithin_eq hostReturns loadReturns enough unrolls
  have agree : run.Agree False 0 run := unrolls.agree hostReturns loadReturns unrolls (by omega)
  refine ⟨run, ?_, reached, fun callee arguments m => ?_, fun name source predeclared m => ?_⟩
  · have further : callWithin host load beyond (sufficientRounds + 1) = run :=
      reached beyond _ (Nat.le_succ _)
    exact further.symm
  · exact (agree callee arguments).steady.exists_endsIn m
  · exact (executeFileBy_steady loadReturns agree name source predeclared).exists_endsIn m

/-- The calls of the machine are reached by every sufficient number of rounds for its own host, also
where that fails. -/
theorem callWithin_own_eq {load : Loader} (steady : load.Steady True) (beyond : Caller)
    {rounds : Nat} (enough : sufficientRounds ≤ rounds) :
    callWithin .own load beyond rounds = callValue load :=
  callWithin_eq Host.own_steady steady enough callValue_unrolls

/-- The calls of the machine solve the recursion of calls, although they are cut off. -/
theorem callValue_solves {load : Loader} (steady : load.Steady True) :
    callValue load = callOnce (enterFunction (callValue load) load) (callValue load) := by
  let beyond : Caller := fun _ _ => refuseCall
  have further : callWithin .own load beyond (sufficientRounds + 1) = callValue load :=
    callWithin_own_eq steady beyond (Nat.le_succ _)
  rw [callWithin, callWithin_own_eq steady beyond (Nat.le_refl _), callOnceOn_own] at further
  exact further.symm

/-- A host whose functions do what those of the machine's own host do, but end with an error where
those fail. -/
def Host.forgiving : Host :=
  fun b arguments m =>
    match Host.own b arguments m with
    | .error (.panic message) m' => .error (.error (.ofMessage message)) m'
    | result => result

theorem Host.forgiving_steady : Host.forgiving.Steady False := by
  intro b arguments hosted m
  have keeps := (Host.own_steady b arguments hosted m).1
  unfold Eval.after at keeps ⊢
  unfold Eval.Panics Host.forgiving
  generalize own b arguments m = result at keeps ⊢
  rcases result with ⟨value, m'⟩ | ⟨e | message, m'⟩
  · exact ⟨keeps, by rintro ⟨_, _, ⟨⟩⟩⟩
  · exact ⟨keeps, by rintro ⟨_, _, ⟨⟩⟩⟩
  · exact ⟨keeps, by rintro ⟨_, _, ⟨⟩⟩⟩

/-- Recursion without end is ended, under a host that returns. -/
theorem endlessScript_ends : ∃ m',
    (executeFileBy (callWithin .forgiving none (fun _ _ => refuseCall) sufficientRounds) none
      "again.star" endlessScript []).EndsIn (.initial (.under [])) m' := by
  obtain ⟨run, -, reached, -, files⟩ :=
    calls_and_files_end .forgiving none Host.forgiving_steady (Loader.steady_none False)
  rw [reached _ _ (Nat.le_refl _)]
  exact files _ _ _ _

/-- Why the machine's own host is not one that returns: keeping a text beyond the last second of the
clock is not refused, as keeping it for a negative number of seconds is, but fails. -/
theorem Caching.fails_beyond_clock (m : Machine) (key value : String) (seconds : Int64)
    (natural : 0 ≤ seconds.toInt) (beyond : lastSecond < m.clock + seconds.toInt.toNat) :
    run .set ⟨[.str key, .str value, .int seconds], []⟩ m
      = .error (.panic "overflow when adding duration to instant") m := by
  have refused : ¬seconds.toInt < 0 := Int.not_lt.mpr natural
  have storing : run .set ⟨[.str key, .str value, .int seconds], []⟩ m
      = (do
        if seconds.toInt < 0 then Eval.fail "set: ttl_seconds must not be negative"
        let expires := (← Eval.read Machine.clock) + seconds.toInt.toNat
        if expires > lastSecond then throw (.panic "overflow when adding duration to instant")
        modify fun m => { m with cache := m.cache.set m.thread.name key value expires }
        return .none : Eval Value) m := rfl
  rw [storing, if_neg refused]
  show (if m.clock + seconds.toInt.toNat > lastSecond then _ else _ : Eval Value) m = _
  rw [if_pos beyond]
  rfl

end PixelApplet
