import PixelApplet.Proofs.Applet.Hosting
import PixelApplet.Proofs.Machine.Registrations

/-!
# Every invocation is torn down

An invocation runs on a thread of its own.  The hooks of the host set the thread up one after the
other; then the thread watches the token of the invocation while a value is called.  However this
ends, the registration is dropped and the thread's cleanups run, each of them once and in the order
in which they were registered.  Nothing that others have registered is lost on the way.
-/

namespace PixelApplet

namespace Eval

variable {α β : Type}

/-- Whatever an action does, it takes back nothing of what others have registered. -/
def Respectful (act : Eval α) : Prop :=
  ∀ m : Machine, m.Proper → m.Respects (act.after m)

theorem Routine.respectful {act : Eval α} (routine : Routine act) : Respectful act :=
  fun m proper => (routine.undisturbed m).1.respects proper

namespace Respectful

theorem bind {act : Eval α} {next : α → Eval β} (respectful : Respectful act)
    (respectfulNext : ∀ value, Respectful (next value)) : Respectful (act >>= next) := by
  intro m proper
  have first := respectful m proper
  cases ran : act m with
  | error abort m' =>
    rw [after_error ran] at first
    rw [after_error (bind_error ran)]
    exact first
  | ok value m' =>
    rw [after_ok ran] at first
    have goes : (act >>= next).after m = (next value).after m' := by
      unfold after
      rw [bind_ok ran]
    rw [goes]
    exact first.trans (respectfulNext value m' first.proper)

/-- What stops an action does not matter. -/
theorem of_same_after {act : Eval α} {other : Eval β} (respectful : Respectful act)
    (same : ∀ m, other.after m = act.after m) : Respectful other :=
  fun m proper => same m ▸ respectful m proper

end Respectful

/-- A change of the stack or of the depth, and a change back, take nothing back. -/
theorem Respectful.enclosed {act : Eval α} (respectful : Respectful act) {m opened : Machine}
    {finish : Machine → Machine} (opens : m.Respects opened)
    (closes : ∀ m' : Machine, m.Respects m' → m.Respects (finish m')) :
    m.Respects ((followedBy act finish).after opened) := by
  rw [after_followedBy]
  exact closes _ (opens.trans (respectful opened opens.proper))

theorem respectful_discipline : Discipline fun act => Respectful act where
  routine := Routine.respectful
  bind := Respectful.bind
  moveTo pos m proper :=
    (Machine.Respects.refl proper).of_same rfl (List.prefix_refl _) rfl rfl
  mapError _ _ _ _ _ respectful := respectful.of_same_after after_mapError
  attempt respectful := (respectful.of_same_after after_attempt).bind fun _ =>
    (Routine.pure _).respectful
  nested respectful m proper := by
    cases entered : m.thread.depth.enter? with
    | none =>
      rw [after, nested_refused entered]
      exact .refl proper
    | some deeper =>
      rw [after, nested_entered entered]
      refine respectful.enclosed ?_ fun m' respects =>
        respects.of_same rfl (List.prefix_refl _) rfl rfl
      exact (Machine.Respects.refl proper).of_same rfl (List.prefix_refl _) rfl rfl
  inFrame frame respectful m proper := by
    cases pushed : m.thread.stack.push? frame with
    | none =>
      rw [after, inFrame_refused pushed]
      exact .refl proper
    | some stack =>
      rw [after, inFrame_pushed pushed]
      refine respectful.enclosed ?_ fun m' respects =>
        respects.of_same rfl (List.prefix_refl _) rfl rfl
      exact (Machine.Respects.refl proper).of_same rfl (List.prefix_refl _) rfl rfl
  panics message m proper := .refl proper
  stores key value expires m proper :=
    (Machine.Respects.refl proper).of_same rfl (List.prefix_refl _) rfl rfl
  cancels reason m proper := by
    unfold after
    dsimp only [modifyGet, MonadStateOf.modifyGet, EStateM.modifyGet]
    split
    · exact Machine.respects_cancelToken proper _ reason
    · exact .refl proper

/-- An action succeeds and disturbs nothing. -/
def Smooth (act : Eval α) : Prop :=
  ∀ m : Machine, ∃ value m', act m = .ok value m' ∧ m.Undisturbed m'

theorem Smooth.bind {act : Eval α} {next : α → Eval β} (smooth : Smooth act)
    (smoothNext : ∀ value, Smooth (next value)) : Smooth (act >>= next) := by
  intro m
  obtain ⟨value, between, ran, undisturbed⟩ := smooth m
  obtain ⟨value', m', ran', undisturbed'⟩ := smoothNext value between
  exact ⟨value', m', (bind_ok ran).trans ran', undisturbed.trans undisturbed'⟩

/-! ## Hooks in their order -/

/-- Hooks run one after the other until one of them stops; the notes list the cleanups that each of
them registers. -/
inductive InOrder : List (Eval Unit) → Machine → (notes : List (List String)) → Machine → Prop where
  | done (m : Machine) : InOrder [] m [] m
  | stops {hook : Eval Unit} {rest : List (Eval Unit)} {m m' : Machine} {abort : Abort}
    {notes : List String} (ran : hook m = .error abort m')
    (registers : m'.thread.cleanups = m.thread.cleanups ++ notes) :
    InOrder (hook :: rest) m [notes] m'
  | goesOn {hook : Eval Unit} {rest : List (Eval Unit)} {m m' last : Machine} {notes : List String}
    {more : List (List String)} (ran : hook m = .ok () m')
    (registers : m'.thread.cleanups = m.thread.cleanups ++ notes)
    (later : InOrder rest m' more last) : InOrder (hook :: rest) m (notes :: more) last

/-- Runs hooks one after the other. -/
def runAll (hooks : List (Eval Unit)) : Eval Unit :=
  hooks.forM fun hook => hook

theorem runAll_append (hooks more : List (Eval Unit)) :
    runAll (hooks ++ more) = (runAll hooks >>= fun _ => runAll more) := by
  induction hooks with
  | nil => rfl
  | cons hook rest ih =>
    show (hook >>= fun _ => runAll (rest ++ more)) = (hook >>= fun _ => runAll rest) >>= _
    rw [ih, bind_assoc]

/-- All cleanups that hooks register are there in the end, in the order of their registration. -/
theorem InOrder.cleanups {hooks : List (Eval Unit)} {m last : Machine} {notes : List (List String)}
    (inOrder : InOrder hooks m notes last) :
    last.thread.cleanups = m.thread.cleanups ++ notes.flatten := by
  induction inOrder with
  | done m => simp
  | stops ran registers => simp [registers]
  | goesOn ran registers later ih => simp [ih, registers]

/-- Hooks that take back nothing, from where it begins on, take back nothing together. -/
theorem runAll_inOrder {hooks : List (Eval Unit)} {start m : Machine}
    (respectful : ∀ hook ∈ hooks, ∀ m, start.Respects m → m.Respects (hook.after m))
    (begins : start.Respects m) :
    ∃ notes, InOrder hooks m notes ((runAll hooks).after m)
      ∧ m.Respects ((runAll hooks).after m) := by
  induction hooks generalizing m with
  | nil => exact ⟨[], .done m, .refl begins.proper⟩
  | cons hook rest ih =>
    have first := respectful hook (.head _) m begins
    obtain ⟨notes, registers⟩ := first.cleanups
    have runs : runAll (hook :: rest) = (hook >>= fun _ => runAll rest) := rfl
    cases ran : hook m with
    | error abort m' =>
      rw [after_error ran] at first registers
      rw [runs, after_error (bind_error ran)]
      exact ⟨[notes], .stops ran registers.symm, first⟩
    | ok value m' =>
      rw [after_ok ran] at first registers
      have ⟨more, later, others⟩ := ih (fun other isLater => respectful other (.tail _ isLater))
        (begins.trans first)
      have goes : (runAll (hook :: rest)).after m = (runAll rest).after m' := by
        rw [runs, after, bind_ok ran, after]
      rw [goes]
      exact ⟨notes :: more, .goesOn ran registers.symm later, first.trans others⟩

end Eval

/-! ## The registration of an invocation -/

namespace Context

open Eval

variable {context : Context} {token : TokenRef} {m m' last : Machine}

theorem respects_watched (proper : m.Proper) (token : TokenRef) :
    m.Respects (watched m token) := by
  have joins : m.Respects (m.setToken token ((m.token token).watch m.thread.cell).1) :=
    (Machine.Respects.refl proper).setToken ((proper.tokens token).watch proper.cell)
      (CancellationToken.continues_watch _ _ _)
  unfold watched
  dsimp only
  split
  · exact joins.trans (Machine.respects_cancelCell joins.proper _ _)
  · exact joins

/-- A token that is there keeps the registration. -/
theorem token_watched (known : token.index < m.tokens.size) :
    (watched m token).token token = ((m.token token).watch m.thread.cell).1 := by
  have set : (m.setToken token ((m.token token).watch m.thread.cell).1).token token
      = ((m.token token).watch m.thread.cell).1 := by
    rw [Machine.token_setToken, if_pos ⟨rfl, known⟩]
  unfold watched
  dsimp only
  split
  · exact set
  · exact set

/-- Dropping the registration takes back nothing else. -/
theorem respects_unwatch (proper : m.Proper) (known : token.index < m.tokens.size)
    (respects : (watched m token).Respects m') :
    m.Respects (unwatch token ((m.token token).watch m.thread.cell).2 m') := by
  have between := respects.tokens token
  rw [token_watched known] at between
  exact ((respects_watched proper token).trans respects).setToken
    ((respects.proper.tokens token).unwatch _)
    (CancellationToken.continues_unwatch (proper.tokens token) between)

/-- The registration is gone. -/
theorem unregistered_unwatch (proper : m.Proper) (known : token.index < m.tokens.size)
    (respects : (watched m token).Respects m') {entry : Nat × CellRef}
    (watches : entry ∈ ((unwatch token ((m.token token).watch m.thread.cell).2 m').token
      token).watchers) :
    entry.1 ≠ (m.token token).nextRegistration := by
  have known' : token.index < m'.tokens.size :=
    Nat.lt_of_lt_of_le known ((respects_watched proper token).trans respects).known
  rw [unwatch, Machine.token_setToken, if_pos ⟨rfl, known'⟩] at watches
  cases given : (m.token token).reason with
  | none =>
    rw [CancellationToken.watch, given] at watches
    simpa using (List.mem_filter.mp watches).2
  | some reason =>
    have cancelled : (m'.token token).reason = some reason :=
      (((respects_watched proper token).trans respects).tokens token).reason reason given
    rw [CancellationToken.watch, given] at watches
    have none := (respects.proper.tokens token).cancelled (by simp [cancelled])
    rw [CancellationToken.unwatch, none] at watches
    cases watches

section Invoking

variable (hooks : context.HooksHave Respectful)
include hooks

/-- Scripts take back nothing while an applet runs. -/
theorem callValue_respectful (callable : Value) (arguments : Arguments) :
    Respectful (callValue context.loader callable arguments) := by
  refine respectful_discipline.callTo (fun home module bindings => ?_) _ callable arguments
  refine (respectful_discipline.loadForeign hooks module).bind fun found => ?_
  cases found with
  | error fault => exact fun m proper => .refl proper
  | ok loaded => exact (Routine.bindLoaded bindings).respectful

/-- The call of an invocation takes back nothing, and its registration is gone afterwards. -/
theorem callUnder_respects (proper : m.Proper) (known : token.index < m.tokens.size)
    (callable : Value) (arguments : Arguments) :
    m.Respects ((context.callUnder token callable arguments).after m)
      ∧ ∀ entry ∈ (((context.callUnder token callable arguments).after m).token token).watchers,
        entry.1 ≠ (m.token token).nextRegistration := by
  have calls := callValue_respectful hooks callable arguments (watched m token)
    (respects_watched proper token).proper
  have ends : (context.callUnder token callable arguments).after m
      = unwatch token ((m.token token).watch m.thread.cell).2
          ((callValue context.loader callable arguments).after (watched m token)) := by
    rw [after, callUnder, bind_ok (watch_eq token m)]
    exact after_followedBy _
  rw [ends]
  exact ⟨respects_unwatch proper known calls, fun _ => unregistered_unwatch proper known calls⟩

end Invoking

/-! ## Invocations -/

/-- The context without the host's initializers. -/
def bare (context : Context) : Context :=
  { context with options := { context.options with initializers := [] } }

/-- Sets a thread up as far as the context does so without the host's hooks. -/
def equip (context : Context) : Eval Unit :=
  context.bare.setUp

/-- What the host contributes to an invocation, in this order: its initializers, what prepares the
thread, and the call. -/
def stages (context : Context) (prepare : Eval Unit) (callable : Value) (arguments : Arguments)
    (token : TokenRef) : List (Eval Unit) :=
  context.options.initializers
    ++ [prepare, context.callUnder token callable arguments >>= fun _ => pure ()]

variable {prepare : Eval Unit} {callable : Value} {arguments : Arguments}

/-- The host's initializers run on a thread that is equipped. -/
theorem setUp_eq (context : Context) :
    context.setUp = (context.equip >>= fun _ => runAll context.options.initializers) := by
  unfold equip setUp runAll
  have same : context.bare.options.decrypter = context.options.decrypter := rfl
  cases given : context.options.decrypter with
  | none =>
    simp only [given, same, bind_assoc]
    rfl
  | some decrypter =>
    simp only [given, same, bind_assoc]
    rfl

/-- To equip a thread succeeds and disturbs nothing. -/
theorem equip_smooth (context : Context) : Smooth context.equip := by
  have prints (target : PrintTarget) :
      Smooth (Eval.changeThread fun thread => { thread with printing := target }) :=
    fun m => ⟨(), _, rfl, ⟨rfl, rfl, rfl, rfl, rfl, rfl, rfl, rfl, rfl, .refl _⟩⟩
  have attaches (key : String) (attachment : Attachment) :
      Smooth (Eval.changeThread fun thread => thread.attach key attachment) :=
    fun m => ⟨(), _, rfl, ⟨rfl, rfl, rfl, rfl, rfl, rfl, rfl, rfl, rfl, .refl _⟩⟩
  have draws : Smooth Chance.state := by
    refine Smooth.bind (fun m => ⟨_, m, rfl, .refl m⟩) fun attached => ?_
    rcases attached with _ | _ | _ | _ | _ | _ <;> exact fun m => ⟨_, m, rfl, .refl m⟩
  have last : Smooth (do
      Eval.changeThread fun thread => { thread with printing := context.bare.printing }
      context.bare.options.initializers.forM fun initializer => initializer) :=
    (prints _).bind fun _ m => ⟨(), m, rfl, .refl m⟩
  unfold equip setUp
  refine (prints _).bind fun _ => draws.bind fun seed => (attaches _ _).bind fun _ => ?_
  split
  · exact (attaches _ _).bind fun _ => last
  · exact last

/-- Before the first hook runs, the thread is equipped. -/
theorem setUp_eq_runAll (context : Context) (m : Machine) : ∃ equipped,
    context.equip m = .ok () equipped
      ∧ context.setUp m = runAll context.options.initializers equipped
      ∧ m.Undisturbed equipped := by
  obtain ⟨⟨⟩, equipped, equips, undisturbed⟩ := context.equip_smooth m
  exact ⟨equipped, equips, by rw [setUp_eq, bind_ok equips], undisturbed⟩

theorem setUp_respectful (hooks : context.HooksHave Respectful) : Respectful context.setUp := by
  intro m proper
  obtain ⟨equipped, -, setsUp, undisturbed⟩ := context.setUp_eq_runAll m
  obtain ⟨-, -, respects⟩ := runAll_inOrder
    (fun hook isOne m' since => hooks.initializers hook isOne m' since.proper)
    (undisturbed.respects proper)
  rw [after, setsUp]
  exact (undisturbed.respects proper).trans respects

/-- What runs on the thread of an invocation. -/
def inside (context : Context) (prepare : Eval Unit) (callable : Value) (arguments : Arguments)
    (token : TokenRef) : Eval Value := do
  context.setUp
  prepare
  context.callUnder token callable arguments

/-- What runs on the thread of an invocation are its stages. -/
theorem stages_after {equipped : Machine}
    (setsUp : context.setUp m = runAll context.options.initializers equipped) :
    (context.inside prepare callable arguments token).after m
      = (runAll (context.stages prepare callable arguments token)).after equipped := by
  have begins : (context.inside prepare callable arguments token).after m
      = (do runAll context.options.initializers
            prepare
            context.callUnder token callable arguments).after equipped := by
    unfold inside
    cases ran : runAll context.options.initializers equipped with
    | ok value m' => rw [after, after, bind_ok (setsUp.trans ran), bind_ok ran]
    | error abort m' => rw [after, after, bind_error (setsUp.trans ran), bind_error ran]
  rw [begins, stages, runAll_append]
  show _ = (runAll context.options.initializers >>= fun _ => prepare >>= fun _ =>
    (context.callUnder token callable arguments >>= fun _ => pure ()) >>= fun _ => pure ()).after _
  refine after_bind_congr (fun _ => after_bind_congr fun _ m' => ?_) equipped
  exact ((after_bind_pure _ m').trans (after_bind_pure _ m')).symm

/-- An invocation that runs to its end gives what was returned and what was logged. -/
theorem invokeWith_ok {value : Value}
    (ran : context.inside prepare callable arguments token (m.started context.id) = .ok value m') :
    context.invokeWith prepare callable arguments token m
      = .ok (.ok value, m'.log?.getD []) (endThread m.thread m') := by
  unfold inside at ran
  have recovered := recover_ok ran
  rw [invokeWith, onThread_eq, followedBy, bind_ok recovered]
  rfl

/-- An invocation that stops gives a fault and what was logged. -/
theorem invokeWith_error {abort : Abort}
    (stops : context.inside prepare callable arguments token (m.started context.id)
      = .error abort m') :
    context.invokeWith prepare callable arguments token m
      = .ok (.error (context.faultOf callable abort), m'.log?.getD []) (endThread m.thread m') := by
  unfold inside at stops
  have recovered := recover_error stops
  rw [invokeWith, onThread_eq, followedBy, bind_ok recovered]
  rfl

/-- An invocation always ends with a result, and its thread with it. -/
theorem invokeWith_eq (context : Context) (prepare : Eval Unit) (callable : Value)
    (arguments : Arguments) (token : TokenRef) (m : Machine) : ∃ result,
    context.invokeWith prepare callable arguments token m = .ok result (endThread m.thread
      ((context.inside prepare callable arguments token).after (m.started context.id))) := by
  cases ran : context.inside prepare callable arguments token (m.started context.id) with
  | ok value m' =>
    rw [after_ok ran]
    exact ⟨_, invokeWith_ok ran⟩
  | error abort m' =>
    rw [after_error ran]
    exact ⟨_, invokeWith_error ran⟩

/-- What an invocation leaves behind. -/
structure TornDown (context : Context) (prepare : Eval Unit) (callable : Value)
    (arguments : Arguments) (token : TokenRef) (m m' : Machine) : Prop where
  /-- The cleanups that the stages have registered are run at the end, each of them once, in the
  order in which they were registered; the newest event stands first. -/
  cleanups : ∃ equipped notes last, context.equip (m.started context.id) = .ok () equipped
    ∧ equipped.thread.cleanups = []
    ∧ InOrder (context.stages prepare callable arguments token) equipped notes last
    ∧ m'.events = (notes.flatten.map Event.noted).reverse ++ last.events
  /-- The thread that waited goes on. -/
  resumes : m'.thread = m.thread
  /-- What others have registered before is still there, unless a cancellation has told it. -/
  others : m.Respects m'
  /-- The same holds of what the hooks have registered with tokens. -/
  hooks : ∀ ready, (do context.setUp; prepare) (m.started context.id) = .ok () ready → ∀ ref,
    (ready.token ref).Continues m'.TellsCell (m'.token ref)
  /-- The registration under which the thread of the invocation was known is gone. -/
  unregistered : ∀ ready, (do context.setUp; prepare) (m.started context.id) = .ok () ready →
    ∀ entry ∈ (m'.token token).watchers, entry.1 ≠ (ready.token token).nextRegistration
  /-- When the token is cancelled later, neither the heap nor anything that was seen changes. -/
  later : ∀ reason, m'.cancelToken token reason = { m' with
    cells := (m'.cancelToken token reason).cells
    tokens := (m'.cancelToken token reason).tokens }

end Context

/-! ## Threads of their own -/

namespace Machine

variable {m m' last : Machine}

theorem Proper.started (proper : m.Proper) (name : String) : (m.started name).Proper where
  cell := by simp [Machine.started, Thread.named]
  tokens ref := (proper.tokens ref).mono (by simp [Machine.started])

/-- When a thread of its own ends, nothing is taken back of what was registered before. -/
theorem Respects.endThread {name : String} (proper : m.Proper)
    (respects : (m.started name).Respects last) :
    m.Respects (Eval.endThread m.thread last) := by
  have cells : m.cells.size ≤ last.cells.size :=
    Nat.le_trans (by simp [Machine.started]) respects.cells
  exact ⟨⟨Nat.lt_of_lt_of_le proper.cell cells, respects.proper.tokens⟩, rfl, List.prefix_refl _,
    cells, respects.known, fun told => respects.told (told.started name), respects.tokens⟩

/-- The machine before anything ran is proper. -/
theorem proper_initial (disk : Disk) : (initial disk).Proper where
  cell := Nat.zero_lt_one
  tokens _ := ⟨nofun, nofun, fun _ => rfl⟩

end Machine

namespace Context

open Eval

variable {context : Context} {prepare : Eval Unit} {callable : Value} {arguments : Arguments}
  {token : TokenRef} {m : Machine}

/-- The thread of an invocation runs its stages in their order, and takes back nothing. -/
theorem stages_run (hooks : context.HooksHave Respectful) (prepares : Respectful prepare)
    (proper : m.Proper) (known : token.index < m.tokens.size) (callable : Value)
    (arguments : Arguments) : ∃ equipped notes last,
      context.equip (m.started context.id) = .ok () equipped
        ∧ equipped.thread.cleanups = []
        ∧ InOrder (context.stages prepare callable arguments token) equipped notes last
        ∧ (m.started context.id).Respects last
        ∧ (context.inside prepare callable arguments token).after (m.started context.id)
          = last := by
  obtain ⟨equipped, equips, setsUp, undisturbed⟩ := context.setUp_eq_runAll (m.started context.id)
  have begins := undisturbed.respects (proper.started context.id)
  have respectful : ∀ stage ∈ context.stages prepare callable arguments token, ∀ m',
      (m.started context.id).Respects m' → m'.Respects (stage.after m') := by
    intro stage isOne m' since
    rcases List.mem_append.mp isOne with isInitializer | isLater
    · exact hooks.initializers stage isInitializer m' since.proper
    · rcases List.mem_cons.mp isLater with rfl | isCall
      · exact prepares m' since.proper
      · have known' : token.index < m'.tokens.size := Nat.lt_of_lt_of_le known since.known
        rw [List.mem_singleton.mp isCall, after_bind_pure]
        exact (callUnder_respects hooks since.proper known' callable arguments).1
  obtain ⟨notes, inOrder, respects⟩ := runAll_inOrder respectful begins
  exact ⟨equipped, notes, _, equips, undisturbed.cleanups, inOrder, begins.trans respects,
    stages_after setsUp⟩

/-- Whatever is called under whatever token, whatever the hooks of the host register, and however
the call ends: an invocation returns a result, and when it does, its cleanups have run, each of them
once and in their order, and its registration with the token is gone, whereas all that others have
registered is still there unless a cancellation has told it. -/
theorem invocation_torn_down (hooks : context.HooksHave Respectful) (prepares : Respectful prepare)
    (proper : m.Proper) (known : token.index < m.tokens.size) : ∃ result m',
      context.invokeWith prepare callable arguments token m = .ok result m'
        ∧ context.TornDown prepare callable arguments token m m' := by
  obtain ⟨equipped, notes, last, equips, clean, inOrder, respects, ends⟩ :=
    stages_run hooks prepares proper known callable arguments
  obtain ⟨result, ran⟩ := context.invokeWith_eq prepare callable arguments token m
  rw [ends] at ran
  have called {ready : Machine}
      (isReady : (do context.setUp; prepare) (m.started context.id) = .ok () ready) :
      ready.Respects last ∧ ∀ entry ∈ (last.token token).watchers,
        entry.1 ≠ (ready.token token).nextRegistration := by
    have reaches := (setUp_respectful hooks).bind (fun _ => prepares) (m.started context.id)
      (proper.started context.id)
    rw [after_ok isReady] at reaches
    have goes : (context.inside prepare callable arguments token).after (m.started context.id)
        = (context.callUnder token callable arguments).after ready := by
      rw [inside, ← bind_assoc, after, bind_ok isReady, after]
    rw [← ends, goes]
    exact callUnder_respects hooks reaches.proper (Nat.lt_of_lt_of_le known reaches.known) callable
      arguments
  refine ⟨result, _, ran, ⟨equipped, notes, last, equips, clean, inOrder, ?_⟩, rfl,
    respects.endThread proper, fun ready isReady => (called isReady).1.tokens,
    fun ready isReady => (called isReady).2, fun reason => Machine.cancelToken_frame _ _ _⟩
  rw [endThread, inOrder.cleanups, clean, List.nil_append]

/-- A context whose threads note something when they end. -/
def noting : Context :=
  ⟨"clock", { AppletOptions.none with
    initializers := [Eval.changeThread fun thread => thread.noteAtEnd "initialized"] }⟩

/-- Notes something at the end of a thread that is being prepared. -/
def preparing : Eval Unit :=
  Eval.changeThread fun thread => thread.noteAtEnd "prepared"

/-- A machine with a token that another thread watches, and that scripts can cancel. -/
def watchedMachine : Machine :=
  { Machine.initial (.under []) with
    tokens := #[⟨none, 1, [(0, ⟨0⟩)]⟩]
    hostToken := some ⟨0⟩ }

/-- The function by which a script cancels the token of the host. -/
def cancelling : Value :=
  .builtin (.fresh 0) ⟨"cancel", none, .host .cancel⟩

/-- Noting something at the end takes nothing back. -/
theorem noteAtEnd_respectful (note : String) :
    Respectful (Eval.changeThread fun thread => thread.noteAtEnd note) :=
  fun _ proper => (Machine.Respects.refl proper).of_same rfl (List.prefix_append _ _) rfl rfl

/-- The invocation cancels its own token while it runs: the other watcher is told, and both
cleanups run. -/
theorem invocation_torn_down_cancelling :
    (∃ result m',
      noting.invokeWith preparing cancelling (.ofList [.str "stop"]) ⟨0⟩ watchedMachine
          = .ok result m'
        ∧ noting.TornDown preparing cancelling (.ofList [.str "stop"]) ⟨0⟩ watchedMachine m')
      ∧ ((noting.invokeWith preparing cancelling (.ofList [.str "stop"]) ⟨0⟩).after
        watchedMachine).events = [.noted "prepared", .noted "initialized"]
      ∧ ((noting.invokeWith preparing cancelling (.ofList [.str "stop"]) ⟨0⟩).after
        watchedMachine).cells.map CancelCell.reason = #[some "stop", some "stop"] := by
  have hooks : noting.HooksHave Respectful := by
    refine ⟨nofun, fun initializer isOne => ?_⟩
    rw [List.mem_singleton.mp isOne]
    exact noteAtEnd_respectful _
  have proper : watchedMachine.Proper := by
    refine ⟨Nat.zero_lt_one, ?_⟩
    rintro ⟨_ | index⟩
    · refine ⟨?_, ?_, fun cancelled => absurd rfl cancelled⟩ <;> decide +kernel
    · exact ⟨nofun, nofun, fun _ => rfl⟩
  refine ⟨invocation_torn_down hooks (noteAtEnd_respectful _) proper Nat.zero_lt_one, ?_⟩
  decide +kernel

end Context

end PixelApplet
