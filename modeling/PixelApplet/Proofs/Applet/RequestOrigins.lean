import PixelApplet.Proofs.Applet.Obedience
import PixelApplet.Proofs.Applet.Requests
import PixelApplet.Proofs.Applet.SafeLoading

/-!
# Where the faults of requests come from

A request that fails has a fault of its own, or it leads to a request that fails.  For an error that
has a cause comes from a load statement, and what load statements find wrong with the files of an
applet is what is wrong with requests.
-/

namespace PixelApplet

/-- The faults of a script itself: its top level does not parse, stops or fails, or what it exports
is refused. -/
inductive ScriptFault (context : Context) (path : String) : AppletFault → Prop where
  | unparsed (e : ScriptError) :
    ScriptFault context path (.execution path s!"{context.id}/{path}:{e.text}")
  /-- The error was not caused by a file that the script loads. -/
  | stopped (e : EvalError) (own : ∀ fault, e.cause ≠ some (.sibling fault)) :
    ScriptFault context path (.execution path e.text)
  | panicked (message : String) : ScriptFault context path (.loadPanic context.id message)
  | secondEntryPoint (old : String) : ScriptFault context path (.multipleEntryPoints path old)
  | secondSchema (old : String) : ScriptFault context path (.multipleSchemaFunctions path old)
  | schemaCall (fault : AppletFault) :
    ScriptFault context path (.schemaCall context.id fault.text)
  | schemaParse (fault : SchemaFault) : ScriptFault context path (.schemaParse context.id fault)

/-- The faults of a request itself. -/
inductive LoadRequest.OwnFault (context : Context) (source : FileSource) (r : LoadRequest) :
    AppletFault → Prop where
  /-- The file is being executed already. -/
  | circular (closes : r.file ∈ r.chain)
    (unknown : r.machine.loading.module? r.file = none) :
    OwnFault context source r (.circularDependency (r.chain ++ [r.file]))
  /-- More files are open than there are. -/
  | exhausted (used : r.depth = 0) :
    OwnFault context source r (.circularDependency (r.chain ++ [r.path]))
  | unreadable (fault : FileFault) (reads : source.read r.machine.disk r.file = .error fault) :
    OwnFault context source r (.read r.file fault.text)
  | script {fault : AppletFault} (own : ScriptFault context r.file fault) :
    OwnFault context source r fault

/-! ## Conducts that the files of an applet obey -/

theorem Conduct.uncaused_loads : Conduct.uncaused.Loads where
  everywhere _ := trivial
  closes := id
  ends := id
  settles step untouched := ⟨untouched.loading ▸ step.1, step.2⟩
  notes longer := ⟨longer, trivial⟩

theorem Conduct.noting_loads : Conduct.noting.Loads where
  everywhere _ := trivial
  closes := id
  ends := id
  settles := fun ⟨more, longer, mild⟩ untouched => ⟨more, untouched.loading ▸ longer, mild⟩
  notes := fun ⟨more, longer⟩ => ⟨more, longer.symm, fun _ => trivial⟩

theorem Conduct.noting_relays : Conduct.noting.Relays := by
  rintro m m' path module e ⟨more, longer, -⟩
  refine ⟨.loads path module :: more, ?_, nofun⟩
  rw [longer]
  simp [LoadProgress.after]

theorem Eval.Concurs.noting {α : Type} {act : Eval α} (obeys : Obeys .uncaused act) :
    Obeys .noting act := by
  intro m _
  obtain ⟨⟨more, longer⟩, mild⟩ := (obeys m trivial).2
  exact ⟨rfl, more, longer.symm, fun _ => mild⟩

theorem Context.HooksObey.noting {context : Context} (discreet : context.HooksObey .uncaused) :
    context.HooksObey .noting :=
  ⟨fun supply given name => (discreet.moduleLoader supply given name).noting,
    fun initializer given => (discreet.initializers initializer given).noting⟩

section Discreet

variable {context : Context} {source : FileSource} {path : String} {contents : ByteArray}
  {depth : Nat} {chain : List String}

namespace Context

open Eval

variable (discreet : context.HooksObey .uncaused)
include discreet

theorem siblings_uncaused (module : String) (m : Machine) :
    Uncaused (context.siblings source depth path chain module) m :=
  fun _ _ ran => ((loadBy_obeys Conduct.uncaused_loads discreet
    (ensureLoaded_obeys Conduct.uncaused_loads discreet source depth · chain) module m
      trivial).2.error ran).2

theorem siblings_note :
    Loader.Obeys .noting (some (context.siblings source depth path chain)) :=
  loaderBy_obeys Conduct.noting_loads discreet.noting
    (ensureLoaded_obeys Conduct.noting_loads discreet.noting source depth · chain)
    Conduct.noting_relays

end Context

theorem Context.siblings_safe (hosted : context.Hosted) :
    Loader.Safe .files (some (context.siblings source depth path chain)) :=
  Eval.Safe.loaderBy hosted fun module =>
    Eval.Safe.ensureLoaded hosted source depth module chain

end Discreet

/-! ## What leads to a request -/

section Reaching

variable {context : Context} {source : FileSource} {path module : String} {contents : ByteArray}
  {m asked : Machine}

/-- The module of a file is there when its top level begins, and nothing else is in scope. -/
theorem Machine.entered_sound {prepared : Machine} (path name : String)
    (sound : prepared.heap.Sound) :
    prepared.heap.Develops (prepared.entered path name).heap
      ∧ (prepared.entered path name).heap.Sound
      ∧ (Scope.topLevel prepared.heap.nextModule name).Live
        (prepared.entered path name).heap.extent := by
  have live : (ModuleCell.ofFile name []).Live prepared.heap.extent :=
    ⟨Bindings.live_nil, Bindings.live_nil, Bindings.live_nil⟩
  have adds : Eval.newModule (.ofFile name []) prepared = .ok prepared.heap.nextModule
      { prepared with heap := prepared.heap.addModule (.ofFile name []) } := rfl
  obtain ⟨develops, soundEntered, _, present⟩ :=
    (Eval.Safe.newModule Effect.files_files live rfl).ended sound (Extent.le_refl _) adds
  exact ⟨develops, soundEntered, present, nofun, nofun⟩

/-- A script that comes to load a module began with a top level that comes to it. -/
theorem ScriptAsks.begins {load : Loader} (hosted : context.Hosted)
    (asks : ScriptAsks context load path contents m module asked) (sound : m.heap.Sound) :
    ∃ (start : Machine) (scope : Scope) (block : Block), m.heap.Develops start.heap
      ∧ start.loading = m.loading.after (.began path) ∧ start.heap.Sound
      ∧ scope.Live start.heap.extent ∧ Stmt.LoadsOutsideAll true block
      ∧ Asks (callValue load) load scope (.block block) start module asked := by
  obtain @⟨prepared, block, stack, ready, parses, opens, asks⟩ := asks
  obtain ⟨⟨develops, same⟩, soundPrepared, _, _⟩ :=
    (Eval.Safe.setUp hosted).ended (m := m.started context.id) sound (Extent.le_refl _) ready
  obtain ⟨developsFurther, soundEntered, live⟩ :=
    Machine.entered_sound path s!"{context.id}/{path}" soundPrepared
  refine ⟨(prepared.entered path s!"{context.id}/{path}").withStack stack, _, block,
    develops.trans developsFurther, ?_, soundEntered, live,
    parseScript_loadsOutside parses, asks⟩
  show prepared.loading.after (.began path) = _
  rw [same]
  rfl

theorem LoadRequest.LeadsTo.sound {r s : LoadRequest} (hosted : context.Hosted)
    (leads : r.LeadsTo context source s) (sound : r.machine.heap.Sound) : s.machine.heap.Sound := by
  obtain ⟨unknown, unopened, reads, script, asks, present⟩ := leads
  obtain ⟨_, _, _, _, _, soundStart, live, ready, asks⟩ := asks.begins hosted sound
  exact (asks.reached Effect.files_files (Eval.Safe.callValue _) (Context.siblings_safe hosted)
    soundStart live ready).2

theorem LoadRequest.Made.sound {r : LoadRequest} (hosted : context.Hosted) (sound : m.heap.Sound)
    (made : Made context source m r) : r.machine.heap.Sound := by
  induction made with
  | @root entries before after name between listed split loaded =>
    have safe : Eval.Runs .files (context.ensureAllLoaded source (source.fileCount m.disk + 2)
        before) m.heap.extent :=
      Eval.Safe.ensureAllLoaded hosted source _ before
    exact (safe.ended (m := { m with loading := .empty }) sound (Extent.le_refl _) loaded).2.1
  | nested _ leads ih => exact leads.sound hosted ih

end Reaching

/-! ## Where a fault comes from -/

section Origins

variable {context : Context} {source : FileSource} {path : String} {contents : ByteArray}
  {m m' : Machine} {fault : AppletFault}

namespace Eval

variable {ε α β : Type} {P : ε → Prop}

/-- If the result of an action is a fault, the fault has a property. -/
def Blames (act : Eval (Except ε α)) (P : ε → Prop) : Prop :=
  ∀ m fault m', act m = .ok (.error fault) m' → P fault

namespace Blames

theorem bind {act : Eval β} {next : β → Eval (Except ε α)}
    (blames : ∀ value, Blames (next value) P) : Blames (act >>= next) P := by
  intro m fault m' ran
  obtain ⟨value, between, _, ran⟩ := exists_of_bind_ok ran
  exact blames value _ _ _ ran

theorem ok (value : α) : Blames (Pure.pure (.ok value)) P := by
  intro m fault m' ran
  cases ran

theorem error {fault : ε} (holds : P fault) :
    Blames (Pure.pure (.error fault) : Eval (Except ε α)) P := by
  intro m fault' m' ran
  cases ran
  exact holds

/-- What passes on the fault of an action blames what the action does. -/
theorem orElse {act : Eval (Except ε β)}
    {next : Except ε β → Eval (Except ε α)} (blames : Blames act P)
    (passes : ∀ fault, next (.error fault) = Pure.pure (.error fault))
    (blamesNext : ∀ value, Blames (next (.ok value)) P) : Blames (act >>= next) P := by
  intro m fault m' ran
  obtain ⟨outcome, between, first, ran⟩ := exists_of_bind_ok ran
  cases outcome with
  | error fault' =>
    rw [passes] at ran
    cases ran
    exact blames _ _ _ first
  | ok value => exact blamesNext value _ _ _ ran

end Blames

end Eval

namespace Context

theorem recordEntry_blames (ref : ModuleRef) :
    (recordEntry path ref).Blames (ScriptFault context path) := by
  refine .bind fun found => ?_
  split
  · exact .ok ()
  · refine .bind fun progress => ?_
    split
    · exact .error (.secondEntryPoint _)
    · exact .bind fun _ => .ok ()

theorem recordSchema_blames (ref : ModuleRef) :
    (context.recordSchema path ref).Blames (ScriptFault context path) := by
  refine .bind fun found => ?_
  split
  · exact .ok ()
  · refine .bind fun progress => ?_
    split
    · exact .error (.secondSchema _)
    · refine .bind fun token => .bind fun outcome => ?_
      split
      · exact .error (.schemaCall _)
      · refine .bind fun exported => ?_
        split
        · exact .error (.schemaParse _)
        · exact .bind fun _ => .ok ()

/-- Adding a script fails as executing it does, or what it exports is refused. -/
theorem addScript_blames {load : Loader}
    (ran : context.addScript load path contents m = .ok (.error fault) m') :
    (∃ m', context.execute load path contents m = .ok (.error fault) m')
      ∨ ScriptFault context path fault := by
  obtain ⟨outcome, between, executes, ran⟩ := Eval.exists_of_bind_ok ran
  cases outcome with
  | error fault' =>
    cases ran
    exact .inl ⟨_, executes⟩
  | ok ref =>
    refine .inr (Eval.Blames.bind (fun _ => ?_) _ _ _ ran)
    exact .orElse (recordEntry_blames ref) (fun _ => rfl) fun _ =>
      .orElse (recordSchema_blames ref) (fun _ => rfl) fun _ => .ok ref

end Context

section Discreet

variable (hosted : context.Hosted) (discreet : context.HooksObey .uncaused)
include hosted discreet

omit hosted discreet in
/-- A top level that stops with an error that has a cause was entered. -/
theorem exists_of_topLevel {frame : Frame} {act : Eval (Flow × Scope)} {ref : ModuleRef}
    {e : EvalError} {cause : LoadFault}
    (ran : (do
      let _ ← Eval.inFrame frame act
      Eval.changeHeap (Heap.freezeModule ref)
      return (Except.ok ref : Except ScriptError ModuleRef)) m = .error (.error e) m')
    (caused : e.cause = some cause) :
    ∃ stack between, m.thread.stack.push? frame = some stack
      ∧ act (m.withStack stack) = .error (.error e) between := by
  cases step : Eval.inFrame frame act m with
  | ok left between =>
    rw [Eval.bind_ok step] at ran
    cases ran
  | error abort between =>
    rw [Eval.bind_error step] at ran
    cases ran
    cases pushed : m.thread.stack.push? frame with
    | none =>
      rw [Eval.inFrame_refused pushed] at step
      cases step
      cases caused
    | some stack =>
      rw [Eval.inFrame_pushed pushed, Eval.followedBy] at step
      split at step
      · cases step
      · rename_i stops
        cases step
        exact ⟨stack, _, rfl, stops⟩

/-- If the thread of a script stops with an error that has a cause, the script came to a load
statement that found that. -/
theorem ScriptAsks.exists_of_onTop {depth : Nat} {chain : List String} {e : EvalError}
    {cause : LoadFault} (sound : m.heap.Sound)
    (ran : context.onTop (some (context.siblings source depth path chain)) path contents
      (m.started context.id) = .error (.error e) m') (caused : e.cause = some cause) :
    ∃ module asked m', ScriptAsks context (some (context.siblings source depth path chain)) path
        contents m module asked
      ∧ context.siblings source depth path chain module asked = .ok (.error cause) m' := by
  have setsUp : Eval.Uncaused context.setUp (m.started context.id) := fun _ _ ran =>
    ((Context.setUp_obeys Conduct.uncaused_loads discreet _ trivial).2.error ran).2
  obtain ⟨_, prepared, ready, rest⟩ := setsUp.exists_of_bind ran caused
  obtain ⟨_, soundPrepared, _, _⟩ :=
    (Eval.Safe.setUp hosted).ended (m := m.started context.id) sound (Extent.le_refl _) ready
  cases parses : parseScript (Text.decodeLenient contents) with
  | error parseError =>
    have notes : Context.note (fun progress => progress.after (.began path)) prepared
        = .ok () { prepared with loading := prepared.loading.after (.began path) } := rfl
    rw [Eval.bind_ok notes, executeFile, parses] at rest
    cases rest
  | ok block =>
    rw [Context.onTop_parsed ready parses] at ran
    obtain ⟨stack, between, opens, stops⟩ := exists_of_topLevel ran caused
    obtain ⟨_, soundEntered, live⟩ :=
      Machine.entered_sound path s!"{context.id}/{path}" soundPrepared
    have noting : Loader.Obeys .noting (some (context.siblings source depth path chain)) :=
      Context.siblings_note discreet
    have traced : Work.Traced (callValue (some (context.siblings source depth path chain)))
        (context.siblings source depth path chain) (.block block) :=
      Work.traced_block (Eval.Safe.callValue _) (callTo_obeys Conduct.noting_loads.frames noting _)
        (Context.siblings_safe hosted) noting (Context.siblings_uncaused discreet) block
    obtain ⟨module, asked, asks, finds⟩ := traced _
      ((prepared.entered path s!"{context.id}/{path}").withStack stack) soundEntered live
      (parseScript_loadsOutside parses) e cause between stops caused
    exact ⟨module, asked, between, ⟨ready, parses, opens, asks⟩, finds⟩

omit hosted discreet in
theorem Context.conclude_own {e : EvalError} (own : ∀ fault, e.cause ≠ some (.sibling fault)) :
    context.conclude path (.error (.error e)) = pure (.error (.execution path e.text)) := by
  unfold conclude
  dsimp only
  cases caused : e.cause with
  | none => rfl
  | some cause =>
    cases cause with
    | sibling fault => exact (own fault caused).elim
    | refused reason => rfl

omit hosted discreet in
theorem Context.exists_of_outcome {load : Loader} {abort : Abort}
    (ends : context.outcome load path contents m = .ok (.error abort) m') :
    ∃ m'', context.onTop load path contents (m.started context.id) = .error abort m'' := by
  rw [outcome, Eval.onThread_eq, Eval.followedBy, Eval.recover] at ends
  cases ran : context.onTop load path contents (m.started context.id) with
  | ok result m'' =>
    rw [ran] at ends
    cases ends
  | error abort' m'' =>
    rw [ran] at ends
    cases ends
    exact ⟨m'', rfl⟩

/-- Executing a script fails with a fault of the script itself, or with that of a file that it came
to load. -/
theorem Context.execute_blames {depth : Nat} {chain : List String} (sound : m.heap.Sound)
    (ran : context.execute (some (context.siblings source depth path chain)) path contents m
      = .ok (.error fault) m') :
    ScriptFault context path fault
      ∨ ∃ module asked m', ScriptAsks context (some (context.siblings source depth path chain)) path
          contents m module asked
        ∧ context.siblings source depth path chain module asked
          = .ok (.error (.sibling fault)) m' := by
  rw [execute_eq] at ran
  obtain ⟨outcome, between, ends, concludes⟩ := Eval.exists_of_bind_ok ran
  rcases outcome with ⟨e | message⟩ | ⟨e | ref⟩
  · by_cases own : ∀ fault, e.cause ≠ some (.sibling fault)
    · rw [conclude_own own] at concludes
      cases concludes
      exact .inl (.stopped e own)
    · obtain ⟨fault', notApart⟩ := Classical.not_forall.mp own
      have caused := Classical.not_not.mp notApart
      rw [conclude, caused] at concludes
      cases concludes
      obtain ⟨_, stops⟩ := exists_of_outcome ends
      exact .inr (ScriptAsks.exists_of_onTop hosted discreet sound stops caused)
  · cases concludes
    exact .inl (.panicked message)
  · cases concludes
    exact .inl (.unparsed e)
  · cases concludes

end Discreet

section Requesting

/-- Modules that are no files are refused, which is no fault of a file. -/
theorem Context.loadModule_blames (name : String) :
    (context.loadModule name).Blames fun fault => ∃ reason, fault = .refused reason := by
  have library : (loadLibraryModule name).Blames
      fun fault => ∃ reason, fault = .refused reason := by
    unfold loadLibraryModule
    split
    · exact .bind fun ref => .ok ref
    · exact .error ⟨_, rfl⟩
  unfold loadModule
  cases context.options.moduleLoader with
  | none => exact library
  | some supply =>
    refine .bind fun supplied => ?_
    cases supplied with
    | ok bindings => exact .bind fun ref => .ok ref
    | error reason => exact library

/-- What a load statement of a script finds wrong with a file of the applet is what is wrong with a
request. -/
theorem Context.siblings_blames {depth : Nat} {chain : List String} {module : String}
    (finds : context.siblings source depth path chain module m
      = .ok (.error (.sibling fault)) m') :
    source.contains m.disk (Path.clean module) = true
      ∧ LoadRequest.Fails context source ⟨depth, module, chain,
          { m with loading := m.loading.after (.loads path module) }⟩ fault := by
  cases present : source.contains m.disk (Path.clean module) with
  | true =>
    rw [siblings_present present] at finds
    obtain ⟨outcome, between, ensures, finds⟩ := Eval.exists_of_bind_ok finds
    cases outcome with
    | error fault' =>
      cases finds
      exact ⟨rfl, _, ensures⟩
    | ok ref => cases finds
  | false =>
    rw [siblings_absent present] at finds
    obtain ⟨reason, refused⟩ := context.loadModule_blames module _ _ _ finds
    cases refused

theorem LoadRequest.LeadsTo.depth {r s : LoadRequest} (leads : r.LeadsTo context source s) :
    s.depth + 1 = r.depth := by
  cases leads
  rfl

theorem LoadRequest.Fails.unique {r : LoadRequest} {other : AppletFault}
    (fails : r.Fails context source fault) (again : r.Fails context source other) :
    fault = other := by
  obtain ⟨_, ran⟩ := fails
  obtain ⟨_, ran'⟩ := again
  rw [ran] at ran'
  cases ran'
  rfl

variable (hosted : context.Hosted) (discreet : context.HooksObey .uncaused)
include hosted discreet

/-- A request that fails has a fault of its own, or it leads to a request that fails. -/
theorem LoadRequest.Fails.origin {r : LoadRequest} (sound : r.machine.heap.Sound)
    (fails : r.Fails context source fault) :
    r.OwnFault context source fault
      ∨ ∃ s, r.LeadsTo context source s ∧ s.Fails context source fault := by
  obtain ⟨depth, path, chain, m⟩ := r
  obtain ⟨m', ran⟩ := fails
  cases depth with
  | zero =>
    cases ran
    exact .inl (.exhausted rfl)
  | succ depth =>
    cases unknown : m.loading.module? (Path.clean path) with
    | some ref =>
      rw [Context.ensureLoaded_known unknown] at ran
      cases ran
    | none =>
      by_cases opened : Path.clean path ∈ chain
      · rw [Context.ensureLoaded_circular unknown opened] at ran
        cases ran
        exact .inl (.circular opened unknown)
      · cases reads : source.read m.disk (Path.clean path) with
        | error reason =>
          rw [Context.ensureLoaded_open unknown opened, reads] at ran
          cases ran
          exact .inl (.unreadable reason reads)
        | ok contents =>
          by_cases script : isScript (Path.clean path) = true
          · rw [Context.ensureLoaded_script unknown opened reads script] at ran
            rcases Context.addScript_blames ran with ⟨_, executes⟩ | own
            · have soundOpened : ({ m with loading := m.loading.open_ (Path.clean path) } :
                  Machine).heap.Sound := sound
              rcases Context.execute_blames hosted discreet soundOpened executes with own | found
              · exact .inl (.script own)
              · obtain ⟨module, asked, _, asks, finds⟩ := found
                obtain ⟨present, fails⟩ := Context.siblings_blames finds
                exact .inr ⟨_, .intro unknown opened reads script asks present, fails⟩
            · exact .inl (.script own)
          · rw [Context.ensureLoaded_open unknown opened, reads] at ran
            dsimp only at ran
            rw [if_neg script] at ran
            cases ran

/-- Of the requests to which a failing request leads, one has the fault, and leads to none that
fails. -/
theorem LoadRequest.Fails.innermost {r : LoadRequest} {m : Machine} (sound : m.heap.Sound)
    (made : LoadRequest.Made context source m r) (fails : r.Fails context source fault) :
    ∃ s, LoadRequest.Made context source m s ∧ s.Fails context source fault
      ∧ s.OwnFault context source fault
      ∧ ∀ nested other, s.LeadsTo context source nested → ¬nested.Fails context source other := by
  -- the depth decreases from a request to those to which it leads
  induction bound : r.depth using Nat.strongRecOn generalizing r with
  | ind depth ih =>
    by_cases inner : ∃ nested other, r.LeadsTo context source nested
      ∧ nested.Fails context source other
    · obtain ⟨nested, other, leads, failsNested⟩ := inner
      have deeper : nested.depth < depth := by
        rw [← bound, ← leads.depth]
        exact Nat.lt_succ_self _
      have same := fails.unique (leads.fails failsNested)
      subst same
      exact ih nested.depth deeper (.nested made leads) failsNested rfl
    · refine ⟨r, made, fails, ?_, fun nested other leads failsNested =>
        inner ⟨nested, other, leads, failsNested⟩⟩
      have origin := fails.origin hosted discreet (made.sound hosted sound)
      rcases origin with own | ⟨nested, leads, further⟩
      · exact own
      · exact (inner ⟨nested, fault, leads, further⟩).elim

end Requesting

end Origins

end PixelApplet
