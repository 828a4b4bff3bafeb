import PixelApplet.Applet.Basic
import PixelApplet.Proofs.Evaluation.Discipline

/-!
# Hosting

Loading an applet and calling its functions is put together from evaluation and from what a host
does around it: threads are set up and end, tokens are watched, failures are taken as results, and
what happens is noted.  A property of actions that is passed on by evaluation and by all this holds
of whatever a host does with an applet.
-/

namespace PixelApplet

/-- The hooks of the host have a property. -/
structure Context.HooksHave (P : {α : Type} → Eval α → Prop) (context : Context) : Prop where
  moduleLoader : ∀ supply ∈ context.options.moduleLoader, ∀ name, P (supply name)
  initializers : ∀ initializer ∈ context.options.initializers, P initializer

theorem Context.hooksHave_of_none (P : {α : Type} → Eval α → Prop) (id : String) :
    Context.HooksHave P ⟨id, .none⟩ :=
  ⟨nofun, nofun⟩

/-! ## Watching tokens -/

namespace Context

/-- The machine on which a thread has registered with a token. -/
def watched (m : Machine) (token : TokenRef) : Machine :=
  let (t, registered) := (m.token token).watch m.thread.cell
  match registered with
  | .told reason => (m.setToken token t).cancelCell m.thread.cell reason
  | .kept _ => m.setToken token t

theorem watch_eq (token : TokenRef) (m : Machine) : watch token m
    = .ok ((m.token token).watch m.thread.cell).2 (watched m token) :=
  rfl

end Context

/-! ## What hosts do with applets -/

namespace Eval

/-- A property `P` of what runs for the host of an applet with a name, and a property `Q` of what
runs where failures are taken as results; they may be the same. -/
structure Hosting (name : String) (P Q : {α : Type} → Eval α → Prop) : Prop where
  outer : Discipline P
  inner : Discipline Q
  loosen : ∀ {α : Type} {act : Eval α}, P act → Q act
  recover : ∀ {α : Type} {act : Eval α}, Q act → P (Eval.recover act)
  onThread : ∀ {α : Type} {act : Eval α}, P act → P (Eval.onThread name act)
  printsTo : ∀ target : PrintTarget,
    P (Eval.changeThread fun thread => { thread with printing := target })
  /-- Failed assertions are collected on the thread. -/
  collects : ∀ messages : List String, P (Eval.changeThread (Assertions.collecting messages))
  /-- Before its thread ends, an action looks at what the thread has collected. -/
  looksBack : P (Eval.read fun m => m.unplaced.thread)
  notes : ∀ {f : LoadProgress → LoadProgress},
    (∀ progress, progress.history <+: (f progress).history) → P (Context.note f)
  newToken : P Eval.newToken
  /-- While an action runs, its thread watches a token. -/
  watching : ∀ {α : Type} {act : Eval α} (token : TokenRef), Q act → Q (do
    let registered ← Context.watch token
    Eval.followedBy act (Context.unwatch token registered))
  /-- Load statements may fail. -/
  asks : ∀ {find : String → Eval (Except LoadFault ModuleRef)}, (∀ module, Q (find module)) →
    ∀ (home : ModuleRef) (module : String) (bindings : List LoadBinding),
      Q (loadModule (some find) home module bindings)

variable {P Q : {α : Type} → Eval α → Prop} {context : Context} {path : String} {ref : ModuleRef}

/-- Taking a module from the host or from the library. -/
theorem Discipline.loadForeign (discipline : Discipline P) (hooks : context.HooksHave P)
    (name : String) : P (context.loadModule name) := by
  have library : P (Context.loadLibraryModule name) := by
    refine discipline.routine ?_
    unfold Context.loadLibraryModule
    grind
  unfold Context.loadModule
  cases given : context.options.moduleLoader with
  | none => exact library
  | some supply =>
    refine discipline.bind (hooks.moduleLoader supply given name) fun supplied => ?_
    cases supplied with
    | ok bindings => exact discipline.routine (by grind)
    | error reason => exact library

/-- Hooks that run one after the other. -/
theorem Discipline.forM (discipline : Discipline P) {hooks : List (Eval Unit)}
    (has : ∀ hook ∈ hooks, P hook) : P (hooks.forM fun hook => hook) := by
  induction hooks with
  | nil => exact discipline.pure ()
  | cons first rest ih =>
    exact discipline.bind (has first (.head _)) fun _ =>
      ih fun other later => has other (.tail _ later)

theorem Discipline.mapM (discipline : Discipline P) {α β : Type} {step : α → Eval β}
    (has : ∀ item, P (step item)) (items : List α) : P (items.mapM step) := by
  induction items with
  | nil => exact discipline.pure []
  | cons first rest ih =>
    rw [List.mapM_cons]
    exact discipline.bind (has first) fun _ => discipline.bind ih fun _ => discipline.pure _

namespace Hosting

variable (hosting : Hosting context.id P Q)
include hosting

theorem after_look {α β : Type} {f : Machine → α} {next : α → Eval β}
    (blind : ∀ m cache, f { m with cache := cache } = f m)
    (placeless : ∀ m : Machine, f m.unplaced = f m) (deaf : ∀ m : Machine, f m.unlogged = f m)
    (rest : ∀ value, P (next value)) : P (Eval.read f >>= next) :=
  hosting.outer.after_routine (.look f blind placeless deaf) rest

theorem after_note {β : Type} {f : LoadProgress → LoadProgress} {next : Unit → Eval β}
    (longer : ∀ progress, progress.history <+: (f progress).history)
    (rest : ∀ value, P (next value)) : P (Context.note f >>= next) :=
  hosting.outer.bind (hosting.notes longer) rest

theorem setUp (hooks : context.HooksHave P) : P context.setUp := by
  have last : P (do
      Eval.changeThread fun thread => { thread with printing := context.printing }
      context.options.initializers.forM fun initializer => initializer) :=
    hosting.outer.bind (hosting.printsTo _) fun _ => hosting.outer.forM hooks.initializers
  unfold Context.setUp
  refine hosting.outer.bind (hosting.printsTo _) fun _ => ?_
  refine hosting.outer.after_routine .generatorState fun state => ?_
  refine hosting.outer.after_routine .attachGenerator fun _ => ?_
  split
  · exact hosting.outer.after_routine (.attach _ _ (by decide)) fun _ => last
  · exact last

section Invoking

variable (hooks : context.HooksHave P)
include hooks

theorem callUnder (token : TokenRef) (callable : Value) (arguments : Arguments) :
    Q (context.callUnder token callable arguments) := by
  refine hosting.watching token (hosting.inner.callTo ?_ _ callable arguments)
  exact hosting.asks fun module => hosting.loosen (hosting.outer.loadForeign hooks module)

theorem invokeWith {prepare : Eval Unit} (prepares : Q prepare) (callable : Value)
    (arguments : Arguments) (token : TokenRef) :
    P (context.invokeWith prepare callable arguments token) := by
  refine hosting.onThread (hosting.outer.bind (hosting.recover ?_) fun outcome => ?_)
  · refine hosting.inner.bind (hosting.loosen (hosting.setUp hooks)) fun _ => ?_
    exact hosting.inner.bind prepares fun _ => hosting.callUnder hooks token callable arguments
  · rw [read_thread_unplaced fun _ => rfl]
    refine hosting.outer.bind hosting.looksBack fun thread => ?_
    cases outcome <;> exact hosting.outer.pure _

theorem invoke (callable : Value) (arguments : Arguments) (token : TokenRef) :
    P (context.invoke callable arguments token) :=
  hosting.outer.bind (hosting.invokeWith hooks (hosting.inner.pure ()) callable arguments token)
    fun _ => hosting.outer.pure _

theorem execute {load : Loader}
    (loads : ∀ home module bindings, Q (PixelApplet.loadModule load home module bindings))
    (contents : ByteArray) : P (context.execute load path contents) := by
  have runs : Q (do
      context.setUp
      Context.note fun progress => progress.after (.began path)
      executeFile load s!"{context.id}/{path}" (Text.decodeLenient contents) []) := by
    refine hosting.inner.bind (hosting.loosen (hosting.setUp hooks)) fun _ => ?_
    refine hosting.inner.bind (hosting.loosen (hosting.notes fun _ => List.prefix_append _ _)) ?_
    exact fun _ => hosting.inner.executeFile loads _ _ _
  refine hosting.outer.bind (hosting.onThread (hosting.recover runs)) fun outcome => ?_
  rcases outcome with ⟨e | message⟩ | ⟨e | ref⟩
  · dsimp only
    split <;> exact hosting.outer.pure _
  · exact hosting.outer.pure _
  · exact hosting.outer.pure _
  · exact hosting.after_note (fun _ => List.prefix_append _ _) fun _ => hosting.outer.pure _

omit hooks in
theorem recordEntry : P (Context.recordEntry path ref) := by
  refine hosting.outer.after_routine (.readHeap _) fun found => ?_
  cases found with
  | none => exact hosting.outer.pure _
  | some main =>
    refine hosting.after_look (fun _ _ => rfl) (fun _ => rfl) (fun _ => rfl) fun progress => ?_
    split
    · exact hosting.outer.pure _
    · exact hosting.after_note (fun _ => List.prefix_refl _) fun _ => hosting.outer.pure _

theorem recordSchema : P (context.recordSchema path ref) := by
  refine hosting.outer.after_routine (.readHeap _) fun found => ?_
  cases found with
  | none => exact hosting.outer.pure _
  | some function =>
    refine hosting.after_look (fun _ _ => rfl) (fun _ => rfl) (fun _ => rfl) fun progress => ?_
    split
    · exact hosting.outer.pure _
    · refine hosting.outer.bind hosting.newToken fun token => ?_
      refine hosting.outer.bind (hosting.invoke hooks function .empty token) fun outcome => ?_
      cases outcome with
      | error fault => exact hosting.outer.pure _
      | ok value =>
        refine hosting.outer.after_routine (.readHeap _) fun exported => ?_
        split
        · exact hosting.outer.pure _
        · exact hosting.after_note (fun _ => List.prefix_refl _) fun _ => hosting.outer.pure _

theorem addScript {load : Loader}
    (loads : ∀ home module bindings, Q (PixelApplet.loadModule load home module bindings))
    (contents : ByteArray) : P (context.addScript load path contents) := by
  refine hosting.outer.bind (hosting.execute hooks loads contents) fun outcome => ?_
  cases outcome with
  | error fault => exact hosting.outer.pure _
  | ok ref =>
    refine hosting.after_note (fun _ => List.prefix_refl _) fun _ => ?_
    refine hosting.outer.bind hosting.recordEntry fun entered => ?_
    cases entered with
    | error fault => exact hosting.outer.pure _
    | ok _ =>
      refine hosting.outer.bind (hosting.recordSchema hooks) fun recorded => ?_
      cases recorded <;> exact hosting.outer.pure _

omit hooks in
theorem addFile (source : FileSource) : P (Context.addFile source path) := by
  refine hosting.outer.after_routine (.newNative _) fun file => ?_
  refine hosting.outer.after_routine .bindingsModule fun ref => ?_
  exact hosting.after_note (fun _ => List.prefix_refl _) fun _ => hosting.outer.pure _

theorem loadBy {source : FileSource} {ensure : String → Eval (Except AppletFault ModuleRef)}
    (ensures : ∀ module, P (ensure module)) (module : String) :
    P (context.loadBy source path ensure module) := by
  refine hosting.after_note (fun _ => List.prefix_append _ _) fun _ => ?_
  refine hosting.after_look (fun _ _ => rfl) (fun _ => rfl) (fun _ => rfl) fun present => ?_
  split
  · exact hosting.outer.bind (ensures module) fun _ => hosting.outer.pure _
  · exact hosting.outer.loadForeign hooks module

/-- Making sure that a file is loaded has the property, however deep it leads. -/
theorem ensureLoaded (source : FileSource) (depth : Nat) (path : String) (chain : List String) :
    P (context.ensureLoaded source depth path chain) := by
  induction depth generalizing path chain with
  | zero => exact hosting.outer.pure _
  | succ depth ih =>
    unfold Context.ensureLoaded
    refine hosting.after_look (fun _ _ => rfl) (fun _ => rfl) (fun _ => rfl) fun progress => ?_
    split
    · exact hosting.outer.pure _
    · dsimp only
      split
      · exact hosting.outer.pure _
      · refine hosting.after_note (fun _ => List.prefix_refl _) fun _ => ?_
        refine hosting.after_look (fun _ _ => rfl) (fun _ => rfl) (fun _ => rfl) fun read => ?_
        split
        · exact hosting.outer.pure _
        · split
          · refine hosting.addScript hooks (hosting.asks fun module => ?_) _
            exact hosting.loosen (hosting.loadBy hooks (fun module => ih module _) module)
          · exact hosting.outer.bind (hosting.addFile source) fun _ => hosting.outer.pure _

theorem ensureAllLoaded (source : FileSource) (depth : Nat) (names : List String) :
    P (context.ensureAllLoaded source depth names) := by
  induction names with
  | nil => exact hosting.outer.pure _
  | cons name rest ih =>
    refine hosting.outer.bind (hosting.ensureLoaded hooks source depth name []) fun outcome => ?_
    cases outcome with
    | error fault => exact hosting.outer.pure _
    | ok ref => exact ih

/-- Loading has the property if also what forgets the progress of loading has it. -/
theorem load (sets : ∀ progress : LoadProgress, P (Context.note fun _ => progress))
    (source : FileSource) : P (Applet.load context source) := by
  have loadsAll : P (context.loadAll source) := by
    refine hosting.after_look (fun _ _ => rfl) (fun _ => rfl) (fun _ => rfl) fun disk => ?_
    split
    · exact hosting.outer.pure _
    · refine hosting.after_look (fun _ _ => rfl) (fun _ => rfl) (fun _ => rfl) fun outer => ?_
      refine hosting.outer.bind (sets .empty) fun _ => ?_
      refine hosting.outer.bind (hosting.ensureAllLoaded hooks source _ _) fun outcome => ?_
      refine hosting.after_look (fun _ _ => rfl) (fun _ => rfl) (fun _ => rfl) fun loaded => ?_
      refine hosting.outer.bind (sets outer) fun _ => ?_
      cases outcome <;> exact hosting.outer.pure _
  refine hosting.outer.bind loadsAll fun outcome => ?_
  cases outcome with
  | error fault => exact hosting.outer.pure _
  | ok loaded =>
    dsimp only
    split <;> exact hosting.outer.pure _

end Invoking

end Hosting

/-! ## Loaded applets -/

namespace Hosting

variable {applet : Applet} (hosting : Hosting applet.context.id P Q)
  (hooks : applet.context.HooksHave P)
include hosting hooks

theorem call (callable : Value) (arguments : List Value) (token : TokenRef) :
    P (applet.call callable arguments token) :=
  hosting.invoke hooks callable (.ofList arguments) token

theorem run (config : List (String × String)) (token : TokenRef) :
    P (applet.run config token) := by
  unfold Applet.run
  split
  case' isTrue => refine hosting.outer.after_routine (.newDict _) fun dict => ?_
  all_goals
    refine hosting.outer.bind (hosting.outer.pure _) fun arguments => ?_
    refine hosting.outer.bind (hosting.call hooks _ arguments token) fun outcome => ?_
    cases outcome with
    | error fault => exact hosting.outer.pure _
    | ok value => exact hosting.outer.routine (.readHeap _)

theorem callHandler (name parameter : String) (token : TokenRef) :
    P (applet.callHandler name parameter token) := by
  have gives (file : String) (handler : SchemaHandler) (value : Value) :
      P (applet.handlerResult file name handler value) := by
    unfold Applet.handlerResult
    cases handler.kind with
    | options => exact hosting.outer.after_routine (.readHeap _) fun _ => hosting.outer.pure _
    | schema =>
      refine hosting.outer.after_routine (.readHeap _) fun exported => ?_
      cases exported <;> exact hosting.outer.pure _
    | string =>
      dsimp only
      split <;> exact hosting.outer.pure _
  unfold Applet.callHandler
  split
  · exact hosting.outer.pure _
  · split
    · exact hosting.outer.pure _
    · refine hosting.outer.bind (hosting.call hooks _ _ token) fun outcome => ?_
      cases outcome with
      | error fault => exact hosting.outer.pure _
      | ok value => exact gives _ _ value

theorem runTests : P applet.runTests := by
  have runs (file name : String) (test : Value) : P (applet.runTest file name test) := by
    refine hosting.outer.bind hosting.newToken fun token => ?_
    refine hosting.outer.bind
      (hosting.invokeWith hooks (hosting.loosen (hosting.collects [])) test .empty token) ?_
    intro ended
    obtain ⟨outcome, failures⟩ := ended
    cases outcome <;> exact hosting.outer.pure _
  refine hosting.outer.after_routine (.readHeap _) fun tests => ?_
  exact hosting.outer.mapM (fun (file, name, test) => runs file name test) tests

end Hosting

end Eval

end PixelApplet
