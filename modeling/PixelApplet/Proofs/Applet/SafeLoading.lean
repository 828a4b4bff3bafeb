import PixelApplet.Applet.Context
import PixelApplet.Applet.Load
import PixelApplet.Proofs.Evaluation.Statements
import PixelApplet.Proofs.Library.Dispatch

/-!
# Loading is safe

Setting a thread up, calling a function and taking a module from the host or from the library leave
what loading has produced so far as it is.  The host's own hooks are taken to do so as well, for
nothing gives them access to it, and to hand out no values but live ones.

Whatever the source of the files, and whether they load or not, loading them leaves a sound heap
sound.  Load statements of the files are therefore safe, too.
-/

/-! ## What happens beside loading -/

namespace PixelApplet

/-- The effect of all that leaves what loading has produced as it is. -/
def Effect.aside : Effect where
  done m m' := m.heap.Develops m'.heap ∧ m'.loading = m.loading
  stopped m m' := m.heap.Develops m'.heap ∧ m'.loading = m.loading
  alike alike := ⟨alike.heap ▸ .refl, alike.loading⟩
  trans first second := ⟨first.1.trans second.1, second.2.trans first.2⟩
  stop first second := ⟨first.1.trans second.1, second.2.trans first.2⟩
  stops := id
  after stopped alike := ⟨alike.heap ▸ stopped.1, alike.loading.trans stopped.2⟩

theorem Effect.files_aside : Effect.aside.Files where
  program _ := ⟨fun becomes => ⟨becomes.heap.develops, becomes.loading⟩,
    fun becomes => ⟨becomes.heap.develops, becomes.loading⟩⟩
  develops develops := ⟨develops, rfl⟩

/-- The hooks of the host neither touch what is being loaded nor make dangling values. -/
structure Context.Hosted (context : Context) : Prop where
  moduleLoader : ∀ supply, context.options.moduleLoader = some supply →
    ∀ (name : String) (extent : Extent), Eval.Safe .aside (supply name) extent
      fun extent outcome => ∀ bindings, outcome = .ok bindings → Bindings.Live extent bindings
  initializers : ∀ initializer ∈ context.options.initializers, ∀ extent : Extent,
    Eval.Runs .aside initializer extent

/-- A host that decides nothing has no hooks. -/
theorem Context.hosted_of_none (id : String) : Context.Hosted ⟨id, .none⟩ :=
  ⟨nofun, nofun⟩

namespace LibraryModule

variable {extent : Extent}

/-- All values of a module of the library are live. -/
def Live (extent : Extent) (module : LibraryModule) : Prop :=
  ∀ member ∈ module.members, member.2.Live extent

theorem live_make {path name : String} {functions : List (String × Action)}
    {constants : List (String × Value)} (live : ∀ constant ∈ constants, constant.2.Live extent) :
    (make path name functions constants).Live extent := by
  intro member inMembers
  rcases List.mem_append.mp inMembers with isFunction | isConstant
  · obtain ⟨function, _, rfl⟩ := List.mem_map.mp isFunction
    simp
  · exact live member isConstant

/-- The library refers to nothing but the dict of the fonts, which is there from the beginning. -/
theorem live_of_mem_all (begun : Heap.fonts.index < extent.dicts) {module : LibraryModule}
    (member : module ∈ all) : module.Live extent := by
  have fonts : (Value.dict Heap.fonts).Live extent :=
    Value.live_dict.mpr begun
  simp only [all, List.mem_cons, List.not_mem_nil, or_false] at member
  rcases member with rfl | rfl | rfl | rfl | rfl | rfl | rfl | rfl | rfl | rfl | rfl
  all_goals apply live_make
  all_goals simp [fonts, handlerKinds]

theorem live_bindings? (begun : Heap.fonts.index < extent.dicts) {path : String}
    {found : Bindings Value} (finds : bindings? path = some found) : found.Live extent := by
  obtain ⟨module, search, rfl⟩ := Option.map_eq_some_iff.mp finds
  have live := live_of_mem_all begun (List.mem_of_find?_eq_some search)
  intro binding member
  rw [bindings, List.mem_singleton] at member
  rw [member]
  exact Value.live_module.mpr live

end LibraryModule

namespace Eval.Safe

variable {E : Effect} {extent : Extent} {context : Context}

theorem setUp (hosted : context.Hosted) : Runs .aside context.setUp extent := by
  have runsAll (hooks : List (Eval Unit))
      (safe : ∀ hook ∈ hooks, ∀ extent, Runs .aside hook extent) :
      Runs .aside (hooks.forM fun hook => hook) extent := by
    induction hooks with
    | nil => exact returns
    | cons first rest ih =>
      apply andThen (safe first (.head _) extent)
      intro _
      exact ih fun hook member => safe hook (.tail _ member)
  have last : Runs .aside (do
      Eval.changeThread fun thread => { thread with printing := context.printing }
      context.options.initializers.forM fun hook => hook) extent :=
    andThen (changeThread _) fun _ => runsAll _ hosted.initializers
  unfold Context.setUp
  apply andThen (changeThread _)
  intro _
  apply andThen chanceState
  intro state
  apply andThen (changeThread _)
  intro _
  split
  · exact andThen (changeThread _) fun _ => last
  · exact last

/-- Adding a module of the host or of the library. -/
theorem givenModule {ε : Type} {name : String} {bindings : Bindings Value}
    (live : bindings.Live extent) :
    Safe .aside (do return (.ok (← Eval.bindingsModule name bindings) : Except ε ModuleRef)) extent
      ModulePresent := by
  apply bind (bindingsModule Effect.files_aside live)
  intro ref _ _ present
  apply pure
  rintro _ grown _ ⟨⟩
  exact Nat.lt_of_lt_of_le present grown.modules

theorem loadLibraryModule (name : String) :
    Safe .aside (Context.loadLibraryModule name) extent ModulePresent := by
  unfold Context.loadLibraryModule
  intro m sound _
  cases found : LibraryModule.bindings? name with
  | none => exact pure (fun _ _ => nofun) m sound (Extent.le_refl _)
  | some bindings =>
    exact givenModule (LibraryModule.live_bindings? sound.fonts found) m sound (Extent.le_refl _)

/-- Taking a module from the host or from the library. -/
theorem loadForeignModule (hosted : context.Hosted) (name : String) :
    Safe .aside (context.loadModule name) extent ModulePresent := by
  unfold Context.loadModule
  cases hook : context.options.moduleLoader with
  | none => exact loadLibraryModule name
  | some supply =>
    apply bind (hosted.moduleLoader supply hook name extent)
    intro outcome larger grown live
    cases outcome with
    | ok bindings => exact givenModule (live bindings rfl)
    | error reason => exact loadLibraryModule name

theorem callUnder {callable : Value} {arguments : Arguments} {token : TokenRef}
    (live : callable.Live extent) (liveArguments : arguments.Live extent) :
    Yields .data (context.callUnder token callable arguments) extent := by
  have watches : Runs .data (Context.watch token) extent := by
    apply alike
    intro m
    refine ⟨_, _, rfl, ?_⟩
    cases (m.token token).reason with
    | none => exact ⟨rfl, rfl, rfl, rfl⟩
    | some reason => exact ⟨rfl, rfl, rfl, rfl⟩
  apply bind watches
  intro registered larger grown _
  apply followedBy (callValue _ (live.mono grown) (liveArguments.mono grown))
  exact fun _ => ⟨rfl, rfl, rfl, rfl⟩

/-- Calling a value on a thread of its own, whether the call succeeds or not. -/
theorem invokeWith {prepare : Eval Unit} {callable : Value} {arguments : Arguments}
    {token : TokenRef} (hosted : context.Hosted) (prepares : Runs .aside prepare extent)
    (live : callable.Live extent) (liveArguments : arguments.Live extent) :
    Safe .aside (context.invokeWith prepare callable arguments token) extent
      fun extent outcome => ∀ value, outcome.1 = .ok value → value.Live extent := by
  have calls : Yields .aside (do
      context.setUp
      prepare
      context.callUnder token callable arguments) extent := by
    apply andThen (setUp hosted)
    intro _
    apply andThen prepares
    intro _
    exact (callUnder live liveArguments).lift Effect.files_aside.data
  apply onThread
  have grows {a b : Machine} (sound : a.heap.Sound) (stopped : Effect.aside.stopped a b) :
      a.heap.extent ≤ b.heap.extent :=
    (stopped.1.keeps_and_sound sound).1.extent
  apply bind (recover id grows calls)
  intro outcome larger _ liveValue
  apply reading
  intro m _ grown
  cases outcome with
  | ok value =>
    apply pure
    rintro _ grown' _ ⟨⟩
    exact (liveValue value rfl).mono (Extent.le_trans grown grown')
  | error abort => exact pure fun _ _ => nofun

theorem invoke {callable : Value} {arguments : Arguments} {token : TokenRef}
    (hosted : context.Hosted) (live : callable.Live extent)
    (liveArguments : arguments.Live extent) :
    Safe .aside (context.invoke callable arguments token) extent
      fun extent outcome => ∀ value, outcome = .ok value → value.Live extent := by
  apply bind (invokeWith hosted returns live liveArguments)
  intro outcome _ _ liveValue
  apply pure
  intro _ grown value gives
  exact (liveValue value gives).mono grown

end Eval.Safe

/-! ## Loading -/

theorem Effect.aside_within_files : Effect.aside.Within .files :=
  ⟨fun done => done.1, fun stopped => stopped.1⟩

namespace Eval

variable {α : Type} {extent : Extent} {context : Context} {path : String}

/-- An action that keeps a heap sound delivers, whatever its result. -/
theorem Safe.delivers {ε : Type} {act : Eval (Except ε α)} (safe : Runs .files act extent) :
    Delivers .files act extent fun _ _ => True := by
  unfold Delivers
  intro m sound inside
  have outcome := safe m sound inside
  cases ran : act m with
  | error abort m' =>
    rw [ran] at outcome
    exact outcome
  | ok result m' =>
    rw [ran] at outcome
    obtain ⟨develops, sound', grown, -⟩ := outcome
    cases result with
    | error fault => exact ⟨develops, sound'⟩
    | ok value => exact ⟨develops, sound', grown, trivial⟩

namespace Safe

theorem note (f : LoadProgress → LoadProgress) : Runs .files (Context.note f) extent :=
  fun _ sound _ => ⟨.refl, sound, Extent.le_refl _, trivial⟩

section Loading

variable (hosted : context.Hosted)
include hosted

theorem execute {load : Loader} (loads : load.Safe .files) (contents : ByteArray) :
    Runs .files (context.execute load path contents) extent := by
  have runs : Runs .files (do
      context.setUp
      Context.note fun progress => progress.after (.began path)
      PixelApplet.executeFile load s!"{context.id}/{path}" (Text.decodeLenient contents) [])
      extent := by
    refine andThen ((setUp hosted).lift Effect.aside_within_files) fun _ => ?_
    refine andThen (note _) fun _ => ?_
    exact (executeFile Effect.files_files loads Bindings.live_nil).runs
  have grows {a b : Machine} (sound : a.heap.Sound) (develops : Effect.files.stopped a b) :
      a.heap.extent ≤ b.heap.extent :=
    (develops.keeps_and_sound sound).1.extent
  refine andThen (onThread (recover id grows runs).runs) fun outcome => ?_
  rcases outcome with ⟨e | message⟩ | ⟨e | ref⟩
  · dsimp only
    split <;> exact returns
  · exact returns
  · exact returns
  · exact andThen (note _) fun _ => returns

omit hosted in
theorem recordEntry (ref : ModuleRef) : Runs .files (Context.recordEntry path ref) extent := by
  refine andThen readsHeap fun found => ?_
  split
  · exact returns
  · refine andThen reads fun progress => ?_
    split
    · exact returns
    · exact andThen (note _) fun _ => returns

theorem recordSchema (ref : ModuleRef) : Runs .files (context.recordSchema path ref) extent := by
  refine readingHeap fun h sound _ => ?_
  cases found : h.exportedFunction? ref schemaFunctionName with
  | none => exact returns
  | some function =>
    have live : function.Live h.extent :=
      (sound.modules ref).vars.lookup (Option.filter_eq_some_iff.mp found).1
    refine andThen reads fun progress => ?_
    split
    · exact returns
    · refine andThen newToken fun token => ?_
      have invokes : Runs .aside (context.invoke function .empty token) h.extent :=
        (invoke hosted live Arguments.live_empty).runs
      refine andThen (invokes.lift Effect.aside_within_files) fun outcome => ?_
      split
      · exact returns
      · refine andThen readsHeap fun exported => ?_
        split
        · exact returns
        · exact andThen (note _) fun _ => returns

theorem addScript {load : Loader} (loads : load.Safe .files) (contents : ByteArray) :
    Runs .files (context.addScript load path contents) extent := by
  refine andThen (execute hosted loads contents) fun outcome => ?_
  cases outcome with
  | error fault => exact returns
  | ok ref =>
    refine andThen (note _) fun _ => andThen (recordEntry ref) fun entered => ?_
    cases entered with
    | error fault => exact returns
    | ok _ =>
      refine andThen (recordSchema hosted ref) fun recorded => ?_
      cases recorded <;> exact returns

omit hosted in
theorem addFile (source : FileSource) : Runs .files (Context.addFile source path) extent := by
  have nothing {extent : Extent} :
      ∀ v ∈ (Native.file path source : Native Value).values, v.Live extent := nofun
  refine bind (newNative nothing |>.lift Effect.files_files.data) fun file larger grown live => ?_
  have liveBindings : Bindings.Live larger [("file", file)] := by
    intro binding member
    rw [List.mem_singleton.mp member]
    exact live
  refine andThen (bindingsModule Effect.files_files liveBindings).runs fun ref => ?_
  exact andThen (note _) fun _ => returns

/-- What a load statement does while an applet is being loaded. -/
theorem loaderBy {source : FileSource} {ensure : String → Eval (Except AppletFault ModuleRef)}
    (ensures : ∀ module extent, Runs .files (ensure module) extent) :
    Loader.Safe .files (some (context.loadBy source path ensure)) := by
  rintro find ⟨⟩ module extent
  refine delivers (andThen (note _) fun _ => andThen reads fun present => ?_)
  split
  · exact andThen (ensures module extent) fun _ => returns
  · exact (loadForeignModule hosted module).runs.lift Effect.aside_within_files

/-- Making sure that a file is loaded keeps a heap sound. -/
theorem ensureLoaded (source : FileSource) (depth : Nat) (path : String) (chain : List String)
    (extent : Extent) : Runs .files (context.ensureLoaded source depth path chain) extent := by
  induction depth generalizing path chain extent with
  | zero => exact returns
  | succ depth ih =>
    refine andThen reads fun progress => ?_
    split
    · exact returns
    · dsimp only
      split
      · exact returns
      · refine andThen (note _) fun _ => andThen reads fun read => ?_
        split
        · exact returns
        · split
          · exact addScript hosted (loaderBy hosted fun module extent => ih module _ extent) _
          · exact andThen (addFile source) fun _ => returns

theorem ensureAllLoaded (source : FileSource) (depth : Nat) (names : List String) :
    Runs .files (context.ensureAllLoaded source depth names) extent := by
  induction names with
  | nil => exact returns
  | cons name rest ih =>
    refine andThen (ensureLoaded hosted source depth name [] extent) fun outcome => ?_
    cases outcome with
    | error fault => exact returns
    | ok ref => exact ih

end Loading

end Safe

end Eval

end PixelApplet
