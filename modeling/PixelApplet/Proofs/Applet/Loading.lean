import PixelApplet.Applet.Load
import PixelApplet.Proofs.Applet.Exports
import PixelApplet.Proofs.Applet.LoadOrder
import PixelApplet.Proofs.Applet.SafeLoading
import PixelApplet.Proofs.Evaluation.FrozenData

/-!
# Loading keeps the order of files

A script is followed from its opening to its closing.  What it does in between, further loading
included, keeps an invariant of loading with the script as the last open file, whatever the source
of the files.  For files in memory, the order in which files are loaded is such an invariant.

Safe actions have one effect from their beginning to their end.  Opening and closing a file are no
such effects, so the loader is followed from one machine to the next: an action develops the heap
whether it succeeds or stops, and what is said of its result holds if it succeeds.
-/

/-! ## What actions of the loader lead to -/

namespace PixelApplet

namespace Eval

variable {α β : Type} {m : Machine}

/-- From a machine, an action develops the heap, and something holds of its result and the machine
after it if it succeeds. -/
@[irreducible] def Turns (act : Eval α) (m : Machine) (after : α → Machine → Prop) : Prop :=
  match act m with
  | .ok value m' => m.heap.Develops m'.heap ∧ after value m'
  | .error _ m' => m.heap.Develops m'.heap

namespace Turns

theorem of_ok {act : Eval α} {after : α → Machine → Prop} {value : α} {m' : Machine}
    (turns : Turns act m after) (ran : act m = .ok value m') : after value m' := by
  unfold Turns at turns
  rw [ran] at turns
  exact turns.2

theorem develops {act : Eval α} {after : α → Machine → Prop} {value : α} {m' : Machine}
    (turns : Turns act m after) (ran : act m = .ok value m') : m.heap.Develops m'.heap := by
  unfold Turns at turns
  rw [ran] at turns
  exact turns.1

theorem pure {after : α → Machine → Prop} {value : α} (holds : after value m) :
    Turns (Pure.pure value) m after := by
  unfold Turns
  exact ⟨.refl, holds⟩

theorem bind {act : Eval α} {next : α → Eval β} {between : α → Machine → Prop}
    {after : β → Machine → Prop} (sound : m.heap.Sound) (turns : Turns act m between)
    (turnsNext : ∀ value m', m'.heap.Sound → m.heap.Develops m'.heap → between value m' →
      Turns (next value) m' after) :
    Turns (act >>= next) m after := by
  unfold Turns
  change match EStateM.bind act next m with
    | .ok value m' => m.heap.Develops m'.heap ∧ after value m'
    | .error _ m' => m.heap.Develops m'.heap
  unfold EStateM.bind
  unfold Turns at turns
  cases ran : act m with
  | error abort m' =>
    rw [ran] at turns
    exact turns
  | ok value m' =>
    rw [ran] at turns
    obtain ⟨develops, holds⟩ := turns
    have rest := turnsNext value m' (develops.keeps_and_sound sound).2 develops holds
    unfold Turns at rest
    simp only
    cases ran' : next value m' with
    | error abort m'' =>
      rw [ran'] at rest
      exact develops.trans rest
    | ok value' m'' =>
      rw [ran'] at rest
      exact ⟨develops.trans rest.1, rest.2⟩

theorem weaken {act : Eval α} {after weaker : α → Machine → Prop} (turns : Turns act m after)
    (implies : ∀ value m', m.heap.Develops m'.heap → after value m' → weaker value m') :
    Turns act m weaker := by
  unfold Turns at turns ⊢
  cases ran : act m with
  | error abort m' =>
    rw [ran] at turns
    exact turns
  | ok value m' =>
    rw [ran] at turns
    exact ⟨turns.1, implies value m' turns.1 turns.2⟩

/-- A step that changes nothing in the heap. -/
theorem step {act : Eval α} {next : α → Eval β} {after : β → Machine → Prop} {value : α}
    {m' : Machine} (ran : act m = .ok value m') (same : m'.heap = m.heap)
    (turnsNext : Turns (next value) m' after) : Turns (act >>= next) m after := by
  unfold Turns
  change match EStateM.bind act next m with
    | .ok value m' => m.heap.Develops m'.heap ∧ after value m'
    | .error _ m' => m.heap.Develops m'.heap
  unfold EStateM.bind
  unfold Turns at turnsNext
  rw [same] at turnsNext
  rw [ran]
  exact turnsNext

theorem reading {f : Machine → α} {next : α → Eval β} {after : β → Machine → Prop}
    (turnsNext : Turns (next (f m)) m after) : Turns (Eval.read f >>= next) m after :=
  step rfl rfl turnsNext

theorem readingHeap {f : Heap → α} {next : α → Eval β} {after : β → Machine → Prop}
    (turnsNext : Turns (next (f m.heap)) m after) : Turns (Eval.readHeap f >>= next) m after :=
  step rfl rfl turnsNext

/-- A note about what is being loaded. -/
theorem noting {f : LoadProgress → LoadProgress} {next : Unit → Eval β}
    {after : β → Machine → Prop}
    (turnsNext : Turns (next ()) { m with loading := f m.loading } after) :
    Turns (Context.note f >>= next) m after :=
  step rfl rfl turnsNext

theorem of_safe {E : Effect} {act : Eval α} {extent : Extent} {property : Extent → α → Prop}
    (develops : ∀ {a b : Machine}, E.stopped a b → a.heap.Develops b.heap) (sound : m.heap.Sound)
    (inside : extent ≤ m.heap.extent) (safe : Safe E act extent property) :
    Turns act m fun value m' => E.done m m' ∧ property m'.heap.extent value := by
  have outcome := safe m sound inside
  unfold Turns
  cases ran : act m with
  | error abort m' =>
    rw [ran] at outcome
    exact develops outcome.1
  | ok value m' =>
    rw [ran] at outcome
    obtain ⟨done, _, _, holds⟩ := outcome
    exact ⟨develops (E.stops done), done, holds⟩

/-- Whatever stops an action becomes its result. -/
theorem recover {act : Eval α} {after : Except Abort α → Machine → Prop}
    (stopped : ∀ abort m', after (.error abort) m')
    (turns : Turns act m fun value m' => after (.ok value) m') :
    Turns (Eval.recover act) m after := by
  unfold Turns at turns ⊢
  unfold Eval.recover
  cases ran : act m with
  | error abort m' =>
    rw [ran] at turns
    exact ⟨turns, stopped abort m'⟩
  | ok value m' =>
    rw [ran] at turns
    exact turns

theorem followedBy {act : Eval α} {finish : Machine → Machine} {after : α → Machine → Prop}
    (same : ∀ m : Machine, (finish m).heap = m.heap)
    (turns : Turns act m fun value m' => after value (finish m')) :
    Turns (Eval.followedBy act finish) m after := by
  unfold Turns at turns ⊢
  unfold Eval.followedBy
  cases ran : act m with
  | error abort m' =>
    rw [ran] at turns
    simp only [same]
    exact turns
  | ok value m' =>
    rw [ran] at turns
    simp only [same]
    exact turns

/-- An action on a thread of its own, as far as it is about the heap and what is being loaded. -/
theorem onThread {name : String} {act : Eval α} {after : α → Heap → LoadProgress → Prop}
    (turns : ∀ start : Machine, start.heap = m.heap → start.loading = m.loading →
      Turns act start fun value m' => after value m'.heap m'.loading) :
    Turns (Eval.onThread name act) m fun value m' => after value m'.heap m'.loading := by
  unfold Eval.onThread
  apply reading
  refine @step _ _ m Eval.newCell _ _ _ _ rfl rfl ?_
  refine @step _ _ _ (modify _) _ _ _ _ rfl rfl ?_
  apply followedBy
  · exact fun _ => rfl
  · exact turns _ rfl rfl

end Turns

end Eval

/-! ## Scripts from their opening to their closing -/

/-- A property of what is being loaded from a source, in which files are opened and closed.  The
files that are open form a chain. -/
structure LoadInvariant (source : FileSource) where
  /-- What holds whenever no file is just being opened or closed. -/
  steady : (chain : List String) → Heap → LoadProgress → Prop
  /-- What holds when a file is asked for. -/
  asking : (chain : List String) → (path : String) → Heap → LoadProgress → Prop
  /-- What happens beside loading does not matter. -/
  develop : ∀ {chain : List String} {h h' : Heap} {progress : LoadProgress}, h.Develops h' →
    steady chain h progress → steady chain h' progress
  /-- The script that was opened last asks for a file. -/
  ask : ∀ {chain : List String} {path : String} {h : Heap} {progress : LoadProgress}
    (module : String), steady (chain ++ [path]) h progress →
      asking (chain ++ [path]) (Path.clean module) h (progress.after (.loads path module))
  /-- What is asked for is no file of the source. -/
  elsewhere : ∀ {chain : List String} {module : String} {h : Heap} {progress : LoadProgress}
    {disk : Disk}, source.contains disk (Path.clean module) = false →
      asking chain (Path.clean module) h progress → steady chain h progress
  /-- What is asked for is loaded already. -/
  found : ∀ {chain : List String} {path : String} {h : Heap} {progress : LoadProgress},
    path ∈ progress.modules.map Prod.fst → asking chain path h progress → steady chain h progress
  /-- A script is opened and begins to run. -/
  enter : ∀ {chain : List String} {path : String} {h : Heap} {progress : LoadProgress} {disk : Disk}
    {contents : ByteArray}, path ∉ progress.modules.map Prod.fst ++ chain →
      source.read disk path = .ok contents → isScript path = true → asking chain path h progress →
        steady (chain ++ [path]) h ((progress.open_ path).after (.began path))
  /-- The script that was opened last has run to its end, and what it exports is recorded. -/
  leave : ∀ {chain : List String} {path : String} {ref : ModuleRef} {h : Heap}
    {progress : LoadProgress} {entry : Option (String × Value)} {schema : Option LoadedSchema},
    isScript path = true → h.Published ref → RecordsEntry h path ref progress.entry entry →
      RecordsSchema h path ref progress.schema schema → steady (chain ++ [path]) h progress →
        steady chain h { (progress.after (.finished path)).addModule path ref with
          entry := entry, schema := schema }
  /-- A file that is no script is opened and closed. -/
  add : ∀ {chain : List String} {path : String} {ref : ModuleRef} {h h' : Heap}
    {progress : LoadProgress} {disk : Disk} {contents : ByteArray},
    path ∉ progress.modules.map Prod.fst ++ chain → source.read disk path = .ok contents →
      isScript path = false → asking chain path h progress → h.Develops h' → h'.Published ref →
        steady chain h' ((progress.open_ path).addModule path ref)

namespace LoadInvariant

variable {source : FileSource} (I : LoadInvariant source) (chain : List String)

theorem aside {m m' : Machine} (steady : I.steady chain m.heap m.loading)
    (aside : Effect.aside.done m m') : I.steady chain m'.heap m'.loading := by
  obtain ⟨develops, same⟩ := aside
  rw [same]
  exact I.develop develops steady

/-- From one machine to the next, the heap develops, and what holds of loading holds still. -/
def Kept (m m' : Machine) : Prop :=
  m.heap.Develops m'.heap ∧ (I.steady chain m.heap m.loading → I.steady chain m'.heap m'.loading)

theorem develops_alike {a b c : Machine} (develops : a.heap.Develops b.heap) (alike : b.Alike c) :
    a.heap.Develops c.heap :=
  alike.heap ▸ develops

/-- The effect of a script while it runs: if it succeeds, the invariant is kept. -/
def effect : Effect where
  done := I.Kept chain
  stopped m m' := m.heap.Develops m'.heap
  alike alike := ⟨alike.heap ▸ .refl, fun steady => I.aside chain steady (Effect.aside.alike alike)⟩
  trans first second := ⟨first.1.trans second.1, fun steady => second.2 (first.2 steady)⟩
  stop first second := first.1.trans second
  stops kept := kept.1
  after := @develops_alike

theorem aside_within : Effect.aside.Within (I.effect chain) :=
  ⟨fun done => ⟨done.1, fun steady => I.aside chain steady done⟩, fun stopped => stopped.1⟩

theorem files : (I.effect chain).Files where
  program home := (Effect.files_aside.program home).trans (I.aside_within chain)
  develops develops := (I.aside_within chain).done (Effect.files_aside.develops develops)

end LoadInvariant

namespace Eval.Turns

variable {context : Context} {source : FileSource} {I : LoadInvariant source}
  {chain : List String} {path : String} {m : Machine}

/-- What a script leaves that ran to its end, with what was loaded before it began. -/
def Executed (I : LoadInvariant source) (chain : List String) (path : String) (before : Heap)
    (start : LoadProgress) (ref : ModuleRef) (h : Heap) (progress : LoadProgress) : Prop :=
  h.Published ref
    ∧ (I.steady chain before (start.after (.began path)) → I.steady chain h progress)

theorem of_aside {α : Type} {act : Eval α} {property : Extent → α → Prop} (sound : m.heap.Sound)
    (safe : Safe .aside act m.heap.extent property) :
    Turns act m fun value m' => m'.loading = m.loading ∧ property m'.heap.extent value := by
  have develops {a b : Machine} (stopped : Effect.aside.stopped a b) : a.heap.Develops b.heap :=
    stopped.1
  apply (of_safe develops sound (Extent.le_refl _) safe).weaken
  rintro _ _ _ ⟨⟨_, same⟩, holds⟩
  exact ⟨same, holds⟩

theorem executeFile {load : Loader} {name text : String} (sound : m.heap.Sound)
    (loads : load.Safe (I.effect chain)) :
    Turns (PixelApplet.executeFile load name text []) m fun outcome m' =>
      ∀ ref, outcome = .ok ref → m'.heap.Published ref
        ∧ (I.steady chain m.heap m.loading → I.steady chain m'.heap m'.loading) := by
  have safe := @Safe.executeFile _ m.heap.extent _ name text _ (I.files chain) loads
    Bindings.live_nil
  have turns := of_safe id sound (Extent.le_refl _) safe
  unfold Turns at turns ⊢
  cases ran : PixelApplet.executeFile load name text [] m with
  | error abort m' =>
    rw [ran] at turns
    exact turns
  | ok outcome m' =>
    rw [ran] at turns
    obtain ⟨develops, ⟨_, keeps⟩, _⟩ := turns
    refine ⟨develops, ?_⟩
    rintro ref rfl
    have published := executeFile_published (I.files chain) loads (fun done => done.1) sound
      Bindings.live_nil ran
    exact ⟨published, keeps⟩

/-- A script runs to its end. -/
theorem execute {load : Loader} {contents : ByteArray} (hosted : context.Hosted)
    (sound : m.heap.Sound) (loads : load.Safe (I.effect chain)) :
    Turns (context.execute load path contents) m fun outcome m' => ∀ ref, outcome = .ok ref →
      ∃ progress : LoadProgress, m'.loading = progress.after (.finished path)
        ∧ Executed I chain path m.heap m.loading ref m'.heap progress := by
  unfold Context.execute
  have runs : Turns (Eval.onThread context.id (Eval.recover (do
      context.setUp
      Context.note fun progress => progress.after (.began path)
      PixelApplet.executeFile load s!"{context.id}/{path}" (Text.decodeLenient contents) []))) m
      fun outcome m' => ∀ ref, outcome = .ok (.ok ref) →
        Executed I chain path m.heap m.loading ref m'.heap m'.loading := by
    refine @onThread _ m _ _ (fun (outcome : Except Abort (Except _ ModuleRef)) h progress =>
      ∀ ref, outcome = .ok (.ok ref) →
        Executed I chain path m.heap m.loading ref h progress) ?_
    intro start sameHeap sameLoading
    have soundStart : start.heap.Sound := by
      rw [sameHeap]
      exact sound
    apply recover
    · exact fun _ _ _ => nofun
    apply bind soundStart (of_aside soundStart (Safe.setUp hosted))
    rintro _ prepared soundPrepared develops ⟨same, _⟩
    apply noting
    refine weaken (executeFile ?_ loads) ?_
    · exact soundPrepared
    intro outcome m' _ holds ref success
    cases success
    obtain ⟨published, keeps⟩ := holds ref rfl
    refine ⟨published, fun steady => keeps ?_⟩
    rw [← sameHeap, ← sameLoading, ← same] at steady
    exact I.develop develops steady
  apply bind sound runs
  intro outcome m' _ _ executed
  split
  · rename_i ref
    apply noting
    apply pure
    rintro _ ⟨⟩
    exact ⟨m'.loading, rfl, executed ref rfl⟩
  · exact pure fun _ => nofun
  · exact pure fun _ => nofun
  · split
    · exact pure fun _ => nofun
    · exact pure fun _ => nofun

/-- The entry point of a script is recorded. -/
theorem recordEntry {ref : ModuleRef} :
    Turns (Context.recordEntry path ref) m fun outcome m' => outcome = .ok () →
      m'.heap = m.heap ∧ ∃ entry, m'.loading = { m.loading with entry := entry }
        ∧ RecordsEntry m.heap path ref m.loading.entry entry := by
  unfold Context.recordEntry
  apply readingHeap
  unfold RecordsEntry
  cases found : m.heap.exportedFunction? ref entryPointName with
  | none =>
    apply pure
    exact fun _ => ⟨rfl, _, rfl, rfl⟩
  | some main =>
    apply reading
    cases before : m.loading.entry with
    | some old => exact pure nofun
    | none =>
      apply noting
      apply pure
      exact fun _ => ⟨rfl, _, rfl, rfl, rfl⟩

/-- The schema of a script is recorded. -/
theorem recordSchema {ref : ModuleRef} (hosted : context.Hosted) (sound : m.heap.Sound) :
    Turns (context.recordSchema path ref) m fun outcome m' => outcome = .ok () →
      ∃ schema, m'.loading = { m.loading with schema := schema }
        ∧ RecordsSchema m.heap path ref m.loading.schema schema := by
  unfold Context.recordSchema
  apply readingHeap
  unfold RecordsSchema
  cases found : m.heap.exportedFunction? ref schemaFunctionName with
  | none =>
    apply pure
    exact fun _ => ⟨_, rfl, rfl⟩
  | some function =>
    apply reading
    cases before : m.loading.schema with
    | some loaded => exact pure nofun
    | none =>
      have live : function.Live m.heap.extent :=
        (sound.modules ref).vars.lookup (Option.filter_eq_some_iff.mp found).1
      apply bind sound (of_aside sound Safe.newToken)
      rintro token m₁ sound₁ develops₁ ⟨same₁, _⟩
      have live₁ := live.mono (develops₁.keeps_and_sound sound).1.extent
      apply bind sound₁ (of_aside sound₁ (Safe.invoke hosted live₁ Arguments.live_empty))
      rintro outcome m₂ sound₂ _ ⟨same₂, _⟩
      split
      · exact pure nofun
      · apply readingHeap
        split
        · exact pure nofun
        · rename_i schema _
          apply noting
          apply pure
          intro _
          refine ⟨some ⟨path, schema⟩, ?_, rfl, ⟨path, schema⟩, rfl, rfl⟩
          rw [same₂, same₁]

/-- A script that was opened is added. -/
theorem addScript {load : Loader} {contents : ByteArray} (hosted : context.Hosted)
    (sound : m.heap.Sound) (script : isScript path = true)
    (loads : load.Safe (I.effect (chain ++ [path]))) :
    Turns (context.addScript load path contents) m fun outcome m' => ∀ ref, outcome = .ok ref →
      I.steady (chain ++ [path]) m.heap (m.loading.after (.began path)) →
        I.steady chain m'.heap m'.loading ∧ path ∈ m'.loading.modules.map Prod.fst := by
  unfold Context.addScript
  apply bind sound (execute hosted sound loads)
  intro outcome executed soundExecuted _ ran
  cases outcome with
  | error fault => exact pure fun _ => nofun
  | ok ref =>
    obtain ⟨progress, left, published, keeps⟩ := ran ref rfl
    apply noting
    have soundAdded : ({ executed with loading := executed.loading.addModule path ref } :
        Machine).heap.Sound := soundExecuted
    apply bind soundAdded recordEntry
    intro outcome entered soundEntered _ recorded
    cases outcome with
    | error fault => exact pure fun _ => nofun
    | ok _ =>
      obtain ⟨sameHeap, entry, noted, recordsEntry⟩ := recorded rfl
      apply bind soundEntered (recordSchema hosted soundEntered)
      intro outcome ended _ develops recorded
      cases outcome with
      | error fault => exact pure fun _ => nofun
      | ok _ =>
        obtain ⟨schema, noted', recordsSchema⟩ := recorded rfl
        apply pure
        intro _ _ steady
        rw [sameHeap] at develops recordsSchema
        rw [noted, left] at recordsSchema
        rw [left] at recordsEntry
        have closed : I.steady chain executed.heap
            { (progress.after (.finished path)).addModule path ref with
              entry := entry, schema := schema } :=
          I.leave script published recordsEntry recordsSchema (keeps steady)
        rw [noted', noted, left]
        exact ⟨I.develop develops closed, by simp [LoadProgress.addModule, LoadProgress.after]⟩

/-- A file that is no script is added. -/
theorem addFile (sound : m.heap.Sound) :
    Turns (Context.addFile source path) m fun ref m' => m'.heap.Published ref
      ∧ m'.loading = m.loading.addModule path ref := by
  unfold Context.addFile
  have nothing {extent : Extent} :
      ∀ v ∈ (Native.file path source : Native Value).values, v.Live extent := nofun
  apply bind sound (of_aside sound ((Safe.newNative nothing).lift Effect.files_aside.data))
  rintro file m₁ sound₁ develops₁ ⟨same₁, live⟩
  have liveBindings : Bindings.Live m₁.heap.extent [("file", file)] := by
    intro binding member
    rw [List.mem_singleton.mp member]
    exact live
  obtain ⟨h, ran, develops₂, published⟩ :=
    bindingsModule_published sound₁ liveBindings (List.nodup_singleton _)
  unfold Turns
  rw [bind_ok ran]
  exact ⟨develops₂, published, congrArg (LoadProgress.addModule · path _) same₁⟩

/-- A way of loading makes sure that files are loaded, while a chain of files is open. -/
def Ensures (I : LoadInvariant source) (chain : List String)
    (ensure : String → Eval (Except AppletFault ModuleRef)) : Prop :=
  ∀ (path : String) (m : Machine), m.heap.Sound → Turns (ensure path) m fun outcome m' =>
    ∀ ref, outcome = .ok ref → I.asking chain (Path.clean path) m.heap m.loading →
      I.steady chain m'.heap m'.loading ∧ Path.clean path ∈ m'.loading.modules.map Prod.fst

/-- A load statement of the script that was opened last. -/
theorem loadBy {ensure : String → Eval (Except AppletFault ModuleRef)} (hosted : context.Hosted)
    (ensures : Ensures I (chain ++ [path]) ensure) (module : String) (sound : m.heap.Sound) :
    Turns (context.loadBy source path ensure module) m fun outcome m' => ∀ ref, outcome = .ok ref →
      I.steady (chain ++ [path]) m.heap m.loading →
        I.steady (chain ++ [path]) m'.heap m'.loading := by
  unfold Context.loadBy
  apply noting
  apply reading
  cases there : source.contains m.disk (Path.clean module) with
  | true =>
    rw [if_pos rfl]
    refine bind ?_ (ensures module _ ?_) ?_
    · exact sound
    · exact sound
    intro outcome m' _ _ ensured
    apply pure
    cases outcome with
    | error fault => exact fun _ => nofun
    | ok found => exact fun _ _ steady => (ensured found rfl (I.ask module steady)).1
  | false =>
    rw [if_neg Bool.false_ne_true]
    refine weaken (of_aside ?_ (Safe.loadForeignModule hosted module)) ?_
    · exact sound
    rintro _ m' develops ⟨same, _⟩ _ _ steady
    rw [same]
    exact I.develop develops (I.elsewhere there (I.ask module steady))

/-- An action that keeps the invariant if it succeeds. -/
theorem delivers {ε α : Type} {act : Eval (Except ε α)} {extent : Extent}
    (turns : ∀ m : Machine, m.heap.Sound → Turns act m fun outcome m' => ∀ value,
      outcome = .ok value → I.steady chain m.heap m.loading →
        I.steady chain m'.heap m'.loading) :
    Delivers (I.effect chain) act extent fun _ _ => True := by
  unfold Delivers
  intro m sound _
  have turned := turns m sound
  unfold Turns at turned
  cases ran : act m with
  | error abort m' =>
    rw [ran] at turned
    exact ⟨turned, (turned.keeps_and_sound sound).2⟩
  | ok outcome m' =>
    rw [ran] at turned
    obtain ⟨develops, holds⟩ := turned
    obtain ⟨keeps, sound'⟩ := develops.keeps_and_sound sound
    cases outcome with
    | error fault => exact ⟨develops, sound'⟩
    | ok value => exact ⟨⟨develops, holds value rfl⟩, sound', keeps.extent, trivial⟩

theorem safe_loadBy {ensure : String → Eval (Except AppletFault ModuleRef)}
    (hosted : context.Hosted) (ensures : Ensures I (chain ++ [path]) ensure) :
    Loader.Safe (I.effect (chain ++ [path])) (some (context.loadBy source path ensure)) := by
  intro find given module extent
  have safe : Delivers (I.effect (chain ++ [path])) (context.loadBy source path ensure module)
      extent fun _ _ => True :=
    delivers fun m sound => loadBy hosted ensures module sound
  rw [← Option.some.inj given]
  exact safe

/-- Making sure that a file is loaded keeps the invariant, if it succeeds. -/
theorem ensureLoaded (hosted : context.Hosted) (depth : Nat) (chain : List String) :
    Ensures I chain fun path => context.ensureLoaded source depth path chain := by
  induction depth generalizing chain with
  | zero => exact fun _ _ _ => pure fun _ => nofun
  | succ depth ih =>
    intro name m sound
    unfold Context.ensureLoaded
    apply reading
    cases known : m.loading.module? (Path.clean name) with
    | some ref =>
      have member : (Path.clean name, ref) ∈ m.loading.modules := Bindings.mem_of_lookup known
      have inKeys := List.mem_map_of_mem (f := Prod.fst) member
      apply pure
      exact fun _ _ asking => ⟨I.found inKeys asking, inKeys⟩
    | none =>
      simp only
      split
      · exact pure fun _ => nofun
      · rename_i unopened
        apply noting
        apply reading
        split
        · exact pure fun _ => nofun
        · rename_i contents reads
          have fresh : Path.clean name ∉ m.loading.modules.map Prod.fst ++ chain := by
            rw [List.mem_append, not_or]
            exact ⟨LoadProgress.not_mem_of_unknown known,
              fun opened => unopened (List.contains_iff_mem.mpr opened)⟩
          split
          · rename_i script
            refine weaken (addScript hosted ?_ script (safe_loadBy hosted (ih _))) ?_
            · exact sound
            intro outcome m' _ added ref success asking
            exact added ref success (I.enter fresh reads script asking)
          · rename_i noScript
            have soundOpened : ({ m with loading := m.loading.open_ (Path.clean name) } :
                Machine).heap.Sound := sound
            apply bind soundOpened (addFile soundOpened)
            rintro ref m' _ develops ⟨published, noted⟩
            apply pure
            rintro _ _ asking
            rw [noted]
            have noScript := Bool.eq_false_iff.mpr noScript
            exact ⟨I.add fresh reads noScript asking develops published,
              by simp [LoadProgress.addModule, LoadProgress.open_]⟩

end Eval.Turns

/-! ## The order of files in memory -/

/-- What holds of a heap and of what is being loaded, whenever no file is just being opened or
closed. -/
structure Loading (files : MemoryFiles) (asked chain ahead : List String) (h : Heap)
    (progress : LoadProgress) : Prop where
  sound : h.Sound
  order : LoadOrder files asked chain ahead progress.paths (progress.modules.map Prod.fst)
    progress.history
  exports : Exports h progress.modules progress.entry progress.schema

section Order

variable {files : MemoryFiles} {asked chain ahead : List String}

/-- What happens beside loading is no part of the order. -/
theorem Loading.develop {h h' : Heap} {progress : LoadProgress}
    (loading : Loading files asked chain ahead h progress) (develops : h.Develops h') :
    Loading files asked chain ahead h' progress := by
  obtain ⟨keeps, sound⟩ := develops.keeps_and_sound loading.sound
  exact ⟨sound, loading.order, loading.exports.keeps keeps⟩

/-- The order in which files are loaded, when some root scripts were asked for. -/
def LoadInvariant.ordered (files : MemoryFiles) (asked : List String) :
    LoadInvariant (.memory files) where
  steady chain h progress := Loading files asked chain [] h progress
  asking chain path h progress := Loading files asked chain [path] h progress
    ∧ (files.Names path → Reached files progress.history path)
  develop develops loading := loading.develop develops
  ask {_ path _ _} module loading :=
    have order := loading.order.ask module
    ⟨⟨loading.sound, order, loading.exports⟩, fun names =>
      .loaded (order.reached path (by simp)) (by simp [LoadProgress.after]) names⟩
  elsewhere absent asking :=
    ⟨asking.1.sound, asking.1.order.askElsewhere absent, asking.1.exports⟩
  found member asking := ⟨asking.1.sound, asking.1.order.found member, asking.1.exports⟩
  enter fresh reads script asking :=
    ⟨asking.1.sound, asking.1.order.enter fresh script ⟨_, reads⟩ (asking.2 ⟨_, reads⟩),
      asking.1.exports⟩
  leave script published recordsEntry recordsSchema loading :=
    ⟨loading.sound, by simpa [LoadProgress.addModule, LoadProgress.after] using loading.order.leave,
      loading.exports.addScript script published.frozen recordsEntry recordsSchema⟩
  add fresh reads noScript asking develops _ := by
    have developed := asking.1.develop develops
    have order := developed.order.addFile fresh noScript ⟨_, reads⟩ (asking.2 ⟨_, reads⟩)
    exact ⟨developed.sound, by simpa [LoadProgress.addModule, LoadProgress.open_] using order,
      developed.exports.addFile noScript⟩

end Order

namespace Eval.Turns

variable {context : Context} {files : MemoryFiles} {asked : List String} {m : Machine}

/-- Loading files one after the other, if it succeeds, loads them all. -/
theorem ensureAllLoaded (hosted : context.Hosted) (depth : Nat) (names : List String)
    (sound : m.heap.Sound) :
    Turns (context.ensureAllLoaded (.memory files) depth names) m fun outcome m' =>
      outcome = .ok () → (∀ name ∈ names, ∀ history, Reached files history (Path.clean name)) →
        Loading files asked [] [] m.heap m.loading →
          Loading files (asked ++ names) [] [] m'.heap m'.loading := by
  induction names generalizing asked m with
  | nil =>
    apply pure
    intro _ _ loading
    rw [List.append_nil]
    exact loading
  | cons name rest ih =>
    have ensures := ensureLoaded (I := .ordered files asked) hosted depth [] name m sound
    apply bind sound ensures
    intro outcome between soundBetween _ ensured
    cases outcome with
    | error fault => exact pure nofun
    | ok ref =>
      refine weaken (@ih (asked ++ [name]) between soundBetween) ?_
      intro outcome m' _ loadsRest success reached loading
      have ahead : Loading files asked [] [Path.clean name] m.heap m.loading :=
        ⟨loading.sound, loading.order.ahead_of_nil, loading.exports⟩
      obtain ⟨loading', member⟩ := ensured ref rfl ⟨ahead, fun _ => reached name (.head _) _⟩
      have answered : Loading files (asked ++ [name]) [] [] between.heap between.loading :=
        ⟨loading'.sound, loading'.order.answer member, loading'.exports⟩
      have rest' := loadsRest success (fun other later => reached other (.tail _ later)) answered
      rw [List.append_assoc] at rest'
      exact rest'

/-- Loading all scripts of a source, if it succeeds, loads the root scripts and keeps the order. -/
theorem loadAll (hosted : context.Hosted) (sound : m.heap.Sound) :
    Turns (context.loadAll (.memory files)) m fun outcome m' => ∀ loaded, outcome = .ok loaded →
      ∃ entries, files.readDirectory "." = .ok entries
        ∧ Loading files (Context.rootScripts entries) [] [] m'.heap loaded := by
  unfold Context.loadAll
  apply reading
  simp only [FileSource.readDirectory]
  cases listed : files.readDirectory "." with
  | error fault => exact pure fun _ => nofun
  | ok entries =>
    simp only
    apply reading
    apply noting
    refine bind ?_ (@ensureAllLoaded context files [] _ hosted _ (Context.rootScripts entries)
      ?_) ?_
    · exact sound
    · exact sound
    intro outcome m' _ develops loads
    apply reading
    apply noting
    cases outcome with
    | error fault => exact pure fun _ => nofun
    | ok _ =>
      apply pure
      rintro _ ⟨⟩
      refine ⟨entries, rfl, loads rfl (fun name member history => ?_) ?_⟩
      · obtain ⟨entry, inEntries, rfl⟩ := List.mem_map.mp (List.mem_mergeSort.mp member)
        have chosen := (List.mem_filter.mp inEntries).2
        simp only [Bool.and_eq_true, Bool.not_eq_true'] at chosen
        exact .root listed (List.mem_filter.mp inEntries).1 chosen.1 chosen.2
      · exact ⟨sound, .initial, .initial _⟩

end Eval.Turns

end PixelApplet
