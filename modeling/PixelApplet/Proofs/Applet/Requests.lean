import PixelApplet.Applet.Basic
import PixelApplet.Proofs.Evaluation.Asking

/-!
# Requests for files

While an applet is being loaded, files are requested: first the root scripts, and then the files
that the top levels of scripts come to load.  A request that fails makes the request fail that led
to it, with the same fault, and so in the end the whole applet.
-/

namespace PixelApplet

/-- What runs on the thread of a script. -/
def Context.onTop (context : Context) (load : Loader) (path : String) (contents : ByteArray) :
    Eval (Except ScriptError ModuleRef) := do
  context.setUp
  Context.note fun progress => progress.after (.began path)
  executeFile load s!"{context.id}/{path}" (Text.decodeLenient contents) []

/-- How the top level of a script ends, whatever stops it. -/
def Context.outcome (context : Context) (load : Loader) (path : String) (contents : ByteArray) :
    Eval (Except Abort (Except ScriptError ModuleRef)) :=
  Eval.onThread context.id (Eval.recover (context.onTop load path contents))

/-- What executing a script makes of how its top level ended. -/
def Context.conclude (context : Context) (path : String) :
    Except Abort (Except ScriptError ModuleRef) → Eval (Except AppletFault ModuleRef)
  | .ok (.ok ref) => do
    Context.note fun progress => progress.after (.finished path)
    return .ok ref
  | .ok (.error e) => return .error (.execution path s!"{context.id}/{path}:{e.text}")
  | .error (.panic message) => return .error (.loadPanic context.id message)
  | .error (.error e) =>
    match e.cause with
    | some (.sibling fault) => return .error fault
    | _ => return .error (.execution path e.text)

theorem Context.execute_eq (context : Context) (load : Loader) (path : String)
    (contents : ByteArray) :
    context.execute load path contents
      = context.outcome load path contents >>= context.conclude path :=
  rfl

/-- How a script finds the files of its applet, where `chain` ends with the script. -/
def Context.siblings (context : Context) (source : FileSource) (depth : Nat) (path : String)
    (chain : List String) : String → Eval (Except LoadFault ModuleRef) :=
  context.loadBy source path fun module => context.ensureLoaded source depth module chain

/-- The machine on which the top level of a file begins, given the thread that was set up for it. -/
def Machine.entered (m : Machine) (path name : String) : Machine :=
  { m with
    loading := m.loading.after (.began path)
    heap := m.heap.addModule (.ofFile name []) }

/-- The top level of a script comes to load a module. -/
inductive ScriptAsks (context : Context) (load : Loader) (path : String) (contents : ByteArray)
    (m : Machine) (module : String) (asked : Machine) : Prop where
  | intro {prepared : Machine} {block : Block} {stack : CallStack}
    (ready : context.setUp (m.started context.id) = .ok () prepared)
    (parses : parseScript (Text.decodeLenient contents) = .ok block)
    (opens : prepared.thread.stack.push? ⟨"<toplevel>", s!"{context.id}/{path}", .nowhere⟩
      = some stack)
    (asks : Asks (callValue load) load
      (.topLevel prepared.heap.nextModule s!"{context.id}/{path}") (.block block)
      ((prepared.entered path s!"{context.id}/{path}").withStack stack) module asked)

/-- A request for a file. -/
structure LoadRequest where
  /-- A bound for the number of files that may still be opened. -/
  depth : Nat
  path : String
  /-- The files that are being executed, outermost first. -/
  chain : List String
  machine : Machine

namespace LoadRequest

/-- The file that is requested. -/
def file (r : LoadRequest) : String :=
  Path.clean r.path

/-- The answer to a request is a fault. -/
def Fails (context : Context) (source : FileSource) (r : LoadRequest) (fault : AppletFault) :
    Prop :=
  ∃ m', context.ensureLoaded source r.depth r.path r.chain r.machine = .ok (.error fault) m'

/-- The requested file is a script that is not loaded yet, and its top level comes to request a file
of the applet. -/
inductive LeadsTo (context : Context) (source : FileSource) : LoadRequest → LoadRequest → Prop where
  | intro {depth : Nat} {path module : String} {chain : List String} {m asked : Machine}
    {contents : ByteArray} (unknown : m.loading.module? (Path.clean path) = none)
    (unopened : Path.clean path ∉ chain)
    (reads : source.read m.disk (Path.clean path) = .ok contents)
    (script : isScript (Path.clean path) = true)
    (asks : ScriptAsks context
      (some (context.siblings source depth (Path.clean path) (chain ++ [Path.clean path])))
      (Path.clean path) contents { m with loading := m.loading.open_ (Path.clean path) } module
      asked)
    (present : source.contains asked.disk (Path.clean module) = true) :
    LeadsTo context source ⟨depth + 1, path, chain, m⟩ ⟨depth, module, chain ++ [Path.clean path],
      { asked with loading := asked.loading.after (.loads (Path.clean path) module) }⟩

/-- The requests that are made when an applet is loaded on a machine. -/
inductive Made (context : Context) (source : FileSource) (m : Machine) : LoadRequest → Prop where
  /-- A root script is requested when those before it are loaded. -/
  | root {entries : List DirectoryEntry} {before after : List String} {name : String}
    {m' : Machine} (listed : source.readDirectory m.disk "." = .ok entries)
    (split : Context.rootScripts entries = before ++ name :: after)
    (loaded : context.ensureAllLoaded source (source.fileCount m.disk + 2) before
      { m with loading := .empty } = .ok (.ok ()) m') :
    Made context source m ⟨source.fileCount m.disk + 2, name, [], m'⟩
  | nested {r s : LoadRequest} (made : Made context source m r)
    (leads : r.LeadsTo context source s) : Made context source m s

end LoadRequest

variable {context : Context} {source : FileSource}

/-! ## The fault of the innermost request -/

section Failing

variable {find : String → Eval (Except LoadFault ModuleRef)} {path module : String}
  {contents : ByteArray} {m asked : Machine} {fault : AppletFault}

/-- The thread of a script that was parsed goes on with its top level. -/
theorem Context.onTop_parsed {load : Loader} {prepared : Machine} {block : Block}
    (ready : context.setUp m = .ok () prepared)
    (parses : parseScript (Text.decodeLenient contents) = .ok block) :
    context.onTop load path contents m = (do
      let _ ← Eval.inFrame ⟨"<toplevel>", s!"{context.id}/{path}", .nowhere⟩ (execBlock
        (callValue load) load (.topLevel prepared.heap.nextModule s!"{context.id}/{path}") block)
      Eval.changeHeap (Heap.freezeModule prepared.heap.nextModule)
      return Except.ok prepared.heap.nextModule)
        (prepared.entered path s!"{context.id}/{path}") := by
  have notes : Context.note (fun progress => progress.after (.began path)) prepared
      = .ok () { prepared with loading := prepared.loading.after (.began path) } := rfl
  rw [onTop, Eval.bind_ok ready, Eval.bind_ok notes, executeFile, parses]
  rfl

/-- What a load statement of a script found wrong is what is wrong with the script. -/
theorem ScriptAsks.fails {m' : Machine}
    (asks : ScriptAsks context (some find) path contents m module asked)
    (finds : find module asked = .ok (.error (.sibling fault)) m') :
    ∃ m'', context.execute (some find) path contents m = .ok (.error fault) m'' := by
  obtain @⟨prepared, block, stack, ready, parses, opens, asks⟩ := asks
  obtain ⟨e, stops, caused⟩ := asks.fails finds
  have stopsFile : context.onTop (some find) path contents (m.started context.id)
      = .error (.error e) (m'.withStack m'.thread.stack.pop) := by
    have opensEntered : (prepared.entered path s!"{context.id}/{path}").thread.stack.push?
        ⟨"<toplevel>", s!"{context.id}/{path}", .nowhere⟩ = some stack := opens
    rw [Work.run] at stops
    rw [Context.onTop_parsed ready parses]
    refine Eval.bind_error ((Eval.inFrame_pushed opensEntered).trans ?_)
    rw [Eval.followedBy, stops]
  have outcome : context.outcome (some find) path contents m = .ok (.error (.error e))
      (Eval.endThread m.thread (m'.withStack m'.thread.stack.pop)) := by
    rw [Context.outcome, Eval.onThread_eq, Eval.followedBy, Eval.recover, stopsFile]
  have concludes : context.execute (some find) path contents m
      = context.conclude path (.error (.error e)) _ := Eval.bind_ok outcome
  rw [Context.conclude, caused] at concludes
  exact ⟨_, concludes⟩

section Ensuring

variable {depth : Nat} {chain : List String}

/-- A loaded file is not loaded again. -/
theorem Context.ensureLoaded_known {ref : ModuleRef}
    (known : m.loading.module? (Path.clean path) = some ref) :
    context.ensureLoaded source (depth + 1) path chain m = .ok (.ok ref) m := by
  have looks : Context.progress m = .ok m.loading m := rfl
  rw [ensureLoaded, Eval.bind_ok looks, known]
  rfl

/-- A file that is being executed cannot be loaded. -/
theorem Context.ensureLoaded_circular (unknown : m.loading.module? (Path.clean path) = none)
    (opened : Path.clean path ∈ chain) :
    context.ensureLoaded source (depth + 1) path chain m
      = .ok (.error (.circularDependency (chain ++ [Path.clean path]))) m := by
  have looks : Context.progress m = .ok m.loading m := rfl
  rw [ensureLoaded, Eval.bind_ok looks, unknown]
  dsimp only
  rw [if_pos (List.contains_iff_mem.mpr opened)]
  rfl

/-- Another file is opened, and read. -/
theorem Context.ensureLoaded_open (unknown : m.loading.module? (Path.clean path) = none)
    (unopened : Path.clean path ∉ chain) :
    context.ensureLoaded source (depth + 1) path chain m
      = (match source.read m.disk (Path.clean path) with
        | .error fault => return .error (.read (Path.clean path) fault.text)
        | .ok contents =>
          if isScript (Path.clean path) then
            context.addScript
              (some (context.siblings source depth (Path.clean path) (chain ++ [Path.clean path])))
              (Path.clean path) contents
          else return .ok (← addFile source (Path.clean path)) :
          Eval (Except AppletFault ModuleRef))
        { m with loading := m.loading.open_ (Path.clean path) } := by
  have looks : Context.progress m = .ok m.loading m := rfl
  have apart : ¬chain.contains (Path.clean path) = true :=
    fun member => unopened (List.contains_iff_mem.mp member)
  have opens : Context.note (fun progress => progress.open_ (Path.clean path)) m
      = .ok () { m with loading := m.loading.open_ (Path.clean path) } := rfl
  rw [ensureLoaded, Eval.bind_ok looks, unknown]
  dsimp only
  rw [if_neg apart, Eval.bind_ok opens]
  rfl

/-- An unloaded script is executed when it is requested. -/
theorem Context.ensureLoaded_script (unknown : m.loading.module? (Path.clean path) = none)
    (unopened : Path.clean path ∉ chain)
    (reads : source.read m.disk (Path.clean path) = .ok contents)
    (script : isScript (Path.clean path) = true) :
    context.ensureLoaded source (depth + 1) path chain m
      = context.addScript
          (some (context.siblings source depth (Path.clean path) (chain ++ [Path.clean path])))
          (Path.clean path) contents
          { m with loading := m.loading.open_ (Path.clean path) } := by
  rw [ensureLoaded_open unknown unopened, reads]
  dsimp only
  rw [if_pos script]

end Ensuring

/-- A load statement for a file of the applet requests the file. -/
theorem Context.siblings_present {depth : Nat} {chain : List String}
    (present : source.contains m.disk (Path.clean module) = true) :
    context.siblings source depth path chain module m = (do
      return (← context.ensureLoaded source depth module chain).mapError LoadFault.sibling)
        { m with loading := m.loading.after (.loads path module) } := by
  have notes : Context.note (fun progress => progress.after (.loads path module)) m
      = .ok () { m with loading := m.loading.after (.loads path module) } := rfl
  have there : Eval.read (fun m => source.contains m.disk (Path.clean module))
      { m with loading := m.loading.after (.loads path module) }
      = .ok true { m with loading := m.loading.after (.loads path module) } := by
    rw [← present]
    rfl
  rw [siblings, loadBy, Eval.bind_ok notes, Eval.bind_ok there, if_pos rfl]

/-- A load statement for another module asks the host and the library. -/
theorem Context.siblings_absent {depth : Nat} {chain : List String}
    (absent : source.contains m.disk (Path.clean module) = false) :
    context.siblings source depth path chain module m = context.loadModule module
      { m with loading := m.loading.after (.loads path module) } := by
  have notes : Context.note (fun progress => progress.after (.loads path module)) m
      = .ok () { m with loading := m.loading.after (.loads path module) } := rfl
  have elsewhere : Eval.read (fun m => source.contains m.disk (Path.clean module))
      { m with loading := m.loading.after (.loads path module) }
      = .ok false { m with loading := m.loading.after (.loads path module) } := by
    rw [← absent]
    rfl
  rw [siblings, loadBy, Eval.bind_ok notes, Eval.bind_ok elsewhere, if_neg Bool.false_ne_true]

/-- A source is loaded when all its root scripts are. -/
theorem Context.loadAll_ok_iff {loaded : LoadProgress} {m' : Machine} :
    context.loadAll source m = .ok (.ok loaded) m' ↔ ∃ entries between,
      source.readDirectory m.disk "." = .ok entries
        ∧ context.ensureAllLoaded source (source.fileCount m.disk + 2) (rootScripts entries)
          { m with loading := .empty } = .ok (.ok ()) between
        ∧ loaded = between.loading ∧ m' = { between with loading := m.loading } := by
  have reads : Eval.read Machine.disk m = .ok m.disk m := rfl
  have looks : Context.progress m = .ok m.loading m := rfl
  have notes : Context.note (fun _ => .empty) m = .ok () { m with loading := .empty } := rfl
  rw [loadAll, Eval.bind_ok reads]
  constructor
  · intro ran
    cases listed : source.readDirectory m.disk "." with
    | error reason =>
      rw [listed] at ran
      cases ran
    | ok entries =>
      rw [listed] at ran
      dsimp only at ran
      rw [Eval.bind_ok looks, Eval.bind_ok notes] at ran
      obtain ⟨outcome, between, loads, ran⟩ := Eval.exists_of_bind_ok ran
      cases outcome with
      | error fault => cases ran
      | ok _ =>
        cases ran
        exact ⟨entries, between, rfl, loads, rfl, rfl⟩
  · rintro ⟨entries, between, listed, loads, rfl, rfl⟩
    rw [listed]
    dsimp only
    rw [Eval.bind_ok looks, Eval.bind_ok notes, Eval.bind_ok loads]
    rfl

/-- An applet is loaded when its source is, and one of its scripts has the entry point. -/
theorem Applet.load_ok_iff {applet : Applet} {m' : Machine} :
    Applet.load context source m = .ok (.ok applet) m' ↔ ∃ loaded file main,
      context.loadAll source m = .ok (.ok loaded) m' ∧ loaded.entry = some (file, main)
        ∧ applet = ⟨context, loaded.paths, loaded.modules, file, main, loaded.schema⟩ := by
  constructor
  · intro ran
    obtain ⟨outcome, between, loads, ran⟩ := Eval.exists_of_bind_ok ran
    rcases outcome with fault | loaded
    · cases ran
    cases entry : loaded.entry with
    | none =>
      simp only [entry] at ran
      cases ran
    | some found =>
      simp only [entry] at ran
      cases ran
      exact ⟨loaded, found.1, found.2, loads, entry, rfl⟩
  · rintro ⟨loaded, file, main, loads, entry, rfl⟩
    rw [Applet.load, Eval.bind_ok loads]
    dsimp only
    rw [entry]
    rfl

/-- A loaded applet has the context in which it was loaded. -/
theorem Applet.context_of_load {applet : Applet} {m' : Machine}
    (loads : Applet.load context source m = .ok (.ok applet) m') : applet.context = context := by
  obtain ⟨loaded, file, main, _, _, rfl⟩ := load_ok_iff.mp loads
  rfl

end Failing

namespace LoadRequest

variable {r s : LoadRequest} {fault : AppletFault}

/-- A request fails as a request fails to which it leads. -/
theorem LeadsTo.fails (leads : r.LeadsTo context source s) (fails : s.Fails context source fault) :
    r.Fails context source fault := by
  obtain @⟨depth, path, module, chain, m, asked, contents, unknown, unopened, reads, script, asks,
    present⟩ := leads
  obtain ⟨m', fails⟩ := fails
  have finds : context.siblings source depth (Path.clean path) (chain ++ [Path.clean path]) module
      asked = .ok (.error (.sibling fault)) m' := by
    rw [Context.siblings_present present]
    exact (Eval.bind_ok fails).trans rfl
  obtain ⟨m'', executes⟩ := asks.fails finds
  refine ⟨m'', (Context.ensureLoaded_script unknown unopened reads script).trans ?_⟩
  exact (Eval.bind_ok executes).trans rfl

theorem ensureAllLoaded_append {depth : Nat} {before : List String} {name : String}
    {m between m' : Machine}
    (loaded : context.ensureAllLoaded source depth before m = .ok (.ok ()) between)
    (fails : context.ensureLoaded source depth name [] between = .ok (.error fault) m')
    (after : List String) :
    context.ensureAllLoaded source depth (before ++ name :: after) m = .ok (.error fault) m' := by
  induction before generalizing m with
  | nil =>
    cases loaded
    exact (Eval.bind_ok fails).trans rfl
  | cons first rest ih =>
    obtain ⟨outcome, next, loads, loaded⟩ := Eval.exists_of_bind_ok loaded
    cases outcome with
    | error fault => cases loaded
    | ok ref => exact (Eval.bind_ok loads).trans (ih loaded)

theorem loadAll_fails {entries : List DirectoryEntry} {m m' : Machine}
    (listed : source.readDirectory m.disk "." = .ok entries)
    (stops : context.ensureAllLoaded source (source.fileCount m.disk + 2)
      (Context.rootScripts entries) { m with loading := .empty } = .ok (.error fault) m') :
    ∃ m'', context.loadAll source m = .ok (.error fault) m'' := by
  have reads : Eval.read Machine.disk m = .ok m.disk m := rfl
  have looks : Context.progress m = .ok m.loading m := rfl
  have notes : Context.note (fun _ => .empty) m = .ok () { m with loading := .empty } := rfl
  refine ⟨{ m' with loading := m.loading }, ?_⟩
  rw [Context.loadAll, Eval.bind_ok reads, listed]
  dsimp only
  rw [Eval.bind_ok looks, Eval.bind_ok notes, Eval.bind_ok stops]
  rfl

/-- The fault of a request is the fault of the applet. -/
theorem Made.fails {m : Machine} (made : Made context source m r)
    (fails : r.Fails context source fault) :
    ∃ m', Applet.load context source m = .ok (.error fault) m' := by
  induction made with
  | @root entries before after name between listed split loaded =>
    obtain ⟨m', fails⟩ := fails
    have stops := ensureAllLoaded_append loaded fails after
    rw [← split] at stops
    obtain ⟨m'', fails⟩ := loadAll_fails listed stops
    exact ⟨m'', (Eval.bind_ok fails).trans rfl⟩
  | nested _ leads ih => exact ih (leads.fails fails)

end LoadRequest

end PixelApplet
