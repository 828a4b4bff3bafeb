import Mathlib.Data.List.TakeWhile
import PixelApplet.Proofs.Applet.LoadedApplet
import PixelApplet.Proofs.Applet.Requests
import PixelApplet.Proofs.Files.NormalPaths

/-!
# Applets of a single script

The script of such an applet is kept in a file that is named for the applet, and only the files in
the root directory are loaded for their own sake.  If the normal form of the name has no slash, the
script is in the root directory; it is executed once, and its main function becomes the entry point.

A slash that is left in the name makes a directory of what stands before it.  Then there is nothing
in the root directory but this directory, so the script is not executed and the applet has no entry
point, whatever the script is.
-/

namespace PixelApplet

/-- Whether a step is about the top level of a script as a whole. -/
def LoadStep.isRun : LoadStep → Bool
  | .began _ | .finished _ => true
  | .loads _ _ => false

namespace Applet

open Eval

variable {id : String} {script : ByteArray}

/-! ## Where the script is kept -/

/-- The path under which the script of an applet is kept. -/
def singlePath (id : String) : String :=
  Path.clean (singleFile id)

/-- The file of an applet that is made of one script. -/
def singleFiles (id : String) (script : ByteArray) : MemoryFiles :=
  ⟨[(singlePath id, script)]⟩

theorem loadSingle_eq (context : Context) (script : ByteArray) :
    loadSingle context script = load context (.memory (singleFiles context.id script)) :=
  rfl

theorem exists_singleFile (id : String) :
    ∃ path, (singleFile id).toList = path ++ scriptEnding := by
  unfold singleFile
  split
  · rename_i script
    obtain ⟨path, same⟩ := List.isSuffixOf_iff_suffix.mp script
    exact ⟨path, same.symm⟩
  · exact ⟨id.toList, String.toList_append⟩

theorem clean_singlePath (id : String) : Path.clean (singlePath id) = singlePath id :=
  Path.clean_clean (singleFile id)

/-- The script is kept as a script, whatever becomes of its name. -/
theorem isScript_singlePath (id : String) : isScript (singlePath id) = true := by
  obtain ⟨path, same⟩ := exists_singleFile id
  unfold isScript singlePath Path.clean
  rw [String.toList_ofList, same]
  exact List.isSuffixOf_iff_suffix.mpr (Path.suffix_cleanChars (by decide) (by decide) path)

theorem whole_singleFile (whole : '/' ∉ id.toList) : '/' ∉ (singleFile id).toList := by
  unfold singleFile
  split
  · exact whole
  · rw [String.toList_append, List.mem_append, not_or]
    exact ⟨whole, by decide⟩

/-- A name without a slash stays as it is. -/
theorem singlePath_of_whole (whole : '/' ∉ id.toList) : singlePath id = singleFile id := by
  obtain ⟨path, same⟩ := exists_singleFile id
  have longer : 2 < (singleFile id).toList.length := by
    rw [same, List.length_append]
    exact Nat.lt_add_left _ (by decide)
  have named : (singleFile id).toList ≠ Path.up := fun up => by simp [up, Path.up] at longer
  have plain : Path.Plain (singleFile id).toList := by
    refine ⟨fun nothing => ?_, fun here => ?_, whole_singleFile whole⟩
    · simp [nothing] at longer
    · simp [here, Path.here] at longer
  unfold singlePath Path.clean
  rw [Path.cleanChars_name plain named, String.ofList_toList]

/-- The script of an applet whose name has no slash is in the root directory. -/
theorem root_of_whole (whole : '/' ∉ id.toList) : '/' ∉ (singlePath id).toList := by
  rw [singlePath_of_whole whole]
  exact whole_singleFile whole

/-- The root directory holds the script, or a directory. -/
theorem readDirectory_singleFiles (id : String) (script : ByteArray) :
    (singleFiles id script).readDirectory "."
      = .ok [⟨String.ofList ((singlePath id).toList.takeWhile (· ≠ '/')),
        (singlePath id).toList.contains '/'⟩] := by
  have here : Path.clean "." = "." := by decide
  unfold MemoryFiles.readDirectory singleFiles
  rw [here]
  simp [MemoryFiles.childOf?, MemoryFiles.noteChild]

/-- The root directory holds one script, if the name has no slash, or else none. -/
theorem rootScripts_singleFiles (id : String) (script : ByteArray) (disk : Disk) : ∃ entries,
    FileSource.readDirectory (.memory (singleFiles id script)) disk "." = .ok entries
      ∧ Context.rootScripts entries
        = if '/' ∈ (singlePath id).toList then [] else [singlePath id] := by
  refine ⟨_, readDirectory_singleFiles id script, ?_⟩
  by_cases nested : '/' ∈ (singlePath id).toList
  · rw [if_pos nested, List.contains_iff_mem.mpr nested]
    unfold Context.rootScripts
    rw [List.filter_cons, if_neg (by simp), List.filter_nil, List.map_nil, List.mergeSort_nil]
  · have whole : (singlePath id).toList.takeWhile (· ≠ '/') = (singlePath id).toList := by
      refine List.takeWhile_eq_self_iff.mpr fun c member => decide_eq_true ?_
      exact fun same => nested (same ▸ member)
    have isFile : (singlePath id).toList.contains '/' = false :=
      Bool.eq_false_iff.mpr fun slash => nested (List.contains_iff_mem.mp slash)
    rw [if_neg nested, whole, isFile, String.ofList_toList]
    unfold Context.rootScripts
    rw [List.filter_cons, if_pos (by simp [isScript_singlePath]), List.filter_nil,
      List.map_singleton, List.mergeSort_singleton]

/-! ## Nested scripts -/

variable {context : Context} {m : Machine}

/-- A script whose name keeps a slash is not executed: nothing happens at all, and the applet has no
entry point, whatever the script is. -/
theorem loadSingle_nested (nested : '/' ∈ (singlePath context.id).toList) :
    loadSingle context script m = .ok (.error (.noEntryPoint context.id)) m := by
  obtain ⟨entries, listed, roots⟩ := rootScripts_singleFiles context.id script m.disk
  rw [if_pos nested] at roots
  have nothing : context.ensureAllLoaded (.memory (singleFiles context.id script)) 3
      (Context.rootScripts entries) { m with loading := .empty }
        = .ok (.ok ()) { m with loading := .empty } := by
    rw [roots]
    rfl
  have all := Context.loadAll_ok_iff.mpr ⟨entries, _, listed, nothing, rfl, rfl⟩
  rw [loadSingle_eq, load, bind_ok all]
  rfl

example : '/' ∈ (singlePath "team/app").toList := by
  decide +kernel

end Applet

/-! ## Scripts in the root directory -/

/-- The script of a path is being executed, and nothing else was. -/
structure Alone (path : String) (progress : LoadProgress) : Prop where
  paths : progress.paths = [path]
  modules : progress.modules = []
  entry : progress.entry = none
  schema : progress.schema = none
  runs : progress.history.filter LoadStep.isRun = [.began path]

/-- A source with one file has nothing to read but this file, which is open. -/
theorem open_of_read {path asked : String} {script contents : ByteArray} {disk : Disk}
    {chain names : List String} (only : chain = [path]) (normal : Path.clean asked = asked)
    (reads : FileSource.read (.memory ⟨[(path, script)]⟩) disk asked = .ok contents) :
    asked ∈ names ++ chain := by
  have same : asked = path := by
    simp only [FileSource.read, MemoryFiles.read, normal, List.lookup_cons,
      List.lookup_nil] at reads
    split at reads
    · rename_i found
      split at found
      · rename_i same
        exact eq_of_beq same
      · cases found
    · cases reads
  rw [only, same]
  exact List.mem_append_right _ (.head _)

/-- While its only script runs, nothing else of a source is loaded. -/
def LoadInvariant.alone (path : String) (script : ByteArray) :
    LoadInvariant (.memory ⟨[(path, script)]⟩) where
  steady chain _ progress := chain = [] ∨ chain = [path] ∧ Alone path progress
  asking chain asked _ progress := Path.clean asked = asked ∧ chain = [path] ∧ Alone path progress
  develop _ steady := steady
  ask module steady := by
    rcases steady with nothing | ⟨same, alone⟩
    · exact absurd nothing (by simp)
    · have runs := alone.runs
      exact ⟨Path.clean_clean module, same, alone.paths, alone.modules, alone.entry, alone.schema,
        by simpa [LoadProgress.after, LoadStep.isRun] using runs⟩
  elsewhere _ asking := .inr asking.2
  found _ asking := .inr asking.2
  enter fresh reads _ asking :=
    absurd (open_of_read asking.2.1 asking.1 reads) fresh
  leave _ _ _ _ steady := by
    rcases steady with nothing | ⟨same, alone⟩
    · exact absurd nothing (by simp)
    · rcases List.append_eq_singleton_iff.mp same with ⟨first, _⟩ | ⟨_, nothing⟩
      · exact .inl first
      · cases nothing
  add fresh reads _ asking _ _ :=
    absurd (open_of_read asking.2.1 asking.1 reads) fresh

namespace Applet

open Eval

variable {context : Context} {script : ByteArray} {m m₁ m₂ : Machine} {ref : ModuleRef}

/-- The machine on which the script is executed. -/
def openedSingle (id : String) (m : Machine) : Machine :=
  { m with loading := LoadProgress.empty.open_ (singlePath id) }

/-- How the script loads modules while it is executed. -/
def singleLoader (context : Context) (script : ByteArray) : Loader :=
  some (context.siblings (.memory (singleFiles context.id script)) 2 (singlePath context.id)
    [singlePath context.id])

/-- After the script was executed, nothing else is loaded. -/
theorem alone_of_execute (hosted : context.Hosted) (sound : m.heap.Sound)
    (executes : context.execute (singleLoader context script) (singlePath context.id) script
      (openedSingle context.id m) = .ok (.ok ref) m₁) :
    m₁.heap.Sound ∧ ∃ progress, m₁.loading = progress.after (.finished (singlePath context.id))
      ∧ Alone (singlePath context.id) progress := by
  let I := LoadInvariant.alone (singlePath context.id) script
  have loads : Loader.Safe (I.effect ([] ++ [singlePath context.id]))
      (singleLoader context script) :=
    Turns.safe_loadBy hosted (Turns.ensureLoaded hosted 2 [singlePath context.id])
  have opened : (openedSingle context.id m).heap.Sound := sound
  obtain ⟨progress, left, -, keeps⟩ := (Turns.execute hosted opened loads).of_ok executes ref rfl
  have develops := (Turns.execute hosted opened loads).develops executes
  refine ⟨(develops.keeps_and_sound sound).2, progress, left, ?_⟩
  have begins : Alone (singlePath context.id)
      ((openedSingle context.id m).loading.after (.began (singlePath context.id))) :=
    ⟨rfl, rfl, rfl, rfl, rfl⟩
  rcases keeps (.inr ⟨rfl, begins⟩) with nothing | ⟨-, alone⟩
  · cases nothing
  · exact alone

/-- The machine after the script was executed and its main function was recorded. -/
def enteredSingle (id : String) (ref : ModuleRef) (main : Value) (m : Machine) : Machine :=
  { m with loading := { m.loading.addModule (singlePath id) ref with
      entry := some (singlePath id, main) } }

/-- What loading a single script gives. -/
structure LoadedAlone (id : String) (ref : ModuleRef) (main : Value) (loaded : LoadProgress) :
    Prop where
  paths : loaded.paths = [singlePath id]
  modules : loaded.modules = [(singlePath id, ref)]
  entry : loaded.entry = some (singlePath id, main)
  /-- The script ran once, and nothing else ran. -/
  runs : loaded.history.filter LoadStep.isRun
    = [.began (singlePath id), .finished (singlePath id)]

/-- The script is loaded as any script is that is not loaded yet. -/
theorem ensureLoaded_single (context : Context) (script : ByteArray) (m : Machine) :
    context.ensureLoaded (.memory (singleFiles context.id script)) 3 (singlePath context.id) []
        { m with loading := .empty }
      = context.addScript (singleLoader context script) (singlePath context.id) script
        (openedSingle context.id m) := by
  have normal := clean_singlePath context.id
  have unknown : ({ m with loading := .empty } : Machine).loading.module?
      (Path.clean (singlePath context.id)) = none := rfl
  have reads : FileSource.read (.memory (singleFiles context.id script)) m.disk
      (Path.clean (singlePath context.id)) = .ok script := by
    unfold FileSource.read MemoryFiles.read
    dsimp only
    rw [normal, normal]
    simp [singleFiles]
  have script_ : isScript (Path.clean (singlePath context.id)) = true := by
    rw [normal]
    exact isScript_singlePath context.id
  refine (Context.ensureLoaded_script unknown List.not_mem_nil reads script_).trans ?_
  rw [normal, List.nil_append, singleLoader, openedSingle]

section Root

variable {main : Value} (root : '/' ∉ (singlePath context.id).toList)
  (hosted : context.Hosted) (sound : m.heap.Sound)
  (executes : context.execute (singleLoader context script) (singlePath context.id) script
    (openedSingle context.id m) = .ok (.ok ref) m₁)
  (exports : m₁.heap.exportedFunction? ref entryPointName = some main)
  (recorded : context.recordSchema (singlePath context.id) ref
    (enteredSingle context.id ref main m₁) = .ok (.ok ()) m₂)

include hosted sound executes exports

theorem recordEntry_single : Context.recordEntry (singlePath context.id) ref
    { m₁ with loading := m₁.loading.addModule (singlePath context.id) ref }
      = .ok (.ok ()) (enteredSingle context.id ref main m₁) := by
  obtain ⟨-, progress, left, alone⟩ := alone_of_execute hosted sound executes
  have first : (m₁.loading.addModule (singlePath context.id) ref).entry = none := by
    rw [left]
    exact alone.entry
  have finds : Eval.readHeap (fun h => h.exportedFunction? ref entryPointName)
      { m₁ with loading := m₁.loading.addModule (singlePath context.id) ref }
        = .ok (some main)
          { m₁ with loading := m₁.loading.addModule (singlePath context.id) ref } :=
    congrArg (fun found => EStateM.Result.ok found _) exports
  have looks : Context.progress
      { m₁ with loading := m₁.loading.addModule (singlePath context.id) ref }
        = .ok (m₁.loading.addModule (singlePath context.id) ref) _ := rfl
  rw [Context.recordEntry, bind_ok finds]
  dsimp only
  rw [bind_ok looks, first]
  rfl

include recorded

theorem addScript_single :
    context.addScript (singleLoader context script) (singlePath context.id) script
      (openedSingle context.id m) = .ok (.ok ref) m₂ := by
  have adds : Context.note (fun progress => progress.addModule (singlePath context.id) ref) m₁
      = .ok () { m₁ with loading := m₁.loading.addModule (singlePath context.id) ref } := rfl
  have records := recordEntry_single hosted sound executes exports
  rw [Context.addScript, bind_ok executes]
  dsimp only
  rw [bind_ok adds, bind_ok records]
  dsimp only
  rw [bind_ok recorded]
  rfl

omit exports in
theorem loadedAlone_of_recordSchema : LoadedAlone context.id ref main m₂.loading := by
  obtain ⟨sound₁, progress, left, alone⟩ := alone_of_execute hosted sound executes
  have entered : (enteredSingle context.id ref main m₁).heap.Sound := sound₁
  obtain ⟨schema, noted, -⟩ := (Turns.recordSchema hosted entered).of_ok recorded rfl
  rw [noted]
  unfold enteredSingle
  rw [left]
  constructor
  · exact alone.paths
  · exact congrArg (· ++ [(singlePath context.id, ref)]) alone.modules
  · rfl
  · show (progress.history ++ [_]).filter LoadStep.isRun = _
    rw [List.filter_append, alone.runs]
    rfl

include root exports

/-- A script in the root directory that is executed without an error and has a main function is
loaded, unless its schema cannot be recorded: it has run once, nothing else has, and its main
function is the entry point. -/
theorem loadSingle_root : LoadedAlone context.id ref main m₂.loading
    ∧ context.loadAll (.memory (singleFiles context.id script)) m
      = .ok (.ok m₂.loading) { m₂ with loading := m.loading }
    ∧ loadSingle context script m
      = .ok (.ok ⟨context, m₂.loading.paths, m₂.loading.modules, singlePath context.id, main,
        m₂.loading.schema⟩) { m₂ with loading := m.loading } := by
  have alone := loadedAlone_of_recordSchema hosted sound executes recorded
  have added := addScript_single hosted sound executes exports recorded
  obtain ⟨entries, listed, roots⟩ := rootScripts_singleFiles context.id script m.disk
  rw [if_neg root] at roots
  have loads : context.ensureAllLoaded (.memory (singleFiles context.id script)) 3
      (Context.rootScripts entries) { m with loading := .empty } = .ok (.ok ()) m₂ := by
    have first := (ensureLoaded_single context script m).trans added
    rw [roots, Context.ensureAllLoaded, bind_ok first]
    rfl
  have all := Context.loadAll_ok_iff.mpr ⟨entries, m₂, listed, loads, rfl, rfl⟩
  refine ⟨alone, all, ?_⟩
  rw [loadSingle_eq]
  exact load_ok_iff.mpr ⟨_, _, main, all, alone.entry, rfl⟩

omit recorded in
/-- Without a function for the schema, such a script is always loaded. -/
theorem loadSingle_plain (plain : m₁.heap.exportedFunction? ref schemaFunctionName = none) :
    ∃ applet loaded m', loadSingle context script m = .ok (.ok applet) m'
      ∧ applet.entryFile = singlePath context.id ∧ applet.entryPoint = main
      ∧ context.loadAll (.memory (singleFiles context.id script)) m = .ok (.ok loaded) m'
      ∧ LoadedAlone context.id ref main loaded := by
  have finds : Eval.readHeap (fun h => h.exportedFunction? ref schemaFunctionName)
      (enteredSingle context.id ref main m₁)
        = .ok none (enteredSingle context.id ref main m₁) :=
    congrArg (fun found => EStateM.Result.ok found _) plain
  have recorded : context.recordSchema (singlePath context.id) ref
      (enteredSingle context.id ref main m₁)
        = .ok (.ok ()) (enteredSingle context.id ref main m₁) := by
    rw [Context.recordSchema, bind_ok finds]
    rfl
  obtain ⟨alone, all, loads⟩ := loadSingle_root root hosted sound executes exports recorded
  exact ⟨_, _, _, loads, rfl, rfl, all, alone⟩

end Root

example : isLoadedAs ["hello.star"] "hello.star" (loadSingle ⟨"hello", .none⟩
    "def main():\n    return []\n".toUTF8 (.initial (.under []))) = true := by
  decide +kernel

end Applet

end PixelApplet
