import PixelApplet.Applet.Basic
import PixelApplet.Proofs.Applet.Loading
import PixelApplet.Proofs.Applet.Requests

/-!
# Loaded applets

Whatever its source, an applet that was loaded consists of different files, whose modules are there
and frozen and bind each name once.

An applet that was loaded from memory consists of the root scripts and of the files to which the
load statements lead that ran.  Each of its scripts ran once, after all scripts that it asked for;
and one of them has the entry point.
-/

namespace PixelApplet

/-! ## Applets of any source -/

/-- The files that are loaded and those that are open are different, and the modules of the loaded
ones bind each name once. -/
structure Separate (chain : List String) (h : Heap) (progress : LoadProgress) : Prop where
  sound : h.Sound
  distinct : (progress.modules.map Prod.fst ++ chain).Nodup
  published : ∀ file ∈ progress.modules, h.Published file.2

namespace Separate

variable {chain : List String} {h : Heap} {progress : LoadProgress} {path : String}

theorem develop {h' : Heap} (separate : Separate chain h progress) (develops : h.Develops h') :
    Separate chain h' progress := by
  obtain ⟨keeps, sound⟩ := develops.keeps_and_sound separate.sound
  exact ⟨sound, separate.distinct, fun file member => (separate.published file member).keeps keeps⟩

theorem open_ (separate : Separate chain h progress)
    (fresh : path ∉ progress.modules.map Prod.fst ++ chain) :
    Separate (chain ++ [path]) h progress :=
  ⟨separate.sound, nodup_opened separate.distinct fresh, separate.published⟩

theorem close {ref : ModuleRef} (separate : Separate (chain ++ [path]) h progress)
    (published : h.Published ref) : Separate chain h (progress.addModule path ref) where
  sound := separate.sound
  distinct := by
    show ((progress.modules ++ [(path, ref)]).map Prod.fst ++ chain).Nodup
    rw [List.map_append]
    exact nodup_closed separate.distinct
  published file member := by
    rcases List.mem_append.mp member with before | here
    · exact separate.published file before
    · rw [List.mem_singleton.mp here]
      exact published

end Separate

/-- Files are kept apart while they are loaded, whatever their source. -/
def LoadInvariant.separate (source : FileSource) : LoadInvariant source where
  steady := Separate
  asking chain _ := Separate chain
  develop develops separate := separate.develop develops
  ask _ separate := ⟨separate.sound, separate.distinct, separate.published⟩
  elsewhere _ separate := separate
  found _ separate := separate
  enter fresh _ _ separate :=
    have opened := separate.open_ fresh
    ⟨opened.sound, opened.distinct, opened.published⟩
  leave _ published _ _ separate :=
    have closed := separate.close published
    ⟨closed.sound, closed.distinct, closed.published⟩
  add fresh _ _ separate develops published :=
    have closed := ((separate.open_ fresh).develop develops).close published
    ⟨closed.sound, closed.distinct, closed.published⟩

section Separate

open Eval.Turns

variable {context : Context} {source : FileSource} {m m' : Machine}

end Separate

namespace Applet

/-- The paths of the loaded files. -/
def keys (applet : Applet) : List String :=
  applet.modules.map Prod.fst

/-- The top level of each loaded script ran once, and to its end after the scripts it asked for. -/
structure RanOnce (applet : Applet) (files : MemoryFiles) (history : List LoadStep) : Prop where
  once : ∀ path ∈ applet.keys, isScript path = true →
    history.count (.began path) = 1 ∧ history.count (.finished path) = 1
      ∧ [.began path, .finished path].Sublist history
  only : ∀ path, .began path ∈ history → path ∈ applet.keys ∧ isScript path = true
  after : ∀ path module, .loads path module ∈ history → files.Names (Path.clean module) →
    isScript (Path.clean module) = true →
      [.finished (Path.clean module), .finished path].Sublist history

/-- The loaded files are those to which the root scripts lead. -/
structure Complete (applet : Applet) (files : MemoryFiles) (history : List LoadStep) : Prop where
  distinct : applet.keys.Nodup
  opened : ∀ path, path ∈ applet.paths ↔ path ∈ applet.keys
  reached : ∀ path, path ∈ applet.paths ↔ Reached files history path

/-- One loaded script has the entry point, and one at most has the function for the schema. -/
structure Entered (applet : Applet) (h : Heap) : Prop where
  entry : ∃ ref, (applet.entryFile, ref) ∈ applet.modules ∧ isScript applet.entryFile = true
    ∧ h.exportedFunction? ref entryPointName = some applet.entryPoint
  only : ∀ path ref, (path, ref) ∈ applet.modules → isScript path = true →
    (h.exportedFunction? ref entryPointName).isSome = true → path = applet.entryFile
  schema : ∀ path ref path' ref', (path, ref) ∈ applet.modules → isScript path = true →
    (h.exportedFunction? ref schemaFunctionName).isSome = true →
      (path', ref') ∈ applet.modules → isScript path' = true →
        (h.exportedFunction? ref' schemaFunctionName).isSome = true → path = path'

variable {applet : Applet} {files : MemoryFiles} {asked : List String} {h : Heap}
  {loaded : LoadProgress}

theorem ranOnce_of_loading (loading : Loading files asked [] [] h loaded)
    (modules : applet.modules = loaded.modules) : applet.RanOnce files loaded.history := by
  obtain ⟨_, order, _⟩ := loading
  have keys : applet.keys = loaded.modules.map Prod.fst := by
    rw [Applet.keys, modules]
  constructor
  · intro path member script
    rw [keys] at member
    have began := order.began path
    have finished := order.finished path
    rw [if_pos ⟨script, List.mem_append_left _ member⟩] at began
    rw [if_pos ⟨script, member⟩] at finished
    exact ⟨began, finished, order.through path member script⟩
  · intro path begun
    have counted := order.began path
    have positive := List.count_pos_iff.mpr begun
    by_cases both : isScript path = true ∧ path ∈ loaded.modules.map Prod.fst ++ []
    · rw [keys]
      exact ⟨by simpa using both.2, both.1⟩
    · rw [if_neg both] at counted
      omega
  · intro path module ran names script
    have running := order.running path module ran
    rw [List.append_nil] at running
    exact order.ordered path module ran names.contains script running

theorem complete_of_loading {entries : List DirectoryEntry}
    (listed : files.readDirectory "." = .ok entries)
    (loading : Loading files (Context.rootScripts entries) [] [] h loaded)
    (modules : applet.modules = loaded.modules) (paths : applet.paths = loaded.paths) :
    applet.Complete files loaded.history := by
  obtain ⟨_, order, _⟩ := loading
  have keys : applet.keys = loaded.modules.map Prod.fst := by
    rw [Applet.keys, modules]
  have opened (path : String) : path ∈ applet.paths ↔ path ∈ applet.keys := by
    rw [paths, keys, order.paths, List.append_nil]
  constructor
  · rw [keys]
    simpa using order.distinct
  · exact opened
  · intro path
    constructor
    · intro member
      rw [paths] at member
      exact order.reached path ((order.paths path).mp member)
    · intro reached
      rw [opened, keys]
      induction reached with
      | @root entries' entry listed' member isFile script =>
        rw [listed] at listed'
        cases listed'
        apply order.asked
        apply List.mem_mergeSort.mpr
        apply List.mem_map_of_mem
        exact List.mem_filter.mpr ⟨member, by simp [isFile, script]⟩
      | loaded before ran names ih =>
        rcases order.pending _ _ ran names.contains with loaded | behind
        · exact loaded
        · cases behind

theorem entered_of_loading (loading : Loading files asked [] [] h loaded)
    (modules : applet.modules = loaded.modules)
    (entry : loaded.entry = some (applet.entryFile, applet.entryPoint)) : applet.Entered h := by
  obtain ⟨_, _, exports⟩ := loading
  constructor
  · rw [modules]
    exact (exports.entry _ _).mp entry
  · intro path ref member script found
    obtain ⟨main, found⟩ := Option.isSome_iff_exists.mp found
    rw [modules] at member
    have recorded := (exports.entry path main).mpr ⟨ref, member, script, found⟩
    rw [entry] at recorded
    cases recorded
    rfl
  · intro path ref path' ref' member script found member' script' found'
    rw [modules] at member member'
    obtain ⟨schema, recorded, file⟩ := exports.schema path ref member script found
    obtain ⟨schema', recorded', file'⟩ := exports.schema path' ref' member' script' found'
    rw [recorded] at recorded'
    cases recorded'
    rw [← file, ← file']

/-- Loading an applet leaves a sound heap sound, whether it succeeds or not. -/
theorem load_develops {context : Context} {m : Machine} (hosted : context.Hosted)
    (sound : m.heap.Sound) :
    Eval.Turns (load context (.memory files)) m fun _ m' => m'.heap.Sound := by
  apply Eval.Turns.bind sound (Eval.Turns.loadAll hosted sound)
  intro outcome m' sound' _ _
  cases outcome with
  | error fault => exact .pure sound'
  | ok loaded =>
    simp only
    split
    · exact .pure sound'
    · exact .pure sound'

/-- Loading an applet from memory on a sound heap, if it succeeds, runs each script once and in
order, loads what the root scripts lead to and nothing else, and finds the only entry point. -/
theorem load_runs_once_and_completes {context : Context} {files : MemoryFiles} {m m' : Machine}
    {applet : Applet} (hosted : context.Hosted) (sound : m.heap.Sound)
    (ran : load context (.memory files) m = .ok (.ok applet) m') :
    ∃ loaded, context.loadAll (.memory files) m = .ok (.ok loaded) m'
      ∧ applet.RanOnce files loaded.history ∧ applet.Complete files loaded.history
      ∧ applet.Entered m'.heap := by
  unfold load at ran
  obtain ⟨outcome, between, loads, rest⟩ := Eval.exists_of_bind_ok ran
  cases outcome with
  | error fault => cases rest
  | ok loaded =>
    cases entry : loaded.entry with
    | none =>
      simp only [entry] at rest
      cases rest
    | some found =>
      simp only [entry] at rest
      cases rest
      have turns := @Eval.Turns.loadAll context files m hosted sound
      obtain ⟨entries, listed, loading⟩ := turns.of_ok loads loaded rfl
      exact ⟨loaded, loads, ranOnce_of_loading loading rfl,
        complete_of_loading listed loading rfl rfl, entered_of_loading loading rfl entry⟩

/-- An applet in which two files load a third under different spellings of its path. -/
def sharedFiles : MemoryFiles :=
  let main := "load(\"lib/one.star\", \"one\")\nload(\"./lib/two.star\", \"two\")\n"
    ++ "def main():\n    return []\n"
  let one := "load(\"lib/../lib/two.star\", \"two\")\nload(\"notes.txt\", \"file\")\none = 1\n"
  (((MemoryFiles.empty.insert "main.star" main.toUTF8).insert "lib/one.star" one.toUTF8).insert
    "lib/two.star" "two = 2\n".toUTF8).insert "notes.txt" "notes".toUTF8

/-- Whether loading gave an applet of certain files and entry. -/
def isLoadedAs (paths : List String) (entry : String) :
    EStateM.Result Abort Machine (Except AppletFault Applet) → Bool
  | .ok (.ok applet) _ => decide (applet.paths = paths ∧ applet.entryFile = entry)
  | _ => false

theorem exists_of_isLoadedAs {paths : List String} {entry : String}
    {ending : EStateM.Result Abort Machine (Except AppletFault Applet)}
    (loads : isLoadedAs paths entry ending = true) : ∃ applet m',
      ending = .ok (.ok applet) m' ∧ applet.paths = paths ∧ applet.entryFile = entry := by
  unfold isLoadedAs at loads
  split at loads
  · rename_i applet m'
    exact ⟨applet, m', rfl, of_decide_eq_true loads⟩
  · cases loads

theorem sharedFiles_load : ∃ applet m',
    load ⟨"app", .none⟩ (.memory sharedFiles) (.initial (.under [])) = .ok (.ok applet) m'
      ∧ applet.paths = ["lib/one.star", "lib/two.star", "main.star", "notes.txt"]
      ∧ applet.entryFile = "main.star" :=
  exists_of_isLoadedAs (by decide +kernel)

theorem sharedFiles_run_once : Context.Hosted ⟨"app", .none⟩
    ∧ (Machine.initial (.under [])).heap.Sound
    ∧ ∃ (applet : Applet) (m' : Machine) (loaded : LoadProgress),
      load ⟨"app", .none⟩ (.memory sharedFiles) (.initial (.under [])) = .ok (.ok applet) m'
        ∧ applet.paths = ["lib/one.star", "lib/two.star", "main.star", "notes.txt"]
        ∧ applet.RanOnce sharedFiles loaded.history ∧ applet.Complete sharedFiles loaded.history
        ∧ applet.Entered m'.heap := by
  have hosted := Context.hosted_of_none "app"
  obtain ⟨applet, m', ran, paths, _⟩ := sharedFiles_load
  obtain ⟨loaded, _, once, complete, entered⟩ :=
    load_runs_once_and_completes hosted Heap.sound_initial ran
  exact ⟨hosted, Heap.sound_initial, applet, m', loaded, ran, paths, once, complete, entered⟩

end Applet

end PixelApplet
