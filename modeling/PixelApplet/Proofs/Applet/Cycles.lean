import Mathlib.Data.List.Chain
import PixelApplet.Proofs.Applet.InnermostFaults
import PixelApplet.Proofs.Applet.Loading
import PixelApplet.Proofs.Applet.Returning
import PixelApplet.Proofs.Files.NormalPaths

/-!
# Circular dependencies

The files that are being executed when a file is requested form a chain from a root script to the
file, in which each file ran a load statement that names the next.  A request is circular if its
file is being executed, that is, if its top level began and has not finished; then, and only then,
the chain is reported.  As the files of the chain are different, there are never more of them than
there are files, and loading ends.
-/

namespace PixelApplet

/-- A file ran a load statement that names another. -/
def LoadsNext (history : List LoadStep) (path next : String) : Prop :=
  ∃ module, .loads path module ∈ history ∧ Path.clean module = next

/-- A file is a root script. -/
def MemoryFiles.IsRoot (files : MemoryFiles) (path : String) : Prop :=
  ∃ entries name, files.readDirectory "." = .ok entries ∧ name ∈ Context.rootScripts entries
    ∧ Path.clean name = path

namespace LoadRequest

/-- What holds of every request that is made. -/
structure Follows (files : MemoryFiles) (r : LoadRequest) : Prop where
  loading : ∃ asked, Loading files asked r.chain [r.file] r.machine.heap r.machine.loading
  bound : r.depth + r.chain.length = files.files.length + 2
  root : ∃ first ∈ (r.chain ++ [r.file]).head?, files.IsRoot first
  loads : (r.chain ++ [r.file]).IsChain (LoadsNext r.machine.loading.history)
  normal : ∀ path ∈ r.chain, Path.clean path = path
  reached : files.Names r.file → Reached files r.machine.loading.history r.file

end LoadRequest

theorem LoadsNext.mono {history more : List LoadStep} {path next : String}
    (loads : LoadsNext history path next) (longer : history ⊆ more) : LoadsNext more path next := by
  obtain ⟨module, ran, same⟩ := loads
  exact ⟨module, longer ran, same⟩

namespace LoadRequest.Follows

variable {files : MemoryFiles} {r : LoadRequest}

theorem unknown (follows : r.Follows files) (opened : r.file ∈ r.chain) :
    r.machine.loading.module? r.file = none := by
  obtain ⟨asked, loading⟩ := follows.loading
  refine LoadProgress.unknown_of_not_mem fun loaded => ?_
  exact absurd rfl ((List.nodup_append.mp loading.order.distinct).2.2 _ loaded _ opened)

end LoadRequest.Follows

/-! ## The chain of every request -/

theorem MemoryFiles.IsRoot.reached {files : MemoryFiles} {path : String} (root : files.IsRoot path)
    (history : List LoadStep) : Reached files history path := by
  obtain ⟨entries, name, listed, member, rfl⟩ := root
  obtain ⟨entry, inEntries, rfl⟩ := List.mem_map.mp (List.mem_mergeSort.mp member)
  have chosen := (List.mem_filter.mp inEntries).2
  simp only [Bool.and_eq_true, Bool.not_eq_true'] at chosen
  exact .root listed (List.mem_filter.mp inEntries).1 chosen.1 chosen.2

section Requests

variable {context : Context} {files : MemoryFiles} {m : Machine} {r s : LoadRequest}

/-- A root script is requested when nothing is being executed. -/
theorem LoadRequest.follows_root (hosted : context.Hosted) (sound : m.heap.Sound)
    {entries : List DirectoryEntry} {before after : List String} {name : String} {m' : Machine}
    (listed : files.readDirectory "." = .ok entries)
    (split : Context.rootScripts entries = before ++ name :: after)
    (loaded : context.ensureAllLoaded (.memory files) (files.files.length + 2) before
      { m with loading := .empty } = .ok (.ok ()) m') :
    Follows files ⟨files.files.length + 2, name, [], m'⟩ := by
  have root (other : String) (member : other ∈ before ++ name :: after) :
      files.IsRoot (Path.clean other) :=
    ⟨entries, other, listed, split ▸ member, rfl⟩
  have isRoot := root name (by simp)
  have start : Loading files [] [] [] m.heap .empty := ⟨sound, .initial, .initial _⟩
  have turns := @Eval.Turns.ensureAllLoaded context files [] { m with loading := .empty } hosted
    (files.files.length + 2) before sound
  have loading := turns.of_ok loaded rfl
    (fun other member history => (root other (List.mem_append_left _ member)).reached history) start
  exact {
    loading := ⟨_, loading.sound, loading.order.ahead_of_nil, loading.exports⟩
    bound := rfl
    root := ⟨Path.clean name, rfl, isRoot⟩
    loads := .singleton _
    normal := nofun
    reached := fun _ => isRoot.reached _ }

/-- The chain goes on from a request to one to which it leads. -/
theorem LoadRequest.Follows.next (hosted : context.Hosted) (discreet : context.HooksObey .uncaused)
    (follows : r.Follows files) (leads : r.LeadsTo context (.memory files) s) :
    s.Follows files := by
  obtain @⟨depth, path, module, chain, m, asked, contents, unknown, unopened, reads, script, asks,
    present⟩ := leads
  obtain ⟨roots, loading⟩ := follows.loading
  have named : files.Names (Path.clean path) := ⟨contents, reads⟩
  have fresh : Path.clean path ∉ m.loading.modules.map Prod.fst ++ chain := by
    rw [List.mem_append, not_or]
    exact ⟨LoadProgress.not_mem_of_unknown unknown, unopened⟩
  have opened : Loading files roots (chain ++ [Path.clean path]) [] m.heap
      ((m.loading.open_ (Path.clean path)).after (.began (Path.clean path))) :=
    ⟨loading.sound, loading.order.enter fresh script named (follows.reached named),
      loading.exports⟩
  obtain ⟨start, scope, block, develops, same, soundStart, live, ready, asks⟩ :=
    asks.begins hosted loading.sound
  have begun := opened.develop develops
  rw [← same] at begun
  let ordered := LoadInvariant.ordered files roots
  obtain ⟨done, _⟩ := asks.reached (ordered.files _) (Eval.Safe.callValue _)
    (Eval.Turns.safe_loadBy hosted (Eval.Turns.ensureLoaded hosted depth _)) soundStart live ready
  have running : Loading files roots (chain ++ [Path.clean path]) [] asked.heap asked.loading :=
    done.2 begun
  have asking := running.order.ask module
  obtain ⟨more, longer, _⟩ := asks.behaves (callTo_obeys Conduct.noting_loads.frames
    (Context.siblings_note discreet) _) (Context.siblings_note discreet) trivial
  have subset : m.loading.history
      ⊆ (asked.loading.after (.loads (Path.clean path) module)).history := by
    intro step member
    simp [LoadProgress.after, longer, same, LoadProgress.open_, member]
  have ran : .loads (Path.clean path) module
      ∈ (asked.loading.after (.loads (Path.clean path) module)).history := by
    simp [LoadProgress.after]
  exact {
    loading := ⟨roots, running.sound, asking, running.exports⟩
    bound := by
      have bound := follows.bound
      simp only [List.length_append, List.length_singleton] at bound ⊢
      omega
    root := by
      obtain ⟨first, head, root⟩ := follows.root
      exact ⟨first, List.mem_head?_append_of_mem_head? head, root⟩
    loads := by
      refine (follows.loads.imp fun _ _ loads => loads.mono subset).append (.singleton _) ?_
      intro last ends next begins
      cases List.getLast?_concat.symm.trans ends
      cases begins
      exact ⟨module, ran, rfl⟩
    normal := by
      intro other member
      rcases List.mem_append.mp member with before | here
      · exact follows.normal other before
      · rw [List.mem_singleton.mp here]
        exact Path.clean_clean path
    reached := fun names => .loaded (asking.reached _ (by simp)) ran names }

theorem LoadRequest.Made.follows (hosted : context.Hosted) (discreet : context.HooksObey .uncaused)
    (sound : m.heap.Sound) (made : Made context (.memory files) m r) : r.Follows files := by
  induction made with
  | root listed split loaded => exact follows_root hosted sound listed split loaded
  | nested _ leads ih => exact ih.next hosted discreet leads

end Requests

/-! ## The bound is never reached -/

namespace Applet

variable {context : Context} {files : MemoryFiles} {m : Machine}

theorem Innermost.circular {source : FileSource} {r : LoadRequest} {chain : List String}
    (innermost : Innermost context source (.circularDependency chain) r) (open_ : 0 < r.depth) :
    r.file ∈ r.chain ∧ chain = r.chain ++ [r.file] := by
  have own := innermost.own
  generalize same : AppletFault.circularDependency chain = fault at own
  cases own with
  | circular closes unknown => exact ⟨closes, AppletFault.circularDependency.inj same⟩
  | exhausted used => omega
  | unreadable => cases same
  | script own => cases own <;> cases same

end Applet

end PixelApplet
