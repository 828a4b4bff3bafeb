import PixelApplet.Applet.Load

/-!
# The order in which files are loaded

The files that are open form a chain, in which each was asked for by the one before it.  A file is
opened once, runs once, and is closed when all files that it asked for are loaded; so a file that
was asked for is loaded, or stands in the chain behind the one that asked.
-/

namespace PixelApplet

/-- A path names a file. -/
def MemoryFiles.Names (files : MemoryFiles) (path : String) : Prop :=
  ∃ contents, files.read path = .ok contents

theorem MemoryFiles.Names.contains {files : MemoryFiles} {path : String}
    (names : files.Names path) : files.contains path = true := by
  obtain ⟨contents, reads⟩ := names
  unfold MemoryFiles.read at reads
  cases found : files.files.lookup (Path.clean path) with
  | none =>
    simp [found] at reads
  | some stored =>
    simp [MemoryFiles.contains, found]

/-- The files to which the root scripts lead by the load statements that ran. -/
inductive Reached (files : MemoryFiles) (history : List LoadStep) : String → Prop where
  | root {entries : List DirectoryEntry} {entry : DirectoryEntry}
    (listed : files.readDirectory "." = .ok entries) (member : entry ∈ entries)
    (isFile : entry.isDirectory = false) (script : isScript entry.name = true) :
    Reached files history (Path.clean entry.name)
  | loaded {path module : String} (before : Reached files history path)
    (ran : .loads path module ∈ history) (names : files.Names (Path.clean module)) :
    Reached files history (Path.clean module)

theorem Reached.mono {files : MemoryFiles} {history more : List LoadStep}
    {path : String} (reached : Reached files history path) (longer : history ⊆ more) :
    Reached files more path := by
  induction reached with
  | root listed member isFile script => exact .root listed member isFile script
  | loaded _ ran names ih => exact .loaded ih (longer ran) names

/-- What holds whenever no file is just being opened or closed.  The files `keys` are loaded, those
of `chain` are open, the root scripts `asked` were loaded, and `ahead` holds what is asked for next.
-/
structure LoadOrder (files : MemoryFiles) (asked chain ahead paths keys : List String)
    (history : List LoadStep) : Prop where
  distinct : (keys ++ chain).Nodup
  paths : ∀ path, path ∈ paths ↔ path ∈ keys ++ chain
  names : ∀ path ∈ keys ++ chain, files.Names path
  reached : ∀ path ∈ keys ++ chain, Reached files history path
  scripts : ∀ path ∈ chain, isScript path = true
  asked : ∀ name ∈ asked, Path.clean name ∈ keys
  began : ∀ path, history.count (.began path)
    = if isScript path = true ∧ path ∈ keys ++ chain then 1 else 0
  finished : ∀ path, history.count (.finished path)
    = if isScript path = true ∧ path ∈ keys then 1 else 0
  through : ∀ path ∈ keys, isScript path = true →
    [.began path, .finished path].Sublist history
  running : ∀ path module, .loads path module ∈ history → path ∈ keys ++ chain
  pending : ∀ path module, .loads path module ∈ history →
    files.contains (Path.clean module) = true →
      Path.clean module ∈ keys ∨ [path, Path.clean module].Sublist (chain ++ ahead)
  ordered : ∀ path module, .loads path module ∈ history →
    files.contains (Path.clean module) = true → isScript (Path.clean module) = true →
      path ∈ keys → [.finished (Path.clean module), .finished path].Sublist history

/-- Two items in this order in a list that ends with a third. -/
theorem sublist_pair_concat {α : Type} {a b c : α} {items : List α}
    (within : [a, b].Sublist (items ++ [c])) : [a, b].Sublist items ∨ b = c ∧ a ∈ items := by
  rcases List.sublist_append_iff.mp within with ⟨front, back, split, inItems, inLast⟩
  cases inLast with
  | cons _ nothing =>
    left
    rw [split, List.sublist_nil.mp nothing, List.append_nil]
    exact inItems
  | cons_cons _ nothing =>
    right
    rw [List.sublist_nil.mp nothing] at split
    have last : [a] ++ [b] = front ++ [c] := split
    obtain ⟨rfl, same⟩ := List.append_inj' last rfl
    exact ⟨List.head_eq_of_cons_eq same, inItems.subset (List.mem_singleton.mpr rfl)⟩

/-- An item of a list stands before one that is put at its end. -/
theorem pair_sublist_concat {α : Type} {a b : α} {items : List α} (member : a ∈ items) :
    [a, b].Sublist (items ++ [b]) :=
  (List.singleton_sublist.mpr member).append (.refl [b])

theorem nodup_concat {α : Type} {a : α} {items : List α} (distinct : items.Nodup)
    (fresh : a ∉ items) : (items ++ [a]).Nodup := by
  rw [List.nodup_append]
  refine ⟨distinct, by simp, fun b member c last => ?_⟩
  rw [List.mem_singleton.mp last]
  rintro rfl
  exact fresh member

/-- A file that is opened is neither loaded nor open. -/
theorem nodup_opened {path : String} {keys chain : List String} (distinct : (keys ++ chain).Nodup)
    (fresh : path ∉ keys ++ chain) : (keys ++ (chain ++ [path])).Nodup := by
  rw [← List.append_assoc]
  exact nodup_concat distinct fresh

/-- The file that was opened last is closed. -/
theorem nodup_closed {path : String} {keys chain : List String}
    (distinct : (keys ++ (chain ++ [path])).Nodup) : (keys ++ [path] ++ chain).Nodup := by
  have rotated : (keys ++ [path] ++ chain).Perm (keys ++ (chain ++ [path])) := by
    rw [List.append_assoc]
    exact List.perm_append_comm.append_left keys
  exact rotated.nodup_iff.mpr distinct

/-- The file that was opened last is not loaded, and was not open before. -/
theorem not_mem_of_nodup_opened {path : String} {keys chain : List String}
    (distinct : (keys ++ (chain ++ [path])).Nodup) : path ∉ keys ∧ path ∉ chain := by
  obtain ⟨_, opened, apart⟩ := List.nodup_append.mp distinct
  have apart' := (List.nodup_append.mp opened).2.2
  exact ⟨fun member => apart path member path (by simp) rfl,
    fun member => apart' path member path (by simp) rfl⟩

theorem LoadProgress.mem_insertPath {path other : String} {paths : List String} :
    other ∈ insertPath path paths ↔ other = path ∨ other ∈ paths := by
  induction paths with
  | nil => simp [insertPath]
  | cons first rest ih =>
    rw [insertPath]
    split
    · simp
    · split
      · rename_i same
        simp [same]
      · simp only [List.mem_cons, ih]
        constructor
        · rintro (here | here | later)
          · exact .inr (.inl here)
          · exact .inl here
          · exact .inr (.inr later)
        · rintro (here | here | later)
          · exact .inr (.inl here)
          · exact .inl here
          · exact .inr (.inr later)

theorem LoadProgress.not_mem_of_unknown {progress : LoadProgress} {path : String}
    (unknown : progress.module? path = none) : path ∉ progress.modules.map Prod.fst := by
  intro loaded
  obtain ⟨file, member, same⟩ := List.mem_map.mp loaded
  have different := List.lookup_eq_none_iff.mp unknown file member
  rw [same] at different
  simp at different

theorem LoadProgress.unknown_of_not_mem {progress : LoadProgress} {path : String}
    (absent : path ∉ progress.modules.map Prod.fst) : progress.module? path = none := by
  refine List.lookup_eq_none_iff.mpr fun file member => ?_
  have different : path ≠ file.1 := fun same => absent (same ▸ List.mem_map_of_mem member)
  simpa using different

namespace LoadOrder

variable {files : MemoryFiles} {asked chain ahead paths keys : List String}
  {history : List LoadStep} {path : String}

/-- Nothing is loaded, and nothing happened. -/
theorem initial : LoadOrder files [] [] [] [] [] [] where
  distinct := .nil
  paths _ := by simp
  names _ member := by simp at member
  reached _ member := by simp at member
  scripts _ member := by simp at member
  asked _ member := by simp at member
  began _ := by simp
  finished _ := by simp
  through _ member := by simp at member
  running _ _ ran := by simp at ran
  pending _ _ ran := by simp at ran
  ordered _ _ ran := by simp at ran

/-- A file that was asked for is still loaded, or open behind the one that asked, when what was asked
for last is loaded too. -/
theorem pending_of_settled {other wanted : String} {keys' : List String}
    (pending : wanted ∈ keys ∨ [other, wanted].Sublist (chain ++ [path])) (more : keys ⊆ keys')
    (settled : wanted = path → wanted ∈ keys') :
    wanted ∈ keys' ∨ [other, wanted].Sublist (chain ++ []) := by
  rcases pending with loaded | behind
  · exact .inl (more loaded)
  · rw [List.append_nil]
    rcases sublist_pair_concat behind with behind | ⟨same, _⟩
    · exact .inr behind
    · exact .inl (settled same)

/-- Nothing stands behind the script in the chain that was opened last, so all that it asked for is
loaded. -/
theorem loaded_of_last (order : LoadOrder files asked (chain ++ [path]) [] paths keys history)
    {module : String} (ran : .loads path module ∈ history)
    (there : files.contains (Path.clean module) = true) : Path.clean module ∈ keys := by
  rcases order.pending path module ran there with loaded | behind
  · exact loaded
  · rw [List.append_nil] at behind
    have fresh : path ∉ chain := (not_mem_of_nodup_opened order.distinct).2
    rcases sublist_pair_concat behind with before | ⟨_, member⟩
    · exact absurd (before.subset (.head _)) fresh
    · exact absurd member fresh

theorem ahead_of_nil (order : LoadOrder files asked chain [] paths keys history) :
    LoadOrder files asked chain ahead paths keys history :=
  { order with
    pending := fun other module ran there => by
      rcases order.pending other module ran there with loaded | behind
      · exact .inl loaded
      · rw [List.append_nil] at behind
        exact .inr (behind.trans (List.sublist_append_left chain ahead)) }

/-- A root script was loaded. -/
theorem answer {name : String} (order : LoadOrder files asked chain [] paths keys history)
    (loaded : Path.clean name ∈ keys) :
    LoadOrder files (asked ++ [name]) chain [] paths keys history :=
  { order with
    asked := fun other member => by
      rcases List.mem_append.mp member with before | here
      · exact order.asked other before
      · rw [List.mem_singleton.mp here]
        exact loaded }

/-- A file that is asked for is loaded already. -/
theorem found (order : LoadOrder files asked chain [path] paths keys history)
    (loaded : path ∈ keys) : LoadOrder files asked chain [] paths keys history :=
  { order with
    pending := fun other module ran there =>
      pending_of_settled (order.pending other module ran there) (List.Subset.refl _)
        fun same => same ▸ loaded }

/-- A script is opened and begins to run. -/
theorem enter (order : LoadOrder files asked chain [path] paths keys history)
    (fresh : path ∉ keys ++ chain) (script : isScript path = true) (named : files.Names path)
    (reached : Reached files history path) :
    LoadOrder files asked (chain ++ [path]) [] (LoadProgress.insertPath path paths) keys
      (history ++ [.began path]) where
  distinct := nodup_opened order.distinct fresh
  paths other := by
    rw [LoadProgress.mem_insertPath, order.paths]
    simp [or_comm, or_assoc]
  names other member := by
    rw [← List.append_assoc] at member
    rcases List.mem_append.mp member with before | here
    · exact order.names other before
    · rw [List.mem_singleton.mp here]
      exact named
  reached other member := by
    have longer : history ⊆ history ++ [.began path] := List.subset_append_left _ _
    rw [← List.append_assoc] at member
    rcases List.mem_append.mp member with before | here
    · exact (order.reached other before).mono longer
    · rw [List.mem_singleton.mp here]
      exact reached.mono longer
  scripts other member := by
    rcases List.mem_append.mp member with before | here
    · exact order.scripts other before
    · rw [List.mem_singleton.mp here]
      exact script
  asked := order.asked
  began other := by
    rw [List.count_append, order.began]
    by_cases same : other = path
    · subst same
      simp [fresh, script]
    · simp [same, Ne.symm same]
  finished other := by
    rw [List.count_append, order.finished]
    simp
  through other member isScript' :=
    (order.through other member isScript').trans (List.sublist_append_left _ _)
  running other module ran := by
    have ran' : .loads other module ∈ history := by simpa using ran
    have := order.running other module ran'
    rw [← List.append_assoc]
    exact List.mem_append_left _ this
  pending other module ran there := by
    have ran' : .loads other module ∈ history := by simpa using ran
    rw [List.append_nil]
    exact order.pending other module ran' there
  ordered other module ran there isScript' member := by
    have ran' : .loads other module ∈ history := by simpa using ran
    exact (order.ordered other module ran' there isScript' member).trans
      (List.sublist_append_left _ _)

/-- A running script runs a load statement. -/
theorem ask (order : LoadOrder files asked (chain ++ [path]) [] paths keys history)
    (module : String) :
    LoadOrder files asked (chain ++ [path]) [Path.clean module] paths keys
      (history ++ [.loads path module]) where
  distinct := order.distinct
  paths := order.paths
  names := order.names
  reached other member := (order.reached other member).mono (List.subset_append_left _ _)
  scripts := order.scripts
  asked := order.asked
  began other := by
    rw [List.count_append, order.began]
    simp
  finished other := by
    rw [List.count_append, order.finished]
    simp
  through other member script :=
    (order.through other member script).trans (List.sublist_append_left _ _)
  running other wanted ran := by
    rcases List.mem_append.mp ran with before | now
    · exact order.running other wanted before
    · cases List.mem_singleton.mp now
      simp
  pending other wanted ran there := by
    rcases List.mem_append.mp ran with before | now
    · rcases order.pending other wanted before there with loaded | behind
      · exact .inl loaded
      · rw [List.append_nil] at behind
        exact .inr (behind.trans (List.sublist_append_left _ _))
    · cases List.mem_singleton.mp now
      exact .inr (pair_sublist_concat (by simp))
  ordered other wanted ran there script member := by
    rcases List.mem_append.mp ran with before | now
    · exact (order.ordered other wanted before there script member).trans
        (List.sublist_append_left _ _)
    · -- the script is still running
      cases List.mem_singleton.mp now
      exact absurd member (not_mem_of_nodup_opened order.distinct).1

/-- A running script asks for a module that is no file. -/
theorem askElsewhere {module : String}
    (order : LoadOrder files asked chain [Path.clean module] paths keys history)
    (absent : files.contains (Path.clean module) = false) :
    LoadOrder files asked chain [] paths keys history :=
  { order with
    pending := fun other wanted ran there =>
      pending_of_settled (order.pending other wanted ran there) (List.Subset.refl _) fun same => by
        rw [same, absent] at there
        cases there }

/-- The script that was opened last runs to its end. -/
theorem leave (order : LoadOrder files asked (chain ++ [path]) [] paths keys history) :
    LoadOrder files asked chain [] paths (keys ++ [path]) (history ++ [.finished path]) where
  distinct := nodup_closed order.distinct
  paths other := by
    rw [order.paths]
    simp [or_comm]
  names other member := order.names other (by simpa [or_comm, or_assoc] using member)
  reached other member := by
    have before := order.reached other (by simpa [or_comm, or_assoc] using member)
    exact before.mono (List.subset_append_left _ _)
  scripts other member := order.scripts other (List.mem_append_left _ member)
  asked name member := List.mem_append_left _ (order.asked name member)
  began other := by
    rw [List.count_append, order.began]
    simp [or_comm, or_assoc]
  finished other := by
    have fresh : path ∉ keys := (not_mem_of_nodup_opened order.distinct).1
    rw [List.count_append, order.finished]
    by_cases same : other = path
    · subst same
      simp [fresh, order.scripts other (by simp)]
    · simp [same, Ne.symm same]
  through other member script := by
    rcases List.mem_append.mp member with before | here
    · exact (order.through other before script).trans (List.sublist_append_left _ _)
    · rw [List.mem_singleton.mp here] at script ⊢
      have begun : 0 < history.count (.began path) := by
        rw [order.began, if_pos ⟨script, by simp⟩]
        exact Nat.one_pos
      exact pair_sublist_concat (List.count_pos_iff.mp begun)
  running other module ran := by
    have ran' : .loads other module ∈ history := by simpa using ran
    simpa [or_comm, or_assoc] using order.running other module ran'
  pending other module ran there := by
    have ran' : .loads other module ∈ history := by simpa using ran
    have before := order.pending other module ran' there
    rw [List.append_nil] at before
    exact pending_of_settled before (List.subset_append_left _ _) fun same => by simp [same]
  ordered other module ran there script member := by
    have ran' : .loads other module ∈ history := by simpa using ran
    rcases List.mem_append.mp member with before | here
    · exact (order.ordered other module ran' there script before).trans
        (List.sublist_append_left _ _)
    · rw [List.mem_singleton.mp here] at ran' ⊢
      have ended : 0 < history.count (.finished (Path.clean module)) := by
        rw [order.finished, if_pos ⟨script, order.loaded_of_last ran' there⟩]
        exact Nat.one_pos
      exact pair_sublist_concat (List.count_pos_iff.mp ended)

/-- A file that is no script is added at once. -/
theorem addFile (order : LoadOrder files asked chain [path] paths keys history)
    (fresh : path ∉ keys ++ chain) (noScript : isScript path = false) (named : files.Names path)
    (reached : Reached files history path) :
    LoadOrder files asked chain [] (LoadProgress.insertPath path paths) (keys ++ [path])
      history where
  distinct := nodup_closed (nodup_opened order.distinct fresh)
  paths other := by
    rw [LoadProgress.mem_insertPath, order.paths]
    simp [or_left_comm]
  names other member := by
    by_cases same : other = path
    · rw [same]
      exact named
    · exact order.names other (by simpa [same] using member)
  reached other member := by
    by_cases same : other = path
    · rw [same]
      exact reached
    · exact order.reached other (by simpa [same] using member)
  scripts := order.scripts
  asked name member := List.mem_append_left _ (order.asked name member)
  began other := by
    rw [order.began]
    by_cases same : other = path
    · simp [same, noScript]
    · simp [same]
  finished other := by
    rw [order.finished]
    by_cases same : other = path
    · simp [same, noScript]
    · simp [same]
  through other member script := by
    by_cases same : other = path
    · rw [same, noScript] at script
      cases script
    · exact order.through other (by simpa [same] using member) script
  running other module ran := by
    have member := order.running other module ran
    simp only [List.mem_append] at member ⊢
    exact member.imp .inl id
  pending other module ran there := by
    exact pending_of_settled (order.pending other module ran there) (List.subset_append_left _ _)
      fun same => by simp [same]
  ordered other module ran there script member := by
    rcases List.mem_append.mp member with before | here
    · exact order.ordered other module ran there script before
    · rw [List.mem_singleton.mp here] at ran
      exact absurd (order.running path module ran) fresh

end LoadOrder

end PixelApplet
