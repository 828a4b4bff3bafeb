import PixelApplet.Library.Messages
import Mathlib.Data.List.Induction
import Mathlib.Data.List.Nodup

/-!
# Files are registered together or not at all

What the registry knows is read off the list of registered files: a name means what the one file
that declares it says last.  A call that registers files is then described by lists of files alone.
It fails when a file cannot be read, or when two files would declare one name, and otherwise the
files that are not yet known join the list.
-/

namespace PixelApplet.Descriptor

/-! ## What lists of files say -/

namespace File

/-- The names that a file declares. -/
def names (file : File) : List String :=
  file.declarations.map Prod.fst

/-- What a file says a name is; the last declaration counts. -/
def declared? (file : File) (name : String) : Option Declaration :=
  file.declarations.reverse.lookup name

end File

/-- Files that declare the same name have the same path. -/
def Compatible (files : List File) : Prop :=
  ∀ a ∈ files, ∀ b ∈ files, ∀ name ∈ a.names, name ∈ b.names → a.path = b.path

instance (files : List File) : Decidable (Compatible files) :=
  inferInstanceAs (Decidable (∀ a ∈ files, ∀ b ∈ files, ∀ name ∈ a.names, name ∈ b.names → _))

/-- The files that join known ones: those whose paths are not known. -/
def unknown (known files : List File) : List File :=
  files.filter fun file => file.path ∉ known.map File.path

/-- The files that are known when more files were to be registered, unless these are refused. -/
def admit? (known files : List File) : Option (List File) :=
  if Compatible (known ++ unknown known files) then some (known ++ unknown known files) else none

/-- The registry knows exactly these files: every path once, every name by the one file that
declares it, and as what that file declares last. -/
structure Registry.Knows (r : Registry) (files : List File) : Prop where
  paths : r.paths = files.map File.path
  distinct : r.paths.Nodup
  declared : ∀ symbol, r.find? symbol.name = some symbol ↔
    ∃ file ∈ files, file.path = symbol.owner
      ∧ file.declared? symbol.name = some symbol.declaration
  apart : Compatible files

section Files

variable {known files more : List File} {file : File} {name : String} {declaration : Declaration}

theorem File.declared?_eq_none_iff : file.declared? name = none ↔ name ∉ file.names := by
  simp only [declared?, names, List.lookup_eq_none_iff, List.mem_reverse, List.mem_map, not_exists,
    not_and, bne_iff_ne]
  exact forall₂_congr fun _ _ => ne_comm

theorem File.mem_names_of_declared? (declares : file.declared? name = some declaration) :
    name ∈ file.names := by
  by_contra absent
  simp [declared?_eq_none_iff.mpr absent] at declares

theorem Compatible.of_append (compatible : Compatible (files ++ more)) : Compatible files :=
  fun a inA b inB => compatible a (List.mem_append_left _ inA) b (List.mem_append_left _ inB)

/-- One more file is compatible with others if no name of it is declared under another path. -/
theorem compatible_concat (compatible : Compatible files) :
    Compatible (files ++ [file]) ↔
      ∀ name ∈ file.names, ∀ other ∈ files, name ∈ other.names → other.path = file.path := by
  constructor
  · intro all name named other inFiles declares
    exact all other (List.mem_append_left _ inFiles) file (by simp) name declares named
  · intro fits a inA b inB name namedA namedB
    rw [List.mem_append, List.mem_singleton] at inA inB
    rcases inA with inA | rfl <;> rcases inB with inB | rfl
    · exact compatible a inA b inB name namedA namedB
    · exact fits name namedB a inA namedA
    · exact (fits name namedA b inB namedB).symm
    · rfl

theorem unknown_cons_of_mem (isKnown : file.path ∈ known.map File.path) :
    unknown known (file :: files) = unknown known files := by
  simp only [unknown, List.filter_cons, isKnown, not_true_eq_false, decide_false,
    Bool.false_eq_true, if_false]

theorem unknown_cons_of_not_mem (isNew : file.path ∉ known.map File.path) :
    unknown known (file :: files) = file :: unknown known files := by
  simp only [unknown, List.filter_cons, isNew, not_false_eq_true, decide_true, if_true]

/-- A file that joined makes no difference to files with other paths. -/
theorem unknown_concat (other : file.path ∉ files.map File.path) :
    unknown (known ++ [file]) files = unknown known files := by
  apply List.filter_congr
  intro f inFiles
  have : f.path ≠ file.path := fun same => other (same ▸ List.mem_map_of_mem inFiles)
  simp [this]

end Files

/-! ## What the registry does -/

namespace Registry

variable {r declared : Registry} {known files : List File} {file : File} {path name : String}
  {entries : List (String × Declaration)}

theorem name_of_find? {symbol : Symbol} (found : r.find? name = some symbol) :
    symbol.name = name := by
  simpa using List.find?_some found

/-- A declaration changes the meaning of its own name only. -/
theorem find?_declare (r : Registry) (symbol : Symbol) (name : String) :
    (r.declare symbol).find? name = if symbol.name = name then some symbol else r.find? name := by
  by_cases same : symbol.name = name
  · simp [find?, declare, same]
  · rw [if_neg same, find?, declare, List.find?_cons_of_neg (by simpa using same),
      List.find?_filter]
    congr 1
    funext other
    by_cases named : other.name = name <;> simp [named, Ne.symm same]

/-- Behind the declarations of a file, a name means what the file declares it to be last. -/
theorem declareAll_ok (done : declareAll path entries r = .ok declared) :
    declared.paths = r.paths ∧ ∀ name, declared.find? name =
      ((entries.reverse.lookup name).map fun declaration => ⟨name, path, declaration⟩).or
        (r.find? name) := by
  induction entries generalizing r with
  | nil =>
    cases done
    simp
  | cons entry rest ih =>
    obtain ⟨own, declaration⟩ := entry
    have goesOn : declareAll path rest (r.declare ⟨own, path, declaration⟩) = .ok declared := by
      rw [declareAll] at done
      split at done
      · split at done
        · exact done
        · cases done
      · exact done
    obtain ⟨paths, meaning⟩ := ih goesOn
    refine ⟨paths, fun name => ?_⟩
    rw [meaning, find?_declare, List.reverse_cons, List.lookup_append]
    by_cases same : own = name
    · subst same
      cases rest.reverse.lookup own <;> simp
    · have : (name == own) = false := by simpa using Ne.symm same
      cases rest.reverse.lookup name <;> simp [List.lookup_cons, this, same]

/-- Declarations are refused exactly if one of their names belongs to another path. -/
theorem declareAll_error :
    (∃ fault, declareAll path entries r = .error fault) ↔
      ∃ name ∈ entries.map Prod.fst, ∃ other, r.find? name = some other ∧ other.owner ≠ path := by
  induction entries generalizing r with
  | nil => simp [declareAll]
  | cons entry rest ih =>
    have elsewhere : (∃ name ∈ rest.map Prod.fst, ∃ other,
        (r.declare ⟨entry.1, path, entry.2⟩).find? name = some other ∧ other.owner ≠ path) ↔
        ∃ name ∈ rest.map Prod.fst, name ≠ entry.1 ∧
          ∃ other, r.find? name = some other ∧ other.owner ≠ path := by
      simp only [find?_declare]
      constructor
      · rintro ⟨name, named, other, found, foreign⟩
        split at found
        · cases found
          exact absurd rfl foreign
        · exact ⟨name, named, Ne.symm ‹_›, other, found, foreign⟩
      · rintro ⟨name, named, different, other, found, foreign⟩
        exact ⟨name, named, other, by rw [if_neg (Ne.symm different), found], foreign⟩
    rw [declareAll]
    cases found : r.find? entry.1 with
    | none =>
      simp only [ih, elsewhere, List.map_cons, List.mem_cons]
      constructor
      · rintro ⟨name, named, -, other⟩
        exact ⟨name, .inr named, other⟩
      · rintro ⟨name, named, other, there, foreign⟩
        have different : name ≠ entry.1 := by
          rintro rfl
          simp [found] at there
        exact ⟨name, named.resolve_left different, different, other, there, foreign⟩
    | some owner =>
      by_cases own : owner.owner = path
      · simp only [own, if_true, ih, elsewhere, List.map_cons, List.mem_cons]
        constructor
        · rintro ⟨name, named, -, other⟩
          exact ⟨name, .inr named, other⟩
        · rintro ⟨name, named, other, there, foreign⟩
          have different : name ≠ entry.1 := by
            rintro rfl
            rw [found, Option.some.injEq] at there
            exact foreign (there ▸ own)
          exact ⟨name, named.resolve_left different, different, other, there, foreign⟩
      · simp only [own, if_false]
        exact ⟨fun _ => ⟨entry.1, by simp, owner, found, own⟩, fun _ => ⟨_, rfl⟩⟩

theorem Knows.nil : Registry.empty.Knows [] where
  paths := rfl
  distinct := List.nodup_nil
  declared symbol := by simp [find?, empty]
  apart a inFiles := by simp at inFiles

theorem registerFile_of_mem (knows : r.Knows known) (isKnown : file.path ∈ known.map File.path) :
    registerFile file r = .ok r := by
  have : r.paths.contains file.path = true := by simpa [knows.paths] using isKnown
  rw [registerFile, if_pos this]

theorem registerFile_of_not_mem (knows : r.Knows known)
    (isNew : file.path ∉ known.map File.path) : registerFile file r =
      (declareAll file.path file.declarations r).map fun declared =>
        { declared with paths := declared.paths ++ [file.path] } := by
  have : ¬ r.paths.contains file.path = true := by simpa [knows.paths] using isNew
  rw [registerFile, if_neg this]
  cases declareAll file.path file.declarations r <;> rfl

/-- A new file is refused exactly if another file declares one of its names. -/
theorem declareAll_error_iff (knows : r.Knows known) :
    (∃ fault, declareAll file.path file.declarations r = .error fault) ↔
      ¬ Compatible (known ++ [file]) := by
  rw [declareAll_error, compatible_concat knows.apart]
  push Not
  refine exists_congr fun name => and_congr_right fun _ => ?_
  constructor
  · rintro ⟨symbol, found, foreign⟩
    obtain rfl := name_of_find? found
    obtain ⟨other, isKnown, owns, declares⟩ := (knows.declared symbol).mp found
    exact ⟨other, isKnown, File.mem_names_of_declared? declares, owns ▸ foreign⟩
  · rintro ⟨other, isKnown, named, foreign⟩
    obtain ⟨declaration, declares⟩ := Option.ne_none_iff_exists'.mp
      (fun none => File.declared?_eq_none_iff.mp none named)
    exact ⟨⟨name, other.path, declaration⟩,
      (knows.declared ⟨name, other.path, declaration⟩).mpr ⟨other, isKnown, rfl, declares⟩, foreign⟩

/-- A new file that is compatible with the others joins them. -/
theorem Knows.concat (knows : r.Knows known) (isNew : file.path ∉ known.map File.path)
    (compatible : Compatible (known ++ [file]))
    (done : declareAll file.path file.declarations r = .ok declared) :
    Knows { declared with paths := declared.paths ++ [file.path] } (known ++ [file]) := by
  obtain ⟨paths, meaning⟩ := declareAll_ok done
  have paths : declared.paths ++ [file.path] = (known ++ [file]).map File.path := by
    simp [paths, knows.paths]
  refine ⟨paths, ?_, fun symbol => ?_, compatible⟩
  · rw [paths, List.map_append]
    exact (knows.paths ▸ knows.distinct).append (by simp) (by simpa using isNew)
  · change declared.find? symbol.name = _ ↔ _
    rw [meaning]
    change ((file.declared? symbol.name).map _).or _ = _ ↔ _
    cases declares : file.declared? symbol.name with
    | none =>
      rw [Option.map_none, Option.none_or, knows.declared]
      constructor
      · rintro ⟨other, isKnown, rest⟩
        exact ⟨other, List.mem_append_left _ isKnown, rest⟩
      · rintro ⟨other, inAll, owns, means⟩
        rcases List.mem_append.mp inAll with isKnown | same
        · exact ⟨other, isKnown, owns, means⟩
        · rw [List.mem_singleton.mp same, declares] at means
          cases means
    | some declaration =>
      rw [Option.map_some, Option.some_or]
      constructor
      · intro found
        rw [← Option.some.inj found]
        exact ⟨file, by simp, rfl, declares⟩
      · rintro ⟨other, inAll, owns, means⟩
        -- Whichever file declares the name, its path is that of the new file, so it is that file.
        have same : other.path = file.path :=
          compatible other inAll file (by simp) symbol.name (File.mem_names_of_declared? means)
            (File.mem_names_of_declared? declares)
        have : other = file := by
          rcases List.mem_append.mp inAll with isKnown | same'
          · exact absurd (same ▸ List.mem_map_of_mem isKnown) isNew
          · exact List.mem_singleton.mp same'
        rw [this, declares, Option.some.injEq] at means
        rw [← same, owns, means]

/-- Files with different paths are registered exactly if they are admitted. -/
theorem registerAll_eq (knows : r.Knows known) (distinct : (files.map File.path).Nodup) :
    match admit? known files with
    | some all => ∃ more, r.registerAll files = .ok more ∧ more.Knows all
    | none => ∃ fault, r.registerAll files = .error fault := by
  induction files generalizing r known with
  | nil =>
    rw [admit?, unknown, List.filter_nil, List.append_nil, if_pos knows.apart]
    exact ⟨r, rfl, knows⟩
  | cons file rest ih =>
    obtain ⟨other, distinct⟩ := List.nodup_cons.mp distinct
    rw [registerAll]
    by_cases isKnown : file.path ∈ known.map File.path
    · rw [registerFile_of_mem knows isKnown, admit?, unknown_cons_of_mem isKnown]
      exact ih knows distinct
    · rw [registerFile_of_not_mem knows isKnown]
      have joins : known ++ unknown known (file :: rest)
          = known ++ [file] ++ unknown (known ++ [file]) rest := by
        rw [unknown_cons_of_not_mem isKnown, unknown_concat other, List.append_assoc,
          List.singleton_append]
      rw [admit?, joins]
      cases done : declareAll file.path file.declarations r with
      | error fault =>
        have clash := (declareAll_error_iff knows).mp ⟨fault, done⟩
        rw [if_neg fun compatible => clash compatible.of_append]
        exact ⟨fault, rfl⟩
      | ok declared =>
        have compatible : Compatible (known ++ [file]) := by
          by_contra clash
          obtain ⟨fault, refused⟩ := (declareAll_error_iff knows).mpr clash
          rw [done] at refused
          cases refused
        exact ih (knows.concat isKnown compatible done) distinct

/-- Registering files that are known changes nothing. -/
theorem registerAll_of_known (knows : r.Knows known)
    (allKnown : ∀ file ∈ files, file.path ∈ known.map File.path) : r.registerAll files = .ok r := by
  induction files with
  | nil => rfl
  | cons file rest ih =>
    rw [List.forall_mem_cons] at allKnown
    rw [registerAll, registerFile_of_mem knows allKnown.1]
    exact ih allKnown.2

end Registry

/-! ## What files are read -/

section Reading

variable {disk : Disk} {names : List String} {files : List File}

/-- A file is known by the path from which it was read. -/
theorem path_of_readFile {path : String} {file : File}
    (done : Messages.readFile disk path = .ok file) : file.path = path := by
  simp only [Messages.readFile, File.parse] at done
  repeat' split at done
  all_goals cases done
  rfl

/-- Either all files can be read, or there is a fault. -/
theorem readFiles_toOption (disk : Disk) (names : List String) :
    (Messages.readFiles disk names).toOption
      = names.mapM fun path => (Messages.readFile disk path).toOption := by
  induction names with
  | nil => rfl
  | cons path rest ih =>
    rw [List.mapM_cons, ← ih, Messages.readFiles]
    cases Messages.readFile disk path with
    | error fault => rfl
    | ok file => cases Messages.readFiles disk rest <;> rfl

theorem paths_of_readFiles (done : Messages.readFiles disk names = .ok files) :
    files.map File.path = names := by
  induction names generalizing files with
  | nil =>
    cases done
    rfl
  | cons path rest ih =>
    rw [Messages.readFiles] at done
    cases first : Messages.readFile disk path with
    | error fault =>
      rw [first] at done
      cases done
    | ok file =>
      cases others : Messages.readFiles disk rest with
      | error fault =>
        rw [first, others] at done
        cases done
      | ok more =>
        rw [first, others] at done
        cases done
        rw [List.map_cons, path_of_readFile first, ih others]

/-- Files that can be read one by one can be read together. -/
theorem readFiles_of_readable
    (readable : ∀ path ∈ names, ∃ file, Messages.readFile disk path = .ok file) :
    ∃ files, Messages.readFiles disk names = .ok files := by
  induction names with
  | nil => exact ⟨[], rfl⟩
  | cons path rest ih =>
    rw [List.forall_mem_cons] at readable
    obtain ⟨⟨file, first⟩, others⟩ := readable
    obtain ⟨files, others⟩ := ih others
    refine ⟨file :: files, ?_⟩
    rw [Messages.readFiles, first, others]
    rfl

theorem nodup_eraseDups (names : List String) : names.eraseDups.Nodup := by
  match names with
  | [] => exact List.nodup_nil
  | path :: rest =>
    rw [List.eraseDups_cons, List.nodup_cons]
    exact ⟨by simp [List.mem_eraseDups], nodup_eraseDups _⟩
termination_by names.length
decreasing_by
  exact Nat.lt_succ_of_le (List.length_filter_le _ rest)

theorem paths_of_texts (index : Nat) (names : List String) :
    Messages.paths index (names.map .str) = .ok names := by
  induction names generalizing index with
  | nil => rfl
  | cons path rest ih =>
    rw [List.map_cons, Messages.paths, ih]
    rfl

end Reading

/-! ## Calls one after the other -/

/-- A call that registers files: the paths, and the machine on which it is made.  Between two calls
anything but the registry may change, the disk too. -/
structure Registration where
  machine : Machine
  paths : List String

namespace Registration

/-- The machine on which the call is made, with the registry that earlier calls have left. -/
def start (call : Registration) (r : Registry) : Machine :=
  { call.machine with registry := r }

/-- What the call does. -/
def outcome (call : Registration) (r : Registry) : EStateM.Result Abort Machine Value :=
  Messages.run .registerFiles (.ofList (call.paths.map .str)) (call.start r)

/-- The registry behind the call. -/
def leaves (call : Registration) (r : Registry) : Registry :=
  match call.outcome r with
  | .ok _ m | .error _ m => m.registry

/-- The files that the paths name, each path once, unless one of them cannot be read. -/
def files? (call : Registration) : Option (List File) :=
  call.paths.eraseDups.mapM fun path => (Messages.readFile call.machine.disk path).toOption

/-- The files that are registered behind the call, unless it fails. -/
def admits? (call : Registration) (known : List File) : Option (List File) :=
  call.files?.bind (admit? known)

/-- The registry behind a sequence of calls. -/
def registryAfter (history : List Registration) : Registry :=
  history.foldl (fun r call => call.leaves r) .empty

/-- The files that a sequence of calls registers. -/
def filesAfter (history : List Registration) : List File :=
  history.foldl (fun known call => (call.admits? known).getD known) []

variable {r : Registry} {known : List File} {call : Registration} {history : List Registration}

/-- What a call does depends on what reading and registering the files gives. -/
theorem outcome_eq (call : Registration) (r : Registry) : call.outcome r =
    match Messages.register call.machine.disk call.paths r with
    | .ok more => .ok .none (call.start more)
    | .error fault => .error (.error (.ofMessage fault.text)) (call.start r) := by
  change ((Eval.accept _ (Messages.paths 0 (call.paths.map .str))) >>= _) (call.start r) = _
  rw [paths_of_texts]
  change ((Eval.accept _ (Messages.register call.machine.disk call.paths r)) >>= _)
    (call.start r) = _
  cases Messages.register call.machine.disk call.paths r <;> rfl

/-- A call succeeds exactly if its files are admitted, and then these are the known ones; otherwise
the machine is as it was. -/
theorem outcome_of_knows (knows : r.Knows known) (call : Registration) :
    match call.admits? known with
    | some all => ∃ more, call.outcome r = .ok .none (call.start more) ∧ more.Knows all
    | none => ∃ fault : Fault,
        call.outcome r = .error (.error (.ofMessage fault.text)) (call.start r) := by
  rw [outcome_eq, admits?, files?, ← readFiles_toOption, Messages.register]
  cases done : Messages.readFiles call.machine.disk call.paths.eraseDups with
  | error fault => exact ⟨fault, rfl⟩
  | ok files =>
    have distinct : (files.map File.path).Nodup := by
      rw [paths_of_readFiles done]
      exact nodup_eraseDups _
    have registered := Registry.registerAll_eq knows distinct
    change match admit? known files with
      | some all => _
      | none => _
    cases admitted : admit? known files with
    | none =>
      rw [admitted] at registered
      obtain ⟨fault, refused⟩ := registered
      exact ⟨fault, by simp only [bind, Except.bind, refused]⟩
    | some all =>
      rw [admitted] at registered
      obtain ⟨more, accepted, knows⟩ := registered
      exact ⟨more, by simp only [bind, Except.bind, accepted], knows⟩

/-- Whether a call fails or not, the registry knows the files that are registered then. -/
theorem leaves_knows (knows : r.Knows known) (call : Registration) :
    (call.leaves r).Knows ((call.admits? known).getD known) := by
  have outcome := outcome_of_knows knows call
  rw [leaves]
  cases admitted : call.admits? known with
  | none =>
    rw [admitted] at outcome
    obtain ⟨fault, outcome⟩ := outcome
    rw [outcome]
    exact knows
  | some all =>
    rw [admitted] at outcome
    obtain ⟨more, outcome, knows⟩ := outcome
    rw [outcome]
    exact knows

/-- A call for files that are known, and that can still be read, changes nothing. -/
theorem outcome_of_known (knows : r.Knows known)
    (isKnown : ∀ path ∈ call.paths, path ∈ r.paths)
    (readable : ∀ path ∈ call.paths, ∃ file,
      Messages.readFile call.machine.disk path = .ok file) :
    call.outcome r = .ok .none (call.start r) := by
  rw [outcome_eq, Messages.register]
  have readable : ∀ path ∈ call.paths.eraseDups, ∃ file,
      Messages.readFile call.machine.disk path = .ok file :=
    fun path named => readable path (List.mem_eraseDups.mp named)
  obtain ⟨files, done⟩ := readFiles_of_readable readable
  have : ∀ file ∈ files, file.path ∈ known.map File.path := by
    intro file inFiles
    have : file.path ∈ call.paths := by
      rw [← List.mem_eraseDups, ← paths_of_readFiles done]
      exact List.mem_map_of_mem inFiles
    exact knows.paths ▸ isKnown file.path this
  simp only [done, bind, Except.bind, Registry.registerAll_of_known knows this]

theorem registryAfter_concat (history : List Registration) (call : Registration) :
    registryAfter (history ++ [call]) = call.leaves (registryAfter history) :=
  List.foldl_append

theorem filesAfter_concat (history : List Registration) (call : Registration) :
    filesAfter (history ++ [call])
      = (call.admits? (filesAfter history)).getD (filesAfter history) :=
  List.foldl_append

theorem registryAfter_knows (history : List Registration) :
    (registryAfter history).Knows (filesAfter history) := by
  induction history using List.reverseRecOn with
  | nil => exact .nil
  | append_singleton history call ih =>
    rw [registryAfter_concat, filesAfter_concat]
    exact leaves_knows ih call

/-- Files only join the known ones. -/
theorem admits?_of_mem {all : List File} {file : File} (admitted : call.admits? known = some all)
    (isKnown : file ∈ known) : file ∈ all := by
  obtain ⟨files, -, admitted⟩ := Option.bind_eq_some_iff.mp admitted
  rw [admit?, Option.ite_none_right_eq_some, Option.some.injEq] at admitted
  exact admitted.2 ▸ List.mem_append_left _ isKnown

theorem filesAfter_of_mem {file : File} (history later : List Registration)
    (isKnown : file ∈ filesAfter history) : file ∈ filesAfter (history ++ later) := by
  induction later using List.reverseRecOn with
  | nil => rwa [List.append_nil]
  | append_singleton later call ih =>
    rw [← List.append_assoc, filesAfter_concat]
    cases admitted : call.admits? (filesAfter (history ++ later)) with
    | none => exact ih
    | some all => exact admits?_of_mem admitted ih

/-- What a name means does not change once it is registered. -/
theorem find?_registryAfter {symbol : Symbol} (history later : List Registration)
    (found : (registryAfter history).find? symbol.name = some symbol) :
    (registryAfter (history ++ later)).find? symbol.name = some symbol := by
  obtain ⟨file, isKnown, owns, declares⟩ :=
    ((registryAfter_knows history).declared symbol).mp found
  exact ((registryAfter_knows (history ++ later)).declared symbol).mpr
    ⟨file, filesAfter_of_mem history later isKnown, owns, declares⟩

/-- Behind every sequence of calls the registry knows exactly the registered files; one more call
fails without a trace or adds all its files; a name keeps its owner and its meaning behind all later
calls; and a call for files that are registered, and can still be read, changes nothing. -/
theorem registry_knows_registered_files (history : List Registration) (call : Registration) :
    let r := registryAfter history
    let known := filesAfter history
    r.Knows known
      ∧ (match call.admits? known with
        | some all => ∃ more, call.outcome r = .ok .none (call.start more) ∧ more.Knows all
        | none => ∃ fault : Fault,
            call.outcome r = .error (.error (.ofMessage fault.text)) (call.start r))
      ∧ (∀ symbol later, r.find? symbol.name = some symbol →
          (registryAfter (history ++ later)).find? symbol.name = some symbol)
      ∧ ((∀ path ∈ call.paths, path ∈ r.paths
            ∧ ∃ file, Messages.readFile call.machine.disk path = .ok file) →
          call.outcome r = .ok .none (call.start r)) := by
  have knows := registryAfter_knows history
  exact ⟨knows, outcome_of_knows knows call,
    fun _ later found => find?_registryAfter history later found,
    fun known => outcome_of_known knows (fun path named => (known path named).1)
      fun path named => (known path named).2⟩

/-- The second of two files that declare the same name is refused, and the third is not. -/
example :
    let texts := [("a", "message A \x7b\x7d"), ("b", "enum B \x7b\x7d message A \x7b\x7d"),
      ("c", "message B \x7b\x7d")]
    let disk := texts.foldl (fun disk (path, text) => disk.writeFile path text.toUTF8) (.under [])
    filesAfter ([["a", "a"], ["b"], ["c"]].map fun paths => ⟨.initial disk, paths⟩)
      = [⟨"a", "", [("A", .message [])]⟩, ⟨"c", "", [("B", .message [])]⟩] := by
  decide +kernel

end Registration

end PixelApplet.Descriptor
