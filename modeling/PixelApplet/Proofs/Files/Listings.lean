import Mathlib.Data.List.Basic
import Mathlib.Data.List.Induction
import Mathlib.Data.List.TakeWhile
import PixelApplet.Proofs.Files.NormalPaths
import PixelApplet.Proofs.Text.Splitting

/-!
# What file collections contain and list

A file collection stores contents under paths in normal form, in ascending order, and no
directories.  Whether a path names anything is decided by a look at the first stored path behind a
prefix; a listing is what the stored paths add to it one after the other.  Both are compared with
the names that lead to a path from the root: a directory is a chain of names that some stored path
extends, and its children are the names that come next.

A file can be stored under `.`, the name of the root.  No name leads to it, so it is no child of the
root, but the root lists it.  This is the only entry of a listing that is no child.
-/

namespace PixelApplet

namespace Text

/-- The first piece of a text, and whether there are more. -/
theorem exists_pieces_eq (separator : Char) (text : List Char) : ∃ others,
    pieces separator text = text.takeWhile (· ≠ separator) :: others
      ∧ (others = [] ↔ separator ∉ text) := by
  induction text with
  | nil => exact ⟨[], rfl, by simp⟩
  | cons c text ih =>
    obtain ⟨others, split, lone⟩ := ih
    rw [pieces, split]
    by_cases same : c = separator
    · exact ⟨text.takeWhile (· ≠ separator) :: others, by simp [same], by simp [same]⟩
    · exact ⟨others, by simp [same], by simp [lone, Ne.symm same]⟩

end Text

/-! ## The order of texts and their prefixes -/

theorem not_lt_of_begins {a c : List Char} (starts : a <+: c) : ¬c < a := by
  obtain ⟨rest, rfl⟩ := starts
  induction a with
  | nil => exact List.not_lt_nil _
  | cons x a ih =>
    rw [List.cons_append, List.cons_lt_cons_iff]
    rintro (less | ⟨_, less⟩)
    · exact Char.lt_irrefl x less
    · exact ih less

/-- What stands between a prefix and a text that it begins has the prefix too. -/
theorem prefix_of_between {a b c : List Char} (starts : a <+: c) (above : ¬b < a)
    (below : ¬c < b) : a <+: b := by
  induction a generalizing b c with
  | nil => exact List.nil_prefix
  | cons x a ih =>
    obtain ⟨rest, rfl⟩ := starts
    cases b with
    | nil => exact absurd (List.nil_lt_cons x a) above
    | cons y b =>
      rw [List.cons_lt_cons_iff, not_or] at above
      rw [List.cons_append, List.cons_lt_cons_iff, not_or] at below
      have same : x = y := Char.le_antisymm (Char.not_lt.mp above.1) (Char.not_lt.mp below.1)
      subst same
      apply List.cons_prefix_cons.mpr
      exact ⟨rfl, ih (List.prefix_append a rest) (fun less => above.2 ⟨rfl, less⟩)
        (fun less => below.2 ⟨rfl, less⟩)⟩

theorem lt_of_begins {a c : List Char} (starts : a <+: c) (longer : a ≠ c) : a < c := by
  by_contra notLess
  exact longer (List.le_antisymm (List.not_lt.mp (not_lt_of_begins starts))
    (List.not_lt.mp notLess))

namespace Path

/-! ## Names that lead to a path -/

theorem join_pieces (text : List Char) : join (Text.pieces '/' text) = text := by
  induction text with
  | nil => rfl
  | cons c text ih =>
    rw [Text.pieces]
    cases split : Text.pieces '/' text with
    | nil => exact absurd split Text.pieces_ne_nil
    | cons first others =>
      rw [split] at ih
      by_cases slash : c = '/'
      · simp [slash, join, ih]
      · cases others <;> simpa [slash, join] using ih

theorem join_append {first rest : List Segment} (some_ : first ≠ []) (more : rest ≠ []) :
    join (first ++ rest) = join first ++ '/' :: join rest := by
  induction first with
  | nil => exact absurd rfl some_
  | cons segment first ih =>
    cases first with
    | nil =>
      obtain ⟨next, rest, rfl⟩ := List.exists_cons_of_ne_nil more
      rfl
    | cons next first =>
      have tail := ih (List.cons_ne_nil _ _)
      simp only [List.cons_append, join, List.append_assoc] at tail ⊢
      rw [tail]

/-- What stands behind the pieces of a text are the pieces of what stands behind a slash. -/
theorem exists_of_pieces_append {directory text : List Char} {more : List Segment}
    (some_ : more ≠ []) (split : Text.pieces '/' text = Text.pieces '/' directory ++ more) :
    text = directory ++ '/' :: join more ∧ Text.pieces '/' (join more) = more := by
  have same : text = directory ++ '/' :: join more := by
    rw [← join_pieces text, split, join_append Text.pieces_ne_nil some_, join_pieces]
  refine ⟨same, ?_⟩
  rw [same, Text.pieces_append] at split
  exact List.append_cancel_left split

/-- The names that lead from the root to a path in normal form; `.` is the root itself. -/
def trail (path : String) : List String :=
  if path = "." then [] else (Text.pieces '/' path.toList).map String.ofList

theorem trail_root : trail "." = [] := rfl

theorem trail_of_ne {path : String} (below : path ≠ ".") :
    trail path = (Text.pieces '/' path.toList).map String.ofList :=
  if_neg below

theorem map_ofList_injective : Function.Injective (List.map String.ofList) :=
  List.map_injective_iff.mpr (Function.LeftInverse.injective fun _ => String.toList_ofList)

theorem here_not_mem_pieces {segments : List Segment}
    (plain : ∀ segment ∈ segments, Plain segment) :
    here ∉ Text.pieces '/' (join segments) := by
  by_cases none_ : segments = []
  · rw [none_]
    decide
  · rw [pieces_join none_ fun segment member => (plain segment member).whole]
    exact fun member => (plain here member).elsewhere rfl

/-- No segment of a path in normal form is `.`, unless it is the whole path. -/
theorem here_not_mem_trail (path : String) : "." ∉ trail (clean path) := by
  by_cases root : clean path = "."
  · rw [root]
    exact List.not_mem_nil
  · rw [trail_of_ne root, clean, String.toList_ofList, List.mem_map]
    rintro ⟨segment, member, same⟩
    have isHere : segment = here := by
      rw [← String.toList_ofList (l := segment), same]
      rfl
    subst isHere
    have normal := normalForm_cleanChars path.toList
    generalize shown : cleanChars path.toList = shape at normal member
    cases normal with
    | here => exact root (congrArg String.ofList shown)
    | rooted ordinary =>
      rw [Text.pieces_cons_separator] at member
      rcases List.mem_cons.mp member with empty | member
      · cases empty
      · exact here_not_mem_pieces (fun name member => (ordinary name member).toPlain) member
    | relative ups ordinary some_ =>
      exact here_not_mem_pieces (plain_of_layout ups ordinary) member

end Path

namespace MemoryFiles

variable {m : MemoryFiles} {path p directory name : String} {contents : ByteArray} {more : Bool}

/-! ## Collections -/

/-- The stored paths. -/
def paths (m : MemoryFiles) : List String :=
  m.files.map Prod.fst

/-- The collection of the files that are stored one after the other. -/
def ofFiles (files : List (String × ByteArray)) : MemoryFiles :=
  files.foldl (fun m file => m.insert file.1 file.2) empty

theorem lt_of_not_lt {a b : String} (notLess : ¬a < b) (different : a ≠ b) : b < a := by
  by_contra notAbove
  exact different (String.le_antisymm (String.not_lt.mp notAbove) (String.not_lt.mp notLess))

/-- Each path is stored once, in its place and in its normal form. -/
structure Orderly (m : MemoryFiles) : Prop where
  ascending : m.paths.Pairwise (· < ·)
  normal : ∀ path ∈ m.paths, ∃ given, Path.clean given = path

theorem mem_insertSorted {files : List (String × ByteArray)} :
    p ∈ (insertSorted path contents files).map Prod.fst ↔ p = path ∨ p ∈ files.map Prod.fst := by
  induction files with
  | nil => simp [insertSorted]
  | cons file files ih =>
    obtain ⟨q, stored⟩ := file
    rw [insertSorted]
    split
    · simp
    · split
      · rename_i same
        simp [same]
      · simp only [List.map_cons, List.mem_cons, ih]
        tauto

theorem insertSorted_ascending {files : List (String × ByteArray)}
    (ascending : (files.map Prod.fst).Pairwise (· < ·)) :
    ((insertSorted path contents files).map Prod.fst).Pairwise (· < ·) := by
  induction files with
  | nil => simp [insertSorted]
  | cons file files ih =>
    obtain ⟨q, stored⟩ := file
    obtain ⟨first, rest⟩ := List.pairwise_cons.mp ascending
    rw [insertSorted]
    split
    · rename_i less
      apply List.pairwise_cons.mpr
      refine ⟨fun other member => ?_, ascending⟩
      rcases List.mem_cons.mp member with rfl | member
      · exact less
      · exact String.lt_trans less (first other member)
    · rename_i notLess
      split
      · rename_i same
        rw [same]
        exact ascending
      · rename_i different
        apply List.pairwise_cons.mpr
        refine ⟨fun other member => ?_, ih rest⟩
        rcases mem_insertSorted.mp member with rfl | member
        · exact lt_of_not_lt notLess different
        · exact first other member

theorem mem_paths_insert : p ∈ (m.insert path contents).paths ↔ p = Path.clean path ∨ p ∈ m.paths :=
  mem_insertSorted

theorem Orderly.insert (orderly : m.Orderly) (path : String) (contents : ByteArray) :
    (m.insert path contents).Orderly := by
  refine ⟨insertSorted_ascending orderly.ascending, fun p member => ?_⟩
  rcases mem_paths_insert.mp member with rfl | member
  · exact ⟨path, rfl⟩
  · exact orderly.normal p member

theorem orderly_ofFiles (files : List (String × ByteArray)) : (ofFiles files).Orderly := by
  induction files using List.reverseRecOn with
  | nil => exact ⟨List.Pairwise.nil, fun _ member => absurd member List.not_mem_nil⟩
  | append_singleton files file ih =>
    rw [ofFiles, List.foldl_append]
    exact ih.insert file.1 file.2

theorem lookup_isSome_iff {files : List (String × ByteArray)} :
    (files.lookup path).isSome = true ↔ path ∈ files.map Prod.fst := by
  induction files with
  | nil => simp
  | cons file files ih =>
    by_cases same : path = file.1
    · rw [List.lookup_cons, beq_iff_eq.mpr same]
      simp [same]
    · rw [List.lookup_cons, beq_false_of_ne same]
      simp [ih, same]

/-! ## Whether a path names anything -/

theorem dropStart?_isSome_iff {piece text : List Char} :
    (Text.dropStart? piece text).isSome = true ↔ piece <+: text := by
  rw [Option.isSome_iff_exists]
  constructor
  · rintro ⟨rest, dropped⟩
    exact ⟨rest, (Text.dropStart?_eq_some.mp dropped).symm⟩
  · rintro ⟨rest, same⟩
    exact ⟨rest, Text.dropStart?_eq_some.mpr same.symm⟩

/-- All paths with a prefix stand together: the first path that is not below the prefix has it if
any path does. -/
theorem begins_of_find? {files : List (String × ByteArray)} {file : String × ByteArray}
    {start stored : String} (ascending : (files.map Prod.fst).Pairwise (· < ·))
    (found : files.find? (fun file => ¬file.1 < start) = some file)
    (member : stored ∈ files.map Prod.fst) (begins : start.toList <+: stored.toList) :
    start.toList <+: file.1.toList := by
  obtain ⟨notBelow, before, after, split, below⟩ := List.find?_eq_some_iff_append.mp found
  have above : ¬stored < start := by
    rw [String.lt_iff]
    exact not_lt_of_begins begins
  rw [split, List.map_append, List.map_cons] at ascending member
  rcases List.mem_append.mp member with member | member
  · obtain ⟨earlier, isEarlier, rfl⟩ := List.mem_map.mp member
    exact absurd (by simpa using below earlier isEarlier) above
  · rcases List.mem_cons.mp member with same | member
    · rw [← same]
      exact begins
    · have later : file.1 < stored :=
        (List.pairwise_cons.mp (List.pairwise_append.mp ascending).2.1).1 stored member
      apply prefix_of_between begins
      · rw [← String.lt_iff]
        exact of_decide_eq_true notBelow
      · rw [← String.lt_iff]
        exact String.lt_asymm later

/-- A path names something if it is the root, or stored, or a prefix of a stored path up to a
slash. -/
theorem contains_iff (orderly : m.Orderly) :
    m.contains path = true ↔ Path.clean path = "." ∨ Path.clean path ∈ m.paths
      ∨ ∃ stored ∈ m.paths, (Path.clean path ++ "/").toList <+: stored.toList := by
  unfold contains
  dsimp only
  generalize Path.clean path = cleaned
  by_cases known : cleaned = "." ∨ (m.files.lookup cleaned).isSome = true
  · rw [if_pos known]
    exact iff_of_true rfl (known.imp_right fun found => .inl (lookup_isSome_iff.mp found))
  · rw [if_neg known]
    obtain ⟨notRoot, notStored⟩ := not_or.mp known
    rw [lookup_isSome_iff] at notStored
    constructor
    · intro probed
      split at probed
      · rename_i stored contents found
        exact .inr (.inr ⟨stored, List.mem_map.mpr ⟨_, List.mem_of_find?_eq_some found, rfl⟩,
          dropStart?_isSome_iff.mp probed⟩)
      · cases probed
    · rintro (root | stored | ⟨stored, member, begins⟩)
      · exact absurd root notRoot
      · exact absurd stored notStored
      · split
        · rename_i found
          exact dropStart?_isSome_iff.mpr
            (begins_of_find? orderly.ascending found member begins)
        · rename_i none_
          obtain ⟨file, isFile, rfl⟩ := List.mem_map.mp member
          have below := List.find?_eq_none.mp none_ file isFile
          rw [decide_eq_true_eq, not_not, String.lt_iff] at below
          exact absurd below (not_lt_of_begins begins)

/-! ## What a stored path adds to a listing -/

/-- What the paths beneath a directory begin with. -/
def lead (directory : String) : List Char :=
  if directory = "." then [] else directory.toList ++ ['/']

/-- A stored path that begins like the paths beneath a directory adds what stands in front of the
next slash. -/
theorem childOf?_iff : childOf? directory p = some (name, more) ↔ ∃ rest,
    p.toList = lead directory ++ rest
      ∧ name = String.ofList (rest.takeWhile (· ≠ '/')) ∧ more = rest.contains '/' := by
  have below (rest : List Char) :
      (if directory = "." then some p.toList
        else Text.dropStart? (directory.toList ++ ['/']) p.toList) = some rest
        ↔ p.toList = lead directory ++ rest := by
    unfold lead
    split
    · exact Option.some_inj
    · exact Text.dropStart?_eq_some
  rw [childOf?, Option.map_eq_some_iff]
  simp only [below, Prod.mk.injEq, eq_comm]

theorem childOf?_root_root : childOf? "." "." = some (".", false) := by
  decide

/-- The first name in a text, and whether more names follow. -/
theorem child_iff_pieces (rest : List Char) :
    (name = String.ofList (rest.takeWhile (· ≠ '/')) ∧ more = rest.contains '/') ↔ ∃ others,
      (Text.pieces '/' rest).map String.ofList = name :: others ∧ (more = true ↔ others ≠ []) := by
  obtain ⟨pieces, split, lone⟩ := Text.exists_pieces_eq '/' rest
  have slash : rest.contains '/' = true ↔ pieces ≠ [] := by
    rw [List.contains_iff_mem, ne_eq, lone, not_not]
  rw [split, List.map_cons]
  constructor
  · rintro ⟨rfl, rfl⟩
    exact ⟨pieces.map String.ofList, rfl, by simp only [slash, ne_eq, List.map_eq_nil_iff]⟩
  · rintro ⟨others, same, flag⟩
    obtain ⟨rfl, rfl⟩ := List.cons.inj same
    refine ⟨rfl, Bool.eq_iff_iff.mpr ?_⟩
    rw [flag, slash, ne_eq, List.map_eq_nil_iff]

/-- A stored path adds the name that comes next behind those of the directory, if any does, and
whether more names follow. -/
theorem childOf?_eq_some_iff (apart : directory = "." → p ≠ ".") :
    childOf? directory p = some (name, more) ↔ ∃ others,
      Path.trail p = Path.trail directory ++ name :: others ∧ (more = true ↔ others ≠ []) := by
  rw [childOf?_iff]
  by_cases root : directory = "."
  · subst root
    simp only [lead, if_true, Path.trail_root, Path.trail_of_ne (apart rfl), List.nil_append,
      exists_eq_left', child_iff_pieces]
  · rw [lead, if_neg root, Path.trail_of_ne root]
    by_cases isRoot : p = "."
    · subst isRoot
      constructor
      · rintro ⟨rest, same, -⟩
        have member : '/' ∈ ".".toList := by
          rw [same, List.append_assoc]
          exact List.mem_append_right _ List.mem_cons_self
        exact absurd member (by decide)
      · rintro ⟨others, same, -⟩
        simp [Path.trail_root] at same
    · rw [Path.trail_of_ne isRoot]
      constructor
      · rintro ⟨rest, same, child⟩
        obtain ⟨others, split, flag⟩ := (child_iff_pieces rest).mp child
        refine ⟨others, ?_, flag⟩
        rw [same, List.append_assoc, List.singleton_append, Text.pieces_append, List.map_append,
          split]
      · rintro ⟨others, split, flag⟩
        have segments : (name :: others)
            = ((name :: others).map String.toList).map String.ofList := by simp
        rw [segments, ← List.map_append] at split
        have some_ : (name :: others).map String.toList ≠ [] := List.cons_ne_nil _ _
        obtain ⟨same, pieces⟩ :=
          Path.exists_of_pieces_append some_ (Path.map_ofList_injective split)
        refine ⟨Path.join ((name :: others).map String.toList), ?_,
          (child_iff_pieces _).mpr ⟨others, ?_, flag⟩⟩
        · rw [same, List.append_assoc, List.singleton_append]
        · rw [pieces, ← segments]

/-- A file stands before all that is stored beneath its path. -/
theorem lt_of_childOf? {q : String} (file : childOf? directory p = some (name, false))
    (beneath : childOf? directory q = some (name, true)) : p < q := by
  obtain ⟨rest, same, named, noSlash⟩ := childOf?_iff.mp file
  obtain ⟨rest', same', named', slash⟩ := childOf?_iff.mp beneath
  have alone : '/' ∉ rest := by
    rw [← List.contains_iff_mem, ← noSlash]
    exact Bool.false_ne_true
  have whole : rest.takeWhile (· ≠ '/') = rest := by
    apply List.takeWhile_eq_self_iff.mpr
    intro c member
    exact decide_eq_true fun isSlash => alone (isSlash ▸ member)
  have next : rest'.takeWhile (· ≠ '/') = rest := by
    rw [← whole, ← String.toList_ofList (l := rest'.takeWhile _), ← named', named,
      String.toList_ofList]
  rw [String.lt_iff, same, same']
  apply lt_of_begins
  · apply (List.prefix_append_right_inj _).mpr
    rw [← next]
    exact List.takeWhile_prefix _
  · intro equal
    rw [List.append_cancel_left equal] at alone
    exact alone (List.contains_iff_mem.mp slash.symm)

/-! ## Putting a listing together -/

variable {child : String × Bool} {noted : List (String × Bool)} {entry : DirectoryEntry}
  {entries : List DirectoryEntry}

theorem mem_noteChild (ascending : entries.Pairwise (·.name < ·.name)) :
    entry ∈ noteChild child entries
      ↔ entry = ⟨child.1, child.2⟩ ∨ entry ∈ entries ∧ entry.name ≠ child.1 := by
  induction entries with
  | nil => simp [noteChild]
  | cons first rest ih =>
    obtain ⟨above, ascending⟩ := List.pairwise_cons.mp ascending
    rw [noteChild]
    split
    · rename_i less
      have different : ∀ other ∈ first :: rest, other.name ≠ child.1 := by
        intro other member
        rcases List.mem_cons.mp member with rfl | member
        · exact (String.ne_of_lt less).symm
        · exact (String.ne_of_lt (String.lt_trans less (above other member))).symm
      rw [List.mem_cons]
      exact or_congr_right (and_iff_left_of_imp (different entry)).symm
    · split
      · rename_i same
        have different : ∀ other ∈ rest, other.name ≠ child.1 := by
          intro other member
          rw [same]
          exact (String.ne_of_lt (above other member)).symm
        rw [List.mem_cons, List.mem_cons]
        apply or_congr_right
        constructor
        · exact fun member => ⟨.inr member, different entry member⟩
        · rintro ⟨rfl | member, differs⟩
          · exact absurd same.symm differs
          · exact member
      · rename_i different
        rw [List.mem_cons, List.mem_cons, ih ascending]
        constructor
        · rintro (rfl | rfl | ⟨member, differs⟩)
          · exact .inr ⟨.inl rfl, Ne.symm different⟩
          · exact .inl rfl
          · exact .inr ⟨.inr member, differs⟩
        · rintro (rfl | ⟨rfl | member, differs⟩)
          · exact .inr (.inl rfl)
          · exact .inl rfl
          · exact .inr (.inr ⟨member, differs⟩)

theorem noteChild_ascending (ascending : entries.Pairwise (·.name < ·.name)) :
    (noteChild child entries).Pairwise (·.name < ·.name) := by
  induction entries with
  | nil => simp [noteChild]
  | cons first rest ih =>
    obtain ⟨above, rest_⟩ := List.pairwise_cons.mp ascending
    rw [noteChild]
    split
    · rename_i less
      apply List.pairwise_cons.mpr
      refine ⟨fun other member => ?_, ascending⟩
      rcases List.mem_cons.mp member with rfl | member
      · exact less
      · exact String.lt_trans less (above other member)
    · rename_i notLess
      split
      · rename_i same
        apply List.pairwise_cons.mpr
        exact ⟨fun other member => same ▸ above other member, rest_⟩
      · rename_i different
        apply List.pairwise_cons.mpr
        refine ⟨fun other member => ?_, ih rest_⟩
        rcases (mem_noteChild rest_).mp member with rfl | ⟨member, -⟩
        · exact lt_of_not_lt notLess different
        · exact above other member

/-- The listing of what is noted one after the other. -/
def listed (noted : List (String × Bool)) : List DirectoryEntry :=
  noted.foldl (fun listing child => noteChild child listing) []

theorem listed_append (noted : List (String × Bool)) (child : String × Bool) :
    listed (noted ++ [child]) = noteChild child (listed noted) := by
  rw [listed, List.foldl_append]
  rfl

theorem listed_ascending (noted : List (String × Bool)) :
    (listed noted).Pairwise (·.name < ·.name) := by
  induction noted using List.reverseRecOn with
  | nil => exact List.Pairwise.nil
  | append_singleton noted child ih =>
    rw [listed_append]
    exact noteChild_ascending ih

/-- What was noted last of a name is listed. -/
theorem mem_listed : entry ∈ listed noted ↔ ∃ before after,
    noted = before ++ (entry.name, entry.isDirectory) :: after
      ∧ ∀ child ∈ after, child.1 ≠ entry.name := by
  induction noted using List.reverseRecOn with
  | nil => simp [listed]
  | append_singleton noted child ih =>
    rw [listed_append, mem_noteChild (listed_ascending noted), ih]
    constructor
    · rintro (rfl | ⟨⟨before, after, rfl, last⟩, different⟩)
      · exact ⟨noted, [], rfl, nofun⟩
      · refine ⟨before, after ++ [child], by simp, fun other member => ?_⟩
        rcases List.mem_append.mp member with member | member
        · exact last other member
        · rw [List.mem_singleton.mp member]
          exact different.symm
    · rintro ⟨before, after, split, last⟩
      rcases List.eq_nil_or_concat after with rfl | ⟨after, latest, rfl⟩
      · obtain ⟨-, same⟩ := List.append_inj' split rfl
        left
        rw [List.cons.inj same |>.1]
      · rw [List.concat_eq_append, ← List.cons_append, ← List.append_assoc] at split
        obtain ⟨rfl, same⟩ := List.append_inj' split rfl
        rw [List.concat_eq_append] at last
        right
        have stays := fun other member => last other (List.mem_append_left _ member)
        refine ⟨⟨before, after, rfl, stays⟩, ?_⟩
        rw [(List.cons.inj same).1]
        exact (last latest (List.mem_append_right _ List.mem_cons_self)).symm

/-- Every child that was noted is listed. -/
theorem exists_listed (member : child ∈ noted) :
    ∃ entry ∈ listed noted, entry.name = child.1 := by
  induction noted using List.reverseRecOn with
  | nil => exact absurd member List.not_mem_nil
  | append_singleton noted latest ih =>
    rw [listed_append]
    by_cases same : child.1 = latest.1
    · exact ⟨⟨latest.1, latest.2⟩, (mem_noteChild (listed_ascending _)).mpr (.inl rfl), same.symm⟩
    · rcases List.mem_append.mp member with member | member
      · obtain ⟨entry, isListed, named⟩ := ih member
        refine ⟨entry, (mem_noteChild (listed_ascending _)).mpr (.inr ⟨isListed, ?_⟩), named⟩
        rw [named]
        exact same
      · exact absurd (congrArg Prod.fst (List.mem_singleton.mp member)) same

theorem exists_listed_iff :
    (∃ entry ∈ listed noted, entry.name = name) ↔ ∃ more, (name, more) ∈ noted := by
  constructor
  · rintro ⟨entry, member, rfl⟩
    obtain ⟨before, after, rfl, -⟩ := mem_listed.mp member
    exact ⟨entry.isDirectory, List.mem_append_right _ List.mem_cons_self⟩
  · rintro ⟨more, member⟩
    exact exists_listed member

theorem listed_ne_nil_iff : listed noted ≠ [] ↔ noted ≠ [] := by
  constructor
  · rintro some_ rfl
    exact some_ rfl
  · intro some_
    obtain ⟨child, member⟩ := List.exists_mem_of_ne_nil _ some_
    obtain ⟨entry, isListed, -⟩ := exists_listed member
    exact List.ne_nil_of_mem isListed

/-- What all stored paths add to the listing of a directory, in their order. -/
def children (m : MemoryFiles) (directory : String) : List (String × Bool) :=
  m.paths.filterMap (childOf? directory)

theorem mem_children : child ∈ m.children directory
    ↔ ∃ p ∈ m.paths, childOf? directory p = some child :=
  List.mem_filterMap

theorem exists_path_of_children {before after : List (String × Bool)}
    (split : m.children directory = before ++ child :: after) : ∃ earlier p later,
      m.paths = earlier ++ p :: later ∧ earlier.filterMap (childOf? directory) = before
        ∧ childOf? directory p = some child ∧ later.filterMap (childOf? directory) = after := by
  obtain ⟨earlier, rest, paths, first, others⟩ := List.filterMap_eq_append_iff.mp split
  obtain ⟨skipped, p, later, rfl, nothing, adds, last⟩ := List.filterMap_eq_cons_iff.mp others
  refine ⟨earlier ++ skipped, p, later, by rw [paths, List.append_assoc], ?_, adds, last⟩
  rw [List.filterMap_append, first, List.filterMap_eq_nil_iff.mpr nothing, List.append_nil]

/-- As a file stands before all that is stored beneath its path, a name is listed as a directory if
any stored path shows it to be one. -/
theorem isDirectory_of_listed (orderly : m.Orderly)
    (member : entry ∈ listed (m.children directory)) :
    entry.isDirectory = true ↔ (entry.name, true) ∈ m.children directory := by
  obtain ⟨before, after, split, last⟩ := mem_listed.mp member
  constructor
  · intro isDirectory
    rw [split, isDirectory]
    exact List.mem_append_right _ List.mem_cons_self
  · intro beneath
    by_contra isFile
    rw [Bool.not_eq_true] at isFile
    obtain ⟨q, stored, adds⟩ := mem_children.mp beneath
    obtain ⟨earlier, p, later, paths, -, file, rfl⟩ := exists_path_of_children split
    have ascending := orderly.ascending
    rw [paths] at ascending stored
    rw [isFile] at file
    have less : p < q := lt_of_childOf? file adds
    rcases List.mem_append.mp stored with stored | stored
    · have greater := (List.pairwise_append.mp ascending).2.2 q stored p List.mem_cons_self
      exact String.lt_asymm less greater
    · rcases List.mem_cons.mp stored with rfl | stored
      · exact String.lt_irrefl _ less
      · exact last (entry.name, true) (List.mem_filterMap.mpr ⟨q, stored, adds⟩) rfl

/-! ## Directories and their children -/

/-- Some stored path has a name next behind the given ones. -/
def HasChild (m : MemoryFiles) (names : List String) (name : String) : Prop :=
  ∃ p ∈ m.paths, ∃ others, Path.trail p = names ++ name :: others

/-- Some stored path lies strictly beneath the place that the given names lead to. -/
def HoldsBeneath (m : MemoryFiles) (names : List String) : Prop :=
  ∃ p ∈ m.paths, ∃ others, others ≠ [] ∧ Path.trail p = names ++ others

/-- A listing of the children of a directory: each of them once, in ascending order, and marked as a
directory if something is stored beneath it. -/
structure Lists (m : MemoryFiles) (directory : String) (entries : List DirectoryEntry) : Prop where
  ascending : entries.Pairwise (·.name < ·.name)
  children : ∀ name, (∃ entry ∈ entries, entry.name = name) ↔ m.HasChild (Path.trail directory) name
  marked : ∀ entry ∈ entries, entry.isDirectory = true
    ↔ m.HoldsBeneath (Path.trail directory ++ [entry.name])

/-- A stored path adds a name other than `.` if this name comes next behind those of the
directory. -/
theorem mem_children_iff (named : name ≠ ".") : (name, more) ∈ m.children directory
    ↔ ∃ p ∈ m.paths, ∃ others, Path.trail p = Path.trail directory ++ name :: others
      ∧ (more = true ↔ others ≠ []) := by
  rw [mem_children]
  apply exists_congr
  intro p
  apply and_congr_right
  intro _
  by_cases itself : directory = "." ∧ p = "."
  · obtain ⟨rfl, rfl⟩ := itself
    constructor
    · intro adds
      rw [childOf?_root_root, Option.some.injEq, Prod.mk.injEq] at adds
      exact absurd adds.1.symm named
    · rintro ⟨others, same, -⟩
      simp [Path.trail_root] at same
  · exact childOf?_eq_some_iff fun root isRoot => itself ⟨root, isRoot⟩

theorem hasChild_iff (named : name ≠ ".") :
    m.HasChild (Path.trail directory) name ↔ ∃ more, (name, more) ∈ m.children directory := by
  simp only [mem_children_iff named]
  constructor
  · rintro ⟨p, stored, others, same⟩
    exact ⟨!others.isEmpty, p, stored, others, same, by simp⟩
  · rintro ⟨_, p, stored, others, same, -⟩
    exact ⟨p, stored, others, same⟩

theorem holdsBeneath_iff (named : name ≠ ".") :
    m.HoldsBeneath (Path.trail directory ++ [name]) ↔ (name, true) ∈ m.children directory := by
  simp only [mem_children_iff named, HoldsBeneath, List.append_assoc, List.singleton_append,
    true_iff]
  apply exists_congr
  intro p
  apply and_congr_right
  intro _
  exact exists_congr fun others => and_comm

/-- `.` comes next behind no names. -/
theorem not_hasChild_here (orderly : m.Orderly) (names : List String) : ¬m.HasChild names "." := by
  rintro ⟨p, stored, others, same⟩
  obtain ⟨given, rfl⟩ := orderly.normal p stored
  apply Path.here_not_mem_trail given
  rw [same]
  exact List.mem_append_right _ List.mem_cons_self

/-- Only the root adds `.`, and only to its own listing. -/
theorem root_of_mem_children (orderly : m.Orderly) (member : (".", more) ∈ m.children directory) :
    directory = "." ∧ "." ∈ m.paths ∧ more = false := by
  obtain ⟨p, stored, adds⟩ := mem_children.mp member
  by_cases itself : directory = "." ∧ p = "."
  · obtain ⟨rfl, rfl⟩ := itself
    rw [childOf?_root_root, Option.some.injEq, Prod.mk.injEq] at adds
    exact ⟨rfl, stored, adds.2.symm⟩
  · obtain ⟨others, same, -⟩ :=
      (childOf?_eq_some_iff fun root isRoot => itself ⟨root, isRoot⟩).mp adds
    exact absurd ⟨p, stored, others, same⟩ (not_hasChild_here orderly _)

theorem readDirectory_eq : m.readDirectory path
    = if (listed (m.children (Path.clean path))).isEmpty && Path.clean path ≠ "."
      then .error (.absent (Path.clean path)) else .ok (listed (m.children (Path.clean path))) := by
  have same : (m.files.filterMap fun file => childOf? (Path.clean path) file.1)
      = m.children (Path.clean path) := by
    rw [children, paths, List.filterMap_map]
    rfl
  rw [← same]
  rfl

theorem entries_of_readDirectory (read : m.readDirectory path = .ok entries) :
    entries = listed (m.children (Path.clean path)) := by
  rw [readDirectory_eq] at read
  split at read
  · cases read
  · exact (Except.ok.inj read).symm

/-- But for `.`, what is put together from the stored paths are the children of the directory. -/
theorem lists_filter (orderly : m.Orderly) (directory : String) :
    m.Lists directory ((listed (m.children directory)).filter (·.name ≠ ".")) := by
  refine ⟨(listed_ascending _).filter _, fun name => ?_, fun entry member => ?_⟩
  · by_cases named : name = "."
    · subst named
      apply iff_of_false _ (not_hasChild_here orderly _)
      rintro ⟨entry, member, isHere⟩
      exact of_decide_eq_true (List.mem_filter.mp member).2 isHere
    · rw [hasChild_iff named, ← exists_listed_iff]
      apply exists_congr
      intro entry
      rw [List.mem_filter, and_assoc]
      apply and_congr_right
      intro _
      exact and_iff_right_of_imp fun same => decide_eq_true (same ▸ named)
  · obtain ⟨isListed, named⟩ := List.mem_filter.mp member
    rw [holdsBeneath_iff (of_decide_eq_true named)]
    exact isDirectory_of_listed orderly isListed

/-- `.` is listed exactly in the root, if a file is stored under it, and not as a directory. -/
theorem listed_here_iff (orderly : m.Orderly) :
    entry ∈ listed (m.children directory) ∧ entry.name = "."
      ↔ directory = "." ∧ "." ∈ m.paths ∧ entry = ⟨".", false⟩ := by
  constructor
  · rintro ⟨member, isHere⟩
    obtain ⟨before, after, split, -⟩ := mem_listed.mp member
    have adds : (".", entry.isDirectory) ∈ m.children directory := by
      rw [split, ← isHere]
      exact List.mem_append_right _ List.mem_cons_self
    obtain ⟨root, stored, isFile⟩ := root_of_mem_children orderly adds
    refine ⟨root, stored, ?_⟩
    rw [← isHere, ← isFile]
  · rintro ⟨rfl, stored, rfl⟩
    have adds : (".", false) ∈ m.children "." := mem_children.mpr ⟨".", stored, childOf?_root_root⟩
    obtain ⟨entry, member, isHere⟩ := exists_listed adds
    have isFile : entry.isDirectory = false := by
      rw [Bool.eq_false_iff, ne_eq, isDirectory_of_listed orderly member, isHere]
      intro beneath
      cases (root_of_mem_children orderly beneath).2.2
    have same : entry = ⟨".", false⟩ := DirectoryEntry.mk.injEq .. ▸ ⟨isHere, isFile⟩
    exact ⟨same ▸ member, rfl⟩

/-- A listing holds the children of its directory; a file that is stored under `.` is listed with
the children of the root. -/
theorem readDirectory_lists {files : List (String × ByteArray)}
    (read : (ofFiles files).readDirectory path = .ok entries) :
    (ofFiles files).Lists (Path.clean path) (entries.filter (·.name ≠ "."))
      ∧ ∀ entry, entry ∈ entries ∧ entry.name = "."
        ↔ Path.clean path = "." ∧ "." ∈ (ofFiles files).paths ∧ entry = ⟨".", false⟩ := by
  rw [entries_of_readDirectory read]
  exact ⟨lists_filter (orderly_ofFiles files) _, fun _ => listed_here_iff (orderly_ofFiles files)⟩

/-- Where no file is stored under `.`, every listing holds just the children of its directory. -/
theorem readDirectory_lists_children {files : List (String × ByteArray)}
    (unnamed : "." ∉ (ofFiles files).paths)
    (read : (ofFiles files).readDirectory path = .ok entries) :
    (ofFiles files).Lists (Path.clean path) entries := by
  obtain ⟨lists, here⟩ := readDirectory_lists read
  have all : entries.filter (·.name ≠ ".") = entries := by
    apply List.filter_eq_self.mpr
    intro entry member
    exact decide_eq_true fun isHere => unnamed ((here entry).mp ⟨member, isHere⟩).2.1
  rwa [all] at lists

/-- A file that is stored under `.` makes the root list itself as one of its entries. -/
theorem root_lists_itself {files : List (String × ByteArray)}
    (stored : "." ∈ (ofFiles files).paths) :
    ∃ entries, (ofFiles files).readDirectory "." = .ok entries ∧ ⟨".", false⟩ ∈ entries
      ∧ ¬(ofFiles files).Lists "." entries := by
  have orderly := orderly_ofFiles files
  have root : Path.clean "." = "." := by decide
  have member := ((listed_here_iff orderly).mpr ⟨rfl, stored, rfl⟩).1
  refine ⟨_, ?_, member, fun lists => ?_⟩
  · rw [readDirectory_eq, root]
    exact if_neg (by simp)
  · exact not_hasChild_here orderly _ ((lists.children ".").mp ⟨_, member, rfl⟩)

example : (ofFiles [("a", .empty), (".", .empty)]).readDirectory "."
    = .ok [⟨".", false⟩, ⟨"a", false⟩] := by
  rfl

/-! ## Whether something is there -/

theorem read_isOk_iff : (m.read path).isOk = true ↔ Path.clean path ∈ m.paths := by
  rw [paths, ← lookup_isSome_iff]
  unfold read
  dsimp only
  cases m.files.lookup (Path.clean path) <;> simp [Except.isOk, Except.toBool]

theorem children_ne_nil_iff (below : directory ≠ ".") : m.children directory ≠ []
    ↔ ∃ stored ∈ m.paths, (directory ++ "/").toList <+: stored.toList := by
  have start : lead directory = (directory ++ "/").toList := by
    rw [lead, if_neg below, String.toList_append]
    rfl
  constructor
  · intro some_
    obtain ⟨child, member⟩ := List.exists_mem_of_ne_nil _ some_
    obtain ⟨stored, isStored, adds⟩ := mem_children.mp member
    obtain ⟨rest, same, -⟩ := childOf?_iff.mp adds
    exact ⟨stored, isStored, rest, by rw [same, start]⟩
  · rintro ⟨stored, isStored, rest, same⟩
    have adds := childOf?_iff.mpr ⟨rest, by rw [start, same], rfl, rfl⟩
    exact List.ne_nil_of_mem (mem_children.mpr ⟨stored, isStored, adds⟩)

/-- A directory can be listed if it is the root, or if something is stored beneath it. -/
theorem readDirectory_isOk_iff : (m.readDirectory path).isOk = true ↔ Path.clean path = "."
    ∨ ∃ stored ∈ m.paths, (Path.clean path ++ "/").toList <+: stored.toList := by
  rw [readDirectory_eq]
  by_cases root : Path.clean path = "."
  · rw [if_neg (by simp [root])]
    exact iff_of_true rfl (.inl root)
  · rw [← children_ne_nil_iff root, or_iff_right root, ← listed_ne_nil_iff]
    cases listed (m.children (Path.clean path)) with
    | nil => simp [root, Except.isOk, Except.toBool]
    | cons entry entries => simp [Except.isOk, Except.toBool]

/-- A path names something exactly if it can be read as a file or listed as a directory. -/
theorem contains_eq (files : List (String × ByteArray)) (path : String) :
    (ofFiles files).contains path
      = (((ofFiles files).read path).isOk || ((ofFiles files).readDirectory path).isOk) := by
  rw [Bool.eq_iff_iff, Bool.or_eq_true, contains_iff (orderly_ofFiles files), read_isOk_iff,
    readDirectory_isOk_iff]
  exact or_left_comm

end MemoryFiles

end PixelApplet
