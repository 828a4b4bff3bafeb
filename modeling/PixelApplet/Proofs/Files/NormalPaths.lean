import Mathlib.Data.List.Basic
import Mathlib.Data.List.Induction
import PixelApplet.Files.Basic
import PixelApplet.Files.Source

/-!
# Paths in normal form

The segments that are kept while a path is read are names, or `..` in front of a relative path.
Reading such segments keeps each of them, so that bringing a normal form to normal form changes
nothing.

The normal forms of paths are `.`, a slash in front of names, and `..` segments in front of names.
Bringing a path to normal form may be done piece by piece: a segment read against a stack does what
the segments that are kept of it do, on top of whatever the stack held before.

A directory resolves a path if its normal form has neither a root nor a segment `..`.  All that is
put behind the directory then is a chain of names.
-/

namespace PixelApplet

namespace Text

variable {separator : Char} {cs first rest : List Char}

theorem pieces_ne_nil : pieces separator cs ≠ [] := by
  cases cs with
  | nil => exact List.cons_ne_nil _ _
  | cons c rest =>
    rw [pieces]
    split
    · exact List.cons_ne_nil _ _
    · split <;> exact List.cons_ne_nil _ _

theorem pieces_cons_separator : pieces separator (separator :: cs) = [] :: pieces separator cs := by
  rw [pieces]
  split
  · exact absurd ‹_› pieces_ne_nil
  · rename_i split
    rw [if_pos rfl, split]

/-- No piece contains the separator. -/
theorem not_mem_of_mem_pieces {piece : List Char} (member : piece ∈ pieces separator cs) :
    separator ∉ piece := by
  induction cs generalizing piece with
  | nil =>
    rw [List.mem_singleton.mp member]
    exact List.not_mem_nil
  | cons c cs ih =>
    rw [pieces] at member
    split at member
    · exact absurd ‹_› pieces_ne_nil
    · rename_i first others split
      have inRest (other : List Char) (member : other ∈ first :: others) : separator ∉ other :=
        ih (split ▸ member)
      split at member
      · rcases List.mem_cons.mp member with rfl | member
        · exact List.not_mem_nil
        · exact inRest piece member
      · rename_i different
        rcases List.mem_cons.mp member with rfl | member
        · exact List.not_mem_cons_of_ne_of_not_mem (Ne.symm different) (inRest first (.head _))
        · exact inRest piece (.tail _ member)

/-- Characters up to the first separator are a piece. -/
theorem pieces_append_separator (inside : separator ∉ first) :
    pieces separator (first ++ separator :: rest) = first :: pieces separator rest := by
  induction first with
  | nil => exact pieces_cons_separator
  | cons c first ih =>
    have different : c ≠ separator := fun same => inside (same ▸ .head _)
    rw [List.cons_append, pieces, ih fun member => inside (.tail _ member)]
    simp only
    rw [if_neg different]

/-- Characters without a separator are one piece. -/
theorem pieces_of_not_mem (inside : separator ∉ cs) : pieces separator cs = [cs] := by
  induction cs with
  | nil => rfl
  | cons c cs ih =>
    have different : c ≠ separator := fun same => inside (same ▸ .head _)
    rw [pieces, ih fun member => inside (.tail _ member)]
    simp only
    rw [if_neg different]

/-- Characters without a separator that are added to the end are added to the last piece. -/
theorem exists_pieces_append {ending : List Char} (whole : separator ∉ ending) (cs : List Char) :
    ∃ before last, pieces separator cs = before ++ [last]
      ∧ pieces separator (cs ++ ending) = before ++ [last ++ ending] := by
  induction cs with
  | nil => exact ⟨[], [], rfl, pieces_of_not_mem whole⟩
  | cons c cs ih =>
    obtain ⟨before, last, split, split'⟩ := ih
    rw [List.cons_append, pieces, pieces, split, split']
    by_cases same : c = separator
    · refine ⟨[] :: before, last, ?_, ?_⟩
      · cases before <;> simp [same]
      · cases before <;> simp [same]
    · cases before with
      | nil => exact ⟨[], c :: last, by simp [same], by simp [same]⟩
      | cons first others => exact ⟨(c :: first) :: others, last, by simp [same], by simp [same]⟩

end Text

namespace Path

/-- A segment that a path keeps as it is. -/
structure Plain (segment : Segment) : Prop where
  nonempty : segment ≠ []
  elsewhere : segment ≠ here
  whole : '/' ∉ segment

/-- Segments that were kept, last first: names, behind `..` segments in a relative path. -/
inductive Kept (rooted : Bool) : List Segment → Prop where
  | nil : Kept rooted []
  | up {kept : List Segment} (relative : rooted = false) (above : ∀ segment ∈ kept, segment = up) :
    Kept rooted (up :: kept)
  | name {segment : Segment} {kept : List Segment} (plain : Plain segment) (named : segment ≠ up)
    (before : Kept rooted kept) : Kept rooted (segment :: kept)

variable {rooted : Bool} {kept : List Segment} {segment : Segment}

theorem plain_up : Plain up :=
  ⟨by decide, by decide, by decide⟩

theorem Kept.plain (keeps : Kept rooted kept) : ∀ segment ∈ kept, Plain segment := by
  induction keeps with
  | nil => exact nofun
  | up _ above =>
    intro segment member
    rcases List.mem_cons.mp member with rfl | member
    · exact plain_up
    · exact above segment member ▸ plain_up
  | name plain _ _ ih =>
    intro segment member
    rcases List.mem_cons.mp member with rfl | member
    · exact plain
    · exact ih segment member

theorem push_name (plain : Plain segment) (named : segment ≠ up) :
    push rooted kept segment = segment :: kept := by
  unfold push
  rw [if_neg (not_or.mpr ⟨plain.nonempty, plain.elsewhere⟩), if_neg named]

/-- Reading one segment more keeps what was kept well formed. -/
theorem Kept.push (keeps : Kept rooted kept) (whole : '/' ∉ segment) :
    Kept rooted (push rooted kept segment) := by
  unfold Path.push
  split
  · exact keeps
  · rename_i visible
    obtain ⟨nonempty, elsewhere⟩ := not_or.mp visible
    split
    · cases keeps with
      | nil =>
        cases rooted with
        | true => exact .nil
        | false => exact .up rfl nofun
      | up relative above =>
        subst relative
        refine .up rfl fun segment member => ?_
        rcases List.mem_cons.mp member with rfl | member
        · rfl
        · exact above segment member
      | name plain named before =>
        dsimp only
        rw [if_pos named]
        exact before
    · rename_i named
      exact .name ⟨nonempty, elsewhere, whole⟩ named keeps

theorem Kept.foldl {segments : List Segment} (keeps : Kept rooted kept)
    (whole : ∀ segment ∈ segments, '/' ∉ segment) :
    Kept rooted (segments.foldl (Path.push rooted) kept) := by
  induction segments generalizing kept with
  | nil => exact keeps
  | cons segment rest ih =>
    exact ih (keeps.push (whole segment (.head _))) fun other later => whole other (.tail _ later)

/-- Reading what was kept keeps all of it. -/
theorem Kept.read (keeps : Kept rooted kept) :
    kept.reverse.foldl (Path.push rooted) [] = kept := by
  induction keeps with
  | nil => rfl
  | @up kept relative above =>
    have readsUps (kept : List Segment) (above : ∀ segment ∈ kept, segment = Path.up) :
        kept.reverse.foldl (Path.push rooted) [] = kept := by
      induction kept with
      | nil => rfl
      | cons last before ih =>
        rw [List.reverse_cons, List.foldl_append,
          ih fun segment member => above segment (.tail _ member), above last (.head _)]
        subst relative
        cases before with
        | nil => rfl
        | cons other before =>
          rw [above other (.tail _ (.head _))]
          rfl
    exact readsUps (Path.up :: kept) fun segment member => by
      rcases List.mem_cons.mp member with rfl | member
      · rfl
      · exact above segment member
  | name plain named _ ih =>
    rw [List.reverse_cons, List.foldl_append, ih]
    exact push_name plain named

theorem pieces_join {segments : List Segment} (some_ : segments ≠ [])
    (whole : ∀ segment ∈ segments, '/' ∉ segment) : Text.pieces '/' (join segments) = segments := by
  induction segments with
  | nil => exact absurd rfl some_
  | cons segment rest ih =>
    have inside := whole segment (.head _)
    cases rest with
    | nil => exact Text.pieces_of_not_mem inside
    | cons next rest =>
      rw [join, Text.pieces_append_separator inside,
        ih (List.cons_ne_nil _ _) fun other later => whole other (.tail _ later)]
      exact List.cons_ne_nil _ _

/-- The segments of a path in normal form, last first, are what is kept of the path. -/
theorem kept_cleanSegments (path : List Char) :
    Kept (path.head? = some '/') (cleanSegments path).reverse := by
  rw [cleanSegments, List.reverse_reverse]
  exact Kept.nil.foldl fun segment member => Text.not_mem_of_mem_pieces member

theorem join_eq_nil {segments : List Segment} (plain : ∀ segment ∈ segments, Plain segment) :
    join segments = [] ↔ segments = [] := by
  cases segments with
  | nil => exact ⟨fun _ => rfl, fun _ => rfl⟩
  | cons segment rest =>
    have nonempty := (plain segment (.head _)).nonempty
    cases rest <;> simp [join, nonempty]

/-- A path made of names and `..` does not begin with a slash. -/
theorem head_join {segments : List Segment} (plain : ∀ segment ∈ segments, Plain segment) :
    (join segments).head? ≠ some '/' := by
  cases segments with
  | nil => exact nofun
  | cons segment rest =>
    obtain ⟨nonempty, _, whole⟩ := plain segment (.head _)
    cases segment with
    | nil => exact absurd rfl nonempty
    | cons c cs =>
      have different : c ≠ '/' := fun same => whole (same ▸ .head _)
      cases rest <;> simpa [join] using different

/-- Reading what segments of a path in normal form are joined to gives them back. -/
theorem foldl_pieces_join {rooted : Bool} {segments : List Segment}
    (keeps : Kept rooted segments.reverse) :
    ((Text.pieces '/' (join segments)).foldl (push rooted) []).reverse = segments := by
  by_cases none_ : segments = []
  · subst none_
    rfl
  · have whole (segment : Segment) (member : segment ∈ segments) : '/' ∉ segment :=
      (keeps.plain segment (List.mem_reverse.mpr member)).whole
    have read := keeps.read
    rw [List.reverse_reverse] at read
    rw [pieces_join none_ whole, read, List.reverse_reverse]

theorem head_cleanChars (path : List Char) :
    (cleanChars path).head? = some '/' ↔ path.head? = some '/' := by
  have plain (segment : Segment) (member : segment ∈ cleanSegments path) : Plain segment :=
    (kept_cleanSegments path).plain segment (List.mem_reverse.mpr member)
  unfold cleanChars
  dsimp only
  split
  · rename_i rooted
    exact ⟨fun _ => rooted, fun _ => rfl⟩
  · rename_i relative
    split
    · exact ⟨nofun, fun rooted => absurd rooted relative⟩
    · exact ⟨fun slash => absurd slash (head_join plain), fun rooted => absurd rooted relative⟩

theorem cleanSegments_cleanChars (path : List Char) :
    cleanSegments (cleanChars path) = cleanSegments path := by
  have keeps := kept_cleanSegments path
  have sameRoot : decide ((cleanChars path).head? = some '/') = decide (path.head? = some '/') :=
    decide_eq_decide.mpr (head_cleanChars path)
  rw [cleanSegments.eq_def (cleanChars path), sameRoot]
  unfold cleanChars
  dsimp only
  split
  · rename_i rooted
    rw [Text.pieces_cons_separator]
    exact foldl_pieces_join keeps
  · split
    · rename_i relative nothing
      have none_ := (join_eq_nil fun segment member =>
        keeps.plain segment (List.mem_reverse.mpr member)).mp nothing
      rw [none_]
      rfl
    · exact foldl_pieces_join keeps

/-- A path in normal form is its own normal form. -/
theorem clean_clean (path : String) : clean (clean path) = clean path := by
  have again : cleanChars (cleanChars path.toList) = cleanChars path.toList := by
    rw [cleanChars.eq_def (cleanChars path.toList), cleanSegments_cleanChars]
    simp only [head_cleanChars]
    rfl
  unfold clean
  rw [String.toList_ofList, again]

/-! ## Endings -/

theorem suffix_join (segments : List Segment) (last : Segment) :
    last <:+ join (segments ++ [last]) := by
  induction segments with
  | nil => exact List.suffix_refl last
  | cons segment rest ih =>
    have joined : join (segment :: rest ++ [last]) = segment ++ '/' :: join (rest ++ [last]) := by
      cases rest <;> rfl
    rw [joined]
    exact (ih.trans (List.suffix_cons _ _)).trans (List.suffix_append _ _)

/-- The last segment of a path is kept if it has an ending that is longer than `..`. -/
theorem exists_cleanSegments {ending : List Char} (whole : '/' ∉ ending) (long : 2 < ending.length)
    (path : List Char) : ∃ segments last,
      cleanSegments (path ++ ending) = segments ++ [last ++ ending] := by
  obtain ⟨before, last, -, split⟩ := Text.exists_pieces_append whole path
  have longer : 2 < (last ++ ending).length := by
    rw [List.length_append]
    omega
  have whole' : '/' ∉ last ++ ending :=
    Text.not_mem_of_mem_pieces (split ▸ List.mem_append_right _ (.head _))
  have plain : Plain (last ++ ending) := by
    refine ⟨fun same => ?_, fun same => ?_, whole'⟩ <;> simp [same, here] at longer
  have named : last ++ ending ≠ up := fun same => by simp [same, up] at longer
  refine ⟨(before.foldl (push ((path ++ ending).head? = some '/')) []).reverse, last, ?_⟩
  rw [cleanSegments, split, List.foldl_append, List.foldl_cons, List.foldl_nil,
    push_name plain named, List.reverse_cons]

/-- A path keeps an ending that is longer than `..`. -/
theorem suffix_cleanChars {ending : List Char} (whole : '/' ∉ ending) (long : 2 < ending.length)
    (path : List Char) : ending <:+ cleanChars (path ++ ending) := by
  obtain ⟨segments, last, kept⟩ := exists_cleanSegments whole long path
  have ends : ending <:+ join (cleanSegments (path ++ ending)) := by
    rw [kept]
    exact (List.suffix_append last ending).trans (suffix_join _ _)
  unfold cleanChars
  dsimp only
  split
  · exact ends.trans (List.suffix_cons _ _)
  · split
    · rename_i nothing
      rw [nothing] at ends
      rw [List.suffix_nil.mp ends] at long
      cases long
    · exact ends

/-- A name is in normal form. -/
theorem cleanChars_name {name : Segment} (plain : Plain name) (named : name ≠ up) :
    cleanChars name = name := by
  have slashless : name.head? ≠ some '/' := fun slash => plain.whole (List.mem_of_mem_head? slash)
  have kept : cleanSegments name = [name] := by
    rw [cleanSegments, Text.pieces_of_not_mem plain.whole, List.foldl_cons, List.foldl_nil,
      push_name plain named, List.reverse_singleton]
  unfold cleanChars
  dsimp only
  rw [if_neg slashless, kept]
  exact if_neg plain.nonempty

end Path

namespace Text

variable {separator : Char}

/-- The pieces on both sides of a separator. -/
theorem pieces_append (first rest : List Char) :
    pieces separator (first ++ separator :: rest)
      = pieces separator first ++ pieces separator rest := by
  induction first with
  | nil => exact pieces_cons_separator
  | cons c first ih =>
    rw [List.cons_append, pieces, ih, pieces.eq_def _ (c :: first)]
    dsimp only
    cases split : pieces separator first with
    | nil => exact absurd split pieces_ne_nil
    | cons piece others =>
      rw [List.cons_append]
      dsimp only
      split <;> rfl

theorem head?_pieces_append (first rest : List Char) :
    (pieces separator (first ++ separator :: rest)).head? = (pieces separator first).head? := by
  rw [pieces_append, List.head?_append_of_ne_nil _ pieces_ne_nil]

end Text

namespace Path

/-! ## Normal forms -/

/-- A segment that names an entry of a directory. -/
structure IsName (segment : Segment) : Prop extends Plain segment where
  named : segment ≠ up

/-- The paths that are in normal form. -/
inductive NormalForm : List Char → Prop where
  | here : NormalForm here
  | rooted {names : List Segment} (ordinary : ∀ name ∈ names, IsName name) :
    NormalForm ('/' :: join names)
  | relative (ups : Nat) {names : List Segment} (ordinary : ∀ name ∈ names, IsName name)
    (some_ : List.replicate ups up ++ names ≠ []) :
    NormalForm (join (List.replicate ups up ++ names))

variable {rooted : Bool} {kept : List Segment}

/-- What was kept of a path is `..` segments in front of names. -/
theorem Kept.layout (keeps : Kept rooted kept) : ∃ ups names,
    kept.reverse = List.replicate ups Path.up ++ names ∧ (∀ name ∈ names, IsName name)
      ∧ (rooted = true → ups = 0) := by
  induction keeps with
  | nil => exact ⟨0, [], rfl, nofun, fun _ => rfl⟩
  | @up kept relative above =>
    have same : kept = List.replicate kept.length Path.up := List.eq_replicate_of_mem above
    refine ⟨kept.length + 1, [], ?_, nofun, fun rooted => ?_⟩
    · rw [List.reverse_cons, same, List.reverse_replicate, List.length_replicate, List.append_nil,
        List.replicate_succ']
    · exact absurd (relative.symm.trans rooted) nofun
  | @name segment kept plain named before ih =>
    obtain ⟨ups, names, same, ordinary, atRoot⟩ := ih
    refine ⟨ups, names ++ [segment], ?_, fun name member => ?_, atRoot⟩
    · rw [List.reverse_cons, same, List.append_assoc]
    · rcases List.mem_append.mp member with member | member
      · exact ordinary name member
      · rw [List.mem_singleton.mp member]
        exact ⟨plain, named⟩

/-- `..` segments in front of names are what is kept of themselves. -/
theorem kept_layout (ups : Nat) {names : List Segment} (ordinary : ∀ name ∈ names, IsName name)
    (atRoot : rooted = true → ups = 0) :
    Kept rooted (List.replicate ups up ++ names).reverse := by
  induction names using List.reverseRecOn with
  | nil =>
    rw [List.append_nil, List.reverse_replicate]
    cases ups with
    | zero => exact .nil
    | succ ups =>
      refine .up (Bool.eq_false_iff.mpr fun rooted => absurd (atRoot rooted) nofun) ?_
      exact fun segment member => List.eq_of_mem_replicate member
  | append_singleton names name ih =>
    rw [← List.append_assoc, List.reverse_append]
    obtain ⟨plain, named⟩ := ordinary name (List.mem_append_right _ (.head _))
    exact .name plain named (ih fun other member => ordinary other (List.mem_append_left _ member))

/-- Bringing a path to normal form gives a path that is in normal form. -/
theorem normalForm_cleanChars (path : List Char) : NormalForm (cleanChars path) := by
  have keeps := kept_cleanSegments path
  obtain ⟨ups, names, layout, ordinary, atRoot⟩ := keeps.layout
  rw [List.reverse_reverse] at layout
  unfold cleanChars
  dsimp only
  split
  · rename_i slash
    rw [layout, atRoot (decide_eq_true slash)]
    exact .rooted ordinary
  · split
    · exact .here
    · rename_i something
      rw [layout] at something ⊢
      refine .relative ups ordinary fun nothing => something ?_
      rw [nothing]
      rfl

theorem plain_of_layout (ups : Nat) {names : List Segment} (ordinary : ∀ name ∈ names, IsName name)
    (segment : Segment) (member : segment ∈ List.replicate ups up ++ names) : Plain segment := by
  rcases List.mem_append.mp member with member | member
  · rw [List.eq_of_mem_replicate member]
    exact plain_up
  · exact (ordinary segment member).toPlain

/-- A path is in normal form exactly if bringing it to normal form leaves it as it is. -/
theorem normalForm_iff {path : List Char} : NormalForm path ↔ cleanChars path = path := by
  constructor
  · intro normal
    cases normal with
    | here => rfl
    | @rooted names ordinary =>
      have keeps : Kept true names.reverse := kept_layout 0 ordinary fun _ => rfl
      have segments : cleanSegments ('/' :: join names) = names := by
        rw [cleanSegments, Text.pieces_cons_separator]
        exact foldl_pieces_join keeps
      show '/' :: join (cleanSegments ('/' :: join names)) = _
      rw [segments]
    | @relative ups names ordinary some_ =>
      have keeps : Kept false (List.replicate ups up ++ names).reverse :=
        kept_layout ups ordinary fun rooted => absurd rooted Bool.false_ne_true
      have slashless := head_join (plain_of_layout ups ordinary)
      have segments : cleanSegments (join (List.replicate ups up ++ names))
          = List.replicate ups up ++ names := by
        rw [cleanSegments, decide_eq_false slashless]
        exact foldl_pieces_join keeps
      unfold cleanChars
      dsimp only
      rw [if_neg slashless, segments, if_neg]
      exact fun nothing => some_ ((join_eq_nil (plain_of_layout ups ordinary)).mp nothing)
  · intro same
    rw [← same]
    exact normalForm_cleanChars path

/-! ## Reading piece by piece -/

/-- On top of any stack, segments do what is kept of them does. -/
theorem foldl_push_kept {segments : List Segment} (whole : ∀ segment ∈ segments, '/' ∉ segment)
    (rooted : Bool) (stack : List Segment) :
    (segments.foldl (push false) []).reverse.foldl (push rooted) stack
      = segments.foldl (push rooted) stack := by
  induction segments using List.reverseRecOn with
  | nil => rfl
  | append_singleton segments last ih =>
    have earlier (segment : Segment) (member : segment ∈ segments) : '/' ∉ segment :=
      whole segment (List.mem_append_left _ member)
    have keeps : Kept false (segments.foldl (push false) []) := Kept.nil.foldl earlier
    rw [List.foldl_append, List.foldl_append, ← ih earlier]
    show (push false _ last).reverse.foldl (push rooted) stack = push rooted _ last
    generalize segments.foldl (push false) [] = kept at keeps
    by_cases invisible : last = [] ∨ last = here
    · rw [push.eq_def rooted, push.eq_def false, if_pos invisible, if_pos invisible]
    by_cases ascends : last = up
    · subst ascends
      cases keeps with
      | nil => rfl
      | @up kept _ above =>
        show (up :: up :: kept).reverse.foldl (push rooted) stack = _
        rw [List.reverse_cons, List.foldl_append]
        rfl
      | @name segment before plain named _ =>
        -- The last name vanishes, whether it was pushed onto the stack or not.
        have vanishes (others : List Segment) : push rooted (segment :: others) up = others := by
          unfold push
          rw [if_neg (by decide), if_pos rfl]
          exact if_pos named
        have vanishes' : push false (segment :: before) up = before := by
          unfold push
          rw [if_neg (by decide), if_pos rfl]
          exact if_pos named
        rw [vanishes', List.reverse_cons, List.foldl_append]
        show _ = push rooted (push rooted _ segment) up
        rw [push_name plain named, vanishes]
    · have pushed (rooted : Bool) (others : List Segment) :
          push rooted others last = last :: others := by
        unfold push
        rw [if_neg invisible, if_neg ascends]
      rw [pushed false, List.reverse_cons, List.foldl_append]
      rfl

theorem cleanSegments_append {a : List Char} (some_ : a ≠ []) (b : List Char) :
    cleanSegments (a ++ '/' :: b)
      = ((Text.pieces '/' b).foldl (push (a.head? = some '/'))
          (cleanSegments a).reverse).reverse := by
  rw [cleanSegments, Text.pieces_append, List.foldl_append, List.head?_append_of_ne_nil _ some_,
    cleanSegments, List.reverse_reverse]

/-- The normal form of what stands behind a slash counts as much as what stands there. -/
theorem foldl_pieces_cleanChars {b : List Char} (relative : b.head? ≠ some '/') (rooted : Bool)
    (stack : List Segment) :
    (Text.pieces '/' (cleanChars b)).foldl (push rooted) stack
      = (Text.pieces '/' b).foldl (push rooted) stack := by
  have whole (path : List Char) (segment : Segment) (member : segment ∈ Text.pieces '/' path) :
      '/' ∉ segment :=
    Text.not_mem_of_mem_pieces member
  have same := cleanSegments_cleanChars b
  have relative' : (cleanChars b).head? ≠ some '/' := fun slash =>
    relative ((head_cleanChars b).mp slash)
  rw [cleanSegments, cleanSegments, decide_eq_false relative, decide_eq_false relative',
    List.reverse_inj] at same
  rw [← foldl_push_kept (whole _), same, foldl_push_kept (whole _)]

theorem cleanChars_ne_nil (path : List Char) : cleanChars path ≠ [] := by
  unfold cleanChars
  dsimp only
  split
  · exact List.cons_ne_nil _ _
  · split
    · exact List.cons_ne_nil _ _
    · assumption

/-- Whether a path is rooted, and its segments, determine its normal form. -/
theorem cleanChars_congr {path other : List Char}
    (sameRoot : path.head? = some '/' ↔ other.head? = some '/')
    (segments : cleanSegments path = cleanSegments other) : cleanChars path = cleanChars other := by
  unfold cleanChars
  simp only [sameRoot, segments]

/-- The normal form of two paths in a row is that of their normal forms in a row. -/
theorem cleanChars_append {a b : List Char} (some_ : a ≠ []) (relative : b.head? ≠ some '/') :
    cleanChars (a ++ '/' :: b) = cleanChars (cleanChars a ++ '/' :: cleanChars b) := by
  apply cleanChars_congr
  · rw [List.head?_append_of_ne_nil _ some_, List.head?_append_of_ne_nil _ (cleanChars_ne_nil a),
      head_cleanChars]
  · rw [cleanSegments_append some_, cleanSegments_append (cleanChars_ne_nil a),
      cleanSegments_cleanChars, foldl_pieces_cleanChars relative]
    simp only [head_cleanChars]

/-! ## Components -/

/-- What a path is made of for an operating system. -/
inductive Component where
  | root
  | current
  | parent
  | name (segment : Segment)
  deriving DecidableEq

/-- The component that a segment stands for. -/
def Component.ofSegment (segment : Segment) : Component :=
  if segment = up then .parent else .name segment

/-- Whether a component leads nowhere but into a directory or nowhere at all. -/
def Component.descends : Component → Bool
  | current | name _ => true
  | root | parent => false

/-- The component that only the beginning of a path can have. -/
def lead (path : List Char) : List Component :=
  if path.head? = some '/' then [.root]
  else if (Text.pieces '/' path).head? = some here then [.current]
  else []

/-- The components of the segments that are visible wherever they stand. -/
def visible (path : List Char) : List Component :=
  ((Text.pieces '/' path).filter fun s => s ≠ [] ∧ s ≠ here).map .ofSegment

/-- The components of a path: repeated slashes do not count, and `.` counts only in front. -/
def components (path : List Char) : List Component :=
  lead path ++ visible path

theorem visible_append (first rest : List Char) :
    visible (first ++ '/' :: rest) = visible first ++ visible rest := by
  unfold visible
  rw [Text.pieces_append, List.filter_append, List.map_append]

theorem lead_append {first : List Char} (some_ : first ≠ []) (rest : List Char) :
    lead (first ++ '/' :: rest) = lead first := by
  unfold lead
  rw [List.head?_append_of_ne_nil _ some_, Text.head?_pieces_append]

theorem components_append {first : List Char} (some_ : first ≠ []) (rest : List Char) :
    components (first ++ '/' :: rest) = components first ++ visible rest := by
  unfold components
  rw [lead_append some_, visible_append, List.append_assoc]

/-- A trailing slash does not count. -/
theorem components_append_slash (first rest : List Char) :
    components (first ++ '/' :: rest) = components (first ++ ['/']) ++ visible rest := by
  cases first with
  | nil =>
    show Component.root :: visible ([] ++ '/' :: rest) = .root :: (visible ([] ++ '/' :: []) ++ _)
    rw [visible_append, visible_append]
    rfl
  | cons c first =>
    have some_ : c :: first ≠ [] := List.cons_ne_nil _ _
    rw [components_append some_, components_append some_, List.append_assoc]
    rfl

theorem visible_join {segments : List Segment} (plain : ∀ segment ∈ segments, Plain segment) :
    visible (join segments) = segments.map .ofSegment := by
  by_cases none_ : segments = []
  · rw [none_]
    rfl
  · unfold visible
    rw [pieces_join none_ fun segment member => (plain segment member).whole]
    refine congrArg (List.map Component.ofSegment) (List.filter_eq_self.mpr ?_)
    intro segment member
    exact decide_eq_true ⟨(plain segment member).nonempty, (plain segment member).elsewhere⟩

theorem map_ofSegment {names : List Segment} (ordinary : ∀ name ∈ names, IsName name) :
    names.map Component.ofSegment = names.map .name :=
  List.map_congr_left fun name member => if_neg (ordinary name member).named

theorem lead_join {segments : List Segment} (plain : ∀ segment ∈ segments, Plain segment) :
    lead (join segments) = [] := by
  unfold lead
  rw [if_neg (head_join plain), if_neg]
  intro leads
  cases segments with
  | nil => exact absurd leads (by decide)
  | cons segment rest =>
    rw [pieces_join (List.cons_ne_nil _ _) fun other member => (plain other member).whole] at leads
    exact (plain segment (.head _)).elsewhere (Option.some.inj leads)

/-- The components of the normal forms. -/
theorem components_rooted {names : List Segment} (ordinary : ∀ name ∈ names, IsName name) :
    components ('/' :: join names) = .root :: names.map .name := by
  have shown : visible ('/' :: join names) = names.map .ofSegment :=
    (visible_append [] _).trans (visible_join fun name member => (ordinary name member).toPlain)
  show Component.root :: visible ('/' :: join names) = _
  rw [shown, map_ofSegment ordinary]

theorem components_relative (ups : Nat) {names : List Segment}
    (ordinary : ∀ name ∈ names, IsName name) :
    components (join (List.replicate ups up ++ names))
      = List.replicate ups .parent ++ names.map .name := by
  have plain := plain_of_layout ups ordinary
  unfold components
  rw [lead_join plain, visible_join plain, List.map_append, List.map_replicate,
    map_ofSegment ordinary]
  rfl

/-- A path in normal form is taken to leave its directory exactly if it has a component that leads
to the root or upwards. -/
theorem escapes_eq {path : List Char} (normal : NormalForm path) :
    escapes (String.ofList path) = (components path).any fun component => !component.descends := by
  unfold escapes
  rw [String.toList_ofList]
  cases normal with
  | here => rfl
  | @rooted names ordinary =>
    rw [Text.pieces_cons_separator, components_rooted ordinary]
    rfl
  | @relative ups names ordinary some_ =>
    have plain := plain_of_layout ups ordinary
    rw [components_relative ups ordinary, pieces_join some_ fun segment member =>
      (plain segment member).whole]
    have relative : decide ((join (List.replicate ups up ++ names)).head? = some '/') = false :=
      decide_eq_false (head_join plain)
    cases ups with
    | succ ups =>
      rw [List.replicate_succ, List.cons_append]
      exact Bool.or_true _
    | zero =>
      have descend :
          ((names.map Component.name).any fun component => !component.descends) = false := by
        rw [List.any_map]
        exact List.any_eq_false.mpr fun _ _ => nofun
      cases names with
      | nil => exact absurd rfl some_
      | cons first rest =>
        rw [List.replicate_zero, List.nil_append] at relative ⊢
        rw [List.replicate_zero, List.nil_append, descend, relative]
        exact decide_eq_false (ordinary first (.head _)).named

/-- A path begins with a segment. -/
def BeginsWith (path : String) (segment : Segment) : Prop :=
  (Text.pieces '/' path.toList).head? = some segment

/-- A path begins at the root. -/
def IsRooted (path : String) : Prop :=
  path.toList.head? = some '/'

theorem escapes_iff (cleaned : String) :
    escapes cleaned = true ↔ IsRooted cleaned ∨ BeginsWith cleaned up := by
  unfold escapes IsRooted BeginsWith
  split
  · exact absurd ‹_› Text.pieces_ne_nil
  · rename_i first rest split
    rw [split, Bool.or_eq_true, decide_eq_true_iff, decide_eq_true_iff, List.head?_cons,
      Option.some_inj]

end Path

/-! ## Places below a directory -/

namespace FileSource

open PixelApplet.Path

/-- A place is reached from a root by a chain of names; without names it is the root itself. -/
structure IsBelow (root at_ : String) (names : List Segment) : Prop where
  ordinary : ∀ name ∈ names, IsName name
  appended : at_ = joined root (if names = [] then "." else String.ofList (join names))
  components : root ≠ "" ∨ names ≠ [] →
    Path.components at_.toList = Path.components root.toList ++ names.map .name

/-- What is put behind a root is a path from there. -/
theorem components_joined {root relative : String} (some_ : root ≠ "") :
    components (joined root relative).toList
      = components root.toList ++ visible relative.toList := by
  have nonempty : root.toList ≠ [] := fun nil => some_ (String.toList_eq_nil_iff.mp nil)
  have behind : root.isEmpty = false := by simpa using some_
  unfold joined
  rw [behind, if_neg Bool.false_ne_true]
  split
  · rename_i slash
    obtain ⟨before, ends⟩ := List.getLast?_eq_some_iff.mp slash
    rw [String.toList_append, ends, List.append_assoc]
    exact components_append_slash before _
  · rw [String.toList_append, String.toList_append, List.append_assoc]
    exact components_append nonempty _

/-- Behind a root, names lead below it. -/
theorem isBelow_joined (root : String) (names : List Segment)
    (ordinary : ∀ name ∈ names, IsName name) :
    IsBelow root (joined root (if names = [] then "." else String.ofList (join names))) names := by
  refine ⟨ordinary, rfl, fun present => ?_⟩
  have plain (name : Segment) (member : name ∈ names) : Plain name := (ordinary name member).toPlain
  by_cases none_ : names = []
  · subst none_
    rw [components_joined (present.resolve_right fun some_ => some_ rfl), if_pos rfl]
    rfl
  rw [if_neg none_]
  by_cases atHome : root = ""
  · subst atHome
    show components (String.ofList (join names)).toList = _
    rw [String.toList_ofList]
    exact components_relative 0 ordinary
  · rw [components_joined atHome, String.toList_ofList, visible_join plain, map_ofSegment ordinary]

/-- A directory resolves the paths that do not leave it. -/
theorem place_ok_iff {root path : String} :
    (∃ at_, place root path = .ok at_) ↔ escapes (clean path) = false := by
  unfold place
  dsimp only
  cases escapes (clean path) with
  | true => exact ⟨fun ⟨_, placed⟩ => absurd placed nofun, nofun⟩
  | false => exact ⟨fun _ => rfl, fun _ => ⟨_, rfl⟩⟩

/-- What a directory resolves lies below it, and the names that lead there are those of the normal
form. -/
theorem exists_isBelow {root path at_ : String} (placed : place root path = .ok at_) :
    ∃ names, clean path = (if names = [] then "." else String.ofList (join names))
      ∧ IsBelow root at_ names := by
  have inside : escapes (clean path) = false := place_ok_iff.mp ⟨at_, placed⟩
  have is : joined root (clean path) = at_ := by
    unfold place at placed
    dsimp only at placed
    rw [inside] at placed
    exact Except.ok.inj placed
  rw [← is]
  have normal := normalForm_cleanChars path.toList
  unfold clean at *
  rw [escapes_eq normal, List.any_eq_false] at inside
  generalize cleanChars path.toList = cleaned at *
  cases normal with
  | here => exact ⟨[], rfl, isBelow_joined root [] (List.forall_mem_nil _)⟩
  | rooted ordinary =>
    rw [components_rooted ordinary] at inside
    exact absurd rfl (inside .root (.head _))
  | @relative ups names ordinary some_ =>
    rw [components_relative ups ordinary] at inside
    cases ups with
    | succ ups => exact absurd rfl (inside .parent (.head _))
    | zero =>
      rw [List.replicate_zero, List.nil_append] at some_ ⊢
      have below := isBelow_joined root names ordinary
      rw [if_neg some_] at below
      exact ⟨names, (if_neg some_).symm, below⟩

end FileSource

/-- Paths are brought to a normal form, and stay as they are if they are in normal form; the normal
form of two paths in a row can be made of their normal forms.  A directory resolves exactly the
paths whose normal form neither is rooted nor begins with `..`, that is, has no components but names
and `.`; and it resolves them to a place that is reached from the directory by names alone. -/
theorem Path.clean_canonical_and_contained (path : String) :
    NormalForm (clean path).toList ∧ (NormalForm path.toList ↔ clean path = path)
      ∧ clean (clean path) = clean path
      ∧ (∀ behind : String, path ≠ "" → ¬ IsRooted behind →
        clean (path ++ "/" ++ behind) = clean (clean path ++ "/" ++ clean behind))
      ∧ ∀ root : String,
        ((∃ at_, FileSource.place root path = .ok at_)
          ↔ ¬ IsRooted (clean path) ∧ ¬ BeginsWith (clean path) up)
        ∧ ((∃ at_, FileSource.place root path = .ok at_)
          ↔ ∀ component ∈ components (clean path).toList, component.descends = true)
        ∧ ∀ at_, FileSource.place root path = .ok at_ → ∃ names,
          clean path = (if names = [] then "." else String.ofList (join names))
            ∧ FileSource.IsBelow root at_ names := by
  have normal := normalForm_cleanChars path.toList
  refine ⟨?_, ?_, clean_clean path, fun behind some_ relative => ?_, fun root => ⟨?_, ?_, ?_⟩⟩
  · rw [clean, String.toList_ofList]
    exact normal
  · rw [normalForm_iff, clean, ← String.toList_inj, String.toList_ofList]
  · have nonempty : path.toList ≠ [] := fun nil => some_ (String.toList_eq_nil_iff.mp nil)
    have chars (a b : String) : (a ++ "/" ++ b).toList = a.toList ++ '/' :: b.toList := by
      rw [String.toList_append, String.toList_append, List.append_assoc]
      rfl
    unfold clean
    rw [chars, chars, String.toList_ofList, String.toList_ofList]
    exact congrArg String.ofList (cleanChars_append nonempty relative)
  · rw [FileSource.place_ok_iff, ← not_or, ← escapes_iff, Bool.not_eq_true]
  · rw [FileSource.place_ok_iff, clean, escapes_eq normal, String.toList_ofList, List.any_eq_false]
    simp
  · exact fun at_ => FileSource.exists_isBelow

/-- A path that goes up and down again, with a file whose name begins with two dots. -/
theorem Path.clean_canonical_and_contained_dots :
    "lib/.." ≠ "" ∧ ¬ IsRooted "./sub//..x"
      ∧ clean ("lib/.." ++ "/" ++ "./sub//..x")
        = clean (clean "lib/.." ++ "/" ++ clean "./sub//..x")
      ∧ FileSource.place "srv" "./sub//..x" = .ok "srv/sub/..x"
      ∧ ∃ names, clean "./sub//..x" = (if names = [] then "." else String.ofList (join names))
        ∧ FileSource.IsBelow "srv" "srv/sub/..x" names := by
  have some_ : "lib/.." ≠ "" := by decide
  have relative : ¬ IsRooted "./sub//..x" := by
    unfold IsRooted
    decide
  have placed : FileSource.place "srv" "./sub//..x" = .ok "srv/sub/..x" := rfl
  obtain ⟨-, -, -, composed, -⟩ := clean_canonical_and_contained "lib/.."
  obtain ⟨-, -, -, -, resolved⟩ := clean_canonical_and_contained "./sub//..x"
  exact ⟨some_, relative, composed _ some_ relative, placed, (resolved "srv").2.2 _ placed⟩

end PixelApplet
