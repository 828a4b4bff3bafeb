import Mathlib.Data.List.Basic
import Mathlib.Data.List.Infix
import Mathlib.Data.List.TakeWhile
import PixelApplet.Text.Search

/-!
# Trimming and splitting

Trimming cuts a text into blank characters, what is trimmed, and blank characters again, and the
middle is the only part between blank characters that neither begins nor ends with one.  The words of
a text are told apart by blank characters, so a text has at most half as many words as characters,
rounded up; and there are texts with any number of words.

A text is cut at the first occurrence of a separator, and what stands behind it is split further.
The parts, with the separator between them, make the text again; before the last one nothing is left
to be cut.  Splitting from the right is the same seen in a mirror.

If no limit stops the cutting, no part holds the separator.  A separator that does not overlap
itself leaves only one way to cut a text into such parts, so for it both directions agree.  For any
other separator they differ.
-/

namespace PixelApplet.Text

variable {class_ : Char → Bool} {before core behind text : List Char}

/-! ## Trimming -/

theorem dropWhile_eq_self (begins : ∀ c ∈ core.head?, class_ c = false) :
    core.dropWhile class_ = core := by
  cases core with
  | nil => rfl
  | cons c core => rw [List.dropWhile_cons_of_neg (by simp [begins c rfl])]

theorem dropEndWhile_append (all : ∀ c ∈ behind, class_ c)
    (ends : ∀ c ∈ core.getLast?, class_ c = false) :
    dropEndWhile class_ (core ++ behind) = core := by
  have begins : ∀ c ∈ core.reverse.head?, class_ c = false := by rwa [List.head?_reverse]
  rw [dropEndWhile, List.reverse_append,
    List.dropWhile_append_of_pos fun c member => all c (List.mem_reverse.mp member),
    dropWhile_eq_self begins, List.reverse_reverse]

theorem trim_between (blankBefore : ∀ c ∈ before, isBlank c) (blankBehind : ∀ c ∈ behind, isBlank c)
    (nonempty : core ≠ []) (begins : ∀ c ∈ core.head?, isBlank c = false)
    (ends : ∀ c ∈ core.getLast?, isBlank c = false) : trim (before ++ core ++ behind) = core := by
  have begins' : ∀ c ∈ (core ++ behind).head?, isBlank c = false := by
    rwa [List.head?_append_of_ne_nil core nonempty]
  rw [trim, List.append_assoc, List.dropWhile_append_of_pos blankBefore, dropWhile_eq_self begins',
    dropEndWhile_append blankBehind ends]

theorem exists_dropEndWhile (class_ : Char → Bool) (text : List Char) :
    ∃ behind, (∀ c ∈ behind, class_ c) ∧ text = dropEndWhile class_ text ++ behind := by
  refine ⟨(text.reverse.takeWhile class_).reverse, fun c member => ?_, ?_⟩
  · exact List.mem_takeWhile_imp (List.mem_reverse.mp member)
  · rw [dropEndWhile, ← List.reverse_append, List.takeWhile_append_dropWhile, List.reverse_reverse]

/-- Only blank characters are left out, and only at the ends. -/
theorem exists_trim (text : List Char) : ∃ before behind, (∀ c ∈ before, isBlank c)
    ∧ (∀ c ∈ behind, isBlank c) ∧ text = before ++ trim text ++ behind := by
  obtain ⟨behind, blankBehind, cut⟩ := exists_dropEndWhile isBlank (text.dropWhile isBlank)
  refine ⟨text.takeWhile isBlank, behind, fun c => List.mem_takeWhile_imp, blankBehind, ?_⟩
  rw [List.append_assoc, trim, ← cut, List.takeWhile_append_dropWhile]

/-! ## Words -/

/-- The run of characters that are not blank at the front of a text, and the words behind it. -/
def frontAndWords (text : List Char) : List Char × List (List Char) :=
  text.foldr
    (fun c (run, runs) =>
      if isBlank c then ([], if run.isEmpty then runs else run :: runs) else (c :: run, runs))
    ([], [])

theorem words_eq (text : List Char) : words text
    = if (frontAndWords text).1.isEmpty then (frontAndWords text).2
      else (frontAndWords text).1 :: (frontAndWords text).2 :=
  rfl

theorem frontAndWords_cons (c : Char) (text : List Char) : frontAndWords (c :: text)
    = if isBlank c then ([], words text)
      else (c :: (frontAndWords text).1, (frontAndWords text).2) := by
  rw [words_eq]
  rfl

theorem words_cons_of_blank {c : Char} (blank : isBlank c) : words (c :: text) = words text := by
  rw [words_eq, frontAndWords_cons, if_pos blank]
  rfl

theorem words_cons_of_not_blank {c : Char} (solid : ¬ isBlank c) : words (c :: text)
    = (c :: (frontAndWords text).1) :: (frontAndWords text).2 := by
  rw [words_eq, frontAndWords_cons, if_neg solid]
  rfl

theorem length_words_le_of_front {n : Nat}
    (bound : (frontAndWords text).1.length + 2 * (frontAndWords text).2.length ≤ n) :
    2 * (words text).length ≤ n + 1 := by
  rw [words_eq]
  split
  · omega
  · rename_i present
    have := List.length_pos_of_ne_nil (mt List.isEmpty_iff.mpr present)
    rw [List.length_cons]
    omega

/-- Each word behind the front has a character of its own and a blank one before it. -/
theorem length_frontAndWords (text : List Char) :
    (frontAndWords text).1.length + 2 * (frontAndWords text).2.length ≤ text.length := by
  induction text with
  | nil => exact Nat.le_refl 0
  | cons c text ih =>
    have behind := length_words_le_of_front ih
    rw [frontAndWords_cons]
    split <;> simp only [List.length_nil, List.length_cons] <;> omega

theorem length_words_le (text : List Char) : 2 * (words text).length ≤ text.length + 1 :=
  length_words_le_of_front (length_frontAndWords text)

/-- One letter after the other, with a blank character before each. -/
def spaced : (letters : Nat) → List Char
  | 0 => []
  | letters + 1 => ' ' :: 'a' :: spaced letters

theorem length_words_spaced (letters : Nat) : (words (spaced letters)).length = letters := by
  induction letters with
  | zero => rfl
  | succ letters ih =>
    have front : (frontAndWords (spaced letters)).1 = [] := by cases letters <;> rfl
    rw [words_eq, front] at ih
    rw [spaced, words_cons_of_blank rfl, words_cons_of_not_blank (by decide)]
    exact congrArg Nat.succ ih

end PixelApplet.Text

/-! ## Occurrences

Looking for a piece from the left finds it wherever it stands in a text. -/

namespace PixelApplet.Text

theorem dropStart?_eq_some {piece text rest : List Char} :
    dropStart? piece text = some rest ↔ text = piece ++ rest := by
  induction piece generalizing text with
  | nil => simp [dropStart?]
  | cons p piece ih =>
    cases text with
    | nil => simp [dropStart?]
    | cons c text =>
      by_cases same : p = c
      · simp [dropStart?, same, ih]
      · simp [dropStart?, same, Ne.symm same]

theorem dropStart?_isSome {piece text : List Char} :
    (dropStart? piece text).isSome ↔ piece <+: text := by
  rw [Option.isSome_iff_exists]
  exact exists_congr fun rest => dropStart?_eq_some.trans eq_comm

theorem cutFrom?_isSome {piece seen text : List Char} :
    (cutFrom? piece seen text).isSome ↔ piece <:+: text := by
  induction text generalizing seen with
  | nil =>
    rw [cutFrom?, Option.isSome_map, dropStart?_isSome, List.prefix_nil, List.infix_nil]
  | cons c text ih =>
    rw [cutFrom?, List.infix_cons_iff, ← dropStart?_isSome]
    cases dropStart? piece (c :: text) with
    | none => simpa using ih
    | some rest => simp

theorem occursIn_iff {piece text : List Char} : occursIn piece text ↔ piece <:+: text :=
  cutFrom?_isSome

theorem contains_iff {s piece : String} : contains s piece ↔ piece.toList <:+: s.toList :=
  occursIn_iff

variable {piece separator text seen before behind front back : List Char} {cuts more : Nat}
  {parts : List (List Char)} {fromRight : Bool} {limit : Option Nat}

/-! ## The first occurrence -/

/-- A text is what stands before an occurrence of a piece, the piece, and what stands behind it, and
the piece occurs nowhere earlier. -/
structure IsFirstCut (piece text before behind : List Char) : Prop where
  whole : text = before ++ piece ++ behind
  first : ∀ shorter rest, text = shorter ++ piece ++ rest → before.length ≤ shorter.length

theorem IsFirstCut.unique {before' behind' : List Char} (cut : IsFirstCut piece text before behind)
    (cut' : IsFirstCut piece text before' behind') : before = before' ∧ behind = behind' := by
  have same : before.length = before'.length :=
    Nat.le_antisymm (cut.first _ _ cut'.whole) (cut'.first _ _ cut.whole)
  have whole := cut.whole.symm.trans cut'.whole
  rw [List.append_assoc, List.append_assoc] at whole
  obtain ⟨rfl, rest⟩ := List.append_inj whole same
  exact ⟨rfl, List.append_cancel_left rest⟩

/-- What stands before the first occurrence of a piece does not hold it. -/
theorem IsFirstCut.free (nonempty : piece ≠ []) (cut : IsFirstCut piece text before behind) :
    ¬ piece <:+: before := by
  rintro ⟨shorter, rest, rfl⟩
  have earlier := cut.first shorter (rest ++ piece ++ behind) (by
    rw [cut.whole]
    simp only [List.append_assoc])
  have := List.length_pos_of_ne_nil nonempty
  simp only [List.length_append] at earlier
  omega

theorem IsFirstCut.length_behind (nonempty : piece ≠ [])
    (cut : IsFirstCut piece text before behind) : behind.length < text.length := by
  have := List.length_pos_of_ne_nil nonempty
  rw [cut.whole, List.length_append, List.length_append]
  omega

theorem cutFrom?_isFirstCut (found : cutFrom? piece seen text = some (before, behind)) :
    ∃ passed, before = seen.reverse ++ passed ∧ IsFirstCut piece text passed behind := by
  induction text generalizing seen with
  | nil =>
    obtain ⟨rest, starts, same⟩ := Option.map_eq_some_iff.mp found
    cases same
    exact ⟨[], (List.append_nil _).symm, dropStart?_eq_some.mp starts, fun _ _ _ => Nat.zero_le _⟩
  | cons c text ih =>
    rw [cutFrom?] at found
    cases starts : dropStart? piece (c :: text) with
    | some rest =>
      rw [starts] at found
      cases found
      exact ⟨[], (List.append_nil _).symm, dropStart?_eq_some.mp starts, fun _ _ _ => Nat.zero_le _⟩
    | none =>
      rw [starts] at found
      obtain ⟨passed, rfl, cut⟩ := ih found
      refine ⟨c :: passed, by simp, congrArg (c :: ·) cut.whole, fun shorter rest whole => ?_⟩
      cases shorter with
      | nil =>
        have starts' : dropStart? piece (c :: text) = some rest := dropStart?_eq_some.mpr whole
        rw [starts] at starts'
        cases starts'
      | cons d shorter =>
        obtain ⟨-, tail⟩ := List.cons.inj whole
        exact Nat.succ_le_succ (cut.first shorter rest tail)

theorem cutFirst?_eq_some_iff :
    cutFirst? piece text = some (before, behind) ↔ IsFirstCut piece text before behind := by
  have sound {before behind : List Char} (found : cutFirst? piece text = some (before, behind)) :
      IsFirstCut piece text before behind := by
    obtain ⟨passed, rfl, cut⟩ := cutFrom?_isFirstCut found
    exact cut
  refine ⟨sound, fun cut => ?_⟩
  have occurs : (cutFirst? piece text).isSome :=
    cutFrom?_isSome.mpr ⟨before, behind, cut.whole.symm⟩
  obtain ⟨⟨before', behind'⟩, found⟩ := Option.isSome_iff_exists.mp occurs
  obtain ⟨rfl, rfl⟩ := cut.unique (sound found)
  exact found

theorem cutFirst?_eq_none_iff : cutFirst? piece text = none ↔ ¬ piece <:+: text := by
  rw [← cutFrom?_isSome, Bool.not_eq_true, Option.isSome_eq_false_iff, Option.isNone_iff_eq_none,
    cutFirst?]

/-! ## Joining -/

theorem intercalate_concat (present : parts ≠ []) (part : List Char) :
    separator.intercalate (parts ++ [part]) = separator.intercalate parts ++ separator ++ part := by
  induction parts with
  | nil => exact absurd rfl present
  | cons first parts ih =>
    cases parts with
    | nil => rw [List.singleton_append, List.intercalate_cons_cons, List.intercalate_singleton,
        List.intercalate_singleton]
    | cons second parts =>
      rw [List.cons_append, List.cons_append, List.intercalate_cons_cons, ← List.cons_append,
        ih (List.cons_ne_nil _ _), List.intercalate_cons_cons]
      simp only [List.append_assoc]

/-- Joining seen in a mirror. -/
theorem intercalate_reverse (parts : List (List Char)) :
    separator.reverse.intercalate (parts.reverse.map List.reverse)
      = (separator.intercalate parts).reverse := by
  induction parts with
  | nil => rfl
  | cons first parts ih =>
    cases parts with
    | nil => simp
    | cons second parts =>
      rw [List.reverse_cons, List.map_append, List.map_singleton,
        intercalate_concat (by simp), ih, List.intercalate_cons_cons, List.reverse_append,
        List.reverse_append, List.append_assoc]

/-- Every separator has a place of its own in what is joined. -/
theorem length_le_of_intercalate (nonempty : separator ≠ []) :
    parts.length ≤ (separator.intercalate parts).length + 1 := by
  have := List.length_pos_of_ne_nil nonempty
  induction parts with
  | nil => exact Nat.zero_le _
  | cons first parts ih =>
    cases parts with
    | nil => exact Nat.succ_le_succ (Nat.zero_le _)
    | cons second parts =>
      rw [List.intercalate_cons_cons, List.length_append, List.length_append, List.length_cons]
      omega

/-! ## Parts -/

/-- The parts of a text at a separator, with at most so many cuts if they are limited.  Splitting
from the left leaves what is not split to the last part, splitting from the right to the first. -/
structure Splits (fromRight : Bool) (separator : List Char) (limit : Option Nat) (text : List Char)
    (parts : List (List Char)) : Prop where
  present : parts ≠ []
  joined : separator.intercalate parts = text
  few : ∀ cuts ∈ limit, parts.length ≤ cuts + 1
  free : (∀ cuts ∈ limit, parts.length < cuts + 1) → ∀ part ∈ parts, ¬ separator <:+: part
  clean : ∀ part ∈ (if fromRight then parts.tail else parts.dropLast), ¬ separator <:+: part

theorem Splits.reverse (splits : Splits fromRight separator limit text parts) :
    Splits (!fromRight) separator.reverse limit text.reverse (parts.reverse.map List.reverse) where
  present := by simp [splits.present]
  joined := by rw [intercalate_reverse, splits.joined]
  few cuts is := by
    rw [List.length_map, List.length_reverse]
    exact splits.few cuts is
  free short part member := by
    rw [List.length_map, List.length_reverse] at short
    obtain ⟨other, inside, rfl⟩ := List.mem_map.mp member
    rw [List.reverse_infix]
    exact splits.free short other (List.mem_reverse.mp inside)
  clean part member := by
    have mirrored : (if !fromRight then (parts.reverse.map List.reverse).tail
          else (parts.reverse.map List.reverse).dropLast)
        = (if fromRight then parts.tail else parts.dropLast).reverse.map List.reverse := by
      cases fromRight <;> simp [← List.map_tail, ← List.map_dropLast, List.tail_reverse]
    rw [mirrored] at member
    obtain ⟨other, inside, rfl⟩ := List.mem_map.mp member
    rw [List.reverse_infix]
    exact splits.clean other (List.mem_reverse.mp inside)

/-- A text that the cutting leaves as it is. -/
theorem splits_single (rest : (∀ cuts ∈ limit, 1 < cuts + 1) → ¬ separator <:+: text) :
    Splits false separator limit text [text] where
  present := List.cons_ne_nil _ _
  joined := List.intercalate_singleton
  few cuts _ := Nat.le_add_left 1 cuts
  free short := by simpa using rest short
  clean := by simp

theorem splits_cons (nonempty : separator ≠ []) (cut : IsFirstCut separator text before behind)
    (rest : Splits false separator (some cuts) behind parts) :
    Splits false separator (some (cuts + 1)) text (before :: parts) where
  present := List.cons_ne_nil _ _
  joined := by
    rw [List.intercalate_cons_of_ne_nil rest.present, rest.joined, cut.whole]
  few := by
    have := rest.few cuts rfl
    rintro _ ⟨⟩
    exact Nat.succ_le_succ this
  free short part member := by
    rcases List.mem_cons.mp member with rfl | member
    · exact cut.free nonempty
    · refine rest.free ?_ part member
      rintro _ ⟨⟩
      exact Nat.lt_of_succ_lt_succ (short _ rfl)
  clean part member := by
    rw [if_neg Bool.false_ne_true, List.dropLast_cons_of_ne_nil rest.present] at member
    rcases List.mem_cons.mp member with rfl | member
    · exact cut.free nonempty
    · exact rest.clean part member

theorem splits_splitAtMost (nonempty : separator ≠ []) :
    Splits false separator (some cuts) text (splitAtMost separator cuts text) := by
  induction cuts generalizing text with
  | zero =>
    refine splits_single fun short => ?_
    exact absurd (short 0 rfl) (Nat.lt_irrefl 1)
  | succ cuts ih =>
    rw [splitAtMost]
    cases found : cutFirst? separator text with
    | none => exact splits_single fun _ => cutFirst?_eq_none_iff.mp found
    | some cut => exact splits_cons nonempty (cutFirst?_eq_some_iff.mp found) ih

theorem splits_splitOn (nonempty : separator ≠ []) :
    Splits fromRight separator none text (splitOn separator text) := by
  have splits : Splits false separator (some (text.length + 1)) text (splitOn separator text) :=
    splits_splitAtMost nonempty
  have short := @length_le_of_intercalate separator (splitOn separator text) nonempty
  rw [splits.joined] at short
  -- more cuts are admitted than the text has places for, so none of them stops the cutting
  have free : ∀ part ∈ splitOn separator text, ¬ separator <:+: part := by
    refine splits.free ?_
    rintro _ ⟨⟩
    omega
  refine ⟨splits.present, splits.joined, nofun, fun _ => free, fun part member => free part ?_⟩
  split at member
  · exact List.mem_of_mem_tail member
  · exact List.mem_of_mem_dropLast member

theorem splits_splitLastAtMost (nonempty : separator ≠ []) :
    Splits true separator (some cuts) text (splitLastAtMost separator cuts text) := by
  have splits := (@splits_splitAtMost separator.reverse text.reverse cuts
    (by simpa using nonempty)).reverse
  rwa [List.reverse_reverse, List.reverse_reverse] at splits

/-! ## Limits that are never reached -/

/-- A text has no more occurrences to cut at than characters. -/
theorem splitAtMost_of_length_le (nonempty : separator ≠ []) (enough : text.length ≤ cuts)
    (larger : cuts ≤ more) : splitAtMost separator more text = splitAtMost separator cuts text := by
  induction cuts generalizing text more with
  | zero =>
    obtain rfl := List.length_eq_zero_iff.mp (Nat.le_zero.mp enough)
    have none : cutFirst? separator [] = .none :=
      cutFirst?_eq_none_iff.mpr (mt List.infix_nil.mp nonempty)
    cases more with
    | zero => rfl
    | succ more => rw [splitAtMost, splitAtMost, none]
  | succ cuts ih =>
    obtain ⟨more, rfl⟩ := Nat.exists_eq_succ_of_ne_zero (Nat.ne_of_gt (Nat.zero_lt_of_lt larger))
    rw [splitAtMost, splitAtMost]
    cases found : cutFirst? separator text with
    | none => rfl
    | some cut =>
      have shorter := (cutFirst?_eq_some_iff.mp found).length_behind nonempty
      exact congrArg (cut.1 :: ·) (ih (by omega) (Nat.le_of_succ_le_succ larger))

theorem splitAtMost_eq_splitOn (nonempty : separator ≠ []) (enough : text.length ≤ cuts) :
    splitAtMost separator cuts text = splitOn separator text :=
  (splitAtMost_of_length_le nonempty (Nat.le_refl _) enough).trans
    (splitAtMost_of_length_le nonempty (Nat.le_refl _) (Nat.le_succ _)).symm

/-- Splitting from the right as often as possible is splitting seen in a mirror. -/
theorem splitLastAtMost_eq_splitOn (nonempty : separator ≠ []) (enough : text.length ≤ cuts) :
    splitLastAtMost separator cuts text
      = (splitOn separator.reverse text.reverse).reverse.map List.reverse := by
  rw [splitLastAtMost, splitAtMost_eq_splitOn (by simpa using nonempty)
    (by rwa [List.length_reverse])]

/-! ## Overlapping occurrences -/

/-- Two occurrences of a separator can overlap: an end of it is a beginning of it, too. -/
def Overlaps (separator : List Char) : Prop :=
  ∃ border front back, border ≠ [] ∧ front ≠ [] ∧ separator = front ++ border
    ∧ separator = border ++ back

/-- Behind a text that does not hold the separator, a separator that overlaps no other is the first.
-/
theorem isFirstCut_of_free (regular : ¬ Overlaps separator) (free : ¬ separator <:+: before) :
    IsFirstCut separator (before ++ separator ++ behind) before behind where
  whole := rfl
  first shorter rest whole := by
    by_contra earlier
    rw [List.append_assoc, List.append_assoc] at whole
    rcases List.append_eq_append_iff.mp whole with ⟨later, rfl, -⟩ | ⟨front, rfl, starts⟩
    · exact earlier (by simp)
    have nonempty : front ≠ [] := by
      rintro rfl
      exact earlier (by simp)
    -- the earlier occurrence ends before the other one begins, or they overlap
    rcases List.append_eq_append_iff.mp starts with ⟨inside, rfl, -⟩ | ⟨border, parts, ends⟩
    · exact free ⟨shorter, inside, List.append_assoc _ _ _⟩
    have overlap : border ≠ [] := by
      rintro rfl
      rw [List.append_nil] at parts
      exact free ⟨shorter, [], by rw [parts, List.append_nil]⟩
    rcases List.append_eq_append_iff.mp ends with ⟨longer, tooLong, -⟩ | ⟨back, parts', -⟩
    · have lengths := congrArg List.length parts
      have := List.length_pos_of_ne_nil nonempty
      rw [tooLong, List.length_append, List.length_append] at lengths
      omega
    · exact regular ⟨border, front, back, overlap, nonempty, parts, parts'⟩

theorem splitAtMost_of_free (free : ¬ separator <:+: text) :
    splitAtMost separator cuts text = [text] := by
  cases cuts with
  | zero => rfl
  | succ cuts => rw [splitAtMost, cutFirst?_eq_none_iff.mpr free]

/-- Parts that do not hold such a separator are what joining them is split into. -/
theorem splitAtMost_intercalate (regular : ¬ Overlaps separator) (present : parts ≠ [])
    (free : ∀ part ∈ parts, ¬ separator <:+: part) (enough : parts.length ≤ cuts + 1) :
    splitAtMost separator cuts (separator.intercalate parts) = parts := by
  induction parts generalizing cuts with
  | nil => exact absurd rfl present
  | cons first parts ih =>
    rw [List.forall_mem_cons] at free
    cases parts with
    | nil =>
      rw [List.intercalate_singleton, splitAtMost_of_free free.1]
    | cons second parts =>
      obtain ⟨cuts, rfl⟩ : ∃ others, cuts = others + 1 :=
        Nat.exists_eq_succ_of_ne_zero (by rintro rfl; simp at enough)
      rw [List.intercalate_cons_cons, splitAtMost,
        cutFirst?_eq_some_iff.mpr (isFirstCut_of_free regular free.1)]
      exact congrArg (first :: ·) (ih (List.cons_ne_nil _ _) free.2 (Nat.le_of_succ_le_succ enough))

/-- For such a separator, splitting from the right as often as possible is splitting from the left.
-/
theorem splitLastAtMost_of_not_overlaps (nonempty : separator ≠ [])
    (regular : ¬ Overlaps separator) (enough : text.length ≤ cuts) :
    splitLastAtMost separator cuts text = splitOn separator text := by
  have splits : Splits false separator none text (splitLastAtMost separator cuts text) := by
    have mirrored := (@splits_splitOn separator.reverse text.reverse true
      (by simpa using nonempty)).reverse
    rwa [List.reverse_reverse, List.reverse_reverse, ← splitLastAtMost_eq_splitOn nonempty enough]
      at mirrored
  have short : (splitLastAtMost separator cuts text).length ≤ text.length + 1 := by
    rw [← congrArg List.length splits.joined]
    exact length_le_of_intercalate nonempty
  have whole := splitAtMost_intercalate regular splits.present (splits.free nofun)
    (Nat.le_succ_of_le short)
  rw [splits.joined] at whole
  exact whole.symm

/-- A separator at the front is cut off, and in what is shorter than it there is no other one. -/
theorem splitAtMost_append (short : back.length < separator.length) :
    splitAtMost separator (cuts + 1) (separator ++ back) = [[], back] := by
  have cut : IsFirstCut separator (separator ++ back) [] back :=
    ⟨rfl, fun _ _ _ => Nat.zero_le _⟩
  have free : ¬ separator <:+: back := fun occurs => Nat.not_lt.mpr occurs.length_le short
  rw [splitAtMost, cutFirst?_eq_some_iff.mpr cut]
  exact congrArg ([] :: ·) (splitAtMost_of_free free)

theorem splitLastAtMost_append (short : front.length < separator.length) :
    splitLastAtMost separator (cuts + 1) (front ++ separator) = [front, []] := by
  rw [splitLastAtMost, List.reverse_append, splitAtMost_append (by simpa using short)]
  simp

/-- Two overlapping occurrences, of which either direction cuts at another one. -/
theorem exists_splitLastAtMost_ne (overlaps : Overlaps separator) :
    ∃ text, splitLastAtMost separator text.length text ≠ splitOn separator text := by
  obtain ⟨border, front, back, present, shifted, begins, ends⟩ := overlaps
  have := List.length_pos_of_ne_nil present
  have := List.length_pos_of_ne_nil shifted
  have frontShort : front.length < separator.length := by
    rw [begins, List.length_append]
    omega
  have backShort : back.length < separator.length := by
    rw [ends, List.length_append]
    omega
  -- the text of both occurrences: from the left one is found at once, from the right the other
  have same : front ++ separator = separator ++ back := by
    rw [ends, ← List.append_assoc, ← begins, ends]
  obtain ⟨cuts, enough⟩ : ∃ cuts, (front ++ separator).length = cuts + 1 :=
    Nat.exists_eq_succ_of_ne_zero (by rw [List.length_append]; omega)
  refine ⟨front ++ separator, ?_⟩
  rw [enough, splitLastAtMost_append frontShort, same, splitOn, splitAtMost_append backShort]
  exact fun equal => shifted (List.cons.inj equal).1

/-- Both directions agree on every text exactly if the separator does not overlap itself. -/
theorem splitLastAtMost_eq_splitOn_iff (nonempty : separator ≠ []) :
    (∀ (text : List Char) (cuts : Nat), text.length ≤ cuts →
      splitLastAtMost separator cuts text = splitOn separator text) ↔ ¬ Overlaps separator := by
  constructor
  · intro agree overlaps
    obtain ⟨text, differ⟩ := exists_splitLastAtMost_ne overlaps
    exact differ (agree text text.length (Nat.le_refl _))
  · exact fun regular _ _ enough => splitLastAtMost_of_not_overlaps nonempty regular enough

/-- The two occurrences in three letters share the middle one. -/
example : splitLastAtMost ['a', 'a'] 3 ['a', 'a', 'a'] = [['a'], []]
    ∧ splitOn ['a', 'a'] ['a', 'a', 'a'] = [[], ['a']] := by decide

end PixelApplet.Text
