import Mathlib.Data.Option.Basic
import PixelApplet.Library.TextMethods
import PixelApplet.Proofs.Machine.Courses
import PixelApplet.Proofs.Text.Splitting
import PixelApplet.Proofs.Value.Sound

/-!
# Splitting and joining texts

A text that is split at a separator, from whichever side and with whatever limit, is given back by
joining the pieces with the separator.  A limit that is not negative admits one piece more than
cuts, and no piece holds the separator unless the limit keeps it from being split further.

A limit of as many cuts as the text has characters is no limit, with two exceptions.  Words are not
limited at all.  And without a limit splitting starts from the left, even where it is asked for from
the right, so that the pieces are others if the separator overlaps itself.
-/

namespace PixelApplet

namespace TextMethods

variable {arguments arguments' : Arguments} {chosen : Option String} {separator text : String}
  {limit : Option Int64} {fromRight : Bool} {m : Machine} {cuts : Nat}

/-- The method that splits a text from a side. -/
def splitting : (fromRight : Bool) → StringMethod
  | true => .rsplit
  | false => .split

/-- Arguments that give a separator and a limit for splitting, or leave them out. -/
inductive Asks (chosen : Option String) (limit : Option Int64) : Arguments → Prop where
  | received {arguments : Arguments} {first second : Slot}
    (unpacked : arguments.unpack [.optional "sep", .optional "maxsplit"] = .ok [first, second])
    (separated : first.text "sep" = .ok chosen) (limited : second.int "maxsplit" = .ok limit) :
    Asks chosen limit arguments

/-- Every separator and every limit can be asked for. -/
theorem asks_ofList (chosen : Option String) (limit : Option Int64) :
    Asks chosen limit (.ofList [chosen.elim .none .str, limit.elim .none .int]) := by
  refine .received rfl ?_ ?_
  · cases chosen <;> rfl
  · cases limit <;> rfl

/-- The number of cuts to which a limit restricts; a negative one does not restrict. -/
def cutsWithin (limit : Option Int64) : Option Nat :=
  (limit.filter (· ≥ 0)).map fun n => n.toInt.toNat

theorem mem_cutsWithin : cuts ∈ cutsWithin limit ↔ ∃ n ∈ limit, n.toInt = cuts := by
  rw [cutsWithin, Option.mem_map]
  constructor
  · rintro ⟨n, inside, rfl⟩
    obtain ⟨given, natural⟩ := Option.mem_filter_iff.mp inside
    have natural : 0 ≤ n.toInt := Int64.le_iff_toInt_le.mp (of_decide_eq_true natural)
    exact ⟨n, given, (Int.toNat_of_nonneg natural).symm⟩
  · rintro ⟨n, given, is⟩
    have natural : 0 ≤ n := Int64.le_iff_toInt_le.mpr (is ▸ Int.natCast_nonneg cuts)
    have kept : n ∈ limit.filter (· ≥ 0) :=
      Option.mem_filter_iff.mpr ⟨given, decide_eq_true natural⟩
    exact ⟨n, kept, (congrArg Int.toNat is).trans (Int.toNat_natCast cuts)⟩

/-! ## Runs -/

/-- Splitting refuses the empty separator, and otherwise makes a list of the pieces. -/
theorem run_splitting (asks : Asks chosen limit arguments) (fromRight : Bool) (text : String)
    (m : Machine) :
    run (splitting fromRight) text arguments m
      = if chosen = some "" then
          Eval.fail s!"{(splitting fromRight).name}: empty separator" m
        else
          newTexts (pieces fromRight (chosen.map String.toList) (cutsWithin limit) text.toList)
            m := by
  obtain ⟨unpacked, separated, limited⟩ := asks
  rename_i first second
  have ran : run (splitting fromRight) text arguments m
      = split (splitting fromRight).name fromRight text arguments m := by
    cases fromRight <;> rfl
  generalize (splitting fromRight).name = function at ran ⊢
  rw [ran, split, Eval.bind_ok (Eval.receive_of_unpack unpacked m),
    Eval.bind_ok (Eval.text?_of_slot separated m), Eval.bind_ok (Eval.int?_of_slot limited m)]
  split <;> rfl

/-- Joining the texts of a list changes nothing. -/
theorem run_join {ref : ListRef} {parts : List String} (separator : String)
    (holds : (m.heap.list ref).items = (parts.map Value.str).toArray) :
    run .join separator (.ofList [.list ref]) m = .ok (.str (separator.intercalate parts)) m := by
  have one : receiveOne "join" (.ofList [.list ref]) m = .ok (.list ref) m := rfl
  have items : Eval.iterate (.list ref) m = .ok (parts.map Value.str) m := by
    show EStateM.Result.ok (m.heap.list ref).items.toList m = _
    rw [holds]
  show join separator (.ofList [.list ref]) m = _
  rw [join, Eval.bind_ok one, Eval.bind_ok items, List.mapM_map]
  exact Eval.bind_ok (congrArg (fun act : Eval (List String) => act m)
    (List.mapM_pure.trans (congrArg pure (List.map_id parts))))

/-! ## Pieces -/

/-- A list of texts, given by their characters. -/
theorem newTexts_toList (parts : List String) :
    newTexts (parts.map String.toList) = Eval.newList (parts.map Value.str) := by
  rw [newTexts, List.map_map]
  exact congrArg Eval.newList (List.map_congr_left fun part _ =>
    congrArg Value.str String.ofList_toList)

theorem exists_texts (parts : List (List Char)) :
    ∃ texts : List String, parts = texts.map String.toList := by
  refine ⟨parts.map String.ofList, ?_⟩
  rw [List.map_map]
  exact ((List.map_congr_left fun part _ => String.toList_ofList).trans (List.map_id parts)).symm

theorem splits_pieces {separator : List Char} (nonempty : separator ≠ []) (fromRight : Bool)
    (limit : Option Nat) (text : List Char) :
    Text.Splits fromRight separator limit text (pieces fromRight (some separator) limit text) := by
  cases limit with
  | none => exact Text.splits_splitOn nonempty
  | some cuts =>
    cases fromRight with
    | false => exact Text.splits_splitAtMost nonempty
    | true => exact Text.splits_splitLastAtMost nonempty

/-- Splitting a text and joining the pieces with the separator gives the text back.  There is at
most one piece more than the limit says.  If there are fewer, or if there is no limit, no piece holds
the separator; otherwise only the last one may, or the first one where splitting starts from the
right. -/
theorem splitting_joins (asks : Asks (some separator) limit arguments) (nonempty : separator ≠ "")
    (fromRight : Bool) (text : String) (m : Machine) :
    ∃ (parts : List String) (m' : Machine),
      m' = { m with heap := m.heap.addList ⟨(parts.map Value.str).toArray, false⟩ }
      ∧ run (splitting fromRight) text arguments m = .ok (.list m.heap.nextList) m'
      ∧ run .join separator (.ofList [.list m.heap.nextList]) m' = .ok (.str text) m'
      ∧ (∀ n ∈ limit, 0 ≤ n.toInt → parts.length ≤ n.toInt + 1)
      ∧ ((∀ n ∈ limit, 0 ≤ n.toInt → parts.length < n.toInt + 1) →
          ∀ part ∈ parts, ¬ separator.toList <:+: part.toList)
      ∧ ∀ part ∈ (if fromRight then parts.tail else parts.dropLast),
          ¬ separator.toList <:+: part.toList := by
  have allowed : some separator ≠ some "" := fun same => nonempty (Option.some.inj same)
  have nonempty' : separator.toList ≠ [] := mt String.toList_eq_nil_iff.mp nonempty
  have splits := splits_pieces nonempty' fromRight (cutsWithin limit) text.toList
  have ran := run_splitting asks fromRight text m
  rw [if_neg allowed, Option.map_some] at ran
  obtain ⟨parts, made⟩ := exists_texts
    (pieces fromRight (some separator.toList) (cutsWithin limit) text.toList)
  rw [made] at splits
  rw [made, newTexts_toList] at ran
  have joined : separator.intercalate parts = text := by
    rw [← String.toList_inj, String.toList_intercalate, splits.joined]
  have within {n : Int64} (given : n ∈ limit) (natural : 0 ≤ n.toInt) :
      n.toInt.toNat ∈ cutsWithin limit :=
    mem_cutsWithin.mpr ⟨n, given, (Int.toNat_of_nonneg natural).symm⟩
  refine ⟨parts, _, rfl, ran, ?_, fun n given natural => ?_, fun fewer part member => ?_,
    fun part member => ?_⟩
  · rw [run_join separator, joined]
    rw [Heap.list_addList, if_pos rfl]
  · have few := splits.few _ (within given natural)
    rw [List.length_map] at few
    omega
  · refine splits.free (fun cuts inside => ?_) _ (List.mem_map_of_mem member)
    obtain ⟨n, given, is⟩ := mem_cutsWithin.mp inside
    have := fewer n given (by omega)
    rw [List.length_map]
    omega
  · refine splits.clean _ ?_
    rw [← List.map_tail, ← List.map_dropLast, ← apply_ite]
    exact List.mem_map_of_mem member

/-- One cut from the right, at the last of three occurrences that overlap. -/
theorem splitting_joins_overlapping :
    Asks (some "aa") (some 1) (.ofList [.str "aa", .int 1]) ∧ "aa" ≠ ""
      ∧ ∃ m' : Machine,
        (m'.heap.list (Machine.initial (.under [])).heap.nextList).items = #[.str "baa", .str "b"]
        ∧ run .rsplit "baaaab" (.ofList [.str "aa", .int 1]) (.initial (.under []))
          = .ok (.list (Machine.initial (.under [])).heap.nextList) m'
        ∧ run .join "aa" (.ofList [.list (Machine.initial (.under [])).heap.nextList]) m'
          = .ok (.str "baaaab") m' := by
  have asks : Asks (some "aa") (some 1) (.ofList [.str "aa", .int 1]) := asks_ofList _ _
  have nonempty : "aa" ≠ "" := by decide
  obtain ⟨parts, m', -, ran, joined, -⟩ :=
    splitting_joins asks nonempty true "baaaab" (.initial (.under []))
  have computed : run .rsplit "baaaab" (.ofList [.str "aa", .int 1]) (.initial (.under []))
      = Eval.newList [.str "baa", .str "b"] (.initial (.under [])) := rfl
  refine ⟨asks, nonempty, m', ?_, ran, joined⟩
  obtain ⟨-, rfl⟩ := EStateM.Result.ok.inj (ran.symm.trans computed)
  rfl

/-! ## Limits -/

theorem pieces_beyond_length {separator : Option (List Char)} {text : List Char}
    (present : separator ≠ some [])
    (regular : fromRight → ∀ piece ∈ separator, ¬ Text.Overlaps piece)
    (far : text.length ≤ cuts) :
    pieces fromRight separator (some cuts) text = pieces fromRight separator none text := by
  cases separator with
  | none => rfl
  | some separator =>
    have nonempty : separator ≠ [] := fun same => present (congrArg some same)
    cases fromRight with
    | false => exact Text.splitAtMost_eq_splitOn nonempty far
    | true => exact Text.splitLastAtMost_of_not_overlaps nonempty (regular rfl separator rfl) far

/-- A limit of as many cuts as the text has characters may be left out, from the right if the
separator does not overlap itself. -/
theorem run_splitting_beyond_length {n : Int64} (asks : Asks chosen (some n) arguments)
    (unlimited : Asks chosen none arguments')
    (regular : fromRight → ∀ separator ∈ chosen, ¬ Text.Overlaps separator.toList)
    (far : text.toList.length ≤ n.toInt) (m : Machine) :
    run (splitting fromRight) text arguments m = run (splitting fromRight) text arguments' m := by
  rw [run_splitting asks, run_splitting unlimited]
  by_cases empty : chosen = some ""
  · rw [if_pos empty, if_pos empty]
  have within : cutsWithin (some n) = some n.toInt.toNat :=
    mem_cutsWithin.mpr ⟨n, rfl, (Int.toNat_of_nonneg (by omega)).symm⟩
  rw [if_neg empty, if_neg empty, within, pieces_beyond_length ?_ ?_ (by omega)]
  · rfl
  · intro none
    obtain ⟨separator, is, none⟩ := Option.map_eq_some_iff.mp none
    exact empty (is.trans (congrArg some (String.toList_eq_nil_iff.mp none)))
  · intro right piece member
    obtain ⟨separator, is, rfl⟩ := Option.map_eq_some_iff.mp member
    exact regular right separator is

/-- Words are told apart whatever the limit is. -/
theorem run_splitting_words (asks : Asks none limit arguments) (fromRight : Bool) (text : String)
    (m : Machine) :
    run (splitting fromRight) text arguments m = newTexts (Text.words text.toList) m := by
  rw [run_splitting asks, if_neg nofun]
  rfl

/-- No limit bounds their number. -/
theorem exists_pieces (asks : Asks none limit arguments) (fromRight : Bool) (many : Nat)
    (m : Machine) : ∃ (text : String) (parts : List (List Char)), parts.length = many
      ∧ run (splitting fromRight) text arguments m = newTexts parts m := by
  refine ⟨String.ofList (Text.spaced many), _, Text.length_words_spaced many, ?_⟩
  rw [run_splitting_words asks, String.toList_ofList]

example : pieces false none (some 1) ['a', ' ', 'b', ' ', 'c'] = [['a'], ['b'], ['c']] := by decide

end TextMethods

end PixelApplet
