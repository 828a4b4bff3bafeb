import PixelApplet.Proofs.Library.Sorting

/-!
# Extremes and descending order

Where the order ranks the keys, sorting succeeds.  The least item comes to its front, and one pass
that keeps the best item so far finds the same one: the earliest of those with the least key.
Looking for the greatest key, the pass finds the earliest of those with the greatest one.

Sorting backwards turns the sorted list round.  The keys descend then, but items with tied keys come
in the reverse of the order they had.
-/

namespace PixelApplet

/-! ## Ranked keys -/

namespace Value

variable {h : Heap} {x y z : Value} {keys : List Value} {wanted : Ordering}

theorem tie_of_notBelow (first : NotBelow h x y) (second : NotBelow h y x) :
    x.order h y = .ok .eq := by
  obtain ⟨o, compared, notLess⟩ := first
  obtain ⟨o', compared', notLess'⟩ := second
  rw [order_turns compared] at compared'
  cases compared'
  cases o with
  | lt => exact absurd rfl notLess
  | eq => exact compared
  | gt => exact absurd rfl notLess'

theorem Ranked.tie_self (ranked : Ranked h keys) (member : x ∈ keys) : x.order h x = .ok .eq :=
  have reflexive := (ranked.total x member x member).elim id id
  tie_of_notBelow reflexive reflexive

/-- A value stands to another one in a wanted order, or is tied with it. -/
def AtLeast (h : Heap) (wanted : Ordering) (x y : Value) : Prop :=
  ∃ o, x.order h y = .ok o ∧ (o = wanted ∨ o = .eq)

theorem atLeast_lt_iff : AtLeast h .lt x y ↔ NotBelow h y x := by
  constructor
  · rintro ⟨o, compared, rfl | rfl⟩
    · exact notBelow_of_less compared
    · exact (notBelow_of_tie compared).2
  · rintro ⟨o, compared, notLess⟩
    refine ⟨o.swap, order_turns compared, ?_⟩
    cases o <;> simp_all

theorem atLeast_gt_iff : AtLeast h .gt x y ↔ NotBelow h x y := by
  constructor
  · rintro ⟨o, compared, rfl | rfl⟩ <;> exact ⟨_, compared, by decide⟩
  · rintro ⟨o, compared, notLess⟩
    refine ⟨o, compared, ?_⟩
    cases o <;> simp_all

theorem notBelow_int_iff {a b : Int64} : NotBelow h (.int a) (.int b) ↔ b.toInt ≤ a.toInt := by
  have compared : (Value.int a).order h (.int b) = .ok (compare a.toInt b.toInt) := rfl
  constructor
  · rintro ⟨o, made, notLess⟩
    rw [compared] at made
    cases made
    exact Int.not_lt.mp (mt compare_lt_iff_lt.mpr notLess)
  · exact fun most => ⟨_, compared, mt compare_lt_iff_lt.mp (Int.not_lt.mpr most)⟩

/-- The order ranks ints. -/
theorem ranked_ints (h : Heap) (ints : List Int64) : Ranked h (ints.map .int) where
  total x member y member' := by
    obtain ⟨a, -, rfl⟩ := List.mem_map.mp member
    obtain ⟨b, -, rfl⟩ := List.mem_map.mp member'
    rw [notBelow_int_iff, notBelow_int_iff]
    exact Int.le_total b.toInt a.toInt
  trans x member y member' z member'' first second := by
    obtain ⟨a, -, rfl⟩ := List.mem_map.mp member
    obtain ⟨b, -, rfl⟩ := List.mem_map.mp member'
    obtain ⟨c, -, rfl⟩ := List.mem_map.mp member''
    rw [notBelow_int_iff] at *
    exact Int.le_trans second first

theorem Ranked.atLeast_trans (ranked : Ranked h keys) (proper : wanted ≠ .eq) (inside : x ∈ keys)
    (inside' : y ∈ keys) (inside'' : z ∈ keys) (first : AtLeast h wanted x y)
    (second : AtLeast h wanted y z) : AtLeast h wanted x z := by
  cases wanted with
  | lt =>
    rw [atLeast_lt_iff] at *
    exact ranked.trans z inside'' y inside' x inside second first
  | eq => exact absurd rfl proper
  | gt =>
    rw [atLeast_gt_iff] at *
    exact ranked.trans x inside y inside' z inside'' first second

/-- Values of a ranking stand in a wanted order exactly if the second is not as good as the
first. -/
theorem Ranked.order_eq_wanted_iff (ranked : Ranked h keys) (proper : wanted ≠ .eq)
    (inside : x ∈ keys) (inside' : y ∈ keys) :
    x.order h y = .ok wanted ↔ ¬ AtLeast h wanted y x := by
  obtain ⟨o, compared⟩ := ranked.compared inside inside'
  unfold AtLeast
  rw [compared, order_turns compared]
  cases o <;> cases wanted <;> simp_all

end Value

namespace Sorting

open Value (NotBelow Ranked AtLeast)

variable {h : Heap} {wanted o : Ordering} {keys : List Value}
  {entries ordered seen rest : List Keyed} {entry best found : Keyed}

theorem sort_of_ranked (ranked : Ranked h keys) (within : ∀ entry ∈ entries, entry.key ∈ keys) :
    ∃ ordered, sort h entries = .ok ordered ∧ Sorts h entries ordered := by
  refine (sort_outcome entries).resolve_right ?_
  rintro ⟨reason, -, x, member, y, member', unordered⟩
  obtain ⟨o, compared⟩ := ranked.compared (within x member) (within y member')
  rw [unordered] at compared
  cases compared

/-! ## The best entry so far -/

/-- An entry is the first of the best ones: its key stands in the wanted order to the keys of the
entries before it, and those behind it have no better keys. -/
def Foremost (h : Heap) (wanted : Ordering) (entries : List Keyed) (found : Keyed) : Prop :=
  ∃ before after, entries = before ++ found :: after
    ∧ (∀ entry ∈ before, found.key.order h entry.key = .ok wanted)
    ∧ ∀ entry ∈ after, AtLeast h wanted found.key entry.key

namespace Foremost

theorem mem (foremost : Foremost h wanted entries found) : found ∈ entries := by
  obtain ⟨before, after, rfl, -, -⟩ := foremost
  simp

theorem atLeast (foremost : Foremost h wanted entries found) (ranked : Ranked h keys)
    (within : ∀ entry ∈ entries, entry.key ∈ keys) (member : entry ∈ entries) :
    AtLeast h wanted found.key entry.key := by
  have inside := within found foremost.mem
  obtain ⟨before, after, rfl, earlier, later⟩ := foremost
  rcases List.mem_append.mp member with inBefore | inAfter
  · exact ⟨wanted, earlier entry inBefore, .inl rfl⟩
  · rcases List.mem_cons.mp inAfter with rfl | inAfter
    · exact ⟨.eq, ranked.tie_self inside, .inr rfl⟩
    · exact later entry inAfter

/-- One more entry takes the place of the best one exactly if its key is better. -/
theorem step (foremost : Foremost h wanted seen best) (ranked : Ranked h keys)
    (proper : wanted ≠ .eq) (within : ∀ other ∈ seen ++ [entry], other.key ∈ keys)
    (compared : entry.key.order h best.key = .ok o) :
    Foremost h wanted (seen ++ [entry]) (if o = wanted then entry else best) := by
  have known (other : Keyed) (member : other ∈ seen) : other.key ∈ keys :=
    within other (List.mem_append_left _ member)
  have new : entry.key ∈ keys := within entry (by simp)
  have bestKnown := known best foremost.mem
  have decides := ranked.order_eq_wanted_iff proper new bestKnown
  split
  · rename_i better
    refine ⟨seen, [], rfl, fun other member => ?_, nofun⟩
    rw [better] at compared
    refine (ranked.order_eq_wanted_iff proper new (known other member)).mpr fun asGood => ?_
    exact decides.mp compared (ranked.atLeast_trans proper bestKnown (known other member) new
      (foremost.atLeast ranked known member) asGood)
  · rename_i notBetter
    have keeps : AtLeast h wanted best.key entry.key := by
      by_contra worse
      rw [decides.mpr worse] at compared
      exact notBetter (by cases compared; rfl)
    obtain ⟨before, after, rfl, earlier, later⟩ := foremost
    refine ⟨before, after ++ [entry], by simp, earlier, fun other member => ?_⟩
    rcases List.mem_append.mp member with inAfter | isNew
    · exact later other inAfter
    · rw [List.mem_singleton.mp isNew]
      exact keeps

end Foremost

/-- The pass keeps the foremost entry of those it has seen. -/
theorem extremeFrom_foremost (ranked : Ranked h keys) (proper : wanted ≠ .eq)
    (foremost : Foremost h wanted seen best)
    (within : ∀ entry ∈ seen ++ rest, entry.key ∈ keys) :
    ∃ found, extremeFrom h wanted best rest = .ok found.item
      ∧ Foremost h wanted (seen ++ rest) found := by
  induction rest generalizing seen best with
  | nil => exact ⟨best, rfl, by rwa [List.append_nil]⟩
  | cons entry rest ih =>
    obtain ⟨o, compared⟩ := ranked.compared (within entry (by simp))
      (within best (List.mem_append_left _ foremost.mem))
    have next := foremost.step ranked proper
      (fun other member => within other (by simp at member ⊢; tauto)) compared
    obtain ⟨found, made, last⟩ := ih next fun other member => within other (by simpa using member)
    rw [List.append_assoc] at last
    refine ⟨found, ?_, last⟩
    rw [extremeFrom, compared]
    exact made

theorem extreme_foremost (ranked : Ranked h keys) (proper : wanted ≠ .eq)
    (within : ∀ entry ∈ entries, entry.key ∈ keys) (nonempty : entries ≠ []) :
    ∃ found, extreme h wanted entries = .ok (some found.item)
      ∧ Foremost h wanted entries found := by
  cases entries with
  | nil => exact absurd rfl nonempty
  | cons entry rest =>
    have start : Foremost h wanted [entry] entry := ⟨[], [], rfl, nofun, nofun⟩
    obtain ⟨found, made, foremost⟩ := extremeFrom_foremost ranked proper start within
    refine ⟨found, ?_, foremost⟩
    rw [extreme, made]
    rfl

/-- The least entry, the earliest of several, comes to the front of what is sorted. -/
theorem Sorts.head (sorts : Sorts h entries ordered) (ranked : Ranked h keys)
    (within : ∀ entry ∈ entries, entry.key ∈ keys) (foremost : Foremost h .lt entries found) :
    ∃ rest, ordered = found :: rest := by
  have member := sorts.perm.mem_iff.mpr foremost.mem
  have inside := within found foremost.mem
  have stable := sorts.stable keys ranked within found.key inside
  have sorted := sorts.sorted keys ranked within
  cases ordered with
  | nil => cases member
  | cons first rest =>
    have original := sorts.perm.mem_iff.mp (List.mem_cons_self (a := first) (l := rest))
    have level : NotBelow h first.key found.key :=
      Value.atLeast_lt_iff.mp (foremost.atLeast ranked within original)
    have level' : NotBelow h found.key first.key := by
      rcases List.mem_cons.mp member with rfl | later
      · exact level
      · exact List.rel_of_pairwise_cons sorted later
    have tie : tied h found.key first = true :=
      decide_eq_true (Value.tie_of_notBelow level level')
    -- of the entries tied with the foremost one, it is the first
    have leads : ∃ others, entries.filter (tied h found.key) = found :: others := by
      obtain ⟨before, after, rfl, earlier, -⟩ := foremost
      have none : before.filter (tied h found.key) = [] := by
        refine List.filter_eq_nil_iff.mpr fun other inBefore tie => ?_
        have turned := Value.order_turns (earlier other inBefore)
        rw [of_decide_eq_true tie] at turned
        cases turned
      have self : tied h found.key found = true := decide_eq_true (ranked.tie_self inside)
      exact ⟨after.filter (tied h found.key), by simp [none, self]⟩
    obtain ⟨others, leads⟩ := leads
    rw [leads, List.filter_cons_of_pos tie] at stable
    exact ⟨rest, by rw [(List.cons.inj stable).1]⟩

end Sorting

/-! ## The functions -/

namespace Universe

open Value (NotBelow Ranked)
open Sorting (Keyed Sorts Foremost Rises tied)

variable {call : Value → Arguments → Eval Value} {key reverse : Slot} {iterable : Value}
  {arguments sorting : Arguments} {items keys : List Value} {m m' : Machine} {wanted : Ordering}

theorem keyed_of_inTurn (made : Eval.InTurn (keyOf call key) items m keys m') :
    keyed call key items m = .ok (List.zipWith Keyed.mk keys items) m' := by
  induction made with
  | done m => rfl
  | next made _ ih =>
    rw [keyed_cons]
    exact (Eval.bind_ok made).trans (Eval.bind_ok ih)

theorem key_mem_of_inTurn (made : Eval.InTurn (keyOf call key) items m keys m') :
    ∀ entry ∈ List.zipWith Keyed.mk keys items, entry.key ∈ keys := by
  intro entry member
  have inside := List.mem_map_of_mem (f := Keyed.key) member
  rwa [(map_keyed made).1] at inside

/-- Sorting by ranked keys succeeds, in both directions. -/
theorem sorted_of_ranked
    (received : sorting.unpack [.needed "iterable", .optional "key", .optional "reverse"]
      = .ok [some iterable, key, reverse])
    (iterates : iterable.iterate m.heap = .ok items)
    (made : Eval.InTurn (keyOf call key) items m keys m') (ranked : Ranked m'.heap keys) :
    ∃ ordered, Sorts m'.heap (List.zipWith Keyed.mk keys items) ordered
      ∧ run call .sorted sorting m
        = (let sorted := ordered.map Keyed.item
          Eval.newList (if (reverse.getD .none).truth m.heap then sorted.reverse else sorted))
          m' := by
  obtain ⟨ordered, sorts, good⟩ := Sorting.sort_of_ranked ranked (key_mem_of_inTurn made)
  refine ⟨ordered, good, ?_⟩
  have accepts : Eval.accept Value.Incomparable.text
      (Sorting.sort m'.heap (List.zipWith Keyed.mk keys items)) m' = .ok ordered m' := by
    rw [sorts]
    rfl
  rw [sorted_in_direction received iterates, Eval.bind_ok (keyed_of_inTurn made)]
  exact Eval.bind_ok accepts

/-! ### Descending order -/

/-- Sorting backwards by ranked keys gives the ascending order turned round: the keys never rise,
and items with tied keys come in the reverse of the order they had. -/
theorem sorted_backwards
    (received : sorting.unpack [.needed "iterable", .optional "key", .optional "reverse"]
      = .ok [some iterable, key, reverse])
    (iterates : iterable.iterate m.heap = .ok items)
    (backwards : (reverse.getD .none).truth m.heap = true)
    (made : Eval.InTurn (keyOf call key) items m keys m') (ranked : Ranked m'.heap keys) :
    ∃ descending : List Keyed,
      run call .sorted sorting m = .ok (.list m'.heap.nextList) { m' with
        heap := m'.heap.addList ⟨(descending.map Keyed.item).toArray, false⟩ }
      ∧ descending.Perm (List.zipWith Keyed.mk keys items)
      ∧ descending.Pairwise (fun before after => NotBelow m'.heap before.key after.key)
      ∧ ∀ key ∈ keys, descending.filter (tied m'.heap key)
        = ((List.zipWith Keyed.mk keys items).filter (tied m'.heap key)).reverse := by
  obtain ⟨ordered, sorts, ran⟩ := sorted_of_ranked received iterates made ranked
  have within := key_mem_of_inTurn made
  refine ⟨ordered.reverse, ?_, (List.reverse_perm ordered).trans sorts.perm,
    List.pairwise_reverse.mpr (sorts.sorted keys ranked within), fun key member => ?_⟩
  · rw [ran, backwards, List.map_reverse]
    rfl
  · rw [List.filter_reverse, sorts.stable keys ranked within key member]

/-- Two texts of one length, backwards by length. -/
def tiedTexts : Arguments :=
  ⟨[.tuple [.str "b", .str "a"]], [("key", Universal.len.value), ("reverse", .bool true)]⟩

/-- Sorting backwards swaps two items with tied keys. -/
theorem sorted_tiedTexts :
    run (callWith fun _ _ => refuseCall) .sorted tiedTexts (.initial (.under []))
      = Eval.newList [.str "a", .str "b"] (.initial (.under [])) := by
  have keys : Eval.InTurn
      (keyOf (callWith fun _ _ => refuseCall) (tiedTexts.named.lookup "key"))
      [.str "b", .str "a"] (.initial (.under [])) ([1, 1].map .int) (.initial (.under [])) :=
    .next rfl (.next rfl (.done _))
  obtain ⟨descending, ran, perm, -, ties⟩ :=
    @sorted_backwards (callWith fun _ _ => refuseCall) (tiedTexts.named.lookup "key")
      (some (.bool true)) (.tuple [.str "b", .str "a"]) tiedTexts _ _ _ _ rfl rfl rfl keys
      (Value.ranked_ints _ _)
  have tie : (Value.int 1).order (Machine.initial (.under [])).heap (.int 1) = .ok .eq := rfl
  have both : (List.zipWith Keyed.mk ([1, 1].map .int) [.str "b", .str "a"]).filter
      (tied (Machine.initial (.under [])).heap (.int 1))
        = [⟨.int 1, .str "b"⟩, ⟨.int 1, .str "a"⟩] := by
    simp [tied, tie]
  have turned := ties (.int 1) (.head _)
  rw [both] at turned
  have all : descending.filter (tied (Machine.initial (.under [])).heap (.int 1)) = descending := by
    refine List.filter_sublist.eq_of_length ?_
    rw [turned, perm.length_eq]
    rfl
  rw [ran, ← all, turned]
  rfl

/-! ### The least and the greatest item -/

/-- Positional arguments offer items: the elements of the only one, or themselves if there are two or
more. -/
inductive Offers (h : Heap) : List Value → List Value → Prop where
  | elements {single : Value} {items : List Value} (iterates : single.iterate h = .ok items) :
    Offers h [single] items
  | arguments (first second : Value) (rest : List Value) :
    Offers h (first :: second :: rest) (first :: second :: rest)

theorem extreme_of_offered {function : String} (offered : Offers m.heap arguments.positional items)
    (onlyKey : ∀ entry ∈ arguments.named, entry.1 = "key") :
    extreme call function wanted arguments m
      = (do
          let entries ← keyed call (arguments.named.lookup "key") items
          let found ← Eval.accept Value.Incomparable.text
            (← Eval.readHeap fun h => Sorting.extreme h wanted entries)
          match found with
          | some item => return item
          | none => Eval.fail s!"{function}: empty sequence") m := by
  have noOther : (arguments.named.find? fun entry => entry.1 ≠ "key") = none :=
    List.find?_eq_none.mpr fun entry member => by simp [onlyKey entry member]
  rw [extreme, noOther]
  generalize arguments.positional = given at offered
  cases offered with
  | @elements single _ iterates =>
    have lists : Eval.iterate single m = .ok items m := by
      show Eval.accept OperatorFault.text (single.iterate m.heap) m = _
      rw [iterates]
      rfl
    exact Eval.bind_ok lists
  | arguments => rfl

theorem run_extreme {function : String} (offered : Offers m.heap arguments.positional items)
    (onlyKey : ∀ entry ∈ arguments.named, entry.1 = "key") (proper : wanted ≠ .eq)
    (nonempty : items ≠ [])
    (made : Eval.InTurn (keyOf call (arguments.named.lookup "key")) items m keys m')
    (ranked : Ranked m'.heap keys) :
    ∃ found, Foremost m'.heap wanted (List.zipWith Keyed.mk keys items) found
      ∧ extreme call function wanted arguments m = .ok found.item m' := by
  have present : List.zipWith Keyed.mk keys items ≠ [] := by
    intro none
    have items' := (map_keyed made).2
    rw [none] at items'
    exact nonempty items'.symm
  obtain ⟨found, finds, foremost⟩ :=
    Sorting.extreme_foremost ranked proper (key_mem_of_inTurn made) present
  have accepts : Eval.accept Value.Incomparable.text
      (Sorting.extreme m'.heap wanted (List.zipWith Keyed.mk keys items)) m'
        = .ok (some found.item) m' := by
    rw [finds]
    rfl
  refine ⟨found, foremost, ?_⟩
  rw [extreme_of_offered offered onlyKey, Eval.bind_ok (keyed_of_inTurn made)]
  exact Eval.bind_ok accepts

/-- Choosing by ranked keys agrees with sorting by them, whether the items are the elements of one
argument or two or more arguments: the least item is the first of the sorted list and the earliest of
those with the least key, and the greatest one is the earliest of those with the greatest key. -/
theorem extremes_agree_with_sorted (offered : Offers m.heap arguments.positional items)
    (onlyKey : ∀ entry ∈ arguments.named, entry.1 = "key")
    (received : sorting.unpack [.needed "iterable", .optional "key", .optional "reverse"]
      = .ok [some iterable, arguments.named.lookup "key", reverse])
    (iterates : iterable.iterate m.heap = .ok items)
    (forwards : (reverse.getD .none).truth m.heap = false) (nonempty : items ≠ [])
    (made : Eval.InTurn (keyOf call (arguments.named.lookup "key")) items m keys m')
    (ranked : Ranked m'.heap keys) :
    ∃ (least greatest : Keyed) (rest : List Value),
      Foremost m'.heap .lt (List.zipWith Keyed.mk keys items) least
      ∧ run call .min arguments m = .ok least.item m'
      ∧ run call .sorted sorting m = .ok (.list m'.heap.nextList) { m' with
        heap := m'.heap.addList ⟨(least.item :: rest).toArray, false⟩ }
      ∧ Foremost m'.heap .gt (List.zipWith Keyed.mk keys items) greatest
      ∧ run call .max arguments m = .ok greatest.item m' := by
  obtain ⟨least, isLeast, ranMin⟩ :=
    @run_extreme call arguments items keys m m' .lt "min" offered onlyKey (by decide) nonempty made
      ranked
  obtain ⟨greatest, isGreatest, ranMax⟩ :=
    @run_extreme call arguments items keys m m' .gt "max" offered onlyKey (by decide) nonempty made
      ranked
  obtain ⟨ordered, sorts, ranSorted⟩ := sorted_of_ranked received iterates made ranked
  obtain ⟨rest, rfl⟩ := sorts.head ranked (key_mem_of_inTurn made) isLeast
  refine ⟨least, greatest, rest.map Keyed.item, isLeast, ranMin, ?_, isGreatest, ranMax⟩
  rw [ranSorted, forwards]
  rfl

/-- Three texts as arguments, the second and the third of one length. -/
def threeTexts : Arguments :=
  ⟨[.str "bb", .str "c", .str "a"], [("key", Universal.len.value)]⟩

theorem extremes_threeTexts : ∃ (least greatest : Keyed) (rest : List Value),
    Foremost (Machine.initial (.under [])).heap .lt
      [⟨.int 2, .str "bb"⟩, ⟨.int 1, .str "c"⟩, ⟨.int 1, .str "a"⟩] least
    ∧ run (callWith fun _ _ => refuseCall) .min threeTexts (.initial (.under []))
      = .ok least.item (.initial (.under []))
    ∧ run (callWith fun _ _ => refuseCall) .sorted
        ⟨[.tuple [.str "bb", .str "c", .str "a"]], threeTexts.named⟩ (.initial (.under []))
      = .ok (.list (Machine.initial (.under [])).heap.nextList) { Machine.initial (.under []) with
        heap := (Machine.initial (.under [])).heap.addList ⟨(least.item :: rest).toArray, false⟩ }
    ∧ Foremost (Machine.initial (.under [])).heap .gt
      [⟨.int 2, .str "bb"⟩, ⟨.int 1, .str "c"⟩, ⟨.int 1, .str "a"⟩] greatest
    ∧ run (callWith fun _ _ => refuseCall) .max threeTexts (.initial (.under []))
      = .ok greatest.item (.initial (.under [])) := by
  have keys : Eval.InTurn
      (keyOf (callWith fun _ _ => refuseCall) (threeTexts.named.lookup "key"))
      [.str "bb", .str "c", .str "a"] (.initial (.under [])) ([2, 1, 1].map .int)
      (.initial (.under [])) :=
    .next rfl (.next rfl (.next rfl (.done _)))
  exact @extremes_agree_with_sorted (callWith fun _ _ => refuseCall) none
    (.tuple [.str "bb", .str "c", .str "a"]) threeTexts _ _ _ (.initial (.under [])) _
    (.arguments _ _ _) (by decide) rfl rfl rfl nofun keys (Value.ranked_ints _ _)

end Universe

end PixelApplet
