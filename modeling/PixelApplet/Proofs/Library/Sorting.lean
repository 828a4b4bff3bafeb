import PixelApplet.Evaluation.Call
import PixelApplet.Proofs.Evaluation.Posture
import PixelApplet.Proofs.Machine.Courses
import PixelApplet.Proofs.Value.Comparisons
import Mathlib.Data.List.Chain

/-!
# Sorting sorts

The keys of the items are made first, one call for each item.  A merge then compares the heads of
its two sides, and gives up where two keys have no order.  Keys that can be compared can be compared
the other way round as well, so every two neighbours of a sorted list are in order, whichever sides
they came from; no more is needed of the order for that.  Where the order ranks all keys, what was
merged is in order throughout, and items with tied keys stand as they stood.
-/

namespace PixelApplet

/-! ## The order of keys -/

namespace Value

variable {h : Heap} {x y : Value} {keys : List Value}

/-- A value can be compared with another one and is not less. -/
def NotBelow (h : Heap) (x y : Value) : Prop :=
  ∃ o, x.order h y = .ok o ∧ o ≠ .lt

/-- The order of values is a total preorder of some values. -/
structure Ranked (h : Heap) (keys : List Value) : Prop where
  total : ∀ x ∈ keys, ∀ y ∈ keys, NotBelow h x y ∨ NotBelow h y x
  trans : ∀ x ∈ keys, ∀ y ∈ keys, ∀ z ∈ keys, NotBelow h x y → NotBelow h y z → NotBelow h x z

theorem order_turns {o : Ordering} (compared : x.order h y = .ok o) : y.order h x = .ok o.swap :=
  compareTo_turns o compared

theorem notBelow_of_less (less : x.order h y = .ok .lt) : NotBelow h y x :=
  ⟨.gt, order_turns less, by decide⟩

theorem notBelow_of_tie (tie : x.order h y = .ok .eq) : NotBelow h x y ∧ NotBelow h y x :=
  ⟨⟨.eq, tie, by decide⟩, .eq, order_turns tie, by decide⟩

theorem not_notBelow_of_less (less : x.order h y = .ok .lt) : ¬NotBelow h x y := by
  rintro ⟨o, compared, notLess⟩
  rw [less] at compared
  cases compared
  exact notLess rfl

theorem Ranked.compared (ranked : Ranked h keys) (member : x ∈ keys) (member' : y ∈ keys) :
    ∃ o, x.order h y = .ok o := by
  rcases ranked.total x member y member' with ⟨o, made, -⟩ | ⟨o, made, -⟩
  · exact ⟨o, made⟩
  · exact ⟨o.swap, order_turns made⟩

end Value

/-! ## Merging -/

namespace Sorting

open Value (NotBelow Ranked)

variable {h : Heap} {left right entries merged ordered : List Keyed} {key : Value}
  {keys : List Value}

/-- The key of an entry can be compared with the key of the one before and is not less. -/
def Rises (h : Heap) (before after : Keyed) : Prop :=
  NotBelow h after.key before.key

/-- The key of an entry is neither less nor more than a key. -/
def tied (h : Heap) (key : Value) (entry : Keyed) : Bool :=
  entry.key.order h key = .ok .eq

/-- How two sequences are merged: as long as there are two heads, they are compared. -/
inductive Merges (h : Heap) : List Keyed → List Keyed → List Keyed → Prop where
  | right (right : List Keyed) : Merges h [] right right
  | left (left : List Keyed) : Merges h left [] left
  | rightFirst {l r : Keyed} {left right merged : List Keyed}
    (less : r.key.order h l.key = .ok .lt) (rest : Merges h (l :: left) right merged) :
    Merges h (l :: left) (r :: right) (r :: merged)
  | leftFirst {l r : Keyed} {left right merged : List Keyed}
    (notBelow : NotBelow h r.key l.key) (rest : Merges h left (r :: right) merged) :
    Merges h (l :: left) (r :: right) (l :: merged)

/-- Two keys have no order. -/
def Incomparable (h : Heap) (entries : List Keyed) (reason : Value.Incomparable) : Prop :=
  ∃ x ∈ entries, ∃ y ∈ entries, x.key.order h y.key = .error reason

theorem Incomparable.mono {larger : List Keyed} {reason : Value.Incomparable}
    (incomparable : Incomparable h entries reason) (subset : entries ⊆ larger) :
    Incomparable h larger reason :=
  let ⟨x, member, y, member', compared⟩ := incomparable
  ⟨x, subset member, y, subset member', compared⟩

/-- A merge succeeds, or comes upon two keys without an order. -/
theorem merge_outcome (left right : List Keyed) :
    (∃ merged, merge h left right = .ok merged ∧ Merges h left right merged)
      ∨ ∃ reason, merge h left right = .error reason ∧ Incomparable h (left ++ right) reason := by
  fun_induction merge h left right with
  | case1 right => exact .inl ⟨right, rfl, .right right⟩
  | case2 left _ => exact .inl ⟨left, rfl, .left left⟩
  | case3 l left r right reason compared =>
    exact .inr ⟨reason, rfl, r, by simp, l, by simp, compared⟩
  | case4 l left r right less ih =>
    rcases ih with ⟨merged, made, merges⟩ | ⟨reason, failed, incomparable⟩
    · rw [made]
      exact .inl ⟨r :: merged, rfl, .rightFirst less merges⟩
    · rw [failed]
      exact .inr ⟨reason, rfl, incomparable.mono (by simp [List.subset_def]; tauto)⟩
  | case5 l left r right o notLess compared ih =>
    rcases ih with ⟨merged, made, merges⟩ | ⟨reason, failed, incomparable⟩
    · rw [made]
      exact .inl ⟨l :: merged, rfl, .leftFirst ⟨o, compared, notLess⟩ merges⟩
    · rw [failed]
      exact .inr ⟨reason, rfl, incomparable.mono (by simp)⟩

namespace Merges

theorem perm (merges : Merges h left right merged) : merged.Perm (left ++ right) := by
  induction merges with
  | right => exact .refl _
  | left left => rw [List.append_nil]
  | @rightFirst l r left right merged _ _ ih => exact (ih.cons r).trans List.perm_middle.symm
  | leftFirst _ _ ih => exact ih.cons _

/-- What is merged begins as one of the sides does. -/
theorem head (merges : Merges h left right merged) {first : Keyed} (is : first ∈ merged.head?) :
    first ∈ left.head? ∨ first ∈ right.head? := by
  cases merges with
  | right => exact .inr is
  | left => exact .inl is
  | rightFirst => exact .inr is
  | leftFirst => exact .inl is

/-- Neighbours from different sides have been compared, in one direction or in the other. -/
theorem rises (merges : Merges h left right merged) (risesLeft : left.IsChain (Rises h))
    (risesRight : right.IsChain (Rises h)) : merged.IsChain (Rises h) := by
  induction merges with
  | right => exact risesRight
  | left => exact risesLeft
  | rightFirst less rest ih =>
    rw [List.isChain_cons] at risesRight
    refine List.isChain_cons.mpr ⟨fun next is => ?_, ih risesLeft risesRight.2⟩
    rcases rest.head is with first | first
    · cases first
      exact Value.notBelow_of_less less
    · exact risesRight.1 next first
  | leftFirst notBelow rest ih =>
    rw [List.isChain_cons] at risesLeft
    refine List.isChain_cons.mpr ⟨fun next is => ?_, ih risesLeft.2 risesRight⟩
    rcases rest.head is with first | first
    · exact risesLeft.1 next first
    · cases first
      exact notBelow

/-- Of the entries tied with a key those of the left side come first. -/
theorem stable (merges : Merges h left right merged) (ranked : Ranked h keys)
    (within : ∀ entry ∈ left ++ right, entry.key ∈ keys) (sorted : left.Pairwise (Rises h))
    (member : key ∈ keys) :
    merged.filter (tied h key) = left.filter (tied h key) ++ right.filter (tied h key) := by
  induction merges with
  | right => rfl
  | left => simp
  | @rightFirst l r left right merged less rest ih =>
    have later := ih (fun entry found => within entry (by simp at found ⊢; tauto)) sorted
    cases tie : tied h key r with
    | false => simpa [tie] using later
    | true =>
      -- an entry tied with one that is less than the left side is not in the left side
      have none : (l :: left).filter (tied h key) = [] := by
        refine List.filter_eq_nil_iff.mpr fun x inside tie' => ?_
        have inside' := within x (List.mem_append_left _ inside)
        have first := within l (by simp)
        have second := within r (by simp)
        have above : NotBelow h x.key l.key := by
          rcases List.mem_cons.mp inside with rfl | later
          · exact (ranked.total _ first _ first).elim id id
          · exact List.rel_of_pairwise_cons sorted later
        have level : NotBelow h r.key x.key :=
          ranked.trans _ second _ member _ inside' (Value.notBelow_of_tie (of_decide_eq_true tie)).1
            (Value.notBelow_of_tie (of_decide_eq_true tie')).2
        exact Value.not_notBelow_of_less less (ranked.trans _ second _ inside' _ first level above)
      rw [none] at later ⊢
      simpa [tie] using later
  | @leftFirst l r left right merged notBelow rest ih =>
    have later := ih (fun entry found => within entry (by simp at found ⊢; tauto)) sorted.of_cons
    cases tie : tied h key l <;> simpa [tie] using later

end Merges

/-! ## Sorting -/

/-- Neighbours in order are in order throughout if the order ranks the keys. -/
theorem pairwise_of_rises (ranked : Ranked h keys) (within : ∀ entry ∈ ordered, entry.key ∈ keys)
    (rises : ordered.IsChain (Rises h)) : ordered.Pairwise (Rises h) := by
  induction ordered with
  | nil => exact .nil
  | cons first rest ih =>
    obtain ⟨here, later⟩ := List.isChain_cons.mp rises
    have sorted := ih (fun entry member => within entry (.tail _ member)) later
    refine List.pairwise_cons.mpr ⟨fun last member => ?_, sorted⟩
    cases rest with
    | nil => cases member
    | cons second rest =>
      have step : NotBelow h second.key first.key := here second rfl
      rcases List.mem_cons.mp member with rfl | member
      · exact step
      · exact ranked.trans _ (within last (.tail _ (.tail _ member))) _
          (within second (.tail _ (.head _))) _ (within first (.head _))
          (List.rel_of_pairwise_cons sorted member) step

/-- What sorting makes of entries: a permutation of them in which neighbours are in order.  If the
order ranks values among which the keys are, then the entries are in order throughout, and those
tied with one of the values stand as they stood. -/
structure Sorts (h : Heap) (entries ordered : List Keyed) : Prop where
  perm : ordered.Perm entries
  rises : ordered.IsChain (Rises h)
  sorted (keys : List Value) (ranked : Ranked h keys)
    (within : ∀ entry ∈ entries, entry.key ∈ keys) : ordered.Pairwise (Rises h)
  stable (keys : List Value) (ranked : Ranked h keys)
    (within : ∀ entry ∈ entries, entry.key ∈ keys) :
    ∀ key ∈ keys, ordered.filter (tied h key) = entries.filter (tied h key)

theorem Sorts.of_short (short : entries.length ≤ 1) : Sorts h entries entries := by
  obtain rfl | ⟨entry, rfl⟩ : entries = [] ∨ ∃ entry, entries = [entry] := by
    rcases entries with _ | ⟨entry, _ | _⟩
    · exact .inl rfl
    · exact .inr ⟨entry, rfl⟩
    · simp at short
  · exact ⟨.refl _, .nil, fun _ _ _ => .nil, fun _ _ _ _ _ => rfl⟩
  · exact ⟨.refl _, .singleton _, fun _ _ _ => List.pairwise_singleton _ _, fun _ _ _ _ _ => rfl⟩

/-- Two sorted halves are merged into the sorted whole. -/
theorem Sorts.merge {half half' : List Keyed} (first : Sorts h half left)
    (second : Sorts h half' right) (merges : Merges h left right merged) :
    Sorts h (half ++ half') merged where
  perm := merges.perm.trans (first.perm.append second.perm)
  rises := merges.rises first.rises second.rises
  sorted keys ranked within := by
    have perm := merges.perm.trans (first.perm.append second.perm)
    exact pairwise_of_rises ranked (fun entry member => within entry (perm.mem_iff.mp member))
      (merges.rises first.rises second.rises)
  stable keys ranked within key member := by
    have withinFirst (entry : Keyed) (found : entry ∈ half) : entry.key ∈ keys :=
      within entry (List.mem_append_left _ found)
    have withinSecond (entry : Keyed) (found : entry ∈ half') : entry.key ∈ keys :=
      within entry (List.mem_append_right _ found)
    rw [merges.stable ranked (fun entry found =>
        within entry ((first.perm.append second.perm).mem_iff.mp found))
      (first.sorted keys ranked withinFirst) member, List.filter_append,
      first.stable keys ranked withinFirst key member,
      second.stable keys ranked withinSecond key member]

/-- Entries are sorted unless two of their keys have no order. -/
theorem sort_outcome (entries : List Keyed) :
    (∃ ordered, sort h entries = .ok ordered ∧ Sorts h entries ordered)
      ∨ ∃ reason, sort h entries = .error reason ∧ Incomparable h entries reason := by
  fun_induction sort h entries with
  | case1 entries short => exact .inl ⟨entries, rfl, .of_short short⟩
  | case2 entries _ reason failed ih =>
    rcases ih with ⟨ordered, made, _⟩ | ⟨reason', failed', incomparable⟩
    · rw [failed] at made
      cases made
    · rw [failed] at failed'
      cases failed'
      exact .inr ⟨reason, rfl, incomparable.mono (List.take_subset _ _)⟩
  | case3 entries _ left made reason failed _ ih =>
    rcases ih with ⟨ordered, made', _⟩ | ⟨reason', failed', incomparable⟩
    · rw [failed] at made'
      cases made'
    · rw [failed] at failed'
      cases failed'
      exact .inr ⟨reason, rfl, incomparable.mono (List.drop_subset _ _)⟩
  | case4 entries _ left made right made' ihLeft ihRight =>
    rcases ihLeft with ⟨ordered, same, sortsLeft⟩ | ⟨_, failed, _⟩
    case inr =>
      rw [made] at failed
      cases failed
    rcases ihRight with ⟨ordered', same', sortsRight⟩ | ⟨_, failed, _⟩
    case inr =>
      rw [made'] at failed
      cases failed
    cases made.symm.trans same
    cases made'.symm.trans same'
    rcases merge_outcome (h := h) left right with
      ⟨merged, done, merges⟩ | ⟨reason, failed, incomparable⟩
    · have sorts := sortsLeft.merge sortsRight merges
      rw [List.take_append_drop] at sorts
      exact .inl ⟨merged, done, sorts⟩
    · refine .inr ⟨reason, failed, incomparable.mono fun entry member => ?_⟩
      have back := (sortsLeft.perm.append sortsRight.perm).mem_iff.mp member
      rwa [List.take_append_drop] at back

end Sorting

/-! ## Keys -/

namespace Eval

variable {α β : Type}

/-- An action succeeds on each of a list, one after the other. -/
inductive InTurn (act : α → Eval β) : List α → Machine → List β → Machine → Prop where
  | done (m : Machine) : InTurn act [] m [] m
  | next {a : α} {b : β} {as : List α} {bs : List β} {m between m' : Machine}
    (made : act a m = .ok b between) (rest : InTurn act as between bs m') :
    InTurn act (a :: as) m (b :: bs) m'

/-- An action succeeds on some of a list, one after the other, and stops on the next. -/
inductive BreaksOff (act : α → Eval β) : List α → Machine → Abort → Machine → Prop where
  | here {a : α} {as : List α} {m m' : Machine} {abort : Abort}
    (stopped : act a m = .error abort m') : BreaksOff act (a :: as) m abort m'
  | later {a : α} {b : β} {as : List α} {m between m' : Machine} {abort : Abort}
    (made : act a m = .ok b between) (rest : BreaksOff act as between abort m') :
    BreaksOff act (a :: as) m abort m'

end Eval

namespace Universe

variable {call : Value → Arguments → Eval Value} {key : Slot}

/-- The key of an item: what the key function gives for it, or the item itself. -/
def keyOf (call : Value → Arguments → Eval Value) (key : Slot) (item : Value) : Eval Value :=
  match key with
  | none | some .none => pure item
  | some f => call f (.ofList [item])

theorem keyed_cons (item : Value) (rest : List Value) :
    keyed call key (item :: rest)
      = (do return ⟨← keyOf call key item, item⟩ :: (← keyed call key rest)) := by
  rw [keyed.eq_def]
  rcases key with _ | f
  · rfl
  · cases f <;> rfl

theorem keyed_outcome (items : List Value) (m : Machine) :
    (∃ keys m', Eval.InTurn (keyOf call key) items m keys m'
        ∧ keyed call key items m = .ok (List.zipWith Sorting.Keyed.mk keys items) m')
      ∨ ∃ abort m', Eval.BreaksOff (keyOf call key) items m abort m'
        ∧ keyed call key items m = .error abort m' := by
  induction items generalizing m with
  | nil => exact .inl ⟨[], m, .done m, rfl⟩
  | cons item rest ih =>
    rw [keyed_cons]
    cases made : keyOf call key item m with
    | error abort m' => exact .inr ⟨abort, m', .here made, Eval.bind_error made⟩
    | ok k between =>
      rw [Eval.bind_ok made]
      rcases ih between with ⟨keys, m', run, ran⟩ | ⟨abort, m', breaks, ran⟩
      · exact .inl ⟨k :: keys, m', .next made run, Eval.bind_ok ran⟩
      · exact .inr ⟨abort, m', .later made breaks, Eval.bind_error ran⟩

/-- Items with their keys have the keys, and are the items. -/
theorem map_keyed {act : Value → Eval Value} {keys items : List Value} {m m' : Machine}
    (run : Eval.InTurn act items m keys m') :
    (List.zipWith Sorting.Keyed.mk keys items).map Sorting.Keyed.key = keys
      ∧ (List.zipWith Sorting.Keyed.mk keys items).map Sorting.Keyed.item = items := by
  induction run with
  | done => exact ⟨rfl, rfl⟩
  | next _ _ ih => exact ⟨congrArg (_ :: ·) ih.1, congrArg (_ :: ·) ih.2⟩

/-! ## The function -/

theorem sorted_in_direction {arguments : Arguments} {iterable : Value} {reverse : Slot} {m : Machine}
    {items : List Value}
    (received : arguments.unpack [.needed "iterable", .optional "key", .optional "reverse"]
      = .ok [some iterable, key, reverse])
    (iterates : iterable.iterate m.heap = .ok items) :
    run call .sorted arguments m
      = (do
          let entries ← keyed call key items
          let ordered ← Eval.accept Value.Incomparable.text
            (← Eval.readHeap fun h => Sorting.sort h entries)
          let sorted := ordered.map Sorting.Keyed.item
          Eval.newList (if (reverse.getD .none).truth m.heap then sorted.reverse else sorted)) m := by
  have lists : Eval.iterate iterable m = .ok items m := by
    show Eval.accept OperatorFault.text (iterable.iterate m.heap) m = _
    rw [iterates]
    rfl
  show sorted call arguments m = _
  rw [sorted, Eval.bind_ok (Eval.receive_of_unpack received m)]
  exact (Eval.bind_ok lists).trans (Eval.bind_ok rfl)

theorem sorted_of_received {arguments : Arguments} {iterable : Value} {reverse : Slot} {m : Machine}
    {items : List Value}
    (received : arguments.unpack [.needed "iterable", .optional "key", .optional "reverse"]
      = .ok [some iterable, key, reverse])
    (iterates : iterable.iterate m.heap = .ok items)
    (forwards : (reverse.getD .none).truth m.heap = false) :
    run call .sorted arguments m
      = (do
          let entries ← keyed call key items
          let ordered ← Eval.accept Value.Incomparable.text
            (← Eval.readHeap fun h => Sorting.sort h entries)
          Eval.newList (ordered.map Sorting.Keyed.item)) m := by
  rw [sorted_in_direction received iterates, forwards]
  rfl

/-- Sorting forwards makes the key of each item in turn, by one call if there is a key function, and
stops where a call does.  If it succeeds, the result is a new list, a permutation of the items in
which every element can be compared with the one before and is not less.  Otherwise two keys have no
order.  Where the order ranks the keys it succeeds, the result is in order throughout, and items
with tied keys stand as they stood. -/
theorem sorted_sorts {arguments : Arguments} {iterable : Value} {reverse : Slot} {m : Machine}
    {items : List Value}
    (received : arguments.unpack [.needed "iterable", .optional "key", .optional "reverse"]
      = .ok [some iterable, key, reverse])
    (iterates : iterable.iterate m.heap = .ok items)
    (forwards : (reverse.getD .none).truth m.heap = false) :
    (∃ abort m', Eval.BreaksOff (keyOf call key) items m abort m'
      ∧ run call .sorted arguments m = .error abort m')
    ∨ ∃ keys m', Eval.InTurn (keyOf call key) items m keys m'
      ∧ ((∃ ordered, run call .sorted arguments m
            = .ok (.list m'.heap.nextList) { m' with
              heap := m'.heap.addList ⟨(ordered.map Sorting.Keyed.item).toArray, false⟩ }
          ∧ (ordered.map Sorting.Keyed.item).Perm items
          ∧ Sorting.Sorts m'.heap (List.zipWith Sorting.Keyed.mk keys items) ordered)
        ∨ ∃ reason, run call .sorted arguments m = .error (.error (.ofMessage reason.text)) m'
          ∧ Sorting.Incomparable m'.heap (List.zipWith Sorting.Keyed.mk keys items) reason
          ∧ ¬Value.Ranked m'.heap keys) := by
  rw [sorted_of_received received iterates forwards]
  rcases keyed_outcome items m with ⟨keys, m', made, ran⟩ | ⟨abort, m', breaks, ran⟩
  case inr => exact .inl ⟨abort, m', breaks, Eval.bind_error ran⟩
  refine .inr ⟨keys, m', made, ?_⟩
  rw [Eval.bind_ok ran]
  rcases Sorting.sort_outcome (h := m'.heap) (List.zipWith Sorting.Keyed.mk keys items) with
    ⟨ordered, sorts, good⟩ | ⟨reason, fails, incomparable⟩
  · have accepts : Eval.accept Value.Incomparable.text
        (Sorting.sort m'.heap (List.zipWith Sorting.Keyed.mk keys items)) m' = .ok ordered m' := by
      rw [sorts]
      rfl
    refine .inl ⟨ordered, Eval.bind_ok accepts, ?_, good⟩
    have perm := good.perm.map Sorting.Keyed.item
    rwa [(map_keyed made).2] at perm
  · have refuses : Eval.accept Value.Incomparable.text
        (Sorting.sort m'.heap (List.zipWith Sorting.Keyed.mk keys items)) m'
          = .error (.error (.ofMessage reason.text)) m' := by
      rw [fails]
      rfl
    refine .inr ⟨reason, (Eval.bind_ok rfl).trans (Eval.bind_error refuses), incomparable,
      fun ranked => ?_⟩
    obtain ⟨x, member, y, member', unordered⟩ := incomparable
    have isKey (entry : Sorting.Keyed)
        (inside : entry ∈ List.zipWith Sorting.Keyed.mk keys items) : entry.key ∈ keys := by
      have key := List.mem_map_of_mem (f := Sorting.Keyed.key) inside
      rwa [(map_keyed made).1] at key
    obtain ⟨o, compared⟩ := ranked.compared (isKey x member) (isKey y member')
    rw [unordered] at compared
    cases compared

/-- Two texts, and the function that counts their characters as the key. -/
def textsByLength : Arguments :=
  ⟨[.tuple [.str "bb", .str "a"]],
    [("key", .builtin (.fresh 0) ⟨"len", none, .universal .len⟩)]⟩

theorem sorted_textsByLength :
    ∃ keys ordered, ∃ m' : Machine,
      Eval.InTurn (keyOf (callWith fun _ _ => refuseCall) (textsByLength.named.lookup "key"))
        [.str "bb", .str "a"] (.initial (.under [])) keys m'
      ∧ run (callWith fun _ _ => refuseCall) .sorted textsByLength (.initial (.under []))
        = .ok (.list m'.heap.nextList) { m' with
          heap := m'.heap.addList ⟨(ordered.map Sorting.Keyed.item).toArray, false⟩ }
      ∧ (ordered.map Sorting.Keyed.item).Perm [.str "bb", .str "a"]
      ∧ Sorting.Sorts m'.heap (List.zipWith Sorting.Keyed.mk keys [.str "bb", .str "a"])
        ordered := by
  have sorts : Sorting.sort (Machine.initial (.under [])).heap
      [⟨.int 2, .str "bb"⟩, ⟨.int 1, .str "a"⟩]
        = .ok [⟨.int 1, .str "a"⟩, ⟨.int 2, .str "bb"⟩] := by
    have less : Value.order (Machine.initial (.under [])).heap (.int 1) (.int 2) = .ok .lt := rfl
    simp [Sorting.sort, Sorting.merge, Except.map, less]
  have keys : keyed (callWith fun _ _ => refuseCall) (textsByLength.named.lookup "key")
      [.str "bb", .str "a"] (.initial (.under []))
        = .ok [⟨.int 2, .str "bb"⟩, ⟨.int 1, .str "a"⟩] (.initial (.under [])) := rfl
  have sorting : Eval.readHeap (fun h => Sorting.sort h [⟨.int 2, .str "bb"⟩, ⟨.int 1, .str "a"⟩])
      (.initial (.under [])) = .ok (.ok [⟨.int 1, .str "a"⟩, ⟨.int 2, .str "bb"⟩])
        (.initial (.under [])) := congrArg (EStateM.Result.ok · _) sorts
  obtain ⟨value, last, ran⟩ : ∃ value last, run (callWith fun _ _ => refuseCall) .sorted
      textsByLength (.initial (.under [])) = .ok value last :=
    ⟨_, _, (sorted_of_received rfl rfl rfl).trans
      ((Eval.bind_ok keys).trans (Eval.bind_ok sorting))⟩
  have outcome := @sorted_sorts (callWith fun _ _ => refuseCall) _ textsByLength _ _
    (.initial (.under [])) _ rfl rfl rfl
  rcases outcome with ⟨_, _, _, stopped⟩ | ⟨keys, m', made, ⟨ordered, sorts⟩ | ⟨_, failed, _⟩⟩
  · rw [ran] at stopped
    cases stopped
  · exact ⟨keys, ordered, m', made, sorts⟩
  · rw [ran] at failed
    cases failed

end Universe

end PixelApplet
