import PixelApplet.Proofs.Value.Sound
import PixelApplet.Value.Equality
import PixelApplet.Value.Operators

/-!
# Results of operators

Operators take values out of cells and tuples, and put them into new ones, but never make up a
reference.  So a property that values hand on to what they hold is handed on to what operators make
of them; that a value is live in a sound heap is such a property.
-/

namespace PixelApplet

theorem Except.exists_of_bind_ok {ε α β : Type} {result : Except ε α} {next : α → Except ε β}
    {value : β} (made : (result >>= next) = .ok value) :
    ∃ first, result = .ok first ∧ next first = .ok value := by
  cases result with
  | error e => cases made
  | ok first => exact ⟨first, rfl, made⟩

theorem Except.exists_of_map_ok {ε α β : Type} {result : Except ε α} {f : α → β} {value : β}
    (made : result.map f = .ok value) : ∃ first, result = .ok first ∧ f first = value := by
  cases result with
  | error e => cases made
  | ok first => exact ⟨first, rfl, Except.ok.inj made⟩

namespace DictCell

variable {extent : Extent} {cell : DictCell}

/-- All keys and values of a dict have a property. -/
def All (property : Value → Prop) (cell : DictCell) : Prop :=
  ∀ entry ∈ cell.entries.toList, property entry.key ∧ property entry.value

theorem all_empty {property : Value → Prop} : DictCell.empty.All property := by
  intro entry member
  exact nomatch Array.mem_toList_iff.mp member

theorem live_empty : DictCell.empty.Live extent :=
  all_empty

theorem frozen_insert (hash : HashKey) (key value : Value) :
    (cell.insert hash key value).frozen = cell.frozen := by
  rw [insert]
  split <;> rfl

theorem All.insert {property : Value → Prop} {hash : HashKey} {key value : Value}
    (all : cell.All property) (holdsKey : property key) (holds : property value) :
    (cell.insert hash key value).All property := by
  rw [DictCell.insert]
  split
  · rename_i i _
    intro entry member
    rw [Array.toList_modify] at member
    obtain ⟨j, found⟩ := List.mem_iff_getElem?.mp member
    rw [List.getElem?_modify] at found
    obtain ⟨old, present, rfl⟩ := Option.map_eq_some_iff.mp found
    have before := all old (List.mem_of_getElem? present)
    split
    · exact ⟨before.1, holds⟩
    · exact before
  · intro entry member
    rw [Array.toList_push, List.mem_append, List.mem_singleton] at member
    rcases member with old | rfl
    · exact all entry old
    · exact ⟨holdsKey, holds⟩

theorem Live.insert {hash : HashKey} {key value : Value} (live : cell.Live extent)
    (liveKey : key.Live extent) (liveValue : value.Live extent) :
    (cell.insert hash key value).Live extent :=
  All.insert live liveKey liveValue

theorem All.eraseAt {property : Value → Prop} (all : cell.All property) (i : Nat) :
    (cell.eraseAt i).All property := by
  intro entry member
  simp only [DictCell.eraseAt, Array.toList_eraseIdxIfInBounds] at member
  exact all entry (List.mem_of_mem_eraseIdx member)

theorem All.pairs {property : Value → Prop} (all : cell.All property) :
    ∀ pair ∈ cell.pairs, property pair.1 ∧ property pair.2 := by
  intro pair member
  obtain ⟨entry, present, rfl⟩ := List.mem_map.mp member
  exact all entry present

theorem All.keys {property : Value → Prop} (all : cell.All property) :
    ∀ v ∈ cell.keys, property v := by
  intro v member
  obtain ⟨entry, present, rfl⟩ := List.mem_map.mp member
  exact (all entry present).1

theorem All.values {property : Value → Prop} (all : cell.All property) :
    ∀ v ∈ cell.values, property v := by
  intro v member
  obtain ⟨entry, present, rfl⟩ := List.mem_map.mp member
  exact (all entry present).2

theorem All.find? {property : Value → Prop} {hash : HashKey} {entry : DictEntry}
    (all : cell.All property) (found : cell.find? hash = some entry) : property entry.value :=
  (all entry (Array.mem_toList_iff.mpr (Array.mem_of_find?_eq_some found))).2

theorem Live.eraseAt {i : Nat} (live : cell.Live extent) : (cell.eraseAt i).Live extent :=
  All.eraseAt live i

theorem Live.pairs (live : cell.Live extent) :
    ∀ pair ∈ cell.pairs, pair.1.Live extent ∧ pair.2.Live extent :=
  All.pairs live

theorem Live.keys (live : cell.Live extent) : ∀ v ∈ cell.keys, v.Live extent :=
  All.keys live

theorem Live.values (live : cell.Live extent) : ∀ v ∈ cell.values, v.Live extent :=
  All.values live

theorem Live.find? {hash : HashKey} {entry : DictEntry} (live : cell.Live extent)
    (found : cell.find? hash = some entry) : entry.value.Live extent :=
  All.find? live found

theorem all_ofBindings {property : Value → Prop} {bindings : Bindings Value}
    (texts : ∀ text, property (.str text)) (all : ∀ binding ∈ bindings, property binding.2) :
    (DictCell.ofBindings bindings).All property
      ∧ (DictCell.ofBindings bindings).frozen = false := by
  rw [DictCell.ofBindings]
  suffices every : ∀ cell : DictCell, cell.All property → cell.frozen = false →
      (bindings.foldl (fun cell binding =>
        cell.insert (.str binding.1) (.str binding.1) binding.2) cell).All property
      ∧ (bindings.foldl (fun cell binding =>
        cell.insert (.str binding.1) (.str binding.1) binding.2) cell).frozen = false from
    every _ all_empty rfl
  induction bindings with
  | nil => exact fun _ allCell thawed => ⟨allCell, thawed⟩
  | cons binding bindings ih =>
    intro cell allCell thawed
    rw [List.foldl_cons]
    refine ih (fun other member => all other (.tail _ member)) _ ?_ ?_
    · exact allCell.insert (texts _) (all binding (.head _))
    · rw [frozen_insert]
      exact thawed

theorem live_ofBindings {bindings : Bindings Value} (live : bindings.Live extent) :
    (DictCell.ofBindings bindings).Live extent ∧ (DictCell.ofBindings bindings).frozen = false :=
  all_ofBindings Value.live_str live

end DictCell

namespace Heap

/-- A property that values hand on: values that hold nothing have it, a tuple has it exactly if its
elements do, and what a list or dict with the property holds in the heap has it, too. -/
structure Spreads (h : Heap) (property : Value → Prop) : Prop where
  none : property .none
  bool : ∀ b, property (.bool b)
  int : ∀ i, property (.int i)
  float : ∀ x, property (.float x)
  str : ∀ s, property (.str s)
  tuple : ∀ items, property (.tuple items) ↔ ∀ v ∈ items, property v
  list : ∀ ref, property (.list ref) → ∀ v ∈ (h.list ref).items.toList, property v
  dict : ∀ ref, property (.dict ref) → (h.dict ref).All property

theorem Sound.items {h : Heap} (sound : h.Sound) (ref : ListRef) :
    ∀ v ∈ (h.list ref).items.toList, v.Live h.extent :=
  sound.lists ref

theorem Sound.spreads {h : Heap} (sound : h.Sound) : h.Spreads (Value.Live h.extent) where
  none := Value.live_none
  bool := Value.live_bool
  int := Value.live_int
  float := Value.live_float
  str := Value.live_str
  tuple _ := Value.live_tuple
  list ref _ := sound.lists ref
  dict ref _ := sound.dicts ref

end Heap

/-- What an operator makes has a property, or is a list of values that have it. -/
def Made.All (property : Value → Prop) : Made → Prop
  | .value v => property v
  | .list items => ∀ v ∈ items, property v

/-- All that an operator can make has a property. -/
def Value.Outcome.All (property : Value → Prop) (outcome : Value.Outcome Made) : Prop :=
  ∀ made, outcome = .ok made → made.All property

namespace Value.Outcome

variable {property : Value → Prop} {α : Type}

theorem all_ok {made : Made} (all : made.All property) : Outcome.All property (.ok made) := by
  rintro _ ⟨⟩
  exact all

theorem all_error (fault : OperatorFault) : Outcome.All property (.error fault) :=
  fun _ made => nomatch made

theorem exists_of_bind {β : Type} {outcome : Outcome α} {next : α → Outcome β} {b : β}
    (made : outcome >>= next = .ok b) : ∃ a, outcome = .ok a ∧ next a = .ok b := by
  cases outcome with
  | error fault => cases made
  | ok a => exact ⟨a, rfl, made⟩

theorem all_bind {outcome : Outcome α} {next : α → Outcome Made}
    (all : ∀ a, outcome = .ok a → Outcome.All property (next a)) :
    Outcome.All property (outcome >>= next) := by
  cases outcome with
  | error fault => exact all_error fault
  | ok a => exact all a rfl

end Value.Outcome

namespace Value

theorem mem_of_mem_pick {α : Type} {items : Array α} {places : List Nat} {a : α}
    (member : a ∈ pick items places) : a ∈ items.toList := by
  obtain ⟨i, _, found⟩ := List.mem_filterMap.mp member
  exact Array.mem_toList_iff.mpr (Array.mem_of_getElem? found)

theorem mem_of_mem_repeatedItems {items repeated : List Value} {count : Int64}
    (made : repeatedItems items count = .ok repeated) {v : Value} (member : v ∈ repeated) :
    v ∈ items := by
  unfold repeatedItems at made
  obtain ⟨times, _, here⟩ := Outcome.exists_of_bind made
  cases here
  split at member
  · cases member
  · obtain ⟨copy, present, inside⟩ := List.mem_flatten.mp member
    rwa [(List.mem_replicate.mp present).2] at inside

/-- Operators before a value make truth values and numbers. -/
theorem unary_cases {h : Heap} {op : UnaryOp} {operand result : Value}
    (made : operand.unary h op = .ok result) :
    (∃ b, result = .bool b) ∨ (∃ i, result = .int i) ∨ ∃ x, result = .float x := by
  unfold unary at made
  split at made
  · cases made
    exact .inl ⟨_, rfl⟩
  · split at made
    · cases made
      exact .inr (.inl ⟨_, rfl⟩)
    · cases made
  · cases made
    exact .inr (.inr ⟨_, rfl⟩)
  · cases made
    exact .inr (.inl ⟨_, rfl⟩)
  · cases made
    exact .inr (.inr ⟨_, rfl⟩)
  · cases made

theorem getD_of_all {property : Value → Prop} {items : Array Value} (holds : property .none)
    (all : ∀ v ∈ items.toList, property v) (i : Nat) : property (items.getD i .none) := by
  rw [Array.getD_eq_getD_getElem?]
  cases found : items[i]? with
  | none => exact holds
  | some v => exact all v (Array.mem_toList_iff.mpr (Array.mem_of_getElem? found))

end Value

namespace Heap.Spreads

open Value Value.Outcome

variable {h : Heap} {property : Value → Prop} (spreads : h.Spreads property)
include spreads

theorem sequence {v : Value} {items : List Value} (holds : property v)
    (found : v.sequence? h = some items) : ∀ item ∈ items, property item := by
  cases v <;> simp only [sequence?, Option.some.injEq, reduceCtorEq] at found
  case list ref =>
    subst found
    exact spreads.list ref holds
  case tuple elements =>
    subst found
    exact (spreads.tuple _).mp holds

theorem iterate {v : Value} {items : List Value} (holds : property v)
    (made : v.iterate h = .ok items) : ∀ item ∈ items, property item := by
  cases v <;> simp only [Value.iterate, Except.ok.injEq, reduceCtorEq] at made
  case list ref =>
    subst made
    exact spreads.list ref holds
  case tuple elements =>
    subst made
    exact (spreads.tuple _).mp holds
  case dict ref =>
    subst made
    exact (spreads.dict ref holds).keys

theorem getD {items : List Value} (all : ∀ v ∈ items, property v) (i : Nat) :
    property (items.getD i .none) := by
  rw [List.getD_eq_getElem?_getD]
  cases found : items[i]? with
  | none => exact spreads.none
  | some v => exact all v (List.mem_of_getElem? found)

/-- The element under a place of a list. -/
theorem listGetD {ref : ListRef} (holds : property (.list ref)) (i : Nat) :
    property ((h.list ref).items.getD i .none) :=
  getD_of_all spreads.none (spreads.list ref holds) i

section Numbers

theorem exact_ (result : Option Int64) : Outcome.All property (exact result) := by
  cases result with
  | none => exact all_error _
  | some i => exact all_ok (spreads.int i)

theorem arithmetic (op : BinaryOp) (onInts : Int64 → Int64 → Option Int64)
    (onFloats : Float → Float → Float) (left right : Value) :
    Outcome.All property (Value.arithmetic op onInts onFloats left right) := by
  unfold Value.arithmetic
  split
  · exact spreads.exact_ _
  · split
    · exact all_ok (spreads.float _)
    · exact all_error _

theorem floatQuotient (op : BinaryOp) (zero : OperatorFault) (f : Float → Float → Float)
    (left right : Value) : Outcome.All property (Value.floatQuotient op zero f left right) := by
  unfold Value.floatQuotient
  split
  · split
    · exact all_error _
    · exact all_ok (spreads.float _)
  · exact all_error _

theorem floorDivide (left right : Value) :
    Outcome.All property (Value.floorDivide left right) := by
  unfold Value.floorDivide
  split
  · split
    · exact all_error _
    · exact spreads.exact_ _
  · exact spreads.floatQuotient _ _ _ _ _

theorem modulo (left right : Value) : Outcome.All property (Value.modulo h left right) := by
  unfold Value.modulo
  split
  · exact all_bind fun _ _ => all_ok (spreads.str _)
  · split
    · exact all_error _
    · exact spreads.exact_ _
  · exact spreads.floatQuotient _ _ _ _ _

theorem ordered (left right : Value) (holds : Ordering → Bool) :
    Outcome.All property (Value.ordered h left right holds) := by
  unfold Value.ordered
  split
  · exact all_ok (spreads.bool _)
  · exact all_error _

theorem repeatedText (s : String) (count : Int64) :
    Outcome.All property (Value.repeatedText s count) :=
  all_bind fun _ _ => all_ok (spreads.str _)

end Numbers

variable {left right : Value}

theorem add (holdsLeft : property left) (holdsRight : property right) :
    Outcome.All property (Value.add h left right) := by
  unfold Value.add
  split
  · exact all_bind fun _ _ => all_ok (spreads.str _)
  · refine all_bind fun _ _ => all_ok fun v member => ?_
    rcases List.mem_append.mp member with first | second
    · exact spreads.list _ holdsLeft v first
    · exact spreads.list _ holdsRight v second
  · refine all_bind fun _ _ => all_ok ((spreads.tuple _).mpr fun v member => ?_)
    rcases List.mem_append.mp member with first | second
    · exact (spreads.tuple _).mp holdsLeft v first
    · exact (spreads.tuple _).mp holdsRight v second
  · exact spreads.arithmetic _ _ _ _ _

theorem multiply (holdsLeft : property left) (holdsRight : property right) :
    Outcome.All property (Value.multiply h left right) := by
  have repeatedList {ref : ListRef} {n : Int64} (holds : property (.list ref)) :
      Outcome.All property (do
        return .list (← repeatedItems (h.list ref).items.toList n)) :=
    all_bind fun _ made => all_ok fun v member =>
      spreads.list _ holds v (mem_of_mem_repeatedItems made member)
  have repeatedTuple {items : List Value} {n : Int64} (holds : property (.tuple items)) :
      Outcome.All property (do return .value (.tuple (← repeatedItems items n))) :=
    all_bind fun _ made => all_ok ((spreads.tuple _).mpr fun v member =>
      (spreads.tuple _).mp holds v (mem_of_mem_repeatedItems made member))
  unfold Value.multiply
  split
  · exact spreads.repeatedText _ _
  · exact spreads.repeatedText _ _
  · exact repeatedList holdsLeft
  · exact repeatedList holdsRight
  · exact repeatedTuple holdsLeft
  · exact repeatedTuple holdsRight
  · exact spreads.arithmetic _ _ _ _ _

theorem binary (op : BinaryOp) (holdsLeft : property left) (holdsRight : property right) :
    Outcome.All property (Value.binary h op left right) := by
  have chosen {c : Prop} [Decidable c] {first second : Value} (holdsFirst : property first)
      (holdsSecond : property second) :
      Outcome.All property (.ok (.value (if c then first else second))) := by
    refine all_ok ?_
    show property (if _ then _ else _)
    split <;> assumption
  cases op with
  | eq => exact all_ok (spreads.bool _)
  | ne => exact all_ok (spreads.bool _)
  | lt => exact spreads.ordered _ _ _
  | le => exact spreads.ordered _ _ _
  | gt => exact spreads.ordered _ _ _
  | ge => exact spreads.ordered _ _ _
  | in_ => exact all_bind fun _ _ => all_ok (spreads.bool _)
  | notIn => exact all_bind fun _ _ => all_ok (spreads.bool _)
  | and => exact chosen holdsRight holdsLeft
  | or => exact chosen holdsLeft holdsRight
  | add => exact spreads.add holdsLeft holdsRight
  | sub => exact spreads.arithmetic _ _ _ _ _
  | mul => exact spreads.multiply holdsLeft holdsRight
  | div => exact spreads.floatQuotient _ _ _ _ _
  | floorDiv => exact spreads.floorDivide _ _
  | mod => exact spreads.modulo _ _

theorem unary {op : UnaryOp} {operand result : Value}
    (made : operand.unary h op = .ok result) : property result := by
  rcases unary_cases made with ⟨b, rfl⟩ | ⟨i, rfl⟩ | ⟨x, rfl⟩
  · exact spreads.bool b
  · exact spreads.int i
  · exact spreads.float x

theorem index {object key result : Value} (holds : property object)
    (made : object.index h key = .ok result) : property result := by
  unfold Value.index at made
  split at made
  · obtain ⟨i, _, here⟩ := exists_of_bind made
    cases here
    exact spreads.listGetD holds i
  · obtain ⟨i, _, here⟩ := exists_of_bind made
    cases here
    exact spreads.getD ((spreads.tuple _).mp holds) i
  · obtain ⟨i, _, here⟩ := exists_of_bind made
    cases here
    exact spreads.str _
  · obtain ⟨hash, _, here⟩ := exists_of_bind made
    split at here
    · rename_i found
      cases here
      exact (spreads.dict _ holds).find? found
    · cases here
  · cases made

theorem slice {object : Value} {start stop step : Option Value} (holds : property object) :
    Outcome.All property (object.slice h start stop step) := by
  unfold Value.slice
  refine all_bind fun step _ => ?_
  dsimp only
  split
  · exact all_bind fun _ made => nomatch made
  · refine all_bind fun start _ => all_bind fun stop _ => ?_
    split
    · exact all_ok fun v member => spreads.list _ holds v (mem_of_mem_pick member)
    · exact all_ok ((spreads.tuple _).mpr fun v member =>
        (spreads.tuple _).mp holds v (mem_of_mem_pick member))
    · exact all_ok (spreads.str _)
    · exact all_error _

end Heap.Spreads

/-! ## Live values -/

/-- What an operator makes is a live value, or a list of live values. -/
def Made.Live (extent : Extent) : Made → Prop
  | .value v => v.Live extent
  | .list items => ∀ v ∈ items, v.Live extent

/-- All that an operator can make is live. -/
def Value.Outcome.Live (extent : Extent) (outcome : Value.Outcome Made) : Prop :=
  ∀ made, outcome = .ok made → made.Live extent

theorem Made.All.live {extent : Extent} {made : Made} (all : made.All (Value.Live extent)) :
    made.Live extent := by
  cases made <;> exact all

theorem Value.Outcome.All.live {extent : Extent} {outcome : Value.Outcome Made}
    (all : Value.Outcome.All (Value.Live extent) outcome) : outcome.Live extent :=
  fun made ok => (all made ok).live

namespace Heap.Sound

theorem getD {h : Heap} (sound : h.Sound) (ref : ListRef) (i : Nat) :
    ((h.list ref).items.getD i .none).Live h.extent :=
  Value.getD_of_all Value.live_none (sound.items ref) i

end Heap.Sound

namespace Value

variable {h : Heap} {left right : Value}

theorem live_sequence {v : Value} {items : List Value} (sound : h.Sound) (live : v.Live h.extent)
    (found : v.sequence? h = some items) : ∀ item ∈ items, item.Live h.extent :=
  sound.spreads.sequence live found

theorem live_iterate {v : Value} {items : List Value} (sound : h.Sound) (live : v.Live h.extent)
    (made : v.iterate h = .ok items) : ∀ item ∈ items, item.Live h.extent :=
  sound.spreads.iterate live made

theorem headD_live {extent : Extent} {items : List Value} (live : ∀ v ∈ items, v.Live extent) :
    (items.headD none).Live extent := by
  cases items with
  | nil => exact live_none
  | cons v _ => exact live v (.head _)

theorem live_binary (op : BinaryOp) (sound : h.Sound) (liveLeft : left.Live h.extent)
    (liveRight : right.Live h.extent) : Outcome.Live h.extent (binary h op left right) :=
  (sound.spreads.binary op liveLeft liveRight).live

theorem live_unary {op : UnaryOp} {operand result : Value}
    (made : operand.unary h op = .ok result) : result.Live h.extent := by
  rcases unary_cases made with ⟨b, rfl⟩ | ⟨i, rfl⟩ | ⟨x, rfl⟩ <;> simp

theorem live_index {object key result : Value} (sound : h.Sound) (live : object.Live h.extent)
    (made : object.index h key = .ok result) : result.Live h.extent :=
  sound.spreads.index live made

theorem live_slice {object : Value} {start stop step : Option Value} (sound : h.Sound)
    (live : object.Live h.extent) : Outcome.Live h.extent (object.slice h start stop step) :=
  (sound.spreads.slice live).live

end Value

namespace Sorting

variable {h : Heap} {entry : Keyed}

theorem exists_of_map {made : List Keyed} {first : Keyed}
    {outcome : Except Value.Incomparable (List Keyed)}
    (mapped : outcome.map (first :: ·) = .ok made)
    (member : entry ∈ made) : entry = first ∨ ∃ rest, outcome = .ok rest ∧ entry ∈ rest := by
  cases outcome with
  | error reason => cases mapped
  | ok rest =>
    cases mapped
    exact (List.mem_cons.mp member).imp id fun later => ⟨rest, rfl, later⟩

theorem mem_of_mem_merge {left right merged : List Keyed} (made : merge h left right = .ok merged)
    (member : entry ∈ merged) : entry ∈ left ∨ entry ∈ right := by
  fun_induction merge h left right generalizing merged with
  | case1 right =>
    cases made
    exact .inr member
  | case2 left _ =>
    cases made
    exact .inl member
  | case3 => cases made
  | case4 l left r right _ ih =>
    rcases exists_of_map made member with rfl | ⟨rest, merges, later⟩
    · exact .inr (.head _)
    · exact (ih merges later).imp id (.tail _)
  | case5 l left r right _ _ _ ih =>
    rcases exists_of_map made member with rfl | ⟨rest, merges, later⟩
    · exact .inl (.head _)
    · exact (ih merges later).imp (.tail _) id

theorem mem_of_mem_sort {entries sorted : List Keyed} (made : sort h entries = .ok sorted)
    (member : entry ∈ sorted) : entry ∈ entries := by
  fun_induction sort h entries generalizing sorted with
  | case1 entries _ =>
    cases made
    exact member
  | case2 => cases made
  | case3 => cases made
  | case4 entries _ left sortsLeft right sortsRight ihLeft ihRight =>
    rcases mem_of_mem_merge made member with first | second
    · exact List.mem_of_mem_take (ihLeft sortsLeft first)
    · exact List.mem_of_mem_drop (ihRight sortsRight second)

theorem mem_of_extremeFrom {wanted : Ordering} {best : Keyed} {entries : List Keyed} {found : Value}
    (made : extremeFrom h wanted best entries = .ok found) :
    ∃ entry ∈ best :: entries, found = entry.item := by
  induction entries generalizing best with
  | nil =>
    cases made
    exact ⟨best, .head _, rfl⟩
  | cons entry rest ih =>
    rw [extremeFrom] at made
    split at made
    · cases made
    · obtain ⟨chosen, member, same⟩ := ih made
      refine ⟨chosen, ?_, same⟩
      rcases List.mem_cons.mp member with rfl | later
      · split
        · exact .tail _ (.head _)
        · exact .head _
      · exact .tail _ (.tail _ later)

theorem mem_of_extreme {wanted : Ordering} {entries : List Keyed} {found : Value}
    (made : extreme h wanted entries = .ok (some found)) :
    ∃ entry ∈ entries, found = entry.item := by
  cases entries with
  | nil => cases made
  | cons entry rest =>
    rw [extreme] at made
    obtain ⟨value, chosen, ⟨⟩⟩ := Except.exists_of_map_ok made
    exact mem_of_extremeFrom chosen

end Sorting

end PixelApplet
