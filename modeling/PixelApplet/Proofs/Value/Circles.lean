import Mathlib.Data.Finset.Sum
import PixelApplet.Json.Value
import PixelApplet.Proofs.Value.Sound
import PixelApplet.Value.Equality

/-!
# Values without circles

What a value holds is what it is built from and what stands in its cell; what it reaches is what it
holds, over any number of steps.  Comparing, ordering and encoding values goes into all that they
reach.  A value that reaches no list or dict containing itself is left after as many steps as there
are cells, and however many more are allowed the answer is the same.
-/

namespace PixelApplet

namespace Heap

/-- A value holds another as a piece of data. -/
inductive Holds (h : Heap) : Value → Value → Prop where
  | element {ref : ListRef} {v : Value} (member : v ∈ (h.list ref).items.toList) :
    Holds h (.list ref) v
  | key {ref : DictRef} {entry : DictEntry} (member : entry ∈ (h.dict ref).entries.toList) :
    Holds h (.dict ref) entry.key
  | value {ref : DictRef} {entry : DictEntry} (member : entry ∈ (h.dict ref).entries.toList) :
    Holds h (.dict ref) entry.value
  | item {items : List Value} {v : Value} (member : v ∈ items) : Holds h (.tuple items) v
  | field {fields : List (String × Value)} {field : String × Value} (member : field ∈ fields) :
    Holds h (.struct fields) field.2

/-- A value reaches another through elements, keys and values, items of tuples, and fields. -/
inductive Reaches (h : Heap) (v : Value) : Value → Prop where
  | here : Reaches h v v
  | inside {middle last : Value} (before : Reaches h v middle) (holds : h.Holds middle last) :
    Reaches h v last

theorem Reaches.trans {h : Heap} {u v w : Value} (first : h.Reaches u v) (second : h.Reaches v w) :
    h.Reaches u w := by
  induction second with
  | here => exact first
  | inside _ holds ih => exact .inside ih holds

/-- The list or dict that a value is. -/
def cell? : Value → Option (Nat ⊕ Nat)
  | .list ref => some (.inl ref.index)
  | .dict ref => some (.inr ref.index)
  | _ => none

/-- A list or a dict contains itself. -/
def Circular (h : Heap) (v : Value) : Prop :=
  (cell? v).isSome ∧ ∃ w, h.Holds v w ∧ h.Reaches w v

/-- A value reaches no list or dict that contains itself. -/
def Straight (h : Heap) (v : Value) : Prop :=
  ∀ w, h.Reaches v w → ¬h.Circular w

/-- What a value holds as a list or a dict. -/
def contents (h : Heap) : Value → List Value
  | .list ref => (h.list ref).items.toList
  | .dict ref => (h.dict ref).pairs.flatMap fun pair => [pair.1, pair.2]
  | _ => []

/-- All that the lists and dicts in a value hold has a property. -/
def Inside (h : Heap) (property : Value → Prop) (v : Value) : Prop :=
  v.Throughout Value.dataParts fun part => ∀ w ∈ h.contents part, property w

/-- All lists and dicts that a value reaches are left after fewer than so many steps into them. -/
def Within (h : Heap) : (levels : Nat) → Value → Prop
  | 0, _ => False
  | levels + 1, v => h.Inside (h.Within levels) v

/-- The lists and dicts that are there. -/
def cells (h : Heap) : Finset (Nat ⊕ Nat) :=
  (Finset.range h.lists.size).disjSum (Finset.range h.dicts.size)

theorem card_cells (h : Heap) : h.cells.card = h.cellCount := by
  rw [cells, Finset.card_disjSum, Finset.card_range, Finset.card_range, cellCount]

variable {h : Heap}

/-- Only lists and dicts that are there hold something. -/
theorem cell_of_contents {v w : Value} (member : w ∈ h.contents v) :
    ∃ cell ∈ h.cells, cell? v = some cell := by
  cases v with
  | list ref =>
    refine ⟨.inl ref.index, ?_, rfl⟩
    rw [cells, Finset.inl_mem_disjSum, Finset.mem_range]
    by_contra outside
    have nothing : h.list ref = default := by simp [list, outside]
    rw [contents, nothing] at member
    exact List.not_mem_nil member
  | dict ref =>
    refine ⟨.inr ref.index, ?_, rfl⟩
    rw [cells, Finset.inr_mem_disjSum, Finset.mem_range]
    by_contra outside
    have nothing : h.dict ref = default := by simp [dict, outside]
    rw [contents, nothing] at member
    exact List.not_mem_nil member
  | _ => cases member

theorem holds_of_contents {v w : Value} (member : w ∈ h.contents v) : h.Holds v w := by
  cases v with
  | list ref => exact .element member
  | dict ref =>
    obtain ⟨pair, present, chosen⟩ := List.mem_flatMap.mp member
    obtain ⟨entry, stored, rfl⟩ := List.mem_map.mp present
    rcases List.mem_pair.mp chosen with rfl | rfl
    · exact .key stored
    · exact .value stored
  | _ => cases member

theorem value_mem_contents {ref : DictRef} {entry : DictEntry}
    (member : entry ∈ (h.dict ref).entries.toList) : entry.value ∈ h.contents (.dict ref) :=
  List.mem_flatMap.mpr
    ⟨(entry.key, entry.value), List.mem_map_of_mem member, .tail _ (.head _)⟩

theorem holds_of_dataParts {v part : Value} (member : part ∈ v.dataParts) : h.Holds v part := by
  cases v with
  | tuple items => exact .item member
  | struct fields =>
    obtain ⟨field, present, rfl⟩ := List.mem_map.mp member
    exact .field present
  | _ => cases member

theorem eq_of_cell? {v w : Value} {cell : Nat ⊕ Nat} (first : cell? v = some cell)
    (second : cell? w = some cell) : v = w := by
  rw [← second] at first
  cases v with
  | list ref =>
    cases w with
    | list ref' =>
      simp only [cell?, Option.some.injEq, Sum.inl.injEq] at first
      rw [show ref = ref' from congrArg ListRef.mk first]
    | _ => cases first
  | dict ref =>
    cases w with
    | dict ref' =>
      simp only [cell?, Option.some.injEq, Sum.inr.injEq] at first
      rw [show ref = ref' from congrArg DictRef.mk first]
    | _ => cases first
  | _ => cases w <;> cases second <;> cases first

theorem sizeOf_lt_of_dataParts {v part : Value} (member : part ∈ v.dataParts) :
    sizeOf part < sizeOf v := by
  cases v with
  | tuple items =>
    have smaller := List.sizeOf_lt_of_mem member
    rw [Value.dataParts] at smaller
    rw [Value.tuple.sizeOf_spec]
    omega
  | struct fields =>
    obtain ⟨field, present, rfl⟩ := List.mem_map.mp member
    have smaller := List.sizeOf_lt_of_mem present
    have inside : sizeOf field.2 < sizeOf field := by
      rw [Prod.mk.sizeOf_spec]
      omega
    rw [Value.struct.sizeOf_spec]
    omega
  | _ => cases member

theorem throughout_of_reaches {property : Value → Prop} (v : Value)
    (holds : ∀ w, h.Reaches v w → property w) : v.Throughout Value.dataParts property := by
  refine .intro (holds v .here) fun part member => ?_
  exact throughout_of_reaches part fun w reaches =>
    holds w (Reaches.trans (.inside .here (holds_of_dataParts member)) reaches)
termination_by sizeOf v
decreasing_by exact sizeOf_lt_of_dataParts member

/-- On a way without circles every list or dict is another: so there are no more steps than cells
that were not visited before. -/
theorem Straight.within_of_unvisited {levels : Nat} {visited : Finset (Nat ⊕ Nat)} {v : Value}
    (straight : h.Straight v) (inside : visited ⊆ h.cells)
    (unvisited : ∀ w, h.Reaches v w → ∀ cell, cell? w = some cell → cell ∉ visited)
    (enough : h.cellCount < levels + visited.card) : h.Within levels v := by
  induction levels generalizing visited v with
  | zero =>
    have few := Finset.card_le_card inside
    rw [card_cells] at few
    omega
  | succ levels ih =>
    refine throughout_of_reaches v fun w (reaches : h.Reaches v w) x member => ?_
    obtain ⟨cell, present, same⟩ := cell_of_contents member
    have holds := holds_of_contents member
    have reaches' : h.Reaches v x := .inside reaches holds
    refine ih (fun u further => straight u (reaches'.trans further))
      (Finset.insert_subset present inside) (fun u further other same' => ?_) ?_
    · rw [Finset.mem_insert, not_or]
      refine ⟨?_, unvisited u (reaches'.trans further) other same'⟩
      rintro rfl
      cases eq_of_cell? same same'
      exact straight w reaches ⟨by rw [same]; rfl, x, holds, further⟩
    · rw [Finset.card_insert_of_notMem (unvisited w reaches cell same)]
      omega

theorem Straight.within {v : Value} (straight : h.Straight v) : h.Within (h.cellCount + 1) v :=
  straight.within_of_unvisited (Finset.empty_subset _) (fun _ _ _ _ => Finset.notMem_empty _)
    (by omega)

end Heap

namespace Value

variable {h : Heap} {levels : Nat}

theorem all_congr_of_mem {α : Type} {items : List α} {holds holds' : α → Bool}
    (same : ∀ item ∈ items, holds item = holds' item) : items.all holds = items.all holds' := by
  rw [Bool.eq_iff_iff, List.all_eq_true, List.all_eq_true]
  exact forall₂_congr fun item member => by rw [same item member]

section Equality

variable {inner inner' : Value → Value → Bool}

mutual

theorem equalWith_congr (a b : Value) (same : h.Inside (fun w => ∀ y, inner w y = inner' w y) a) :
    equalWith h inner a b = equalWith h inner' a b := by
  match a with
  | .list ref =>
    cases b with
    | list ref' =>
      have elements : ∀ pair ∈ (h.list ref).items.toList.zip (h.list ref').items.toList,
          inner pair.1 pair.2 = inner' pair.1 pair.2 := fun pair member =>
        same.here pair.1 (List.of_mem_zip member).1 pair.2
      rw [equalWith, equalWith]
      simp only [all_congr_of_mem elements]
    | _ => rfl
  | .dict ref =>
    cases b with
    | dict ref' =>
      have entries (entry : DictEntry) (member : entry ∈ (h.dict ref).entries.toList)
          (other : DictEntry) : inner entry.value other.value = inner' entry.value other.value :=
        same.here entry.value (Heap.value_mem_contents member) other.value
      rw [equalWith, equalWith]
      simp only [← Array.all_toList]
      rw [all_congr_of_mem fun entry member => ?_]
      cases (h.dict ref').find? entry.hash with
      | none => rfl
      | some other => exact entries entry member other
    | _ => rfl
  | .tuple xs =>
    cases b with
    | tuple ys => exact equalAllWith_congr xs ys same.inside
    | _ => rfl
  | .struct xs =>
    cases b with
    | struct ys =>
      rw [equalWith, equalWith, equalFieldsWith_congr xs ys fun field member =>
        same.inside field.2 (List.mem_map_of_mem member)]
    | _ => rfl
  | .none | .bool _ | .int _ | .float _ | .str _ | .function _ _ | .builtin _ _ | .module _ _ _
  | .native _ _ => cases b <;> rfl

theorem equalAllWith_congr (xs ys : List Value)
    (same : ∀ x ∈ xs, h.Inside (fun w => ∀ y, inner w y = inner' w y) x) :
    equalAllWith h inner xs ys = equalAllWith h inner' xs ys := by
  match xs, ys with
  | x :: xs, y :: ys =>
    rw [equalAllWith, equalAllWith, equalWith_congr x y (same x (.head _)),
      equalAllWith_congr xs ys fun x member => same x (.tail _ member)]
  | [], [] | [], _ :: _ | _ :: _, [] => rfl

theorem equalFieldsWith_congr (xs ys : List (String × Value))
    (same : ∀ field ∈ xs, h.Inside (fun w => ∀ y, inner w y = inner' w y) field.2) :
    equalFieldsWith h inner xs ys = equalFieldsWith h inner' xs ys := by
  match xs with
  | (name, x) :: rest =>
    rw [equalFieldsWith, equalFieldsWith,
      equalFieldsWith_congr rest ys fun field member => same field (.tail _ member)]
    cases ys.lookup name with
    | none => rfl
    | some y =>
      dsimp only
      rw [equalWith_congr x y (same (name, x) (.head _))]
  | [] => rfl

end

/-- More levels than a value has make no difference. -/
theorem equalTo_of_within {more : Nat} {a : Value} (within : h.Within levels a)
    (enough : levels ≤ more) (b : Value) : equalTo h more a b = equalTo h levels a b := by
  induction levels generalizing more a b with
  | zero => exact within.elim
  | succ levels ih =>
    obtain ⟨more, rfl⟩ : ∃ fewer, more = fewer + 1 := ⟨more - 1, by omega⟩
    refine equalWith_congr a b (within.mono fun part inside w member y => ?_)
    exact ih (inside w member) (by omega) y

end Equality

section Order

variable {inner inner' : Value → Value → Except Incomparable Ordering}

theorem compareItems_congr (xs ys : List Value) (same : ∀ x ∈ xs, ∀ y, inner x y = inner' x y) :
    compareItems inner xs ys = compareItems inner' xs ys := by
  induction xs generalizing ys with
  | nil => cases ys <;> rfl
  | cons x xs ih =>
    cases ys with
    | nil => rfl
    | cons y ys =>
      rw [compareItems, compareItems, same x (.head _),
        ih ys fun x member => same x (.tail _ member)]

mutual

theorem compareWith_congr (a b : Value)
    (same : h.Inside (fun w => ∀ y, inner w y = inner' w y) a) :
    compareWith h inner a b = compareWith h inner' a b := by
  match a with
  | .list ref =>
    cases b with
    | list ref' => exact compareItems_congr _ _ same.here
    | _ => rfl
  | .tuple xs =>
    cases b with
    | tuple ys => exact compareAllWith_congr xs ys same.inside
    | _ => rfl
  | .none | .bool _ | .int _ | .float _ | .str _ | .dict _ | .function _ _ | .builtin _ _
  | .struct _ | .module _ _ _ | .native _ _ => cases b <;> rfl

theorem compareAllWith_congr (xs ys : List Value)
    (same : ∀ x ∈ xs, h.Inside (fun w => ∀ y, inner w y = inner' w y) x) :
    compareAllWith h inner xs ys = compareAllWith h inner' xs ys := by
  match xs, ys with
  | x :: xs, y :: ys =>
    rw [compareAllWith, compareAllWith, compareWith_congr x y (same x (.head _)),
      compareAllWith_congr xs ys fun x member => same x (.tail _ member)]
  | [], [] | [], _ :: _ | _ :: _, [] => rfl

end

/-- More levels than a value has make no difference to its order. -/
theorem compareTo_of_within {more : Nat} {a : Value} (within : h.Within levels a)
    (enough : levels ≤ more) (b : Value) : compareTo h more a b = compareTo h levels a b := by
  induction levels generalizing more a b with
  | zero => exact within.elim
  | succ levels ih =>
    obtain ⟨more, rfl⟩ : ∃ fewer, more = fewer + 1 := ⟨more - 1, by omega⟩
    refine compareWith_congr a b (within.mono fun part inside w member y => ?_)
    exact ih (inside w member) (by omega) y

end Order

section Document

variable {encode encode' : Value → Except EncodingFault Json}

theorem encodeItems_congr (items : List Value) (same : ∀ v ∈ items, encode v = encode' v) :
    encodeItems encode items = encodeItems encode' items := by
  induction items with
  | nil => rfl
  | cons item rest ih =>
    rw [encodeItems, encodeItems, same item (.head _), ih fun v member => same v (.tail _ member)]

theorem encodeEntries_congr (entries : List (Value × Value))
    (same : ∀ entry ∈ entries, encode entry.2 = encode' entry.2) :
    encodeEntries encode entries = encodeEntries encode' entries := by
  induction entries with
  | nil => rfl
  | cons entry rest ih =>
    obtain ⟨key, value⟩ := entry
    cases key with
    | str name =>
      rw [encodeEntries, encodeEntries, same (.str name, value) (.head _),
        ih fun entry member => same entry (.tail _ member)]
    | _ => rfl

mutual

theorem encodeWith_congr (v : Value) (same : h.Inside (fun w => encode w = encode' w) v) :
    encodeWith h encode v = encodeWith h encode' v := by
  match v with
  | .list ref => rw [encodeWith, encodeWith, encodeItems_congr (h.list ref).items.toList same.here]
  | .dict ref =>
    rw [encodeWith, encodeWith, encodeEntries_congr (h.dict ref).pairs fun entry member => ?_]
    exact same.here entry.2 (List.mem_flatMap.mpr ⟨entry, member, .tail _ (.head _)⟩)
  | .tuple items => rw [encodeWith, encodeWith, encodeAllWith_congr items same.inside]
  | .struct fields =>
    rw [encodeWith, encodeWith, encodeFieldsWith_congr fields fun field member =>
      same.inside field.2 (List.mem_map_of_mem member)]
  | .none | .bool _ | .int _ | .float _ | .str _ | .function _ _ | .builtin _ _ | .module _ _ _
  | .native _ _ => rfl

theorem encodeAllWith_congr (items : List Value)
    (same : ∀ v ∈ items, h.Inside (fun w => encode w = encode' w) v) :
    encodeAllWith h encode items = encodeAllWith h encode' items := by
  match items with
  | [] => rfl
  | item :: rest =>
    rw [encodeAllWith, encodeAllWith, encodeWith_congr item (same item (.head _)),
      encodeAllWith_congr rest fun v member => same v (.tail _ member)]

theorem encodeFieldsWith_congr (fields : List (String × Value))
    (same : ∀ field ∈ fields, h.Inside (fun w => encode w = encode' w) field.2) :
    encodeFieldsWith h encode fields = encodeFieldsWith h encode' fields := by
  match fields with
  | [] => rfl
  | (name, item) :: rest =>
    rw [encodeFieldsWith, encodeFieldsWith, encodeWith_congr item (same (name, item) (.head _)),
      encodeFieldsWith_congr rest fun field member => same field (.tail _ member)]

end

/-- More levels than a value has make no difference to its document. -/
theorem encodeTo_of_within {more : Nat} {v : Value} (within : h.Within levels v)
    (enough : levels ≤ more) : encodeTo h more v = encodeTo h levels v := by
  induction levels generalizing more v with
  | zero => exact within.elim
  | succ levels ih =>
    obtain ⟨more, rfl⟩ : ∃ fewer, more = fewer + 1 := ⟨more - 1, by omega⟩
    refine encodeWith_congr v (within.mono fun part inside w member => ?_)
    exact ih (inside w member) (by omega)

end Document

/-- The levels that are allowed are enough for a value that reaches no list or dict containing
itself. -/
theorem levels_suffice {v : Value} (straight : h.Straight v) {more : Nat}
    (enough : h.cellCount < more) :
    (∀ other, equalTo h more v other = v.equal h other)
      ∧ (∀ other, compareTo h more v other = v.order h other)
      ∧ encodeTo h more v = v.toJson h :=
  ⟨equalTo_of_within straight.within enough, compareTo_of_within straight.within enough,
    encodeTo_of_within straight.within enough⟩

end Value

end PixelApplet
