import PixelApplet.Proofs.Value.Equality
import Mathlib.Data.String.Basic

/-!
# Equality, keys and order agree

Equality, dict keys and the order of values are computed apart from each other.  On values that
reach no float and no cell containing itself they agree: the order is a partial one, and its ties
are the equal values.
-/

namespace PixelApplet.Value

variable {h : Heap}

/-! ## Order -/

section Order

/-- How two values may be compared. -/
abbrev Comparison :=
  Value → Value → Except Incomparable Ordering

variable {inner : Comparison}

/-- Turned around, a comparison gives the opposite. -/
def Comparison.Turns (compares : Comparison) (x y : Value) : Prop :=
  ∀ o, compares x y = .ok o → compares y x = .ok o.swap

/-- Ties of a comparison are what is the same. -/
def Comparison.Ties (compares : Comparison) (same : Value → Value → Prop) (x y : Value) : Prop :=
  ∀ o, compares x y = .ok o → (o = .eq ↔ same x y)

/-- What does not decrease in two steps does not decrease, and is a tie only if both steps are. -/
def Comparison.Joins (compares : Comparison) (x y z : Value) : Prop :=
  ∀ o o', compares x y = .ok o → compares y z = .ok o' → o.isLE → o'.isLE →
    compares x z = .ok (o.then o')

theorem compareItems_cons {compares : Comparison} {x y : Value} {xs ys : List Value} {o : Ordering}
    (made : compareItems compares (x :: xs) (y :: ys) = .ok o) :
    (compares x y = .ok .eq ∧ compareItems compares xs ys = .ok o)
      ∨ (compares x y = .ok o ∧ o ≠ .eq) := by
  rw [compareItems] at made
  cases compared : compares x y with
  | error e =>
    rw [compared] at made
    cases made
  | ok here =>
    rw [compared] at made
    cases here with
    | eq => exact .inl ⟨rfl, made⟩
    | lt =>
      cases made
      exact .inr ⟨rfl, by decide⟩
    | gt =>
      cases made
      exact .inr ⟨rfl, by decide⟩

theorem compareItems_turns {compares : Comparison} {xs ys : List Value}
    (each : ∀ x ∈ xs, ∀ y ∈ ys, compares.Turns x y) {o : Ordering}
    (made : compareItems compares xs ys = .ok o) : compareItems compares ys xs = .ok o.swap := by
  induction xs generalizing ys with
  | nil => cases ys <;> cases made <;> rfl
  | cons x xs ih =>
    cases ys with
    | nil =>
      cases made
      rfl
    | cons y ys =>
      have here := each x (.head _) y (.head _)
      rcases compareItems_cons made with ⟨tie, rest⟩ | ⟨decided, different⟩
      · rw [compareItems, here _ tie]
        exact ih (fun x member y member' => each x (.tail _ member) y (.tail _ member')) rest
      · rw [compareItems, here _ decided]
        cases o with
        | eq => exact absurd rfl different
        | _ => rfl

theorem compareItems_ties {compares : Comparison} {same : Value → Value → Prop} {xs ys : List Value}
    (each : ∀ x ∈ xs, ∀ y ∈ ys, compares.Ties same x y) {o : Ordering}
    (made : compareItems compares xs ys = .ok o) : o = .eq ↔ List.Forall₂ same xs ys := by
  induction xs generalizing ys with
  | nil => cases ys <;> cases made <;> simp
  | cons x xs ih =>
    cases ys with
    | nil =>
      cases made
      simp
    | cons y ys =>
      have here := each x (.head _) y (.head _)
      have later := ih fun x member y member' => each x (.tail _ member) y (.tail _ member')
      rw [List.forall₂_cons]
      rcases compareItems_cons made with ⟨tie, rest⟩ | ⟨decided, different⟩
      · rw [later rest, ← here _ tie]
        simp
      · rw [← here _ decided]
        simp [different]

theorem compareItems_joins {compares : Comparison} {xs ys zs : List Value}
    (each : ∀ x ∈ xs, ∀ y ∈ ys, ∀ z ∈ zs, compares.Joins x y z) {o o' : Ordering}
    (le : o.isLE) (le' : o'.isLE) (made : compareItems compares xs ys = .ok o)
    (made' : compareItems compares ys zs = .ok o') :
    compareItems compares xs zs = .ok (o.then o') := by
  induction xs generalizing ys zs with
  | nil =>
    cases ys with
    | nil =>
      cases made
      exact made'
    | cons y ys =>
      cases made
      cases zs with
      | nil =>
        cases made'
        cases le'
      | cons z zs => rfl
  | cons x xs ih =>
    cases ys with
    | nil =>
      cases made
      cases le
    | cons y ys =>
      cases zs with
      | nil =>
        cases made'
        cases le'
      | cons z zs =>
        have here := each x (.head _) y (.head _) z (.head _)
        have later := ih fun x member y member' z member'' =>
          each x (.tail _ member) y (.tail _ member') z (.tail _ member'')
        have less {o : Ordering} (le : o.isLE) (different : o ≠ .eq) : o = .lt := by
          cases o <;> trivial
        rw [compareItems]
        rcases compareItems_cons made with ⟨tie, rest⟩ | ⟨decided, different⟩ <;>
          rcases compareItems_cons made' with ⟨tie', rest'⟩ | ⟨decided', different'⟩
        · rw [here _ _ tie tie' rfl rfl]
          exact later rest rest'
        · cases less le' different'
          rw [here _ _ tie decided' rfl rfl]
          cases o <;> first | rfl | cases le
        · cases less le different
          rw [here _ _ decided tie' rfl rfl]
          rfl
        · cases less le different
          rw [here _ _ decided decided' rfl le']
          rfl

theorem compareAllWith_eq (xs ys : List Value) :
    compareAllWith h inner xs ys = compareItems (compareWith h inner) xs ys := by
  induction xs generalizing ys with
  | nil => cases ys <;> rfl
  | cons x xs ih =>
    cases ys with
    | nil => rfl
    | cons y ys => rw [compareAllWith, compareItems, ih]

/-- A total order does not decrease in two steps that do not. -/
theorem compare_joins {α : Type} [Ord α] [Std.TransOrd α] [Std.LawfulEqOrd α] {a b c : α}
    (le : (compare a b).isLE) (le' : (compare b c).isLE) :
    compare a c = (compare a b).then (compare b c) := by
  cases here : compare a b with
  | eq =>
    cases Std.LawfulEqCmp.compare_eq_iff_eq.mp here
    rfl
  | lt => exact Std.TransCmp.lt_of_lt_of_isLE here le'
  | gt =>
    rw [here] at le
    cases le

/-! ### Doubles

Doubles are compared by sign, exponent and mantissa; only what is not a number stands nowhere. -/

open Float.Model (UnpackedFloat) in
/-- How two doubles stand to each other, if both are numbers. -/
def standing? (x y : Float) : Option Ordering :=
  UnpackedFloat.compare x.toModel.unpack y.toModel.unpack

open Float.Model (UnpackedFloat) in
theorem standing?_swap (x y : Float) : standing? y x = (standing? x y).map Ordering.swap := by
  unfold standing?
  generalize x.toModel.unpack = a
  generalize y.toModel.unpack = b
  have signs (s t : UnpackedFloat.Sign) : compare t s = (compare s t).swap := by
    cases s <;> cases t <;> rfl
  have sizes (e f : Int) (m n : Nat) :
      (compare f e).then (compare n m) = ((compare e f).then (compare m n)).swap := by
    rw [Ordering.swap_then, ← Std.OrientedOrd.eq_swap, ← Std.OrientedOrd.eq_swap]
  cases a with
  | notANumber => cases b <;> rfl
  | infinity s =>
    cases b with
    | infinity t => exact congrArg some (signs s t)
    | _ => cases s <;> rfl
  | zero s =>
    cases b with
    | infinity t => cases t <;> rfl
    | finite t => cases t <;> rfl
    | _ => rfl
  | finite s m e _ =>
    cases b with
    | infinity t => cases s <;> cases t <;> rfl
    | finite t n f _ =>
      cases s <;> cases t
      · exact congrArg (fun o => some o.swap) (sizes e f m n)
      · rfl
      · rfl
      · exact congrArg some (sizes e f m n)
    | _ => cases s <;> rfl

theorem compareFloats_eq (x y : Float) :
    compareFloats x y = (standing? x y).elim (.error .notANumber) .ok := by
  have less (x y : Float) : x < y ↔ standing? x y = some .lt := by
    show decide ((standing? x y == some .lt) = true) = true ↔ _
    simp
  have tie : (x == y) = true ↔ standing? x y = some .eq := by
    show (standing? x y == some .eq) = true ↔ _
    simp
  unfold compareFloats
  simp only [less, tie, standing?_swap x y]
  rcases standing? x y with _ | _ | _ | _ <;> rfl

theorem compareFloats_turns {x y : Float} {o : Ordering} (made : compareFloats x y = .ok o) :
    compareFloats y x = .ok o.swap := by
  rw [compareFloats_eq] at made ⊢
  rw [standing?_swap]
  cases standing : standing? x y with
  | none =>
    rw [standing] at made
    cases made
  | some here =>
    rw [standing] at made
    cases made
    rfl

/-! ### All values -/

/-- How two values without floats stand to each other, if they can be compared. -/
inductive Stand (h : Heap) (parts cells : Comparison) : Value → Value → Ordering → Prop where
  | int (i j : Int64) : Stand h parts cells (.int i) (.int j) (compare i.toInt j.toInt)
  | str (s t : String) : Stand h parts cells (.str s) (.str t) (compare s t)
  | bool (b c : Bool) : Stand h parts cells (.bool b) (.bool c) (compare b.toNat c.toNat)
  | list {a b : ListRef} {o : Ordering}
    (made : compareItems cells (h.list a).items.toList (h.list b).items.toList = .ok o) :
    Stand h parts cells (.list a) (.list b) o
  | tuple {xs ys : List Value} {o : Ordering} (made : compareItems parts xs ys = .ok o) :
    Stand h parts cells (.tuple xs) (.tuple ys) o

theorem stand_of_compareWith {a b : Value} (orderly : h.Orderly a) (orderly' : h.Orderly b)
    {o : Ordering} (made : compareWith h inner a b = .ok o) :
    Stand h (compareWith h inner) inner a b o := by
  cases a with
  | float x => exact absurd .here (orderly.floatFree x)
  | tuple xs =>
    cases b with
    | tuple ys => exact .tuple ((compareAllWith_eq xs ys).symm.trans made)
    | _ => cases made
  | int i =>
    cases b with
    | float x => exact absurd .here (orderly'.floatFree x)
    | int j =>
      cases made
      exact .int i j
    | _ => cases made
  | list a =>
    cases b with
    | list b => exact .list made
    | _ => cases made
  | str s =>
    cases b with
    | str t =>
      cases made
      exact .str s t
    | _ => cases made
  | bool p =>
    cases b with
    | bool q =>
      cases made
      exact .bool p q
    | _ => cases made
  | _ => cases b <;> cases made

theorem Stand.compareWith {a b : Value} {o : Ordering}
    (stand : Stand h (compareWith h inner) inner a b o) : compareWith h inner a b = .ok o := by
  cases stand with
  | list made => exact made
  | tuple made => exact (compareAllWith_eq _ _).trans made
  | _ => rfl

/-- Two values that can be compared can be compared the other way round. -/
theorem compareWith_turns {a b : Value} (innerTurns : ∀ x y, inner.Turns x y) :
    Comparison.Turns (compareWith h inner) a b := by
  induction a using induction_on_data generalizing b with
  | step a ih =>
    intro o made
    cases a with
    | int i =>
      cases b with
      | int j =>
        cases made
        exact congrArg Except.ok Std.OrientedOrd.eq_swap
      | float y => exact compareFloats_turns made
      | _ => cases made
    | float x =>
      cases b with
      | int j => exact compareFloats_turns made
      | float y => exact compareFloats_turns made
      | _ => cases made
    | str s =>
      cases b with
      | str t =>
        cases made
        exact congrArg Except.ok (Std.OrientedOrd.eq_swap (α := String))
      | _ => cases made
    | bool p =>
      cases b with
      | bool q =>
        cases made
        exact congrArg Except.ok Std.OrientedOrd.eq_swap
      | _ => cases made
    | list a =>
      cases b with
      | list b => exact compareItems_turns (fun x _ y _ => innerTurns x y) made
      | _ => cases made
    | tuple xs =>
      cases b with
      | tuple ys =>
        refine (compareAllWith_eq ys xs).trans ?_
        exact compareItems_turns (fun x member y _ => ih x member)
          ((compareAllWith_eq xs ys).symm.trans made)
      | _ => cases made
    | _ => cases b <;> cases made

theorem compareWith_ties {same : Value → Value → Bool} {a b : Value} (orderly : h.Orderly a)
    (orderly' : h.Orderly b) (innerTurns : ∀ x y, inner.Turns x y)
    (innerTies : ∀ x y, h.Orderly x → h.Orderly y → inner.Ties (same · · = true) x y) :
    Comparison.Ties (compareWith h inner) (equalWith h same · · = true) a b := by
  induction a using induction_on_data generalizing b with
  | step a ih =>
    intro o made
    cases stand_of_compareWith orderly orderly' made with
    | int i j => simp [equalWith, Int64.toInt_inj]
    | str s t => simp [equalWith]
    | bool p q => cases p <;> cases q <;> simp [equalWith]
    | @list a b _ made =>
      have elements : o = .eq ↔ List.Forall₂ (same · · = true) (h.list a).items.toList
          (h.list b).items.toList :=
        compareItems_ties (fun x member y member' => innerTies x y
          (orderly.inside (.element member)) (orderly'.inside (.element member'))) made
      beta_reduce
      rw [equalWith_list, elements]
      refine ⟨.inr, ?_⟩
      rintro (rfl | all)
      · have turned := compareItems_turns (fun x _ y _ => innerTurns x y) made
        rw [made, Except.ok.injEq] at turned
        refine elements.mp ?_
        cases o <;> first | rfl | cases turned
      · exact all
    | tuple made =>
      beta_reduce
      rw [equalWith, equalAllWith_iff]
      refine compareItems_ties (fun x member y member' => ?_) made
      exact ih x member (orderly.part member) (orderly'.part member')

theorem compareWith_joins {a b c : Value} (orderly : h.Orderly a) (orderly' : h.Orderly b)
    (orderly'' : h.Orderly c)
    (innerJoins : ∀ x y z, h.Orderly x → h.Orderly y → h.Orderly z → inner.Joins x y z) :
    Comparison.Joins (compareWith h inner) a b c := by
  induction a using induction_on_data generalizing b c with
  | step a ih =>
    intro o o' made made' le le'
    apply Stand.compareWith
    cases stand_of_compareWith orderly orderly' made with
    | int i j =>
      cases stand_of_compareWith orderly' orderly'' made' with
      | int j k =>
        rw [← compare_joins le le']
        exact .int i k
    | str s t =>
      cases stand_of_compareWith orderly' orderly'' made' with
      | str t u =>
        rw [← compare_joins le le']
        exact .str s u
    | bool p q =>
      cases stand_of_compareWith orderly' orderly'' made' with
      | bool q r =>
        rw [← compare_joins le le']
        exact .bool p r
    | list made =>
      cases stand_of_compareWith orderly' orderly'' made' with
      | list made' =>
        refine .list
          (compareItems_joins (fun x member y member' z member'' => ?_) le le' made made')
        exact innerJoins x y z (orderly.inside (.element member))
          (orderly'.inside (.element member')) (orderly''.inside (.element member''))
    | tuple made =>
      cases stand_of_compareWith orderly' orderly'' made' with
      | tuple made' =>
        refine .tuple
          (compareItems_joins (fun x member y member' z member'' => ?_) le le' made made')
        exact ih x member (orderly.part member) (orderly'.part member') (orderly''.part member'')

theorem compareTo_turns {cells : Nat} {a b : Value} : Comparison.Turns (compareTo h cells) a b := by
  induction cells generalizing a b with
  | zero => nofun
  | succ cells ih => exact compareWith_turns fun _ _ => ih

theorem compareTo_ties {cells : Nat} {a b : Value} (orderly : h.Orderly a)
    (orderly' : h.Orderly b) : Comparison.Ties (compareTo h cells) (equalTo h cells · · = true) a b := by
  induction cells generalizing a b with
  | zero => nofun
  | succ cells ih =>
    exact compareWith_ties orderly orderly' (fun _ _ => compareTo_turns) fun x y => ih

theorem compareTo_joins {cells : Nat} {a b c : Value} (orderly : h.Orderly a)
    (orderly' : h.Orderly b) (orderly'' : h.Orderly c) :
    Comparison.Joins (compareTo h cells) a b c := by
  induction cells generalizing a b c with
  | zero => nofun
  | succ cells ih => exact compareWith_joins orderly orderly' orderly'' fun x y z => ih

end Order

/-! ## Agreement -/

section Agreement

/-- What a dict holds is compared as it is elsewhere. -/
theorem equalTo_of_found {ref : DictRef} {hash : HashKey} {entry : DictEntry}
    (orderly : h.Orderly (.dict ref)) (found : (h.dict ref).find? hash = some entry) (v : Value) :
    entry.value.equal h v = equalTo h h.cellCount entry.value v := by
  have within : h.Inside (h.Within h.cellCount) (.dict ref) := orderly.straight.within
  exact equalTo_of_within
    (within.here entry.value (Heap.value_mem_contents (mem_of_find? found))) (Nat.le_succ _) v

/-- Dicts are equal if the same keys are found in both, with equal values. -/
theorem equal_dict {a b : DictRef} (orderly : h.Orderly (.dict a))
    (orderly' : h.Orderly (.dict b)) :
    (dict a).equal h (.dict b) = true
      ↔ ∀ hash, Option.Rel (fun x y => x.value.equal h y.value = true)
        ((h.dict a).find? hash) ((h.dict b).find? hash) := by
  have agree (hash : HashKey) : Option.Rel (fun x y => x.value.equal h y.value = true)
      ((h.dict a).find? hash) ((h.dict b).find? hash)
      ↔ Option.Rel (fun x y => equalTo h h.cellCount x.value y.value = true)
        ((h.dict a).find? hash) ((h.dict b).find? hash) := by
    cases found : (h.dict a).find? hash <;> cases (h.dict b).find? hash
    case some.some entry other =>
      rw [Option.rel_some_some, Option.rel_some_some, equalTo_of_found orderly found]
    all_goals simp
  rw [equal, equalTo, equalWith_dict (orderly.dicts a .here) (orderly'.dicts b .here)]
  simp only [agree]
  refine ⟨?_, .inr⟩
  rintro (rfl | rel) hash
  · refine (agree hash).mp (rel_refl fun entry found => ?_)
    exact equalWith_refl (orderly.inside (.value (mem_of_find? found)))
  · exact rel hash

/-- Structs are equal if they have the same names, with equal values. -/
theorem equal_struct {xs ys : List (String × Value)} (orderly : h.Orderly (.struct xs))
    (orderly' : h.Orderly (.struct ys)) : (struct xs).equal h (.struct ys) = true
      ↔ ∀ name, Option.Rel (fun x y => x.equal h y = true) (xs.lookup name) (ys.lookup name) :=
  equalWith_struct (orderly.structs xs .here) (orderly'.structs ys .here)

/-- Equality is an equivalence that compares dicts and structs by what is found in them.  Values
that can be keys are equal exactly if their keys are the same.  The order of two values is there in
both directions or in none, with opposite results; its ties are the equal values; and what does not
decrease in two steps is ordered and does not decrease. -/
theorem equality_keys_and_order_agree {a b c : Value} (orderly : h.Orderly a)
    (orderly' : h.Orderly b) (orderly'' : h.Orderly c) :
    (a.equal h a = true
      ∧ (a.equal h b = true → b.equal h a = true)
      ∧ (a.equal h b = true → b.equal h c = true → a.equal h c = true))
    ∧ (∀ ref ref', a = .dict ref → b = .dict ref' → (a.equal h b = true
      ↔ ∀ hash, Option.Rel (fun x y => x.value.equal h y.value = true)
        ((h.dict ref).find? hash) ((h.dict ref').find? hash)))
    ∧ (∀ xs ys, a = .struct xs → b = .struct ys → (a.equal h b = true
      ↔ ∀ name, Option.Rel (fun x y => x.equal h y = true) (xs.lookup name) (ys.lookup name)))
    ∧ (∀ key key', a.hashKey = .ok key → b.hashKey = .ok key' → h.ToldApart a b →
      (a.equal h b = true ↔ key.same key' = true))
    ∧ (∀ o, a.order h b = .ok o ↔ b.order h a = .ok o.swap)
    ∧ (∀ o, a.order h b = .ok o → (o = .eq ↔ a.equal h b = true))
    ∧ (∀ o o', a.order h b = .ok o → b.order h c = .ok o' → o.isLE → o'.isLE →
      ∃ o'', a.order h c = .ok o'' ∧ o''.isLE) := by
  refine ⟨⟨equalWith_refl orderly, equalTo_symm orderly orderly',
      equalTo_trans orderly orderly' orderly''⟩, ?_, ?_, ?_, ?_,
    compareTo_ties orderly orderly', ?_⟩
  · rintro ref ref' rfl rfl
    exact equal_dict orderly orderly'
  · rintro xs ys rfl rfl
    exact equal_struct orderly orderly'
  · intro key key' hashes hashes' apart
    rw [HashKey.same_iff]
    exact equalWith_iff_key orderly orderly' apart hashes hashes'
  · intro o
    refine ⟨compareTo_turns o, fun made => ?_⟩
    have turned := compareTo_turns o.swap made
    rwa [Ordering.swap_swap] at turned
  · intro o o' made made' le le'
    refine ⟨_, compareTo_joins orderly orderly' orderly'' o o' made made' le le', ?_⟩
    cases o <;> first | exact le' | rfl | cases le

/-- Three lists and two dicts of numbers; the second list is like the first one, and the dicts differ
only in their order. -/
def comparedHeap : Heap :=
  ⟨#[⟨#[.int 1, .int 2], false⟩, ⟨#[.int 1, .int 2], false⟩, ⟨#[.int 1, .int 3], false⟩],
    #[.ofBindings [("a", .int 1), ("b", .int 2)], .ofBindings [("b", .int 2), ("a", .int 1)]], #[], 0⟩

/-- The values that stand in the cells. -/
def IsScalar (v : Value) : Prop :=
  (∃ i, v = .int i) ∨ ∃ text, v = .str text

theorem dict_comparedHeap (ref : DictRef) :
    (comparedHeap.dict ref).All IsScalar ∧ (comparedHeap.dict ref).Keyed := by
  have ofBindings (bindings : Bindings Value) (scalars : ∀ binding ∈ bindings, IsScalar binding.2) :
      (DictCell.ofBindings bindings).All IsScalar ∧ (DictCell.ofBindings bindings).Keyed :=
    ⟨(DictCell.all_ofBindings (fun text => .inr ⟨text, rfl⟩) scalars).1,
      DictCell.keyed_ofBindings bindings⟩
  obtain ⟨_ | _ | i⟩ := ref
  · exact ofBindings _ (by simp [IsScalar])
  · exact ofBindings _ (by simp [IsScalar])
  · exact ⟨nofun, DictCell.keyed_empty⟩

theorem held_comparedHeap {v w : Value} (cell : (Heap.cell? v).isSome)
    (holds : comparedHeap.Holds v w) : IsScalar w := by
  cases holds with
  | @element ref _ member =>
    obtain ⟨_ | _ | _ | i⟩ := ref
    case succ.succ.succ => cases member
    all_goals
      simp only [comparedHeap, Heap.list] at member
      simp at member
      rcases member with rfl | rfl <;> simp [IsScalar]
  | key member => exact ((dict_comparedHeap _).1 _ member).1
  | value member => exact ((dict_comparedHeap _).1 _ member).2
  | item member => cases cell
  | field member => cases cell

theorem IsScalar.reaches {v w : Value} (scalar : IsScalar v) (reaches : h.Reaches v w) : w = v := by
  induction reaches with
  | here => rfl
  | inside _ holds ih =>
    subst ih
    rcases scalar with ⟨i, rfl⟩ | ⟨text, rfl⟩ <;> cases holds

theorem orderly_comparedHeap {v : Value} (cell : (Heap.cell? v).isSome) :
    comparedHeap.Orderly v := by
  have reached {w : Value} (reaches : comparedHeap.Reaches v w) : w = v ∨ IsScalar w := by
    induction reaches with
    | here => exact .inl rfl
    | inside before holds ih =>
      rcases ih with rfl | scalar
      · exact .inr (held_comparedHeap cell holds)
      · cases scalar.reaches (.inside .here holds)
        exact .inr scalar
  have notScalar {w : Value} (isCell : (Heap.cell? w).isSome) : ¬IsScalar w := by
    rintro (⟨i, rfl⟩ | ⟨text, rfl⟩) <;> cases isCell
  refine ⟨fun w reaches ⟨isCell, x, holds, back⟩ => ?_, fun x reaches => ?_,
    fun ref _ => (dict_comparedHeap ref).2, fun fields reaches => ?_⟩
  · have scalar := held_comparedHeap isCell holds
    exact notScalar isCell (scalar.reaches back ▸ scalar)
  · rcases reached reaches with rfl | ⟨i, same⟩ | ⟨text, same⟩
    · cases cell
    · cases same
    · cases same
  · rcases reached reaches with rfl | ⟨i, same⟩ | ⟨text, same⟩
    · cases cell
    · cases same
    · cases same

theorem comparedHeap_agrees :
    (∀ v, (Heap.cell? v).isSome → comparedHeap.Orderly v)
    ∧ (list ⟨1⟩).equal comparedHeap (.list ⟨0⟩) = true
    ∧ (list ⟨2⟩).order comparedHeap (.list ⟨0⟩) = .ok .gt
    ∧ (∃ o, (list ⟨0⟩).order comparedHeap (.list ⟨2⟩) = .ok o ∧ o.isLE)
    ∧ (dict ⟨1⟩).equal comparedHeap (.dict ⟨0⟩) = true := by
  have orderly (v : Value) (cell : (Heap.cell? v).isSome) := @orderly_comparedHeap v cell
  have lists := equality_keys_and_order_agree (orderly (.list ⟨0⟩) rfl) (orderly (.list ⟨1⟩) rfl)
    (orderly (.list ⟨2⟩) rfl)
  have others := equality_keys_and_order_agree (orderly (.list ⟨0⟩) rfl) (orderly (.list ⟨2⟩) rfl)
    (orderly (.list ⟨2⟩) rfl)
  have dicts := equality_keys_and_order_agree (orderly (.dict ⟨0⟩) rfl) (orderly (.dict ⟨1⟩) rfl)
    (orderly (.dict ⟨1⟩) rfl)
  refine ⟨orderly, ?_, ?_, ?_, ?_⟩
  · exact lists.1.2.1 (by decide)
  · exact (others.2.2.2.2.1 .lt).mp (by decide)
  · exact lists.2.2.2.2.2.2 .eq .lt (by decide) (by decide) rfl rfl
  · exact dicts.1.2.1 (by decide +kernel)

end Agreement

end PixelApplet.Value
