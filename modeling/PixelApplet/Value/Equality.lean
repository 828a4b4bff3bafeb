import PixelApplet.Value.Heap

/-!
# Equality and order of values

Values are equal by structure, numbers by their numeric value, and objects only to themselves.  Only
numbers, strings, truth values, lists and tuples are ordered, sequences by their first difference.
-/

namespace PixelApplet.Value

mutual

/-- Equality of two values, given the equality of the values that cells hold. -/
def equalWith (h : Heap) (inner : Value → Value → Bool) : Value → Value → Bool
  | none, none => true
  | bool a, bool b => a == b
  | int a, int b => a == b
  | int a, float b => a.toFloat == b
  | float a, int b => a == b.toFloat
  | float a, float b => a == b
  | str a, str b => a == b
  | list a, list b =>
    a == b || (let xs := (h.list a).items; let ys := (h.list b).items
      xs.size == ys.size && (xs.toList.zip ys.toList).all fun (x, y) => inner x y)
  | tuple xs, tuple ys => equalAllWith h inner xs ys
  | dict a, dict b =>
    a == b || (let ours := h.dict a; let theirs := h.dict b
      ours.entries.size == theirs.entries.size && ours.entries.all fun entry =>
        match theirs.find? entry.hash with
        | some other => inner entry.value other.value
        | Option.none => false)
  | function a _, function b _ => a == b
  | builtin a _, builtin b _ => a == b
  | struct xs, struct ys => xs.length == ys.length && equalFieldsWith h inner xs ys
  | module a _ _, module b _ _ => a == b
  | native a _, native b _ => a == b
  | _, _ => false

/-- Equality of sequences. -/
def equalAllWith (h : Heap) (inner : Value → Value → Bool) : List Value → List Value → Bool
  | [], [] => true
  | x :: xs, y :: ys => equalWith h inner x y && equalAllWith h inner xs ys
  | _, _ => false

/-- Whether each field has its equal among others. -/
def equalFieldsWith (h : Heap) (inner : Value → Value → Bool) :
    List (String × Value) → List (String × Value) → Bool
  | [], _ => true
  | (name, x) :: rest, ys =>
    (match ys.lookup name with
      | some y => equalWith h inner x y
      | Option.none => false) && equalFieldsWith h inner rest ys

end

/-- Equality when at most `cells` cells are entered on one path. -/
def equalTo (h : Heap) : (cells : Nat) → Value → Value → Bool
  | 0, _, _ => false
  | cells + 1, a, b => equalWith h (equalTo h cells) a b

/-- Equality of values. -/
def equal (h : Heap) (a b : Value) : Bool :=
  equalTo h (h.cellCount + 1) a b

/-- Why two values have no order. -/
inductive Incomparable where
  | notANumber
  | types (left right : String)
  deriving DecidableEq

/-- The wording of a missing order. -/
def Incomparable.text : Incomparable → String
  | notANumber => "cannot compare NaN"
  | types left right => s!"{left} < {right} not implemented"

/-- The order of two doubles. -/
def compareFloats (a b : Float) : Except Incomparable Ordering :=
  if a < b then .ok .lt
  else if a == b then .ok .eq
  else if b < a then .ok .gt
  else .error .notANumber

/-- The order of two texts, by code points. -/
def compareTexts (a b : String) : Ordering :=
  if a < b then .lt else if a = b then .eq else .gt

/-- The order of two sequences, given the order of their elements. -/
def compareItems (order : Value → Value → Except Incomparable Ordering) :
    List Value → List Value → Except Incomparable Ordering
  | [], [] => .ok .eq
  | [], _ :: _ => .ok .lt
  | _ :: _, [] => .ok .gt
  | x :: xs, y :: ys =>
    match order x y with
    | .ok .eq => compareItems order xs ys
    | other => other

mutual

/-- The order of two values, given the order of the values that lists hold. -/
def compareWith (h : Heap) (inner : Value → Value → Except Incomparable Ordering) :
    Value → Value → Except Incomparable Ordering
  | int a, int b => .ok (compare a.toInt b.toInt)
  | int a, float b => compareFloats a.toFloat b
  | float a, int b => compareFloats a b.toFloat
  | float a, float b => compareFloats a b
  | str a, str b => .ok (compareTexts a b)
  | bool a, bool b => .ok (compare a.toNat b.toNat)
  | list a, list b => compareItems inner (h.list a).items.toList (h.list b).items.toList
  | tuple xs, tuple ys => compareAllWith h inner xs ys
  | a, b => .error (.types a.typeName b.typeName)

/-- The order of two tuples. -/
def compareAllWith (h : Heap) (inner : Value → Value → Except Incomparable Ordering) :
    List Value → List Value → Except Incomparable Ordering
  | [], [] => .ok .eq
  | [], _ :: _ => .ok .lt
  | _ :: _, [] => .ok .gt
  | x :: xs, y :: ys =>
    match compareWith h inner x y with
    | .ok .eq => compareAllWith h inner xs ys
    | other => other

end

/-- The order when at most `cells` lists are entered on one path. -/
def compareTo (h : Heap) : (cells : Nat) → Value → Value → Except Incomparable Ordering
  | 0, a, b => .error (.types a.typeName b.typeName)
  | cells + 1, a, b => compareWith h (compareTo h cells) a b

/-- The order of two values. -/
def order (h : Heap) (a b : Value) : Except Incomparable Ordering :=
  compareTo h (h.cellCount + 1) a b

end PixelApplet.Value

/-! ## Sorting

A stable merge sort over values some of which may have no order, and the search for an extreme
element. Comparisons are made in a fixed sequence, so it is determined which missing order is
reported.
-/

namespace PixelApplet.Sorting

/-- An item and the key by which it is ordered. -/
structure Keyed where
  key : Value
  item : Value

/-- Merges two sorted sequences; of equal keys that of the left one comes first. -/
def merge (h : Heap) : List Keyed → List Keyed → Except Value.Incomparable (List Keyed)
  | [], right => .ok right
  | left, [] => .ok left
  | l :: left, r :: right =>
    match Value.order h r.key l.key with
    | .error reason => .error reason
    | .ok .lt => (merge h (l :: left) right).map (r :: ·)
    | .ok _ => (merge h left (r :: right)).map (l :: ·)
  termination_by left right => left.length + right.length

/-- Sorts both halves, the first one first, and merges them. -/
def sort (h : Heap) (entries : List Keyed) : Except Value.Incomparable (List Keyed) :=
  if entries.length ≤ 1 then .ok entries
  else
    match sort h (entries.take (entries.length / 2)) with
    | .error reason => .error reason
    | .ok left =>
      match sort h (entries.drop (entries.length / 2)) with
      | .error reason => .error reason
      | .ok right => merge h left right
  termination_by entries.length
  decreasing_by
    all_goals simp only [List.length_take, List.length_drop]; omega

/-- Goes on with the best entry so far: a later one takes its place if its key stands in the wanted
order to the best key. -/
def extremeFrom (h : Heap) (wanted : Ordering) (best : Keyed) :
    List Keyed → Except Value.Incomparable Value
  | [] => .ok best.item
  | entry :: rest =>
    match Value.order h entry.key best.key with
    | .error reason => .error reason
    | .ok o => extremeFrom h wanted (if o = wanted then entry else best) rest

/-- The item with the extreme key, the earliest of several. -/
def extreme (h : Heap) (wanted : Ordering) :
    List Keyed → Except Value.Incomparable (Option Value)
  | [] => .ok none
  | entry :: rest => (extremeFrom h wanted entry rest).map some

end PixelApplet.Sorting
