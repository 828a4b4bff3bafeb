import Mathlib.Logic.Relation
import PixelApplet.Proofs.Value.Circles
import PixelApplet.Value.Text

/-!
# Texts that end

The levels of a text bound the cells that are entered from one message to the next, and they are
counted anew for each message.  If no message contains itself, a cell through which the last message
was reached is not entered again behind it, so every message takes a cell away and the text ends.
-/

namespace PixelApplet

namespace Heap

/-- The text of a value shows another value directly: as a piece of data, or as a field of a
message. -/
inductive Shows (h : Heap) : Value → Value → Prop where
  | held {v w : Value} (holds : h.Holds v w) : Shows h v w
  | field {identity : Identity} {name : String} {fields : List (String × Value)}
    {field : String × Value} (member : field ∈ fields) :
    Shows h (.native identity (.message name fields)) field.2

/-- The text of a value shows another value, at any depth. -/
def Displays (h : Heap) : Value → Value → Prop :=
  Relation.ReflTransGen h.Shows

/-- A value is a message. -/
def IsMessage : Value → Prop
  | .native _ (.message _ _) => True
  | _ => False

/-- No message in the text of a value shows itself. -/
def Printable (h : Heap) (v : Value) : Prop :=
  ∀ m, h.Displays v m → IsMessage m → ¬Relation.TransGen h.Shows m m

/-- Making the text of a value at a level goes directly into a cell, and on with what the cell holds
at a deeper level. -/
inductive Enters (h : Heap) : Nat → Value → Nat → Value → Prop where
  | cell {level : Nat} {v w : Value} (shown : level ≤ Value.deepestText)
    (member : w ∈ h.contents v) : Enters h level v (level + 1) w
  | part {level deeper : Nat} {v part w : Value} (shown : level ≤ Value.deepestText)
    (member : part ∈ v.dataParts) (enters : Enters h (level + 1) part deeper w) :
    Enters h level v deeper w
  | field {level deeper : Nat} {identity : Identity} {name : String}
    {fields : List (String × Value)} {field : String × Value} {w : Value}
    (shown : level ≤ Value.deepestText) (member : field ∈ fields)
    (enters : Enters h 0 field.2 deeper w) :
    Enters h level (.native identity (.message name fields)) deeper w

variable {h : Heap}

theorem Displays.inside {v w : Value} (shows_ : h.Shows v w) {x : Value}
    (displays : h.Displays w x) : h.Displays v x :=
  .head shows_ displays

theorem Printable.inside {v w : Value} (printable : h.Printable v) (shows_ : h.Shows v w) :
    h.Printable w :=
  fun m displays => printable m (displays.inside shows_)

/-- Where the making of a text has come to.  The visited cells lie in front of the last message, and
behind it so many cells were entered as are counted. -/
structure Showing (h : Heap) (visited : Finset (Nat ⊕ Nat)) (entered level : Nat) (v : Value) :
    Prop where
  inside : visited ⊆ h.cells
  fresh : ∀ w, h.Displays v w → ∀ cell, cell? w = some cell → cell ∉ visited
  printable : h.Printable v
  shallow : entered ≤ level
  bounded : level ≤ Value.deepestText + 1
  last : entered = 0 ∨ ∃ u, ∃ cell ∈ h.cells, cell? u = some cell ∧ cell ∉ visited ∧ h.Displays u v

/-- The cells that may still be entered. -/
def room (h : Heap) (visited : Finset (Nat ⊕ Nat)) (entered : Nat) : Nat :=
  (h.cellCount - visited.card) * (Value.deepestText + 2) + (Value.deepestText + 2 - entered)

variable {visited : Finset (Nat ⊕ Nat)} {entered level deeper : Nat} {v w : Value}

theorem Showing.start (printable : h.Printable v) : h.Showing ∅ 0 0 v :=
  ⟨Finset.empty_subset _, fun _ _ _ _ => Finset.notMem_empty _, printable, Nat.le_refl _,
    Nat.zero_le _, .inl rfl⟩

theorem Showing.room_pos (showing : h.Showing visited entered level v) :
    0 < h.room visited entered := by
  have shallow := showing.shallow
  have bounded := showing.bounded
  unfold room
  omega

/-- On entering a cell. -/
theorem Showing.cell (showing : h.Showing visited entered level v)
    (shown : level ≤ Value.deepestText) (member : w ∈ h.contents v) :
    h.Showing visited (entered + 1) (level + 1) w ∧
      h.room visited (entered + 1) < h.room visited entered := by
  have shows_ : h.Shows v w := .held (holds_of_contents member)
  have shallow := showing.shallow
  obtain ⟨cell, present, same⟩ := cell_of_contents member
  refine ⟨⟨showing.inside, fun x displays => showing.fresh x (displays.inside shows_),
    showing.printable.inside shows_, by omega, by omega, .inr ?_⟩, ?_⟩
  · exact ⟨v, cell, present, same, showing.fresh v .refl cell same, .single shows_⟩
  · unfold room
    omega

/-- On going to a part of a value. -/
theorem Showing.part {part : Value} (showing : h.Showing visited entered level v)
    (shown : level ≤ Value.deepestText) (member : part ∈ v.dataParts) :
    h.Showing visited entered (level + 1) part := by
  have shows_ : h.Shows v part := .held (holds_of_dataParts member)
  have shallow := showing.shallow
  refine ⟨showing.inside, fun x displays => showing.fresh x (displays.inside shows_),
    showing.printable.inside shows_, by omega, by omega, showing.last.imp_right ?_⟩
  rintro ⟨u, cell, present, same, new, displays⟩
  exact ⟨u, cell, present, same, new, displays.tail shows_⟩

/-- On going to a field of a message: the cell that was entered last is not entered again. -/
theorem Showing.field {identity : Identity} {name : String} {fields : List (String × Value)}
    {field : String × Value}
    (showing : h.Showing visited entered level (.native identity (.message name fields)))
    (member : field ∈ fields) : ∃ visited', h.Showing visited' 0 0 field.2 ∧
      h.room visited' 0 ≤ h.room visited entered := by
  have shows_ : h.Shows (.native identity (.message name fields)) field.2 := .field member
  have printable := showing.printable.inside shows_
  have fresh (x : Value) (displays : h.Displays field.2 x) :=
    showing.fresh x (displays.inside shows_)
  rcases showing.last with rfl | ⟨u, cell, present, same, new, displays⟩
  · exact ⟨visited, ⟨showing.inside, fresh, printable, Nat.le_refl _, Nat.zero_le _, .inl rfl⟩,
      Nat.le_refl _⟩
  · have inside := Finset.insert_subset present showing.inside
    refine ⟨insert cell visited, ⟨inside, fun x shown other same' => ?_, printable, Nat.le_refl _,
      Nat.zero_le _, .inl rfl⟩, ?_⟩
    · rw [Finset.mem_insert, not_or]
      refine ⟨?_, fresh x shown other same'⟩
      rintro rfl
      cases eq_of_cell? same same'
      -- the cell leads to the message, so the message would show itself through the field
      exact showing.printable _ .refl trivial (.head' shows_ (shown.trans displays))
    · have few := Finset.card_le_card inside
      rw [card_cells, Finset.card_insert_of_notMem new] at few
      obtain ⟨left, more⟩ : ∃ left, h.cellCount - visited.card = left + 1 :=
        ⟨h.cellCount - visited.card - 1, by omega⟩
      unfold room
      rw [Finset.card_insert_of_notMem new, Nat.sub_add_eq, more, Nat.add_sub_cancel, Nat.add_mul]
      omega

/-- Wherever a text goes, fewer cells may be entered than before. -/
theorem Showing.enters (enters : h.Enters level v deeper w)
    (showing : h.Showing visited entered level v) : ∃ visited' entered',
      h.Showing visited' entered' deeper w ∧ h.room visited' entered' < h.room visited entered := by
  induction enters generalizing visited entered with
  | cell shown member => exact ⟨visited, entered + 1, showing.cell shown member⟩
  | part shown member _ ih => exact ih (showing.part shown member)
  | field shown member _ ih =>
    obtain ⟨visited', showing', le⟩ := showing.field member
    obtain ⟨visited'', entered', showing'', less⟩ := ih showing'
    exact ⟨visited'', entered', showing'', Nat.lt_of_lt_of_le less le⟩

end Heap

namespace Value

variable {h : Heap}

section Congruence

variable {inner inner' : Nat → Value → String}

mutual

/-- The text of a value depends on the texts of what is in the cells it goes into. -/
theorem textWith_congr (level : Nat) (v : Value)
    (same : ∀ deeper w, h.Enters level v deeper w → inner deeper w = inner' deeper w) :
    textWith h inner level v = textWith h inner' level v := by
  by_cases shown : deepestText < level
  · unfold textWith
    rw [if_pos shown, if_pos shown]
  have shown' : level ≤ deepestText := Nat.le_of_not_lt shown
  match v with
  | .list ref =>
    have elements : (h.list ref).items.toList.map (inner (level + 1))
        = (h.list ref).items.toList.map (inner' (level + 1)) :=
      List.map_congr_left fun w member => same _ w (.cell shown' member)
    rw [textWith, textWith, elements]
  | .dict ref =>
    have entries : ((h.dict ref).pairs.map fun (key, value) =>
          inner (level + 1) key ++ ": " ++ inner (level + 1) value)
        = (h.dict ref).pairs.map fun (key, value) =>
          inner' (level + 1) key ++ ": " ++ inner' (level + 1) value := by
      refine List.map_congr_left fun pair member => ?_
      obtain ⟨key, value⟩ := pair
      have inside (w : Value) (chosen : w ∈ [key, value]) :
          inner (level + 1) w = inner' (level + 1) w :=
        same _ w (.cell shown' (List.mem_flatMap.mpr ⟨(key, value), member, chosen⟩))
      dsimp only
      rw [inside key (.head _), inside value (.tail _ (.head _))]
    rw [textWith, textWith, entries]
  | .tuple items =>
    rw [textWith, textWith, textsWith_congr (level + 1) items fun part member deeper w enters =>
      same deeper w (.part shown' member enters)]
  | .struct fields =>
    rw [textWith, textWith, fieldTextsWith_congr (level + 1) fields
      fun field member deeper w enters =>
        same deeper w (.part shown' (List.mem_map_of_mem member) enters)]
  | .native _ (.message _ fields) =>
    rw [textWith, textWith, fieldTextsWith_congr 0 fields fun field member deeper w enters =>
      same deeper w (.field shown' member enters)]
  | .none | .bool true | .bool false | .int _ | .float _ | .str _ | .function _ _ | .builtin _ _
  | .module _ _ _ => rfl
  | .native _ (.widget _) | .native _ (.root _) | .native _ (.schema _ _ _)
  | .native _ (.field _ _ _) | .native _ (.option _) | .native _ (.handler _ _)
  | .native _ (.file _ _) => rfl

theorem textsWith_congr (level : Nat) (items : List Value)
    (same : ∀ v ∈ items, ∀ deeper w, h.Enters level v deeper w → inner deeper w = inner' deeper w) :
    textsWith h inner level items = textsWith h inner' level items := by
  match items with
  | [] => rfl
  | item :: rest =>
    rw [textsWith, textsWith, textWith_congr level item (same item (.head _)),
      textsWith_congr level rest fun v member => same v (.tail _ member)]

theorem fieldTextsWith_congr (level : Nat) (fields : List (String × Value))
    (same : ∀ field ∈ fields, ∀ deeper w, h.Enters level field.2 deeper w →
      inner deeper w = inner' deeper w) :
    fieldTextsWith h inner level fields = fieldTextsWith h inner' level fields := by
  match fields with
  | [] => rfl
  | (name, item) :: rest =>
    rw [fieldTextsWith, fieldTextsWith, textWith_congr level item (same (name, item) (.head _)),
      fieldTextsWith_congr level rest fun field member => same field (.tail _ member)]

end

end Congruence

/-- A text with room for all that it shows is complete. -/
theorem textTo_of_showing {visited : Finset (Nat ⊕ Nat)} {entered level levels more : Nat}
    {v : Value} (showing : h.Showing visited entered level v)
    (enough : h.room visited entered ≤ levels) (fewer : levels ≤ more) :
    textTo h more level v = textTo h levels level v := by
  induction levels generalizing visited entered level more v with
  | zero => exact absurd enough (Nat.not_le_of_lt showing.room_pos)
  | succ levels ih =>
    obtain ⟨more, rfl⟩ : ∃ others, more = others + 1 := ⟨more - 1, by omega⟩
    refine textWith_congr level v fun deeper w enters => ?_
    obtain ⟨visited', entered', showing', less⟩ := showing.enters enters
    exact ih showing' (by omega) (by omega)

/-- The text of a value is complete if no message in it contains itself, whatever else does. -/
theorem textTo_of_printable {v : Value} (printable : h.Printable v) {more : Nat}
    (enough : cellsEntered h ≤ more) : textTo h more 0 v = v.repr h := by
  refine textTo_of_showing (.start printable) ?_ enough
  unfold Heap.room cellsEntered
  rw [Finset.card_empty, Nat.sub_zero, Nat.sub_zero, Nat.add_mul, Nat.one_mul]

end Value

end PixelApplet
