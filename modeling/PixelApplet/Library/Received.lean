import PixelApplet.Machine.State
import PixelApplet.Value.Arguments
import PixelApplet.Value.Operators

/-!
# What builtin functions receive and make

Builtin functions read their arguments by parameter name, and put what they make into the heap.
-/

namespace PixelApplet

/-- The arguments of a builtin function by parameter. -/
structure Received where
  function : String
  slots : List (String × Slot)

/-- Matches the arguments of a builtin function with its parameters. -/
def receive (function : String) (parameters : List Parameter) (arguments : Arguments) :
    Eval Received := do
  let slots ← Eval.accept (ArgumentFault.text function) (arguments.unpack parameters)
  return ⟨function, (parameters.map Parameter.name).zip slots⟩

/-- The positional arguments of a builtin function that takes no others. -/
def receiveBetween (function : String) (low high : Nat) (arguments : Arguments) :
    Eval (List Value) :=
  Eval.accept (ArgumentFault.text function) (arguments.positionalBetween low high)

/-- The one argument of a builtin function. -/
def receiveOne (function : String) (arguments : Arguments) : Eval Value := do
  return (← receiveBetween function 1 1 arguments).headD .none

/-- Refuses all arguments. -/
def receiveNothing (function : String) (arguments : Arguments) : Eval Unit := do
  let _ ← receiveBetween function 0 0 arguments

namespace Received

/-- What was passed for a parameter. -/
def slot (r : Received) (parameter : String) : Slot :=
  (r.slots.lookup parameter).join

/-- What was passed for a parameter, `None` if nothing was. -/
def value (r : Received) (parameter : String) : Value :=
  (r.slot parameter).getD .none

/-- The text passed for a parameter. -/
def text? (r : Received) (parameter : String) : Eval (Option String) :=
  Eval.accept (ArgumentFault.text r.function) ((r.slot parameter).text parameter)

/-- The text passed for a parameter, empty if none was. -/
def text (r : Received) (parameter : String) : Eval String := do
  return (← r.text? parameter).getD ""

/-- The int passed for a parameter. -/
def int? (r : Received) (parameter : String) : Eval (Option Int64) :=
  Eval.accept (ArgumentFault.text r.function) ((r.slot parameter).int parameter)

/-- The truth value passed for a parameter. -/
def bool? (r : Received) (parameter : String) : Eval (Option Bool) :=
  Eval.accept (ArgumentFault.text r.function) ((r.slot parameter).bool parameter)

/-- The elements of the list or tuple passed for a parameter, none if nothing was passed. -/
def items (r : Received) (parameter : String) : Eval (List Value) := do
  match r.slot parameter with
  | none | some .none => return []
  | some v =>
    match ← Eval.readHeap v.sequence? with
    | some items => return items
    | none =>
      Eval.fail ((ArgumentFault.wrongType parameter v.typeName "list").text r.function)

end Received

namespace Eval

/-- The answer of an operator on the present heap. -/
def operate {α : Type} (f : Heap → Value.Outcome α) : Eval α := do
  accept OperatorFault.text (← readHeap f)

/-- A new list. -/
def newList (items : List Value) : Eval Value :=
  fun m => .ok (.list m.heap.nextList) { m with heap := m.heap.addList ⟨items.toArray, false⟩ }

/-- A new dict. -/
def newDict (cell : DictCell) : Eval Value :=
  fun m => .ok (.dict m.heap.nextDict) { m with heap := m.heap.addDict cell }

/-- A new host value. -/
def newNative (native : Native Value) : Eval Value := do
  return .native (← newIdentity) native

/-- What an operator makes, put into the heap. -/
def make : Made → Eval Value
  | .value v => pure v
  | .list items => newList items

/-- The result of an operator on the present heap. -/
def produce (f : Heap → Value.Outcome Made) : Eval Value := do
  make (← operate f)

/-- The elements over which a loop runs: a snapshot, so later changes do not matter. -/
def iterate (value : Value) : Eval (List Value) :=
  operate fun h => value.iterate h

/-- Changes a list that is not frozen. -/
def changeList (ref : ListRef) (f : Array Value → Array Value) : Eval Unit := do
  if ← readHeap fun h => (h.list ref).frozen then
    fail (OperatorFault.frozen "list").text
  else changeHeap fun h => h.modifyList ref fun cell => { cell with items := f cell.items }

/-- Changes a dict that is not frozen. -/
def changeDict (ref : DictRef) (f : DictCell → DictCell) : Eval Unit := do
  if ← readHeap fun h => (h.dict ref).frozen then
    fail (OperatorFault.frozen "dict").text
  else changeHeap fun h => h.modifyDict ref f

/-- The key under which a dict stores a value. -/
def keyFor (value : Value) : Eval HashKey :=
  accept OperatorFault.text value.keyFor

/-- Stores a value under a key of a dict. -/
def storeInDict (ref : DictRef) (key value : Value) : Eval Unit := do
  let hash ← keyFor key
  changeDict ref fun cell => cell.insert hash key value

/-- Puts a value in the place of the element of an object under an index or key. -/
def assignIndex (object key value : Value) : Eval Unit := do
  match object with
  | .list ref =>
    let length ← readHeap fun h => (h.list ref).items.size
    let i ← accept OperatorFault.text (Value.place "list" length key)
    changeList ref fun items => items.setIfInBounds i value
  | .dict ref => storeInDict ref key value
  | other => fail (OperatorFault.notAssignable other.typeName).text

end Eval

end PixelApplet
