import PixelApplet.Library.Received
import PixelApplet.Library.Universe

/-!
# Methods of lists and dicts

A method that fails leaves the list or dict as it was, except that `update` keeps the pairs in front
of one that it refuses.
-/

namespace PixelApplet.ListMethods

/-- The int that an argument of a method must be. -/
def intArgument (function : String) : Value → Eval Int
  | .int i => pure i.toInt
  | other => Eval.fail s!"{function}: got {other.typeName}, want int"

/-- Where an element is inserted: negative positions count from the end, and positions outside the
list are moved to its ends. -/
def insertionPlace (length : Nat) (position : Int) : Nat :=
  (max 0 (min (length : Int) (if position < 0 then position + length else position))).toNat

/-- Puts an element at a place of a sequence. -/
def insertedAt (items : Array Value) (place : Nat) (item : Value) : Array Value :=
  (items.toList.take place ++ item :: items.toList.drop place).toArray

/-- Takes an element out. -/
def pop (ref : ListRef) (given : List Value) : Eval Value := do
  let items ← Eval.readHeap fun h => (h.list ref).items
  let length : Int := items.size
  let position ← match given with
    | [] => pure (length - 1)
    | value :: _ => intArgument "pop" value
  let place := if position < 0 then position + length else position
  if place < 0 ∨ place ≥ length then
    Eval.fail s!"pop: index {position} out of range: length {length}"
  Eval.changeList ref fun items => items.eraseIdxIfInBounds place.toNat
  return items.getD place.toNat .none

/-- What a method does with its list and its arguments. -/
def run (m : ListMethod) (ref : ListRef) (arguments : Arguments) : Eval Value := do
  match m with
  | .append => do
    let item ← receiveOne "append" arguments
    Eval.changeList ref fun items => items.push item
    return .none
  | .clear => do
    receiveNothing "clear" arguments
    Eval.changeList ref fun _ => #[]
    return .none
  | .extend => do
    let more ← Eval.iterate (← receiveOne "extend" arguments)
    Eval.changeList ref fun items => items ++ more.toArray
    return .none
  | .index => do
    let wanted ← receiveOne "index" arguments
    match ← Eval.readHeap fun h => (h.list ref).items.findIdx? fun v => v.equal h wanted with
    | some i => return .int (Int64.ofNat i)
    | none => do
      let shown ← Eval.readHeap wanted.repr
      Eval.fail s!"index: value {shown} not in list"
  | .insert => do
    match ← receiveBetween "insert" 2 2 arguments with
    | [position, item] => do
      let position ← intArgument "insert" position
      Eval.changeList ref fun items =>
        insertedAt items (insertionPlace items.size position) item
      return .none
    | _ => return .none
  | .pop => pop ref (← receiveBetween "pop" 0 1 arguments)
  | .remove => do
    let target ← receiveOne "remove" arguments
    match ← Eval.readHeap fun h => (h.list ref).items.findIdx? fun v => v.equal h target with
    | some i => do
      Eval.changeList ref fun items => items.eraseIdxIfInBounds i
      return .none
    | none => do
      let shown ← Eval.readHeap target.repr
      Eval.fail s!"remove: element {shown} not found"

end PixelApplet.ListMethods

namespace PixelApplet.DictMethods

/-- The value under a key, if there is one. -/
def stored? (ref : DictRef) (key : Value) : Eval (Option Value) := do
  let hash ← Eval.keyFor key
  Eval.readHeap fun h => ((h.dict ref).find? hash).map DictEntry.value

/-- Takes an entry out, if there is one. -/
def remove? (ref : DictRef) (key : Value) : Eval (Option Value) := do
  let found ← stored? ref key
  let hash ← Eval.keyFor key
  Eval.changeDict ref fun cell =>
    match cell.position? hash with
    | some i => cell.eraseAt i
    | none => cell
  return found

/-- What a method does with its dict and its arguments. -/
def run (m : DictMethod) (ref : DictRef) (arguments : Arguments) : Eval Value := do
  match m with
  | .clear => do
    receiveNothing "clear" arguments
    Eval.changeDict ref fun cell => { cell with entries := #[] }
    return .none
  | .get => do
    match ← receiveBetween "get" 1 2 arguments with
    | key :: rest => return (← stored? ref key).getD (rest.headD .none)
    | _ => return .none
  | .items => do
    receiveNothing "items" arguments
    Eval.newList (← Eval.readHeap fun h =>
      (h.dict ref).pairs.map fun (key, value) => .tuple [key, value])
  | .keys => do
    receiveNothing "keys" arguments
    Eval.newList (← Eval.readHeap fun h => (h.dict ref).keys)
  | .pop => do
    match ← receiveBetween "pop" 1 2 arguments with
    | key :: rest => do
      match ← remove? ref key, rest with
      | some value, _ => return value
      | none, default :: _ => return default
      | none, [] => do
        let shown ← Eval.readHeap key.repr
        Eval.fail s!"pop: missing key {shown}"
    | _ => return .none
  | .setdefault => do
    match ← receiveBetween "setdefault" 1 2 arguments with
    | key :: rest => do
      match ← stored? ref key with
      | some value => return value
      | none =>
        let value := rest.headD .none
        Eval.storeInDict ref key value
        return value
    | _ => return .none
  | .update => do
    if arguments.positional.length > 1 then
      Eval.fail "update: got more than one positional argument"
    Universe.storeSources ref
      (fun _ => pure "update: dictionary update sequence element is not a pair")
      arguments.positional.head? arguments.named
    return .none
  | .values => do
    receiveNothing "values" arguments
    Eval.newList (← Eval.readHeap fun h => (h.dict ref).values)

end PixelApplet.DictMethods
