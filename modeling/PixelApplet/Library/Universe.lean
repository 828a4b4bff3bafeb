import PixelApplet.Library.Attributes
import PixelApplet.Library.Received
import PixelApplet.Number.Numeral
import PixelApplet.Value.Equality

/-!
# Functions that every script sees

Conversions, sequences, attributes, order and output.
-/

namespace PixelApplet

/-- The greatest number of elements of a range. -/
def longestRange : Int :=
  10000000

namespace Universe

/-- Reads an int as scripts write them: a sign, the base's mark where it is allowed, and digits. -/
def readInt? (text : String) (base : Option Int64) : Option Int64 :=
  let trimmed := Text.trim text.toList
  let (negative, digits) := Numeral.splitSign trimmed
  let marked (mark : List Char) : Option (List Char) :=
    match digits with
    | zero :: letter :: rest => if mark = [zero, letter.toLower] then some rest else none
    | _ => none
  let (radix, digits) : Nat × List Char :=
    match base with
    | none | some 0 =>
      match marked ['0', 'x'], marked ['0', 'o'], marked ['0', 'b'] with
      | some rest, _, _ => (16, rest)
      | _, some rest, _ => if base.isSome then (8, rest) else (10, digits)
      | _, _, some rest => if base.isSome then (2, rest) else (10, digits)
      | _, _, _ => (10, digits)
    | some 16 => (16, (marked ['0', 'x']).getD digits)
    -- only the lower half of a base counts
    | some base => (base.toUInt64.toNat % Nat.pow 2 32, digits)
  if radix < 2 ∨ radix > 36 then none
  else (Numeral.word? radix digits).map fun i => if negative then -i else i

/-- The pieces of a message: the texts of the arguments, joined by `sep`. -/
def joined (function : String) (arguments : Arguments) : Eval String := do
  let separator ← match arguments.named.lookup "sep" with
    | none => pure " "
    | some (.str s) => pure s
    | some other =>
      Eval.fail ((ArgumentFault.wrongType "sep" other.typeName "string").text function)
  match arguments.named.find? fun entry => entry.1 ≠ "sep" with
  | some (name, _) => Eval.fail ((ArgumentFault.unexpectedKeyword name).text function)
  | none =>
    Eval.readHeap fun h => separator.intercalate (arguments.positional.map (Value.text h))

/-- The number of characters, elements or keys. -/
def length (value : Value) : Eval Value := do
  match value with
  | .str s => return .int (Int64.ofNat s.length)
  | .list ref => Eval.readHeap fun h => .int (Int64.ofNat (h.list ref).items.size)
  | .tuple items => return .int (Int64.ofNat items.length)
  | .dict ref => Eval.readHeap fun h => .int (Int64.ofNat (h.dict ref).entries.size)
  | other => Eval.fail s!"len: value of type {other.typeName} has no len"

/-- Converts to an int. -/
def toInt (arguments : Arguments) : Eval Value := do
  let r ← receive "int" [.optional "x", .optional "base"] arguments
  let base ← r.int? "base"
  match r.slot "x" with
  | none => return .int 0
  | some (.str s) =>
    match readInt? s base with
    | some i => return .int i
    | none =>
      Eval.fail s!"invalid literal for int() with base {Word.text (base.getD 10)}: {Text.quote s}"
  | some value =>
    if base.isSome then Eval.fail "int: can't convert non-string with explicit base"
    else
      match value with
      | .int i => return .int i
      | .bool b => return .int (if b then 1 else 0)
      | .float x =>
        if !x.isFinite || x.abs ≥ 9223372036854775808.0 then
          Eval.fail s!"int: cannot convert {Decimal.plain x} to int"
        else return .int (Value.saturated x)
      | other => Eval.fail s!"int: cannot convert {other.typeName} to int"

/-- Reads a double as scripts write them. -/
def readFloat? (text : String) : Option Float :=
  let trimmed := (Text.asciiLower (Text.trimString text)).toList
  let negative := trimmed.head? = some '-'
  let unsigned := String.ofList (trimmed.dropWhile fun c => c = '+' ∨ c = '-')
  if unsigned = "inf" ∨ unsigned = "infinity" then
    some (if negative then -(1.0 / 0.0) else 1.0 / 0.0)
  else if unsigned = "nan" then some (0.0 / 0.0)
  else Numeral.float? trimmed

/-- Converts to a double. -/
def toFloat (arguments : Arguments) : Eval Value := do
  match ← receiveBetween "float" 0 1 arguments with
  | [] => return .float 0.0
  | .int i :: _ => return .float i.toFloat
  | .float x :: _ => return .float x
  | .bool b :: _ => return .float (if b then 1.0 else 0.0)
  | .str s :: _ =>
    match readFloat? s with
    | some x => return .float x
    | none => Eval.fail s!"invalid float literal: {s}"
  | other :: _ => Eval.fail s!"float: cannot convert {other.typeName} to float"

/-- The elements of an optional argument. -/
def optionalItems : List Value → Eval (List Value)
  | [] => pure []
  | value :: _ => Eval.iterate value

/-- Stores pairs into a dict one after the other; `refusal` words that an element is no pair. -/
def storePairs (ref : DictRef) (refusal : Value → Eval String) : List Value → Eval Unit
  | [] => pure ()
  | pair :: rest => do
    match ← Eval.readHeap pair.sequence? with
    | some [key, value] => do
      Eval.storeInDict ref key value
      storePairs ref refusal rest
    | _ => Eval.fail (← refusal pair)

/-- Stores keys and values into a dict one after the other. -/
def storeAll (ref : DictRef) : List (Value × Value) → Eval Unit
  | [] => pure ()
  | (key, value) :: rest => do
    Eval.storeInDict ref key value
    storeAll ref rest

/-- Stores what a dict, or a sequence of pairs, and named arguments say. -/
def storeSources (ref : DictRef) (refusal : Value → Eval String) (source : Option Value)
    (named : List (String × Value)) : Eval Unit := do
  match source with
  | none => pure ()
  | some (.dict other) => storeAll ref (← Eval.readHeap fun h => (h.dict other).pairs)
  | some pairs => storePairs ref refusal (← Eval.iterate pairs)
  storeAll ref (named.map fun entry => (.str entry.1, entry.2))

/-- A new dict of what the arguments say. -/
def newDict (arguments : Arguments) : Eval Value := do
  let given := arguments.positional.length
  if given > 1 then Eval.fail ((ArgumentFault.tooMany given 1).text "dict")
  let ref ← Eval.readHeap Heap.nextDict
  let dict ← Eval.newDict .empty
  storeSources ref
    (fun pair => Eval.readHeap fun h => s!"dict: element is not a pair: {pair.repr h}")
    arguments.positional.head? arguments.named
  return dict

/-- The ints from `start` before `stop` in steps. -/
def rangeItems (start stop step : Int) : List Value :=
  let span := if step > 0 then stop - start else start - stop
  let count := if span ≤ 0 then 0 else (span + step.natAbs - 1) / step.natAbs
  (List.range count.toNat).map fun (k : Nat) => .int (Int64.ofInt (start + k * step))

/-- A list of ints. -/
def range (arguments : Arguments) : Eval Value := do
  let given ← receiveBetween "range" 1 3 arguments
  let ints ← given.mapM fun v =>
    match v with
    | .int i => pure i.toInt
    | other => Eval.fail s!"range: got {other.typeName}, want int"
  let (start, stop, step) : Int × Int × Int := match ints with
    | [stop] => (0, stop, 1)
    | [start, stop] => (start, stop, 1)
    | [start, stop, step] => (start, stop, step)
    | _ => (0, 0, 1)
  if step = 0 then Eval.fail "range: step argument must not be zero"
  let span := if step > 0 then stop - start else start - stop
  let count := if span ≤ 0 then 0 else (span + step.natAbs - 1) / step.natAbs
  if count > longestRange then Eval.fail s!"range: {count} elements is too many"
  Eval.newList (rangeItems start stop step)

/-- A record of named values. -/
def newStruct (arguments : Arguments) : Eval Value := do
  if ¬ arguments.positional.isEmpty then Eval.fail "struct: unexpected positional arguments"
  return .struct (Bindings.insertAll arguments.named [])

/-- Elements with their positions, counted from `start`. -/
def numbered (start : Int) : List Value → List Value
  | [] => []
  | item :: rest => .tuple [.int (Int64.ofInt start), item] :: numbered (start + 1) rest

/-- A list of elements with their positions. -/
def enumerate (arguments : Arguments) : Eval Value := do
  let r ← receive "enumerate" [.needed "iterable", .optional "start"] arguments
  let start ← r.int? "start"
  let items ← Eval.iterate (r.value "iterable")
  Eval.newList (numbered (start.getD 0).toInt items)

/-- The first elements of all columns, then the second ones, as long as every column has one. -/
def rows : (count : Nat) → List (List Value) → List Value
  | 0, _ => []
  | count + 1, columns =>
    .tuple (columns.map fun column => column.headD .none) :: rows count (columns.map List.tail)

/-- A list of tuples with one element of each sequence. -/
def zip (arguments : Arguments) : Eval Value := do
  let given ← Eval.accept (ArgumentFault.text "zip") arguments.positionalOnly
  let columns ← given.mapM Eval.iterate
  let count := ((columns.map List.length).min?).getD 0
  Eval.newList (rows count columns)

/-- The absolute value of a number. -/
def absolute (value : Value) : Eval Value := do
  match value with
  | .int i =>
    match Word.abs? i with
    | some n => return .int n
    | none => Eval.fail OperatorFault.overflow.text
  | .float x => return .float x.abs
  | other => Eval.fail s!"abs: got {other.typeName}, want int or float"

/-- The name of an attribute that an argument gives. -/
def attributeName (function : String) : Value → Eval String
  | .str name => pure name
  | _ => Eval.fail s!"{function}: attribute name must be a string"

/-- Whether a value has an attribute. -/
def hasAttribute (arguments : Arguments) : Eval Value := do
  match ← receiveBetween "hasattr" 2 2 arguments with
  | [object, name] => do
    let name ← attributeName "hasattr" name
    return .bool (← object.attribute? name).isSome
  | _ => return .none

/-- An attribute of a value, or what stands for it when it is missing. -/
def getAttribute (arguments : Arguments) : Eval Value := do
  match ← receiveBetween "getattr" 2 3 arguments with
  | object :: name :: rest => do
    let name ← attributeName "getattr" name
    match ← object.attribute? name, rest with
    | some value, _ => return value
    | none, [] => object.refuseAttribute name
    | none, default :: _ => return default
  | _ => return .none

/-- Items with the keys by which they are ordered; without a key function an item is its own key. -/
def keyed (call : Value → Arguments → Eval Value) (key : Slot) :
    List Value → Eval (List Sorting.Keyed)
  | [] => pure []
  | item :: rest => do
    let k ← match key with
      | none | some .none => pure item
      | some f => call f (.ofList [item])
    return ⟨k, item⟩ :: (← keyed call key rest)

/-- A sorted list. -/
def sorted (call : Value → Arguments → Eval Value) (arguments : Arguments) : Eval Value := do
  let r ← receive "sorted" [.needed "iterable", .optional "key", .optional "reverse"] arguments
  let items ← Eval.iterate (r.value "iterable")
  let backwards ← Eval.readHeap fun h => (r.value "reverse").truth h
  let entries ← keyed call (r.slot "key") items
  let ordered ← Eval.accept Value.Incomparable.text
    (← Eval.readHeap fun h => Sorting.sort h entries)
  let items := ordered.map Sorting.Keyed.item
  Eval.newList (if backwards then items.reverse else items)

/-- The first element whose key stands in the wanted order to the keys of all others. -/
def extreme (call : Value → Arguments → Eval Value) (function : String) (wanted : Ordering)
    (arguments : Arguments) : Eval Value := do
  match arguments.named.find? fun entry => entry.1 ≠ "key" with
  | some (name, _) => Eval.fail ((ArgumentFault.unexpectedKeyword name).text function)
  | none => pure ()
  let items ← match arguments.positional with
    | [] => Eval.fail s!"{function}: need at least one argument"
    | [single] => Eval.iterate single
    | many => pure many
  let entries ← keyed call (arguments.named.lookup "key") items
  let found ← Eval.accept Value.Incomparable.text
    (← Eval.readHeap fun h => Sorting.extreme h wanted entries)
  match found with
  | some item => return item
  | none => Eval.fail s!"{function}: empty sequence"

/-- What a function does with its arguments; `call` calls a value. -/
def run (call : Value → Arguments → Eval Value) (f : Universal) (arguments : Arguments) :
    Eval Value := do
  match f with
  | .abs => absolute (← receiveOne "abs" arguments)
  | .all => do
    let items ← Eval.iterate (← receiveOne "all" arguments)
    Eval.readHeap fun h => .bool (items.all (Value.truth h))
  | .any => do
    let items ← Eval.iterate (← receiveOne "any" arguments)
    Eval.readHeap fun h => .bool (items.any (Value.truth h))
  | .bool => do
    let given ← receiveBetween "bool" 0 1 arguments
    Eval.readHeap fun h => .bool (given.any (Value.truth h))
  | .dict => newDict arguments
  | .dir => do
    let names := (← receiveOne "dir" arguments).attributeNames
    Eval.newList (names.map .str)
  | .enumerate => enumerate arguments
  | .fail => Eval.fail (← joined "fail" arguments)
  | .float => toFloat arguments
  | .getattr => getAttribute arguments
  | .hasattr => hasAttribute arguments
  | .int => toInt arguments
  | .len => length (← receiveOne "len" arguments)
  | .list => Eval.newList (← optionalItems (← receiveBetween "list" 0 1 arguments))
  | .max => extreme call "max" .gt arguments
  | .min => extreme call "min" .lt arguments
  | .print => do
    Eval.print (← joined "print" arguments)
    return .none
  | .range => range arguments
  | .repr => do
    let value ← receiveOne "repr" arguments
    Eval.readHeap fun h => .str (value.repr h)
  | .reversed => Eval.newList (← Eval.iterate (← receiveOne "reversed" arguments)).reverse
  | .sorted => sorted call arguments
  | .str => do
    let value ← receiveOne "str" arguments
    Eval.readHeap fun h => .str (value.text h)
  | .struct => newStruct arguments
  | .tuple => return .tuple (← optionalItems (← receiveBetween "tuple" 0 1 arguments))
  | .type => return .str (← receiveOne "type" arguments).typeName
  | .zip => zip arguments

end Universe

end PixelApplet
