import PixelApplet.Number.Decimal
import PixelApplet.Text.Search
import PixelApplet.Value.Equality
import PixelApplet.Value.Text

/-!
# Operators

Arithmetic, comparison, membership, indexing and slicing.  An operator looks at the heap and says
what it makes; a new list is described by its elements, so nothing changes before the operator has
succeeded. Integer results are exact or refused, and no sum or product is a sequence beyond
`longestSequence`.
-/

namespace PixelApplet

/-- The greatest length of a sequence that an operator makes: bytes of a text, elements of a list or
tuple. -/
def longestSequence : Nat :=
  10000000

/-- Why an operator refuses its operands. -/
inductive OperatorFault where
  | overflow
  | unsupported (left : String) (op : BinaryOp) (right : String)
  | unsupportedUnary (op : UnaryOp) (operand : String)
  | repetition (length : Nat) (count : Int64)
  | concatenation (left right : Nat)
  | integerDivisionByZero
  | integerModuloByZero
  | floatDivisionByZero
  | floatModuloByZero
  | incomparable (reason : Value.Incomparable)
  | unhashable (found : String)
  | textMembership (found : String)
  | notIterable (found : String)
  | indexType (kind found : String)
  | indexRange (index : Int64) (length : Nat)
  | missingKey (key : String)
  | notIndexable (object key : String)
  | notAssignable (object : String)
  | sliceBound (found : String)
  | zeroStep
  | notSliceable (found : String)
  | frozen (kind : String)
  | incompleteFormat
  | tooFewForFormat
  | tooManyForFormat
  | formatWantsInteger (conversion : Char) (found : String)
  | formatWantsFloat (found : String)
  | unknownConversion (conversion : Char)
  deriving DecidableEq

/-- The wording of a refusal. -/
def OperatorFault.text : OperatorFault → String
  | overflow => "integer overflow"
  | unsupported left op right => s!"unknown binary op: {left} {op.symbol} {right}"
  | unsupportedUnary op operand => s!"unknown unary op: {op.symbol}{operand}"
  | repetition length count => s!"excessive repeat ({length} * {Word.text count} elements)"
  | concatenation left right => s!"excessive concatenation ({left} + {right} elements)"
  | integerDivisionByZero => "integer division by zero"
  | integerModuloByZero => "integer modulo by zero"
  | floatDivisionByZero => "floating-point division by zero"
  | floatModuloByZero => "floating-point modulo by zero"
  | incomparable reason => reason.text
  | unhashable found => s!"unhashable type: {found}"
  | textMembership found => s!"'in <string>' requires string as left operand, not {found}"
  | notIterable found => s!"{found} value is not iterable"
  | indexType kind found => s!"{kind} index: got {found}, want int"
  | indexRange index length => s!"index {Word.text index} out of range: length {length}"
  | missingKey key => s!"key {key} not in dict"
  | notIndexable object key => s!"unhandled index operation {object}[{key}]"
  | notAssignable object => s!"{object} value does not support item assignment"
  | sliceBound found => s!"invalid slice index: got {found}, want int"
  | zeroStep => "zero is not a valid slice step"
  | notSliceable found => s!"invalid slice operand {found}"
  | frozen kind => s!"cannot modify frozen {kind}"
  | incompleteFormat => "incomplete format"
  | tooFewForFormat => "not enough arguments for format string"
  | tooManyForFormat => "too many arguments for format string"
  | formatWantsInteger conversion found => s!"%{conversion} format requires integer: {found}"
  | formatWantsFloat found => s!"%f format requires float: {found}"
  | unknownConversion conversion => s!"unknown conversion %{conversion}"

/-- What an operator makes. -/
inductive Made where
  /-- A value that exists already or is immutable. -/
  | value (value : Value)
  /-- A new list. -/
  | list (items : List Value)

namespace Value

/-- The answer of an operator. -/
abbrev Outcome (α : Type) :=
  Except OperatorFault α

/-- The key under which a dict stores a value. -/
def keyFor (value : Value) : Outcome HashKey :=
  match value.hashKey with
  | .ok key => .ok key
  | .error found => .error (.unhashable found)

/-- The elements over which a loop runs. -/
def iterate (h : Heap) : Value → Outcome (List Value)
  | list ref => .ok (h.list ref).items.toList
  | tuple items => .ok items
  | dict ref => .ok (h.dict ref).keys
  | other => .error (.notIterable other.typeName)

/-- A word that may be too large. -/
def exact (result : Option Int64) : Outcome Made :=
  match result with
  | some i => .ok (.value (.int i))
  | Option.none => .error .overflow

/-- An operation on two ints that is refused when it overflows, and otherwise on two doubles. -/
def arithmetic (op : BinaryOp) (onInts : Int64 → Int64 → Option Int64)
    (onFloats : Float → Float → Float) (left right : Value) : Outcome Made :=
  match left, right with
  | int a, int b => exact (onInts a b)
  | a, b =>
    match a.asFloat?, b.asFloat? with
    | some x, some y => .ok (.value (.float (onFloats x y)))
    | _, _ => .error (.unsupported left.typeName op right.typeName)

/-- Whether two lengths together stay within the limit. -/
def checkJoined (a b : Nat) : Outcome Unit :=
  if a + b ≤ longestSequence then .ok () else .error (.concatenation a b)

/-- How often a sequence is repeated, if the result stays within the limit; negative counts mean not
at all. -/
def checkRepeated (length : Nat) (count : Int64) : Outcome Nat :=
  if length * count.toInt.toNat ≤ longestSequence then .ok count.toInt.toNat
  else .error (.repetition length count)

/-- Sum, or concatenation. -/
def add (h : Heap) (left right : Value) : Outcome Made :=
  match left, right with
  | str a, str b => do
    checkJoined a.utf8ByteSize b.utf8ByteSize
    return .value (.str (a ++ b))
  | list a, list b => do
    let xs := (h.list a).items
    let ys := (h.list b).items
    checkJoined xs.size ys.size
    return .list (xs.toList ++ ys.toList)
  | tuple xs, tuple ys => do
    checkJoined xs.length ys.length
    return .value (.tuple (xs ++ ys))
  | a, b => arithmetic .add Word.add? (· + ·) a b

/-- A text several times in a row. -/
def repeatText (s : String) : (count : Nat) → String
  | 0 => ""
  | count + 1 => repeatText s count ++ s

/-- A text several times in a row, if it stays within the limit. -/
def repeatedText (s : String) (count : Int64) : Outcome Made := do
  let times ← checkRepeated s.utf8ByteSize count
  return .value (.str (if s.isEmpty then "" else repeatText s times))

/-- Elements several times in a row, if they stay within the limit. -/
def repeatedItems (items : List Value) (count : Int64) : Outcome (List Value) := do
  let times ← checkRepeated items.length count
  return if items.isEmpty then [] else (List.replicate times items).flatten

/-- Product, or repetition. -/
def multiply (h : Heap) (left right : Value) : Outcome Made :=
  match left, right with
  | str s, int n | int n, str s => repeatedText s n
  | list ref, int n | int n, list ref => do
    return .list (← repeatedItems (h.list ref).items.toList n)
  | tuple items, int n | int n, tuple items => do
    return .value (.tuple (← repeatedItems items n))
  | a, b => arithmetic .mul Word.mul? (· * ·) a b

/-- An operation on two doubles whose second must not be zero. -/
def floatQuotient (op : BinaryOp) (zero : OperatorFault) (f : Float → Float → Float)
    (left right : Value) : Outcome Made :=
  match left.asFloat?, right.asFloat? with
  | some x, some y => if y == 0.0 then .error zero else .ok (.value (.float (f x y)))
  | _, _ => .error (.unsupported left.typeName op right.typeName)

/-- Quotient, always a double. -/
def divide (left right : Value) : Outcome Made :=
  floatQuotient .div .floatDivisionByZero (· / ·) left right

/-- Quotient rounded towards minus infinity. -/
def floorDivide (left right : Value) : Outcome Made :=
  match left, right with
  | int a, int b => if b = 0 then .error .integerDivisionByZero else exact (Word.floorDiv? a b)
  | a, b => floatQuotient .floorDiv .floatDivisionByZero (fun x y => (x / y).floor) a b

/-- Remainder with the sign of the divisor. -/
def floatModulo (x y : Float) : Float :=
  let r := Decimal.remainder x y
  if r != 0.0 && (r < 0.0) != (y < 0.0) then r + y else r

/-- The word nearest to a double without its fraction; not-a-number gives zero. -/
def saturated (x : Float) : Int64 :=
  if x.isNaN then 0 else Word.clamp (Decimal.truncate x)

/-- A word in hexadecimal, negative words as their two's complement. -/
def hexadecimalWord (i : Int64) : String :=
  Text.hexadecimal i.toUInt64.toNat

/-- The text of one argument of a format. -/
def converted (h : Heap) (conversion : Char) (value : Value) : Outcome String :=
  if conversion = 's' then .ok (value.text h)
  else if conversion = 'r' then .ok (value.repr h)
  else if conversion = 'd' ∨ conversion = 'i' then
    match value with
    | int i => .ok (Word.text i)
    | float x => .ok (Word.text (saturated x))
    | other => .error (.formatWantsInteger conversion other.typeName)
  else if conversion = 'f' then
    match value.asFloat? with
    | some x => .ok (Decimal.fixed x 6)
    | Option.none => .error (.formatWantsFloat value.typeName)
  else if conversion = 'x' then
    match value with
    | int i => .ok (hexadecimalWord i)
    | other => .error (.formatWantsInteger 'x' other.typeName)
  else .error (.unknownConversion conversion)

/-- Puts arguments in the places of the conversions of a format; a doubled percent sign stands for
itself. -/
def formatFrom (h : Heap) : List Char → (arguments : List Value) → Outcome (List Char)
  | [], [] => .ok []
  | [], _ :: _ => .error .tooManyForFormat
  | '%' :: '%' :: rest, arguments => do
    return '%' :: (← formatFrom h rest arguments)
  | '%' :: conversion :: rest, arguments =>
    match arguments with
    | [] => .error .tooFewForFormat
    | value :: others => do
      let shown ← converted h conversion value
      return shown.toList ++ (← formatFrom h rest others)
  | ['%'], _ => .error .incompleteFormat
  | c :: rest, arguments => do
    return c :: (← formatFrom h rest arguments)

/-- A format with its arguments: the elements of a tuple, or one other value. -/
def formatted (h : Heap) (format : String) (argument : Value) : Outcome String := do
  let arguments := match argument with
    | tuple items => items
    | other => [other]
  return String.ofList (← formatFrom h format.toList arguments)

/-- Remainder with the sign of the divisor, or the filling of a format. -/
def modulo (h : Heap) (left right : Value) : Outcome Made :=
  match left, right with
  | str format, argument => do
    return .value (.str (← formatted h format argument))
  | int a, int b => if b = 0 then .error .integerModuloByZero else exact (Word.floorMod? a b)
  | a, b => floatQuotient .mod .floatModuloByZero floatModulo a b

/-- Whether a container holds an item. -/
def contains (h : Heap) (container item : Value) : Outcome Bool :=
  match container, item with
  | str text, str piece => .ok (Text.contains text piece)
  | str _, other => .error (.textMembership other.typeName)
  | list ref, item => .ok ((h.list ref).items.any fun v => equal h v item)
  | tuple items, item => .ok (items.any fun v => equal h v item)
  | dict ref, item => do
    return ((h.dict ref).position? (← keyFor item)).isSome
  | _, _ => .error (.unsupported item.typeName .in_ container.typeName)

/-- The order of two values as an operator uses it. -/
def ordered (h : Heap) (left right : Value) (holds : Ordering → Bool) : Outcome Made :=
  match order h left right with
  | .ok o => .ok (.value (.bool (holds o)))
  | .error reason => .error (.incomparable reason)

/-- What an operator between two values makes. -/
def binary (h : Heap) (op : BinaryOp) (left right : Value) : Outcome Made :=
  match op with
  | .eq => .ok (.value (.bool (equal h left right)))
  | .ne => .ok (.value (.bool (!equal h left right)))
  | .lt => ordered h left right (· == .lt)
  | .le => ordered h left right (· != .gt)
  | .gt => ordered h left right (· == .gt)
  | .ge => ordered h left right (· != .lt)
  | .in_ => do
    return .value (.bool (← contains h right left))
  | .notIn => do
    return .value (.bool (!(← contains h right left)))
  | .and => .ok (.value (if left.truth h then right else left))
  | .or => .ok (.value (if left.truth h then left else right))
  | .add => add h left right
  | .sub => arithmetic .sub Word.sub? (· - ·) left right
  | .mul => multiply h left right
  | .div => divide left right
  | .floorDiv => floorDivide left right
  | .mod => modulo h left right

/-- What an operator before a value makes. -/
def unary (h : Heap) (op : UnaryOp) (operand : Value) : Outcome Value :=
  match op, operand with
  | .not, v => .ok (.bool (!v.truth h))
  | .neg, int i =>
    match Word.neg? i with
    | some n => .ok (.int n)
    | Option.none => .error .overflow
  | .neg, float x => .ok (.float (-x))
  | .pos, int i => .ok (.int i)
  | .pos, float x => .ok (.float x)
  | op, v => .error (.unsupportedUnary op v.typeName)

/-- The place that an index names in a sequence; negative indices count from the end. -/
def place (kind : String) (length : Nat) (index : Value) : Outcome Nat :=
  match index with
  | int i =>
    let at_ := if i.toInt < 0 then i.toInt + length else i.toInt
    if at_ < 0 ∨ at_ ≥ length then .error (.indexRange i length) else .ok at_.toNat
  | other => .error (.indexType kind other.typeName)

/-- The element of an object under an index or key. -/
def index (h : Heap) (object key : Value) : Outcome Value :=
  match object with
  | list ref => do
    let items := (h.list ref).items
    return items.getD (← place "list" items.size key) .none
  | tuple items => do
    return items.getD (← place "tuple" items.length key) .none
  | str text => do
    let chars := text.toList
    return .str (String.ofList [chars.getD (← place "string" chars.length key) ' '])
  | dict ref => do
    match (h.dict ref).find? (← keyFor key) with
    | some entry => return entry.value
    | Option.none => throw (.missingKey (key.repr h))
  | other => .error (.notIndexable other.typeName key.typeName)

/-- A bound of a slice. -/
def sliceBound : Option Value → Outcome (Option Int)
  | Option.none | some none => .ok Option.none
  | some (int i) => .ok (some i.toInt)
  | some other => .error (.sliceBound other.typeName)

/-- A bound counted from the end when it is negative, and moved into a range. -/
def clampBound (length low high bound : Int) : Int :=
  max low (min high (if bound < 0 then bound + length else bound))

/-- The places from `first` in steps until `limit` is reached or passed. -/
def steppedPlaces (first limit step : Int) : List Nat :=
  let count := ((limit - first + step - step.sign).fdiv step).toNat
  (List.range count).map fun (k : Nat) => (first + k * step).toNat

/-- The places that a slice of a sequence picks. -/
def slicePlaces (length : Nat) (start stop : Option Int) (step : Int) : List Nat :=
  if step > 0 then
    let bound := clampBound length 0 length
    steppedPlaces ((start.map bound).getD 0) ((stop.map bound).getD length) step
  else
    let bound := clampBound length (-1) (length - 1)
    steppedPlaces ((start.map bound).getD (length - 1)) ((stop.map bound).getD (-1)) step

/-- The elements at given places. -/
def pick {α : Type} (items : Array α) (places : List Nat) : List α :=
  places.filterMap fun i => items[i]?

/-- The part of a sequence that a slice picks. -/
def slice (h : Heap) (object : Value) (start stop step : Option Value) : Outcome Made := do
  let step := (← sliceBound step).getD 1
  if step = 0 then throw .zeroStep
  let start ← sliceBound start
  let stop ← sliceBound stop
  match object with
  | list ref =>
    let items := (h.list ref).items
    return .list (pick items (slicePlaces items.size start stop step))
  | tuple items =>
    return .value (.tuple (pick items.toArray (slicePlaces items.length start stop step)))
  | str text =>
    let chars := text.toList.toArray
    return .value (.str (String.ofList (pick chars (slicePlaces chars.size start stop step))))
  | other => throw (.notSliceable other.typeName)

end Value

end PixelApplet
