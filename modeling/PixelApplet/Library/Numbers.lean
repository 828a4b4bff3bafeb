import PixelApplet.Library.Received

/-!
# Functions on numbers and random numbers
-/

namespace PixelApplet.Mathematics

/-- The ratio of a circle's circumference to its diameter. -/
def pi : Float :=
  3.14159265358979323846

/-- The base of the natural logarithm. -/
def euler : Float :=
  2.71828182845904523536

/-- The ratio of a circle's circumference to its radius. -/
def tau : Float :=
  6.28318530717958647692

/-- The positive infinity. -/
def infinity : Float :=
  1.0 / 0.0

/-- A number as a double. -/
def number (function : String) (value : Value) : Eval Float :=
  Eval.require s!"{function}: got {value.typeName}, want int or float" value.asFloat?

/-- A function of one number. -/
def unary (function : String) (f : Float → Float) (arguments : Arguments) : Eval Value := do
  return .float (f (← number function (← receiveOne function arguments)))

/-- Rounds a number to an int; an int stays what it is. -/
def rounding (function : String) (f : Float → Float) (arguments : Arguments) : Eval Value := do
  match ← receiveOne function arguments with
  | .int i => return .int i
  | value => do
    let rounded := f (← number function value)
    if !rounded.isFinite || rounded.abs ≥ 9223372036854775808.0 then
      Eval.fail s!"{function}: cannot convert {Decimal.plain rounded} to int"
    else return .int (Value.saturated rounded)

/-- The logarithm of a number, natural or to a base. -/
def logarithm (arguments : Arguments) : Eval Value := do
  let given ← receiveBetween "log" 1 2 arguments
  let x ← number "log" (given.headD .none)
  if x ≤ 0.0 then Eval.fail "log: math domain error"
  match given with
  | _ :: base :: _ => return .float (x.log / (← number "log" base).log)
  | _ => return .float x.log

/-- What a function does with its arguments. -/
def run (f : MathFunction) (arguments : Arguments) : Eval Value := do
  match f with
  | .ceil => rounding "ceil" Float.ceil arguments
  | .floor => rounding "floor" Float.floor arguments
  | .round => rounding "round" Float.round arguments
  | .fabs => unary "fabs" Float.abs arguments
  | .exp => unary "exp" Float.exp arguments
  | .sin => unary "sin" Float.sin arguments
  | .cos => unary "cos" Float.cos arguments
  | .tan => unary "tan" Float.tan arguments
  | .atan => unary "atan" Float.atan arguments
  | .degrees => unary "degrees" (fun x => x * (180.0 / pi)) arguments
  | .radians => unary "radians" (fun x => x * (pi / 180.0)) arguments
  | .log => logarithm arguments
  | .pow => do
    match ← receiveBetween "pow" 2 2 arguments with
    | [x, y] => return .float ((← number "pow" x).pow (← number "pow" y))
    | _ => return .none
  | .sqrt => do
    let x ← number "sqrt" (← receiveOne "sqrt" arguments)
    if x < 0.0 then Eval.fail "sqrt: math domain error"
    return .float x.sqrt

end PixelApplet.Mathematics

/-! ## Random numbers

Every thread draws from a generator of its own, which a script can seed.  Words are drawn by adding
an odd constant to the state and mixing the sum, so equal states give equal draws.
-/

namespace PixelApplet.Generator

/-- The state behind a state. -/
def advance (state : UInt64) : UInt64 :=
  state + 0x9E3779B97F4A7C15

/-- The word drawn from a state. -/
def mix (state : UInt64) : UInt64 :=
  let z := (state ^^^ (state >>> 30)) * 0xBF58476D1CE4E5B9
  let z := (z ^^^ (z >>> 27)) * 0x94D049BB133111EB
  z ^^^ (z >>> 31)

/-- An integer from `low` to `high`, and the next state. -/
def draw (state : UInt64) (low high : Int) : Int × UInt64 :=
  let next := advance state
  (low + ((mix next).toNat : Int) % (high - low + 1), next)

end PixelApplet.Generator

namespace PixelApplet.Chance

/-- The key under which a thread keeps its generator. -/
def key : String :=
  "random.rng"

/-- Gives the running thread a generator. -/
def attach (state : UInt64) : Eval Unit :=
  Eval.changeThread fun thread => thread.attach key (.generator state)

/-- The state of the running thread's generator. -/
def state : Eval UInt64 := do
  match ← Eval.read fun m => m.thread.attached? key with
  | some (.generator state) => return state
  | _ => Eval.read fun m => UInt64.ofNat (m.cells.size + m.clock)

/-- What a function does with its arguments. -/
def run (f : RandomFunction) (arguments : Arguments) : Eval Value := do
  match f with
  | .number => do
    match ← receiveBetween "number" 2 2 arguments with
    | [.int low, .int high] =>
      if high.toInt < low.toInt then
        Eval.fail s!"number: min ({Word.text low}) is greater than max ({Word.text high})"
      else
        let (drawn, next) := Generator.draw (← state) low.toInt high.toInt
        attach next
        return .int (Int64.ofInt drawn)
    | _ => Eval.fail "number: min and max must be ints"
  | .seed => do
    match ← receiveOne "seed" arguments with
    | .int seed => do
      attach seed.toUInt64
      return .none
    | _ => Eval.fail "seed: seed must be an int"

end PixelApplet.Chance
