import PixelApplet.Number.Decimal
import PixelApplet.Text.Character

/-!
# Machine integers and numerals

Integers of scripts, and the numbers that texts stand for.
-/

/-! ## Machine integers

Script integers are 64-bit words.  An operation is carried out on the exact integers and its result
is taken only when it fits the word; nothing wraps.
-/

namespace PixelApplet.Word

/-- The least word. -/
def least : Int :=
  -9223372036854775808

/-- The greatest word. -/
def greatest : Int :=
  9223372036854775807

/-- The word with the value of an integer, if there is one. -/
def ofInt? (n : Int) : Option Int64 :=
  if least ≤ n ∧ n ≤ greatest then some (Int64.ofInt n) else none

/-- The word nearest to an integer. -/
def clamp (n : Int) : Int64 :=
  Int64.ofInt (max least (min greatest n))

/-- The sum, if it fits. -/
def add? (a b : Int64) : Option Int64 :=
  ofInt? (a.toInt + b.toInt)

/-- The difference, if it fits. -/
def sub? (a b : Int64) : Option Int64 :=
  ofInt? (a.toInt - b.toInt)

/-- The product, if it fits. -/
def mul? (a b : Int64) : Option Int64 :=
  ofInt? (a.toInt * b.toInt)

/-- The opposite, if it fits. -/
def neg? (a : Int64) : Option Int64 :=
  ofInt? (-a.toInt)

/-- The absolute value, if it fits. -/
def abs? (a : Int64) : Option Int64 :=
  ofInt? a.toInt.natAbs

/-- The quotient rounded towards minus infinity, if it fits. -/
def floorDiv? (a b : Int64) : Option Int64 :=
  ofInt? (a.toInt.fdiv b.toInt)

/-- The remainder of division towards minus infinity; refused where the truncated quotient does not
fit. -/
def floorMod? (a b : Int64) : Option Int64 :=
  (ofInt? (a.toInt.tdiv b.toInt)).bind fun _ => ofInt? (a.toInt.fmod b.toInt)

/-- The decimal text of a word. -/
def text (a : Int64) : String :=
  toString a.toInt

end PixelApplet.Word

/-! ## Reading numbers

Positional numerals in any base up to thirty-six, and decimal fractions with an optional exponent.
A numeral is read completely or not at all.
-/

namespace PixelApplet.Numeral

/-- The value of a digit in a base up to thirty-six, in either letter case. -/
def digitValue? (c : Char) : Option Nat :=
  if '0' ≤ c ∧ c ≤ '9' then some (c.toNat - '0'.toNat)
  else if 'a' ≤ c ∧ c ≤ 'z' then some (c.toNat - 'a'.toNat + 10)
  else if 'A' ≤ c ∧ c ≤ 'Z' then some (c.toNat - 'A'.toNat + 10)
  else none

/-- The value of a digit that is below the base. -/
def digitBelow? (base : Nat) (c : Char) : Option Nat :=
  (digitValue? c).filter (· < base)

/-- Continues a numeral whose value so far is `total`. -/
def continueNatural? (base : Nat) (total : Nat) : List Char → Option Nat
  | [] => some total
  | c :: rest =>
    match digitBelow? base c with
    | some d => continueNatural? base (total * base + d) rest
    | none => none

/-- The value of a non-empty numeral. -/
def natural? (base : Nat) : List Char → Option Nat
  | [] => none
  | c :: rest => continueNatural? base 0 (c :: rest)

/-- The word a non-empty numeral without a sign stands for. -/
def word? (base : Nat) (digits : List Char) : Option Int64 :=
  (natural? base digits).bind fun n => Word.ofInt? n

/-- An index written in decimal, with an optional plus sign. -/
def index? (text : List Char) : Option Nat :=
  let digits := match text with
    | '+' :: rest => rest
    | _ => text
  (natural? 10 digits).filter (· < Nat.pow 2 64)

/-- Splits a sign from the front of a numeral: whether it is a minus, and what follows. -/
def splitSign : List Char → Bool × List Char
  | '-' :: rest => (true, rest)
  | '+' :: rest => (false, rest)
  | text => (false, text)

/-- The exponent that follows the mantissa of a decimal fraction; no text means zero. -/
def exponent? : List Char → Option Int
  | [] => some 0
  | e :: rest =>
    if e = 'e' ∨ e = 'E' then
      let (negative, digits) := splitSign rest
      (natural? 10 digits).map fun n => if negative then -(n : Int) else n
    else none

/-- The double nearest to an unsigned decimal fraction: digits with an optional point, then an
optional exponent. -/
def unsignedFloat? (text : List Char) : Option Float :=
  let whole := text.takeWhile Text.isDecimalDigit
  let behind := text.dropWhile Text.isDecimalDigit
  let (places, behind) := match behind with
    | '.' :: rest => (rest.takeWhile Text.isDecimalDigit, rest.dropWhile Text.isDecimalDigit)
    | _ => ([], behind)
  match natural? 10 (whole ++ places), exponent? behind with
  | some digits, some exponent => some (Decimal.ofDigits digits (exponent - (places.length : Int)))
  | _, _ => none

/-- The double a text names without its sign: a decimal fraction, infinity or not-a-number. -/
def magnitude? (text : List Char) : Option Float :=
  let word := String.ofList (text.map Char.toLower)
  if word = "inf" ∨ word = "infinity" then some (1.0 / 0.0)
  else if word = "nan" then some (0.0 / 0.0)
  else unsignedFloat? text

/-- The double a text names, with an optional sign. -/
def float? (text : List Char) : Option Float :=
  let (negative, rest) := splitSign text
  (magnitude? rest).map fun x => if negative then -x else x

end PixelApplet.Numeral
