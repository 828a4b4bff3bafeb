/-!
# Decimal text of binary fractions

A finite double is a natural number times a power of two.  All decimal text is computed from that
exact value: the shortest digits that read back as the same double, and the digits to a fixed number
of places.  Reading goes the other way, from an exact fraction to the nearest double.
-/

namespace PixelApplet.Decimal

/-- A natural number times a power of two. -/
structure Binary where
  significand : Nat
  exponent : Int

/-- Whether the sign bit of a double is set. -/
def isNegative (x : Float) : Bool :=
  x.toBits.toNat ≥ Nat.pow 2 63

/-- The magnitude of a finite double. -/
def magnitude (x : Float) : Binary :=
  let bits : Nat := x.toBits.toNat
  let field : Nat := bits / Nat.pow 2 52 % 2048
  let fraction : Nat := bits % Nat.pow 2 52
  if field = 0 then ⟨fraction, -1074⟩ else ⟨fraction + Nat.pow 2 52, (field : Int) - 1075⟩

/-- A fraction of natural numbers equal to a number times a power of two. -/
def Binary.fraction (b : Binary) : Nat × Nat :=
  if 0 ≤ b.exponent then (b.significand * Nat.pow 2 b.exponent.toNat, 1)
  else (b.significand, Nat.pow 2 (-b.exponent).toNat)

/-- The number of decimal digits of a natural number. -/
def digitCount (n : Nat) : Nat :=
  (toString n).length

/-- The exponent of the leading decimal digit of a positive fraction. -/
def leadingExponent (num den : Nat) : Int :=
  if den ≤ num then (digitCount (num / den) : Int) - 1
  else
    let count := digitCount (den / num)
    if den ≤ num * Nat.pow 10 (count - 1) then 1 - (count : Int) else -(count : Int)

/-- A fraction scaled by a power of ten. -/
def scale (num den : Nat) (power : Int) : Nat × Nat :=
  if 0 ≤ power then (num * Nat.pow 10 power.toNat, den) else (num, den * Nat.pow 10 (-power).toNat)

/-- Decimal digits with a point position: the value is `digits` times ten to the `exponent`. -/
structure Digits where
  digits : Nat
  exponent : Int
  deriving DecidableEq

/-- The candidates with exponent `exponent` next to a value that lie between `low` and `high`: the
nearer one is taken, and the greater of two that are equally near.  All values are multiples of one
unit. -/
def nearestOnGrid (value low high unit : Nat) (closed : Bool) (grid : Nat) (exponent : Int) :
    Option Digits :=
  let below := value * unit / grid
  let inside (d : Nat) : Bool :=
    if closed then low * unit ≤ d * grid && d * grid ≤ high * unit
    else low * unit < d * grid && d * grid < high * unit
  let distanceBelow := value * unit - below * grid
  let distanceAbove := (below + 1) * grid - value * unit
  if inside below && !(inside (below + 1) && distanceAbove ≤ distanceBelow) then
    some ⟨below, exponent⟩
  else if inside (below + 1) then some ⟨below + 1, exponent⟩
  else none

/-- Tries grids of more and more digits. -/
def searchGrids (value low high den : Nat) (closed : Bool) (lead : Int) :
    (more count : Nat) → Digits
  | 0, _ => ⟨0, 0⟩
  | more + 1, count =>
    let exponent := lead + 1 - (count : Int)
    -- a grid step of ten to `exponent`, with both sides made whole
    let (unit, grid) := if 0 ≤ exponent then (1, den * Nat.pow 10 exponent.toNat)
      else (Nat.pow 10 (-exponent).toNat, den)
    match nearestOnGrid value low high unit closed grid exponent with
    | some found => found
    | none => searchGrids value low high den closed lead more (count + 1)

/-- Trailing zeros moved into the exponent. -/
def Digits.normalize : (steps : Nat) → Digits → Digits
  | 0, d => d
  | steps + 1, d =>
    if d.digits ≠ 0 ∧ d.digits % 10 = 0 then normalize steps ⟨d.digits / 10, d.exponent + 1⟩ else d

/-- The shortest digits that read back as a finite, non-zero double. -/
def shortest (x : Float) : Digits :=
  let b := magnitude x
  -- in quarters of a unit in the last place, so that both ends of the interval are whole
  let (num, den) := Binary.fraction ⟨b.significand * 4, b.exponent⟩
  let step := num / b.significand / 4
  let narrow := b.significand = Nat.pow 2 52 ∧ b.exponent > -1074
  let (num, den, step) := if b.exponent ≥ 0 then (num, den * 4, step) else (num, den * 4, 1)
  let low := num - (if narrow then step else 2 * step)
  let high := num + 2 * step
  let lead := leadingExponent num den
  (searchGrids num low high den (b.significand % 2 = 0) lead 17 1).normalize 20

/-- Digits as a list of characters. -/
def digitChars (n : Nat) : List Char :=
  (toString n).toList

/-- Plain positional text of digits, without an exponent and without a point where there is no
fraction. -/
def Digits.positional (d : Digits) : String :=
  let digits := digitChars d.digits
  if 0 ≤ d.exponent then String.ofList (digits ++ List.replicate d.exponent.toNat '0')
  else
    let places := (-d.exponent).toNat
    if places < digits.length then
      let whole := digits.length - places
      String.ofList (digits.take whole ++ '.' :: digits.drop whole)
    else String.ofList ('0' :: '.' :: (List.replicate (places - digits.length) '0' ++ digits))

/-- The quotient of two natural numbers rounded to the nearest, a tie to the even neighbour. -/
def roundedQuotient (num den : Nat) : Nat :=
  let quotient := num / den
  let twice := 2 * (num % den)
  if twice > den ∨ (twice = den ∧ quotient % 2 = 1) then quotient + 1 else quotient

/-- Positional text with the given number of places behind the point. -/
def fixedMagnitude (x : Float) (places : Nat) : String :=
  let (num, den) := (magnitude x).fraction
  let digits := digitChars (roundedQuotient (num * Nat.pow 10 places) den)
  let padded := List.replicate (places + 1 - digits.length) '0' ++ digits
  let whole := padded.length - places
  if places = 0 then String.ofList padded
  else String.ofList (padded.take whole ++ '.' :: padded.drop whole)

/-- The sign that stands before a magnitude. -/
def sign (x : Float) : String :=
  if isNegative x then "-" else ""

/-- Plain text of any double: the shortest digits in positional form, with `NaN`, `inf` and `-inf`.
-/
def plain (x : Float) : String :=
  if x.isNaN then "NaN"
  else if x.isInf then sign x ++ "inf"
  else if x == 0.0 then sign x ++ "0"
  else sign x ++ (shortest x).positional

/-- Text with a fixed number of places. -/
def fixed (x : Float) (places : Nat) : String :=
  if x.isNaN then "NaN"
  else if x.isInf then sign x ++ "inf"
  else sign x ++ fixedMagnitude x places

/-- Whether a finite double has no fraction. -/
def isIntegral (x : Float) : Bool :=
  let b := magnitude x
  0 ≤ b.exponent || b.significand % Nat.pow 2 (-b.exponent).toNat = 0

/-- The way scripts print a double: integral values below ten to the sixteenth keep one place, all
others are plain. -/
def scriptText (x : Float) : String :=
  if x.isNaN then "nan"
  else if x.isInf then (if isNegative x then "-inf" else "+inf")
  else if isIntegral x && x.abs < 1e16 then fixed x 1
  else plain x

/-- The way documents print a finite double: an exponent from ten to the sixteenth up and below ten
to the minus fifth, with a sign, and always a point or an exponent. -/
def documentText (x : Float) : String :=
  if x == 0.0 then sign x ++ "0.0"
  else
    let d := shortest x
    let digits := digitChars d.digits
    let point := (digits.length : Int) + d.exponent
    let body :=
      if 0 ≤ d.exponent ∧ point ≤ 16 then d.positional ++ ".0"
      else if -5 < point ∧ point ≤ 16 then d.positional
      else
        let power := (if point < 1 then "" else "+") ++ toString (point - 1)
        match digits with
        | [digit] => digit.toString ++ "e" ++ power
        | first :: rest => String.ofList (first :: '.' :: rest) ++ "e" ++ power
        | [] => ""
    sign x ++ body

/-- The integer part of a finite double. -/
def truncate (x : Float) : Int :=
  let (num, den) := (magnitude x).fraction
  if isNegative x then -((num / den : Nat) : Int) else ((num / den : Nat) : Int)

/-- The position of the highest bit of a positive number, counted from one. -/
def bitLength (n : Nat) : Nat :=
  if n = 0 then 0 else n.log2 + 1

/-- The double nearest to a fraction, a tie to the even neighbour; too large values are infinite. -/
def nearest (num den : Nat) : Float :=
  if num = 0 ∨ den = 0 then 0.0
  else
    let guess : Int := (bitLength num : Int) - (bitLength den : Int) - 53
    -- the exponent for which the quotient has 53 bits, or the least one
    let quotientAt (e : Int) : Nat :=
      if 0 ≤ e then num / (den * Nat.pow 2 e.toNat) else num * Nat.pow 2 (-e).toNat / den
    let exponent := max (-1074) (if quotientAt guess ≥ Nat.pow 2 53 then guess + 1 else guess)
    let m := if 0 ≤ exponent then roundedQuotient num (den * Nat.pow 2 exponent.toNat)
      else roundedQuotient (num * Nat.pow 2 (-exponent).toNat) den
    let (m, exponent) := if m = Nat.pow 2 53 then (Nat.pow 2 52, exponent + 1) else (m, exponent)
    if m < Nat.pow 2 52 then Float.ofBits (UInt64.ofNat m)
    else if exponent > 971 then Float.ofBits (UInt64.ofNat (2047 * Nat.pow 2 52))
    else Float.ofBits (UInt64.ofNat ((exponent + 1075).toNat * Nat.pow 2 52 + (m - Nat.pow 2 52)))

/-- The double nearest to digits times a power of ten.  Exponents beyond the range of doubles are
answered without large powers. -/
def ofDigits (digits : Nat) (exponent : Int) : Float :=
  if digits = 0 then 0.0
  else
    let lead := (digitCount digits : Int) + exponent
    if lead > 400 then Float.ofBits (UInt64.ofNat (2047 * Nat.pow 2 52))
    else if lead < -400 then 0.0
    else
      let (num, den) := scale digits 1 exponent
      nearest num den

/-- The double nearest to an integer. -/
def ofInt (n : Int) : Float :=
  let x := nearest n.natAbs 1
  if n < 0 then -x else x

/-- The remainder of division truncated towards zero, computed exactly; it has the sign of the
dividend. -/
def remainder (x y : Float) : Float :=
  if x.isNaN || y.isNaN || x.isInf || y == 0.0 then 0.0 / 0.0
  else if y.isInf then x
  else
    let a := magnitude x
    let b := magnitude y
    let common := min a.exponent b.exponent
    let num := a.significand * Nat.pow 2 (a.exponent - common).toNat
    let den := b.significand * Nat.pow 2 (b.exponent - common).toNat
    let (num, den) := Binary.fraction ⟨num % den, common⟩
    let r := nearest num den
    if isNegative x then -r else r

end PixelApplet.Decimal
