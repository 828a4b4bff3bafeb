import PixelApplet.Text.Ranges

/-!
# Base 64

Three bytes are written as four symbols of six bits.  An encoding says which symbols stand for the
two highest values, and whether a shorter last group is filled up with equals signs; it is then
demanded when decoding, and otherwise refused.  Bits that are left over must be zero.
-/

namespace PixelApplet.Base64

/-- How bytes are written. -/
structure Encoding where
  /-- The symbol of 62. -/
  plus : Char
  /-- The symbol of 63. -/
  slash : Char
  padded : Bool
  deriving DecidableEq

/-- The encoding with a given name. -/
def Encoding.named? (name : String) : Option Encoding :=
  if name = "standard" then some ⟨'+', '/', true⟩
  else if name = "standard_raw" then some ⟨'+', '/', false⟩
  else if name = "url" then some ⟨'-', '_', true⟩
  else if name = "url_raw" then some ⟨'-', '_', false⟩
  else none

namespace Encoding

/-- The symbol of a value below 64. -/
def symbol (e : Encoding) (n : Nat) : Char :=
  if n < 26 then Char.ofNat ('A'.toNat + n)
  else if n < 52 then Char.ofNat ('a'.toNat + (n - 26))
  else if n < 62 then Char.ofNat ('0'.toNat + (n - 52))
  else if n = 62 then e.plus
  else e.slash

/-- The value of a symbol given by its byte. -/
def value? (e : Encoding) (b : UInt8) : Option Nat :=
  let n := b.toNat
  if 'A'.toNat ≤ n ∧ n ≤ 'Z'.toNat then some (n - 'A'.toNat)
  else if 'a'.toNat ≤ n ∧ n ≤ 'z'.toNat then some (n - 'a'.toNat + 26)
  else if '0'.toNat ≤ n ∧ n ≤ '9'.toNat then some (n - '0'.toNat + 52)
  else if n = e.plus.toNat then some 62
  else if n = e.slash.toNat then some 63
  else none

/-- What fills up a last group. -/
def filling (e : Encoding) (count : Nat) : List Char :=
  if e.padded then List.replicate count '=' else []

/-- The symbol of six bits of a number, those at a place counted from the lowest. -/
def symbolAt (e : Encoding) (n place : Nat) : Char :=
  e.symbol (n / Nat.pow 64 place % 64)

/-- The symbols of bytes. -/
def symbols (e : Encoding) : List UInt8 → List Char
  | a :: b :: c :: rest =>
    let n := (a.toNat * 256 + b.toNat) * 256 + c.toNat
    e.symbolAt n 3 :: e.symbolAt n 2 :: e.symbolAt n 1 :: e.symbolAt n 0 :: symbols e rest
  | [a, b] =>
    let n := (a.toNat * 256 + b.toNat) * 4
    e.symbolAt n 2 :: e.symbolAt n 1 :: e.symbolAt n 0 :: e.filling 1
  | [a] =>
    let n := a.toNat * 16
    e.symbolAt n 1 :: e.symbolAt n 0 :: e.filling 2
  | [] => []

end Encoding

/-- Writes the bytes of a text. -/
def encode (e : Encoding) (text : String) : String :=
  String.ofList (e.symbols text.toUTF8.toList)

/-- Why symbols cannot be decoded. -/
inductive Fault where
  | badSymbol (symbol : UInt8) (offset : Nat)
  | badLength (length : Nat)
  | badLastSymbol (symbol : UInt8) (offset : Nat)
  | badPadding
  deriving DecidableEq

/-- The wording of a fault. -/
def Fault.text : Fault → String
  | badSymbol symbol offset => s!"Invalid symbol {symbol.toNat}, offset {offset}."
  | badLength length => s!"Invalid input length: {length}"
  | badLastSymbol symbol offset => s!"Invalid last symbol {symbol.toNat}, offset {offset}."
  | badPadding => "Invalid padding"

/-- The byte of an equals sign. -/
def padding : UInt8 :=
  61

/-- The value of a symbol at an offset. -/
def valueAt (e : Encoding) (symbol : UInt8) (offset : Nat) : Except Fault Nat :=
  match e.value? symbol with
  | some n => .ok n
  | none => .error (.badSymbol symbol offset)

/-- Eight bits of a number, those at a place counted from the lowest. -/
def byteAt (n place : Nat) : UInt8 :=
  UInt8.ofNat (n / Nat.pow 256 place)

/-- The bytes of whole groups that begin at an offset. -/
def decodeGroups (e : Encoding) : (offset : Nat) → List UInt8 → Except Fault (List UInt8)
  | offset, a :: b :: c :: d :: rest => do
    let n := (((← valueAt e a offset) * 64 + (← valueAt e b (offset + 1))) * 64
      + (← valueAt e c (offset + 2))) * 64 + (← valueAt e d (offset + 3))
    let behind ← decodeGroups e (offset + 4) rest
    return byteAt n 2 :: byteAt n 1 :: byteAt n 0 :: behind
  | _, _ => .ok []

/-- What was read of the last group: its values, the last symbol, and where padding began. -/
structure LastGroup where
  values : List Nat
  lastSymbol : UInt8
  paddedFrom : Option Nat
  paddings : Nat

/-- Reads the last group, which begins at `start`; `place` counts its symbols. -/
def readLastGroup (e : Encoding) (start : Nat) :
    (place : Nat) → LastGroup → List UInt8 → Except Fault LastGroup
  | _, group, [] => .ok group
  | place, group, symbol :: rest =>
    if symbol = padding then
      if place < 2 then .error (.badSymbol symbol (start + place))
      else
        readLastGroup e start (place + 1)
          { group with
            paddedFrom := some (group.paddedFrom.getD place)
            paddings := group.paddings + 1 } rest
    else
      match group.paddedFrom with
      | some first => .error (.badSymbol padding (start + first))
      | none => do
        let n ← valueAt e symbol (start + place)
        readLastGroup e start (place + 1)
          { group with values := group.values ++ [n], lastSymbol := symbol } rest

/-- The bytes of the last group, and whether no bits are left over. -/
def lastBytes : List Nat → List UInt8 × Bool
  | [a, b] => ([UInt8.ofNat (a * 4 + b / 16)], b % 16 = 0)
  | [a, b, c] =>
    let n := (a * 64 + b) * 64 + c
    ([UInt8.ofNat (n / 1024), UInt8.ofNat (n / 4)], c % 4 = 0)
  | [a, b, c, d] =>
    let n := ((a * 64 + b) * 64 + c) * 64 + d
    ([byteAt n 2, byteAt n 1, byteAt n 0], true)
  | _ => ([], true)

/-- The bytes that symbols stand for.  A symbol that is none at the very end of a group is reported
before any other fault. -/
def decode (e : Encoding) (symbols : List UInt8) : Except Fault (List UInt8) := do
  let length := symbols.length
  let strayLast := match symbols.getLast? with
    | some last => length % 4 = 1 && last != padding && (e.value? last).isNone
    | none => false
  if strayLast then .error (.badSymbol (symbols.getLastD 0) (length - 1))
  else
    let start := if length % 4 = 0 then length - 4 else length - length % 4
    let bytes ← decodeGroups e 0 (symbols.take start)
    let group ← readLastGroup e start 0 ⟨[], 0, none, 0⟩ (symbols.drop start)
    let given := group.values.length
    if length ≠ 0 ∧ given < 2 then .error (.badLength (start + given))
    else if e.padded ∧ (group.paddings + given) % 4 ≠ 0 then .error .badPadding
    else if ¬ e.padded ∧ group.paddings > 0 then .error .badPadding
    else
      let (last, complete) := lastBytes group.values
      if complete then return bytes ++ last
      else .error (.badLastSymbol group.lastSymbol (start + given - 1))

end PixelApplet.Base64
