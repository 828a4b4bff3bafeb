import PixelApplet.Text.Character

/-!
# Quoted text

The double-quoted form in which messages and printed values show a string.  Quotes and backslashes
are escaped, the common controls have short forms, and every character that would not be seen, or
that would merge with its neighbour, is shown by its code point.
-/

namespace PixelApplet.Text

/-- The hexadecimal digit of a value below sixteen, in lower case. -/
def hexDigit (n : Nat) : Char :=
  Char.ofNat (if n < 10 then '0'.toNat + n else 'a'.toNat + (n - 10))

/-- Hexadecimal digits of a number, least significant first, none for zero. -/
def hexDigitsRev : (steps n : Nat) → List Char
  | 0, _ => []
  | steps + 1, n => if n = 0 then [] else hexDigit (n % 16) :: hexDigitsRev steps (n / 16)

/-- A number in hexadecimal, without leading zeros. -/
def hexadecimal (n : Nat) : String :=
  if n = 0 then "0" else String.ofList (hexDigitsRev (n + 1) n).reverse

/-- One character inside double quotes. -/
def quoteChar (c : Char) : List Char :=
  if c = '"' then ['\\', '"']
  else if c = '\\' then ['\\', '\\']
  else if c = '\n' then ['\\', 'n']
  else if c = '\r' then ['\\', 'r']
  else if c = '\t' then ['\\', 't']
  else if c = '\x00' then ['\\', '0']
  else if isUnprintable c then
    ['\\', 'u', '\x7b'] ++ (hexadecimal c.toNat).toList ++ ['\x7d']
  else [c]

/-- The double-quoted form of a text. -/
def quote (s : String) : String :=
  String.ofList ('"' :: (s.toList.flatMap quoteChar ++ ['"']))

/-- The single-quoted form of a character, in which only the single quote is escaped. -/
def quoteSingle (c : Char) : String :=
  let body :=
    if c = '\'' then ['\\', '\'']
    else if c = '"' then ['"']
    else quoteChar c
  String.ofList ('\'' :: (body ++ ['\'']))

end PixelApplet.Text
