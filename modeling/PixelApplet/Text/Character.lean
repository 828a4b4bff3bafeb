import PixelApplet.Text.Table.CaseMapping
import PixelApplet.Text.Table.CharacterClass

/-!
# Character classes and case

The classes of characters that scripts can observe.  Each is decided by a rule for ASCII and by a
table of the Unicode standard beyond it, so that the common case needs no table.
-/

namespace PixelApplet.Text

/-- White space: the standard's property White_Space. -/
def isBlank (c : Char) : Bool :=
  let n := c.toNat
  (9 ≤ n && n ≤ 13) || n == 0x20 || n == 0x85 || n == 0xA0 || n == 0x1680
    || (0x2000 ≤ n && n ≤ 0x200A) || n == 0x2028 || n == 0x2029 || n == 0x202F || n == 0x205F
    || n == 0x3000

/-- Decimal digits of ASCII. -/
def isDecimalDigit (c : Char) : Bool :=
  '0' ≤ c && c ≤ '9'

/-- Hexadecimal digits of ASCII, in either case. -/
def isHexDigit (c : Char) : Bool :=
  (hexDigitValue? c).isSome

/-- Letters of ASCII. -/
def isAsciiLetter (c : Char) : Bool :=
  ('a' ≤ c && c ≤ 'z') || ('A' ≤ c && c ≤ 'Z')

/-- A class given by a rule below 128 and by a table from there on. -/
def inClass (ascii : Char → Bool) (table : CodePointRanges) (c : Char) : Bool :=
  if c.toNat < 128 then ascii c else table.contains c.toNat

/-- Letters and the other characters counted as alphabetic. -/
def isAlphabetic : Char → Bool :=
  inClass isAsciiLetter Table.alphabetic

/-- Decimal digits, letter numbers and other numbers of every script. -/
def isNumeric : Char → Bool :=
  inClass isDecimalDigit Table.numeric

/-- Lower-case characters. -/
def isLower : Char → Bool :=
  inClass (fun c => 'a' ≤ c && c ≤ 'z') Table.lowercase

/-- Upper-case characters. -/
def isUpper : Char → Bool :=
  inClass (fun c => 'A' ≤ c && c ≤ 'Z') Table.uppercase

/-- Characters that may begin a name, the underscore included. -/
def beginsIdentifier (c : Char) : Bool :=
  c == '_' || inClass isAsciiLetter Table.identifierStart c

/-- Characters that may continue a name. -/
def continuesIdentifier (c : Char) : Bool :=
  c == '_' || inClass (fun c => isAsciiLetter c || isDecimalDigit c) Table.identifierContinue c

/-- Characters that a quoted text shows by their code point only. -/
def isUnprintable : Char → Bool :=
  inClass (fun c => c.toNat < 32 || c.toNat == 127) Table.unprintable

/-- Title-case letters, which are cased but neither upper nor lower. -/
def isTitleCase (c : Char) : Bool :=
  let n := c.toNat
  n == 0x1C5 || n == 0x1C8 || n == 0x1CB || n == 0x1F2 || (0x1F88 ≤ n && n ≤ 0x1F8F)
    || (0x1F98 ≤ n && n ≤ 0x1F9F) || (0x1FA8 ≤ n && n ≤ 0x1FAF) || n == 0x1FBC || n == 0x1FCC
    || n == 0x1FFC

/-- Characters that have a case. -/
def isCased (c : Char) : Bool :=
  isLower c || isUpper c || isTitleCase c

/-- Characters that are skipped when the end of a word is looked for. -/
def isCaseIgnorable : Char → Bool :=
  inClass (fun c => c == '\x27' || c == '.' || c == ':' || c == '^' || c.toNat == 0x60)
    Table.caseIgnorable

/-- The full upper-case form of one character. -/
def upperOf (c : Char) : List Char :=
  if c.toNat < 128 then [c.toUpper] else (Table.upperMapping.get? c.toNat).getD [c]

/-- The full lower-case form of one character, without regard to its neighbours. -/
def lowerOf (c : Char) : List Char :=
  if c.toNat < 128 then [c.toLower] else (Table.lowerMapping.get? c.toNat).getD [c]

/-- The ASCII lower-case form; every other character stays. -/
def asciiLower (s : String) : String :=
  s.map Char.toLower

/-- Upper case, character by character. -/
def upper (s : String) : String :=
  String.ofList (s.toList.flatMap upperOf)

/-- Whether a capital sigma between `before` (nearest first) and `after` ends a word: a cased
character stands before it and none after it, leaving out the characters that are skipped. -/
def endsWord (before after : List Char) : Bool :=
  ((before.dropWhile isCaseIgnorable).head?.any isCased)
    && !((after.dropWhile isCaseIgnorable).head?.any isCased)

/-- Lower case of the text that follows `before` (nearest first); a capital sigma at the end of a
word takes its final form. -/
def lowerFrom (before : List Char) : List Char → List Char
  | [] => []
  | c :: rest =>
    (if c = 'Σ' then [if endsWord before rest then 'ς' else 'σ'] else lowerOf c)
      ++ lowerFrom (c :: before) rest

/-- Lower case of a whole text. -/
def lower (s : String) : String :=
  String.ofList (lowerFrom [] s.toList)

/-- Title case: the first letter of each run of alphabetic characters is raised, the others lowered.
-/
def titleFrom (inWord : Bool) : List Char → List Char
  | [] => []
  | c :: rest =>
    if isAlphabetic c then (if inWord then lowerOf c else upperOf c) ++ titleFrom true rest
    else c :: titleFrom false rest

/-- Title case of a whole text. -/
def title (s : String) : String :=
  String.ofList (titleFrom false s.toList)

/-- The first character raised and all others lowered. -/
def capitalize (s : String) : String :=
  match s.toList with
  | [] => ""
  | c :: rest => String.ofList (upperOf c ++ rest.flatMap lowerOf)

end PixelApplet.Text
