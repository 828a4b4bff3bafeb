import PixelApplet.Descriptor.Basic
import PixelApplet.Number.Numeral
import PixelApplet.Text.Search

/-!
# Words of description files

A description file is cut into names, numbers, texts and marks.  Blanks and comments separate them.
-/

namespace PixelApplet.Descriptor

/-- A line and a column, both counted from one. -/
structure Place where
  line : Nat
  column : Nat
  deriving DecidableEq

/-- The beginning of a text. -/
def Place.first : Place :=
  ⟨1, 1⟩

/-- The place behind a character. -/
def Place.behind (place : Place) (c : Char) : Place :=
  if c = '\n' then ⟨place.line + 1, 1⟩ else ⟨place.line, place.column + 1⟩

/-- The place behind some text. -/
def Place.behindAll (place : Place) (text : List Char) : Place :=
  text.foldl Place.behind place

/-- A word of a description file. -/
inductive Token where
  | name (name : String)
  | int (n : Int64)
  /-- Any other number. -/
  | number (text : String)
  | text (contents : String)
  | mark (c : Char)
  deriving DecidableEq

/-- A word as messages show it. -/
def Token.shown : Token → String
  | .name word => word
  | .int n => Word.text n
  | .number digits => digits
  | .text contents => Text.quote contents
  | .mark c => String.ofList ['\'', c, '\'']

/-- A word and the place where it begins. -/
structure Lexeme where
  token : Token
  place : Place
  deriving DecidableEq

/-- A syntax fault and its place. -/
structure Misread where
  place : Place
  fault : SyntaxFault
  deriving DecidableEq

/-- Whether a character may begin a name. -/
def beginsName (c : Char) : Bool :=
  Text.isAsciiLetter c || c == '_' || c == '.'

/-- Whether a character may continue a name. -/
def continuesName (c : Char) : Bool :=
  beginsName c || Text.isDecimalDigit c

/-- Whether a character may continue a number. -/
def continuesNumber (c : Char) : Bool :=
  Text.isAsciiLetter c || Text.isDecimalDigit c || c == '.'

/-- Whether a character is a word of its own. -/
def isMark (c : Char) : Bool :=
  ['\x7b', '\x7d', '[', ']', '(', ')', '<', '>', ';', '=', ',', ':', '+', '-'].contains c

/-- The value of digits: hexadecimal behind `0x`, octal behind `0`, or else decimal. -/
def wordOfDigits? (digits : List Char) : Option Int64 :=
  match digits with
  | '0' :: 'x' :: rest | '0' :: 'X' :: rest => Numeral.word? 16 rest
  | '0' :: d :: rest =>
    if (d :: rest).all Text.isDecimalDigit then Numeral.word? 8 (d :: rest) else none
  | _ => Numeral.word? 10 digits

/-- The word that the text of a number makes. -/
def Token.ofNumber (text : List Char) : Token :=
  let (negative, digits) := match text with
    | '-' :: rest => (true, rest)
    | _ => (false, text)
  match wordOfDigits? digits with
  | some n => .int (if negative then -n else n)
  | none => .number (String.ofList text)

/-- The contents of a text up to its closing quote, and what follows.  A backslash stays and keeps
the character behind it from ending the text. -/
def quotedContents? (quote : Char) : List Char → Option (List Char × List Char)
  | [] => none
  | '\\' :: c :: rest =>
    (quotedContents? quote rest).map fun (contents, behind) => ('\\' :: c :: contents, behind)
  | c :: rest =>
    if c = quote then some ([], rest)
    else if c = '\n' then none
    else (quotedContents? quote rest).map fun (contents, behind) => (c :: contents, behind)

/-- The words of a text that begins at a place, read in at most `turns` turns. -/
def lexFrom : (turns : Nat) → Place → List Char → Except Misread (List Lexeme)
  | 0, _, _ => .ok []
  | _, _, [] => .ok []
  | turns + 1, place, '/' :: '/' :: rest =>
    let comment := '/' :: '/' :: rest.takeWhile (· ≠ '\n')
    lexFrom turns (place.behindAll comment) (rest.dropWhile (· ≠ '\n'))
  | turns + 1, place, '/' :: '*' :: rest =>
    match Text.cutFirst? ['*', '/'] rest with
    | none => .error ⟨place, .unterminatedComment⟩
    | some (comment, behind) =>
      lexFrom turns (place.behindAll (['/', '*'] ++ comment ++ ['*', '/'])) behind
  | turns + 1, place, c :: rest =>
    let found (token : Token) (text behind : List Char) : Except Misread (List Lexeme) := do
      return ⟨token, place⟩ :: (← lexFrom turns (place.behindAll text) behind)
    if Text.isBlank c then lexFrom turns (place.behind c) rest
    else if beginsName c then
      let name := c :: rest.takeWhile continuesName
      found (.name (String.ofList name)) name (rest.dropWhile continuesName)
    else if Text.isDecimalDigit c || (c == '-' && rest.head?.any Text.isDecimalDigit) then
      let number := c :: rest.takeWhile continuesNumber
      found (.ofNumber number) number (rest.dropWhile continuesNumber)
    else if c = '"' ∨ c = '\'' then
      match quotedContents? c rest with
      | none => .error ⟨place, .unterminatedString⟩
      | some (contents, behind) =>
        found (.text (String.ofList contents)) (c :: contents ++ [c]) behind
    else if isMark c then found (.mark c) [c] rest
    else .error ⟨place, .unexpectedCharacter c⟩

/-- The words of a text. -/
def lex (text : String) : Except Misread (List Lexeme) :=
  lexFrom (text.length + 1) .first text.toList

end PixelApplet.Descriptor
