import PixelApplet.Number.Numeral
import PixelApplet.Token.Basic

/-!
# Lexemes

The stretch of text that forms one token, read from its first character on.  Every reader here
answers with the token and with the number of characters it takes, so that positions can be derived
from the text alone.  A fault comes with the number of characters in front of the place it is
reported at.
-/

namespace PixelApplet.Lexeme

/-- A fault and its distance from the first character of the token. -/
abbrev Fault := LexFault × Nat

/-- The character with a given code point, unless that is a surrogate. -/
def charOfCode? (code : Nat) : Option Char :=
  if code.isValidChar then some (Char.ofNat code) else none

/-- The character named by exactly `width` hexadecimal digits. -/
def hexEscape? (width : Nat) (text : List Char) : Option Char :=
  let digits := text.take width
  if digits.length = width && digits.all Text.isHexDigit then charOfCode? (Text.hexValue digits)
  else none

/-- The text that an escape stands for and its length behind the backslash. -/
def escape : List Char → Except LexFault (List Char × Nat)
  | [] => .error .unterminatedString
  | c :: rest =>
    match c with
    | 'n' => .ok (['\n'], 1)
    | 't' => .ok (['\t'], 1)
    | 'r' => .ok (['\r'], 1)
    | '0' => .ok (['\x00'], 1)
    | '\\' => .ok (['\\'], 1)
    | '\x27' => .ok (['\x27'], 1)
    | '"' => .ok (['"'], 1)
    | '\n' => .ok ([], 1)
    | 'x' =>
      match hexEscape? 2 rest with
      | some d => .ok ([d], 3)
      | none => .error (.invalidEscape 'x')
    | 'u' =>
      match hexEscape? 4 rest with
      | some d => .ok ([d], 5)
      | none => .error (.invalidEscape 'u')
    | other => .error (.invalidEscape other)

/-- How a string literal is delimited. -/
structure StringForm where
  quote : Char
  triple : Bool
  raw : Bool

/-- Reads the contents of a string literal and its closing quotes.  `count` characters of the token
are read already and `value` holds the contents so far, last character first. -/
def stringContents (form : StringForm) (text : List Char) (count : Nat) (value : List Char) :
    Except Fault (List Char × Nat) :=
  match text with
  | [] => .error (.unterminatedString, 0)
  | c :: rest =>
    if c = form.quote then
      if !form.triple then .ok (value.reverse, count + 1)
      else if rest.take 2 = [c, c] then .ok (value.reverse, count + 3)
      else stringContents form rest (count + 1) (c :: value)
    else if c = '\n' ∧ !form.triple then .error (.unterminatedString, 0)
    else if c = '\\' then
      if form.raw then
        match rest with
        | next :: more => stringContents form more (count + 2) (next :: c :: value)
        | [] => .error (.unterminatedString, 0)
      else
        match escape rest with
        | .error .unterminatedString => .error (.unterminatedString, 0)
        | .error fault => .error (fault, count + 1)
        | .ok (chars, width) =>
          stringContents form (rest.drop width) (count + 1 + width) (chars ++ value)
    else stringContents form rest (count + 1) (c :: value)
termination_by text.length

/-- Reads a string literal behind its opening quote; `opened` characters came before. -/
def stringLiteral (quote : Char) (raw : Bool) (opened : Nat) (text : List Char) :
    Except Fault (TokenKind × Nat) :=
  let triple := text.take 2 = [quote, quote]
  let (text, opened) := if triple then (text.drop 2, opened + 2) else (text, opened)
  (stringContents ⟨quote, triple, raw⟩ text opened []).map fun (value, count) =>
    (.string (String.ofList value), count)

/-- Whether a text begins with a decimal digit. -/
def beginsWithDigit (text : List Char) : Bool :=
  text.head?.any Text.isDecimalDigit

/-- The rest of a decimal numeral: digits, at most one point that a digit follows, and exponents.
The answer holds the characters and whether they make the numeral a fraction. -/
def numeralTail (fraction : Bool) : List Char → List Char × Bool
  | [] => ([], fraction)
  | c :: rest =>
    if Text.isDecimalDigit c then
      let (tail, f) := numeralTail fraction rest
      (c :: tail, f)
    else if c = '.' ∧ !fraction ∧ beginsWithDigit rest then
      let (tail, f) := numeralTail true rest
      (c :: tail, f)
    else if c = 'e' ∨ c = 'E' then
      match rest with
      | [] => ([], fraction)
      | next :: more =>
        if (next = '+' ∨ next = '-') ∧ beginsWithDigit more then
          let (tail, f) := numeralTail true more
          (c :: next :: tail, f)
        else if Text.isDecimalDigit next then
          let (tail, f) := numeralTail true (next :: more)
          (c :: tail, f)
        else ([], fraction)
    else ([], fraction)

/-- Reads a number that begins with `first`. -/
def number (first : Char) (text : List Char) : Except Fault (TokenKind × Nat) :=
  match first, text with
  | '0', x :: rest =>
    if x = 'x' ∨ x = 'X' then
      let digits := rest.takeWhile Text.isHexDigit
      match Numeral.word? 16 digits with
      | some value => .ok (.int value, digits.length + 2)
      | none => .error (.invalidNumber ("0x" ++ String.ofList digits), 0)
    else decimal first text
  | _, _ => decimal first text
where
  /-- Reads a number in decimal. -/
  decimal (first : Char) (text : List Char) : Except Fault (TokenKind × Nat) :=
    let (tail, fraction) := numeralTail (first = '.') text
    let literal := first :: tail
    let kind? : Option TokenKind :=
      if fraction then (Numeral.unsignedFloat? literal).map .float
      else (Numeral.word? 10 literal).map .int
    match kind? with
    | some kind => .ok (kind, literal.length)
    | none => .error (.invalidNumber (String.ofList literal), 0)

/-- Reads a word that begins with `first`: a reserved word, a name, or a raw string. -/
def word (first : Char) (text : List Char) : Except Fault (TokenKind × Nat) :=
  match first, text with
  | 'r', '"' :: rest => stringLiteral '"' true 2 rest
  | 'r', '\x27' :: rest => stringLiteral '\x27' true 2 rest
  | _, _ =>
    let letters := first :: text.takeWhile Text.continuesIdentifier
    let spelling := String.ofList letters
    let kind := match Keyword.ofText? spelling with
      | some keyword => .keyword keyword
      | none => .identifier spelling
    .ok (kind, letters.length)

/-- Reads an operator or punctuation mark that begins with `first`. -/
def mark (first : Char) (text : List Char) : Except Fault (Symbol × Nat) :=
  let orAssign (plain withAssign : Symbol) : Except Fault (Symbol × Nat) :=
    if text.head? = some '=' then .ok (withAssign, 2) else .ok (plain, 1)
  match first with
  | '+' => orAssign .plus .plusAssign
  | '-' => orAssign .minus .minusAssign
  | '%' => orAssign .percent .percentAssign
  | '*' => if text.head? = some '*' then .ok (.starStar, 2) else orAssign .star .starAssign
  | '/' =>
    if text.head? = some '/' then
      if text.tail.head? = some '=' then .ok (.slashSlashAssign, 3) else .ok (.slashSlash, 2)
    else orAssign .slash .slashAssign
  | '=' => orAssign .assign .equal
  | '<' => orAssign .less .lessEqual
  | '>' => orAssign .greater .greaterEqual
  | '!' => if text.head? = some '=' then .ok (.notEqual, 2) else .error (.unexpectedChar '!', 0)
  | '.' => .ok (.dot, 1)
  | ',' => .ok (.comma, 1)
  | ':' => .ok (.colon, 1)
  | '(' => .ok (.leftParen, 1)
  | ')' => .ok (.rightParen, 1)
  | '[' => .ok (.leftBracket, 1)
  | ']' => .ok (.rightBracket, 1)
  | '\x7b' => .ok (.leftBrace, 1)
  | '\x7d' => .ok (.rightBrace, 1)
  | other => .error (.unexpectedChar other, 0)

/-- Reads the token that begins with `first`, other than a newline. -/
def read (first : Char) (text : List Char) : Except Fault (TokenKind × Nat) :=
  if Text.beginsIdentifier first then word first text
  else if Text.isDecimalDigit first then number first text
  else if first = '.' ∧ beginsWithDigit text then number first text
  else if first = '"' ∨ first = '\x27' then stringLiteral first false 1 text
  else (mark first text).map fun (symbol, width) => (.symbol symbol, width)

end PixelApplet.Lexeme
