import PixelApplet.Number.Numeral
import PixelApplet.Pattern.Tree
import PixelApplet.Text.Search

/-!
# The text of a pattern

What remains to be read of a pattern and the flags that hold there, with the reading of its smallest
pieces: blanks, numbers and escapes.  A text that is no pattern is refused with a fault.
-/

namespace PixelApplet.Pattern

/-- What is wrong with a pattern. -/
inductive Fault where
  | unclosedGroup
  | unopenedGroup
  | badGroupName
  | badFlag
  | lookAround
  | backreference
  | missingOperand
  | badCount
  | unclosedClass
  | badRange
  | badClassItem
  | badEscape
  | unknownProperty
  /-- The part could match something that is no character. -/
  | notText
  | nestedTooDeep
  | tooLarge
  deriving DecidableEq

/-- The wording of a fault. -/
def Fault.text : Fault → String
  | unclosedGroup => "unclosed group"
  | unopenedGroup => "unopened group"
  | badGroupName => "invalid or repeated group name"
  | badFlag => "unrecognized, repeated or dangling flag"
  | lookAround => "look-around is not supported"
  | backreference => "backreferences are not supported"
  | missingOperand => "repetition operator missing expression"
  | badCount => "invalid repetition count"
  | unclosedClass => "unclosed character class"
  | badRange => "invalid character class range"
  | badClassItem => "invalid item in character class"
  | badEscape => "invalid escape sequence"
  | unknownProperty => "unknown character property"
  | notText => "pattern can match what is no text"
  | nestedTooDeep => "pattern is nested too deep"
  | tooLarge => "pattern is too large"

end PixelApplet.Pattern

namespace PixelApplet.Pattern

/-- The flags that hold at a place of a pattern. -/
structure Flags where
  ignoreCase : Bool
  multiLine : Bool
  /-- A dot matches line ends too. -/
  dotAll : Bool
  /-- Repetitions are reluctant, and those marked by `?` are greedy. -/
  swapGreed : Bool
  unicode : Bool
  carriageReturn : Bool
  /-- Blanks and comments are passed over. -/
  extended : Bool
  deriving DecidableEq

/-- The flags at the beginning of a pattern. -/
def Flags.initial : Flags :=
  ⟨false, false, false, false, true, false, false⟩

/-- A pattern that is being read. -/
structure Source where
  rest : List Char
  flags : Flags
  /-- The number of the last group. -/
  groups : Nat
  /-- The names of groups. -/
  names : List (String × Nat)

/-- Reading a piece of a pattern. -/
abbrev Reading (α : Type) := StateT Source (Except Fault) α

namespace Reading

/-- Refuses the pattern. -/
def refuse {α : Type} (fault : Fault) : Reading α :=
  throw fault

/-- The flags that hold here. -/
def flags : Reading Flags := do
  return (← get).flags

/-- The text that remains. -/
def rest : Reading (List Char) := do
  return (← get).rest

/-- The next character. -/
def next? : Reading (Option Char) := do
  return (← rest).head?

/-- Goes on behind some characters. -/
def skip (count : Nat) : Reading Unit :=
  modify fun s => { s with rest := s.rest.drop count }

/-- The text behind blanks and comments; a comment ends with its line. -/
def behindBlanks : (inComment : Bool) → List Char → List Char
  | _, [] => []
  | true, c :: rest => behindBlanks (c ≠ '\n') rest
  | false, c :: rest =>
    if Text.isBlank c then behindBlanks false rest
    else if c = '#' then behindBlanks true rest
    else c :: rest

/-- Passes over blanks and comments where that is asked for. -/
def skipBlanks : Reading Unit := do
  if (← flags).extended then
    modify fun s => { s with rest := behindBlanks false s.rest }

/-- Goes on behind a character and the blanks that follow it. -/
def skipWithBlanks : Reading Unit := do
  skip 1
  skipBlanks

/-- The text behind the next character and blanks. -/
def peekBehind : Reading (Option Char) := do
  let rest := (← rest).drop 1
  return (if (← flags).extended then behindBlanks false rest else rest).head?

/-- Goes on behind a piece of text if it stands here. -/
def skipText (piece : String) : Reading Bool := do
  match Text.dropStart? piece.toList (← rest) with
  | some behind => do
    modify fun s => { s with rest := behind }
    return true
  | none => return false

/-- The number of turns that reading the remaining text character by character takes. -/
def turns : Reading Nat := do
  return (← rest).length + 1

end Reading

open Reading

/-- The characters of a class from here on, with the blanks that may stand between them. -/
def readWhile (class_ : Char → Bool) : (turns : Nat) → (read : List Char) → Reading (List Char)
  | 0, read => return read.reverse
  | turns + 1, read => do
    match ← next? with
    | some c =>
      if class_ c then
        skipWithBlanks
        readWhile class_ turns (c :: read)
      else return read.reverse
    | none => return read.reverse

/-- A count in a repetition, if there are digits; blanks may stand around it. -/
def readCount : Reading (Option Nat) := do
  modify fun s => { s with rest := s.rest.dropWhile Text.isBlank }
  let digits ← readWhile Text.isDecimalDigit (← turns) []
  let _ ← readWhile Text.isBlank (← turns) []
  if digits.isEmpty then return none
  else
    match (Numeral.natural? 10 digits).filter (· < Nat.pow 2 32) with
    | some n => return some n
    | none => refuse .badCount

/-- The character with a code point in hexadecimal. -/
def charOfDigits (digits : List Char) : Reading Char :=
  match Numeral.natural? 16 digits with
  | some n => if n.isValidChar then pure (Char.ofNat n) else refuse .badEscape
  | none => refuse .badEscape

/-- A fixed number of hexadecimal digits. -/
def readHexDigits : (count : Nat) → Reading (List Char)
  | 0 => pure []
  | count + 1 => do
    match ← next? with
    | some c =>
      if Text.isHexDigit c then
        skipWithBlanks
        return c :: (← readHexDigits count)
      else refuse .badEscape
    | none => refuse .badEscape

/-- What an escape stands for. -/
inductive Escaped where
  /-- A character; whether it was written as a byte, by two hexadecimal digits. -/
  | char (c : Char) (asByte : Bool)
  | set (set : CharSet)
  | look (condition : Look)

/-- A character by its code point, from the letter on that says how it is written. -/
def readCodePoint (letter : Char) : Reading Escaped := do
  skipWithBlanks
  if (← next?) = some '\x7b' then
    skipWithBlanks
    let digits ← readWhile (· ≠ '\x7d') (← turns) []
    if (← next?) ≠ some '\x7d' then refuse .badEscape
    skipWithBlanks
    return .char (← charOfDigits digits) false
  else
    let count := if letter = 'x' then 2 else if letter = 'u' then 4 else 8
    return .char (← charOfDigits (← readHexDigits count)) (letter = 'x')

/-- A set in the letter case that the flags ask for, and then perhaps its complement.  A complement
without Unicode would contain what is no character. -/
def adjust (set : CharSet) (negated : Bool) : Reading CharSet := do
  let flags ← flags
  if negated && !flags.unicode then refuse .notText
  else
    let set := if flags.ignoreCase then set.folded flags.unicode else set
    return set.negatedIf negated

/-- The characters that the name of a property stands for, and whether they are excluded. -/
def propertyNamed? (name : List Char) : Option CharSet × Bool :=
  match Text.cutFirst? ['!', '='] name with
  | some (property, value) => (CharSet.propertyValue? property value, true)
  | none =>
    match Text.cutFirst? [':'] name with
    | some (property, value) => (CharSet.propertyValue? property value, false)
    | none =>
      match Text.cutFirst? ['='] name with
      | some (property, value) => (CharSet.propertyValue? property value, false)
      | none => (CharSet.property? name, false)

/-- A class of the Unicode standard, from the letter on. -/
def readProperty (negated : Bool) : Reading Escaped := do
  skipWithBlanks
  let name ← match ← next? with
    | none => refuse .badEscape
    | some '\x7b' => do
      skipWithBlanks
      let name ← readWhile (· ≠ '\x7d') (← turns) []
      if (← next?) ≠ some '\x7d' then refuse .badEscape
      skip 1
      pure name
    | some '\\' => refuse .badEscape
    | some c => do
      skipWithBlanks
      pure [c]
  if !(← flags).unicode then refuse .notText
  match propertyNamed? name with
  | (some set, excluded) => return .set (← adjust set (negated != excluded))
  | (none, _) => refuse .unknownProperty

/-- A class of digits, blanks or words, from the letter on. -/
def readClassLetter (set : Bool → CharSet) (negated : Bool) : Reading Escaped := do
  skip 1
  let unicode := (← flags).unicode
  if negated && !unicode then refuse .notText
  else return .set ((set unicode).negatedIf negated)

/-- The characters in the names of word boundaries. -/
def isBoundaryChar (c : Char) : Bool :=
  Text.isAsciiLetter c || c == '-'

/-- A word boundary behind its letter, perhaps of a special kind that stands in braces.  What cannot
be the name of a kind is left for a repetition. -/
def readBoundary : Reading Look := do
  let unicode := (← flags).unicode
  let before ← get
  if before.rest.head? ≠ some '\x7b' then return .wordBoundary unicode
  skipWithBlanks
  match ← next? with
  | none => refuse .badEscape
  | some c =>
    if !isBoundaryChar c then
      set before
      return .wordBoundary unicode
    else
      let name := String.ofList (← readWhile isBoundaryChar (← turns) [])
      if (← next?) ≠ some '\x7d' then refuse .badEscape
      skip 1
      if name = "start" then return .wordStart unicode
      else if name = "end" then return .wordStop unicode
      else if name = "start-half" then return .wordStartHalf unicode
      else if name = "end-half" then return .wordStopHalf unicode
      else refuse .badEscape

/-- The control character that a letter stands for. -/
def controlChar? (letter : Char) : Option Char :=
  if letter = 'a' then some '\x07'
  else if letter = 'f' then some '\x0c'
  else if letter = 't' then some '\t'
  else if letter = 'n' then some '\n'
  else if letter = 'r' then some '\r'
  else if letter = 'v' then some '\x0b'
  else none

/-- Whether a character may be written behind a backslash for itself: all of ASCII but letters,
digits and angle brackets. -/
def isEscapable (c : Char) : Bool :=
  c.toNat < 128 && !(Text.isAsciiLetter c || Text.isDecimalDigit c || c == '<' || c == '>')

/-- An escape, from its backslash on. -/
def readEscape : Reading Escaped := do
  skip 1
  match ← next? with
  | none => refuse .badEscape
  | some c =>
    if Text.isDecimalDigit c then refuse .backreference
    else if c = 'x' ∨ c = 'u' ∨ c = 'U' then readCodePoint c
    else if c = 'p' ∨ c = 'P' then readProperty (c = 'P')
    else if c = 'd' ∨ c = 'D' then readClassLetter .digit (c = 'D')
    else if c = 's' ∨ c = 'S' then readClassLetter .blank (c = 'S')
    else if c = 'w' ∨ c = 'W' then readClassLetter .word (c = 'W')
    else
      skip 1
      let unicode := (← flags).unicode
      if isEscapable c then return .char c false
      else
        match controlChar? c with
        | some control => return .char control false
        | none =>
          if c = 'A' then return .look .textStart
          else if c = 'z' then return .look .textStop
          else if c = 'b' then return .look (← readBoundary)
          else if c = 'B' then return .look (.noWordBoundary unicode)
          else if c = '<' then return .look (.wordStart unicode)
          else if c = '>' then return .look (.wordStop unicode)
          else refuse .badEscape

end PixelApplet.Pattern
