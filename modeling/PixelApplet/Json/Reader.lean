import PixelApplet.Json.Basic
import PixelApplet.Number.Numeral

/-!
# Reading documents

A reader of JSON text that says what is wrong with malformed text and where.  Columns count bytes.
A decimal fraction is read as its leading digits times a power of ten in double arithmetic, so its
last bit may differ from the nearest double.
-/

namespace PixelApplet.Json

/-- What can be wrong with the text of a document. -/
inductive Fault where
  | endInList | endInObject | endInString | endInValue
  | expectedColon | expectedListEnd | expectedObjectEnd | expectedIdent | expectedValue
  | invalidEscape | invalidNumber | numberOutOfRange | controlCharacter | keyMustBeString
  | loneSurrogate | trailingComma | trailingCharacters | endOfHexEscape | tooDeep
  deriving DecidableEq

/-- The wording of a fault. -/
def Fault.text : Fault → String
  | endInList => "EOF while parsing a list"
  | endInObject => "EOF while parsing an object"
  | endInString => "EOF while parsing a string"
  | endInValue => "EOF while parsing a value"
  | expectedColon => "expected `:`"
  | expectedListEnd => "expected `,` or `]`"
  | expectedObjectEnd => "expected `,` or `\x7d`"
  | expectedIdent => "expected ident"
  | expectedValue => "expected value"
  | invalidEscape => "invalid escape"
  | invalidNumber => "invalid number"
  | numberOutOfRange => "number out of range"
  | controlCharacter => "control character (\\u0000-\\u001F) found while parsing a string"
  | keyMustBeString => "key must be a string"
  | loneSurrogate => "lone leading surrogate in hex escape"
  | trailingComma => "trailing comma"
  | trailingCharacters => "trailing characters"
  | endOfHexEscape => "unexpected end of hex escape"
  | tooDeep => "recursion limit exceeded"

/-- A fault and its place: a line, and the number of bytes up to the place in that line. -/
structure ReadError where
  fault : Fault
  line : Nat
  column : Nat
  deriving DecidableEq

/-- A fault followed by its place. -/
def ReadError.text (e : ReadError) : String :=
  s!"{e.fault.text} at line {e.line} column {e.column}"

/-- The text that is still to be read, and how much of it was read. -/
structure Source where
  rest : List Char
  line : Nat
  column : Nat

/-- A reader of something. -/
abbrev Reads := StateT Source (Except ReadError)

namespace Reads

/-- The place behind one more byte of a character. -/
def placeAfter (line column : Nat) (c : Char) (width : Nat) : Nat × Nat :=
  if c = '\n' then (line + 1, 0) else (line, column + width)

/-- Moves over the next character. -/
def advance : Reads Unit :=
  fun s => match s.rest with
    | [] => .ok ((), s)
    | c :: rest =>
      let (line, column) := placeAfter s.line s.column c c.utf8Size
      .ok ((), ⟨rest, line, column⟩)

/-- The next character. -/
def peek : Reads (Option Char) :=
  fun s => .ok (s.rest.head?, s)

/-- Moves over the next character and answers with it. -/
def next : Reads (Option Char) := do
  let c ← peek
  advance
  return c

/-- Refuses the text at the place reached. -/
def failHere {α : Type} (fault : Fault) : Reads α :=
  fun s => .error ⟨fault, s.line, s.column⟩

/-- Refuses the next character. -/
def failNext {α : Type} (fault : Fault) : Reads α :=
  fun s => match s.rest with
    | [] => .error ⟨fault, s.line, s.column⟩
    | c :: _ =>
      let (line, column) := placeAfter s.line s.column c 1
      .error ⟨fault, line, column⟩

/-- Moves over white space. -/
def skipBlanks : Reads Unit :=
  fun s => .ok ((), go s.rest s.line s.column)
where
  /-- Moves over the white space at the front of a text. -/
  go : List Char → Nat → Nat → Source
    | [], line, column => ⟨[], line, column⟩
    | c :: rest, line, column =>
      if c = ' ' ∨ c = '\t' ∨ c = '\r' then go rest line (column + 1)
      else if c = '\n' then go rest (line + 1) 0
      else ⟨c :: rest, line, column⟩

/-- The next character behind white space. -/
def peekBehindBlanks : Reads (Option Char) := do
  skipBlanks
  peek

/-- Moves over the decimal digits that come next and answers with them. -/
def digits : Reads (List Char) :=
  fun s =>
    let found := s.rest.takeWhile Text.isDecimalDigit
    .ok (found, ⟨s.rest.drop found.length, s.line, s.column + found.length⟩)

/-- Reads the rest of a fixed word. -/
def word : List Char → Reads Unit
  | [] => pure ()
  | expected :: rest => do
    match ← peek with
    | none => failHere .endInValue
    | some c =>
      if c ≠ expected then
        failNext .expectedIdent
      advance
      word rest

/-- The value of digits as far as it stays below two to the 64th, and the digits left over. -/
def leadingWord (total : Nat) : List Char → Nat × List Char
  | [] => (total, [])
  | c :: rest =>
    let grown := total * 10 + (c.toNat - '0'.toNat)
    if grown < Nat.pow 2 64 then leadingWord grown rest else (total, c :: rest)

/-- Ten to a power up to 308, as a double. -/
def powerOfTen (n : Nat) : Float :=
  Decimal.ofDigits 1 n

/-- Divides by large powers of ten until the exponent is in range. -/
def scaleDown : (steps : Nat) → Float → Nat → Float
  | 0, x, _ => x
  | steps + 1, x, places =>
    if places ≤ 308 then x / powerOfTen places
    else if x == 0.0 then x
    else scaleDown steps (x / powerOfTen 308) (places - 308)

/-- A number from its leading digits and a power of ten. -/
def scaled (negative : Bool) (significand : Nat) (exponent : Int) : Reads Json := do
  let x := Decimal.ofInt significand
  let magnitude ←
    if 0 ≤ exponent then
      if exponent ≤ 308 then
        let y := x * powerOfTen exponent.toNat
        if y.isInf then failHere .numberOutOfRange else pure y
      else if significand = 0 then pure x
      else failHere .numberOutOfRange
    else pure (scaleDown 8 x (-exponent).toNat)
  return .float (if negative then -magnitude else magnitude)

/-- Reads an exponent behind its letter. -/
def exponentPart (negative : Bool) (significand : Nat) (exponent : Int) : Reads Json := do
  advance
  let down ← match ← peek with
    | some '+' =>
      advance
      pure false
    | some '-' =>
      advance
      pure true
    | _ => pure false
  match ← peek with
  | none => failHere .endInValue
  | some c =>
    if !Text.isDecimalDigit c then
      failNext .invalidNumber
    advance
    let start ← get
    let found ← digits
    let limit := Nat.pow 2 31
    let power := (Numeral.natural? 10 (c :: found)).getD 0
    if power < limit then
      scaled negative significand (if down then exponent - power else exponent + power)
    else if significand ≠ 0 ∧ !down then
      -- the place is behind the digit that exceeds the limit
      let fitting := overflowLength limit (c.toNat - '0'.toNat) found
      set { start with rest := start.rest.drop fitting, column := start.column + fitting }
      failHere .numberOutOfRange
    else return .float (if negative then -0.0 else 0.0)
where
  /-- The number of digits up to the one with which the value reaches the limit. -/
  overflowLength (limit total : Nat) : List Char → Nat
    | [] => 0
    | c :: rest =>
      let grown := total * 10 + (c.toNat - '0'.toNat)
      if grown < limit then overflowLength limit grown rest + 1 else 1

/-- Reads an exponent if there is one, and answers with the number. -/
def optionalExponent (negative : Bool) (significand : Nat) (exponent : Int) : Reads Json := do
  match ← peek with
  | some 'e' | some 'E' => exponentPart negative significand exponent
  | _ => scaled negative significand exponent

/-- Reads the places behind a point, and an exponent. -/
def fractionPart (negative : Bool) (significand : Nat) (exponent : Int) : Reads Json := do
  advance
  let found ← digits
  if found.isEmpty then
    match ← peek with
    | some _ => failNext .invalidNumber
    | none => failNext .endInValue
  let (total, unused) := leadingWord significand found
  optionalExponent negative total (exponent - ((found.length - unused.length : Nat) : Int))

/-- Reads what may follow the whole part of a number. -/
def behindWhole (negative : Bool) (significand : Nat) (exponent : Int) (whole : Json) :
    Reads Json := do
  match ← peek with
  | some '.' => fractionPart negative significand exponent
  | some 'e' | some 'E' => exponentPart negative significand exponent
  | _ => return whole

/-- Reads a number behind its sign. -/
def number (negative : Bool) : Reads Json := do
  match ← peek with
  | none => failHere .endInValue
  | some '0' =>
    advance
    match ← peek with
    | some c =>
      if Text.isDecimalDigit c then
        failNext .invalidNumber
    | none => pure ()
    behindWhole negative 0 0 (if negative then .float (-0.0) else .int 0)
  | some c =>
    if !Text.isDecimalDigit c then
      failNext .invalidNumber
    advance
    let found ← digits
    let (total, unused) := leadingWord (c.toNat - '0'.toNat) found
    if unused.isEmpty then
      let whole : Json :=
        if !negative then .int total
        else if total ≤ Nat.pow 2 63 then .int (-(total : Int))
        else .float (-(Decimal.ofInt total))
      behindWhole negative total 0 whole
    else
      match ← peek with
      | some '.' => fractionPart negative total unused.length
      | _ => optionalExponent negative total unused.length

/-- The value of four hexadecimal digits. -/
def hexUnit? (text : List Char) : Option Nat :=
  let found := text.take 4
  if found.length = 4 && found.all Text.isHexDigit then some (Text.hexValue found) else none

/-- Moves over four bytes and refuses them. -/
def failFourBytes (text : List Char) (line column : Nat) : (bytes : Nat) → ReadError
  | 0 => ⟨.invalidEscape, line, column⟩
  | bytes + 1 =>
    match text with
    | [] => ⟨.endInString, line, column⟩
    | c :: rest =>
      if c.utf8Size ≤ bytes + 1 then
        let (l, k) := placeAfter line column c c.utf8Size
        failFourBytes rest l k (bytes + 1 - c.utf8Size)
      else ⟨.invalidEscape, line, column + bytes + 1⟩

/-- The number of bytes of a text, as far as it matters here. -/
def bytesUpToFour (text : List Char) : Nat :=
  (text.take 4).foldl (fun n c => n + c.utf8Size) 0

/-- Reads the four digits of a hexadecimal escape. -/
def hexEscape : Reads Nat :=
  fun s =>
    match hexUnit? s.rest with
    | some n => .ok (n, ⟨s.rest.drop 4, s.line, s.column + 4⟩)
    | none =>
      if bytesUpToFour s.rest < 4 then
        let (line, column) := s.rest.foldl
          (fun (place : Nat × Nat) c => placeAfter place.1 place.2 c c.utf8Size) (s.line, s.column)
        .error ⟨.endInString, line, column⟩
      else .error (failFourBytes s.rest s.line s.column 4)

/-- Reads one of the two characters that must stand between two halves of a surrogate pair. -/
def betweenSurrogates (c : Char) : Reads Unit := do
  match ← peek with
  | none => failHere .endInString
  | some found =>
    if found ≠ c then
      failNext .endOfHexEscape
    advance

/-- Reads a hexadecimal escape behind its letter: one unit, or a surrogate pair. -/
def unicodeEscape : Reads Char := do
  let first ← hexEscape
  if 0xDC00 ≤ first ∧ first ≤ 0xDFFF then
    failHere .loneSurrogate
  if 0xD800 ≤ first ∧ first ≤ 0xDBFF then
    betweenSurrogates '\\'
    betweenSurrogates 'u'
    let second ← hexEscape
    if second < 0xDC00 ∨ 0xDFFF < second then
      failHere .loneSurrogate
    return Char.ofNat ((first - 0xD800) * 0x400 + (second - 0xDC00) + 0x10000)
  return Char.ofNat first

/-- The character that an escape of one letter stands for. -/
def plainEscape? : Char → Option Char
  | '"' => some '"'
  | '\\' => some '\\'
  | '/' => some '/'
  | 'b' => some '\x08'
  | 'f' => some '\x0c'
  | 'n' => some '\n'
  | 'r' => some '\r'
  | 't' => some '\t'
  | _ => none

/-- Reads an escape behind its backslash. -/
def escape : Reads Char := do
  match ← peek with
  | none => failHere .endInString
  | some 'u' =>
    advance
    unicodeEscape
  | some letter =>
    match plainEscape? letter with
    | some c =>
      advance
      return c
    | none => failNext .invalidEscape

/-- Reads a string behind its opening quote; `done` holds its characters so far, last first. -/
def stringRest : (fuel : Nat) → (done : List Char) → Reads String
  | 0, _ => failHere .endInString
  | fuel + 1, done => do
    match ← next with
    | none => failHere .endInString
    | some c =>
      if c = '"' then
        return String.ofList done.reverse
      if c = '\\' then
        let c ← escape
        stringRest fuel (c :: done)
      else if c.toNat < 32 then
        failHere .controlCharacter
      else
        stringRest fuel (c :: done)

mutual

/-- Reads a value; `depth` more levels of arrays and objects may be opened. -/
def value : (fuel : Nat) → (depth : Nat) → Reads Json
  | 0, _ => failHere .endInValue
  | fuel + 1, depth => do
    match ← peekBehindBlanks with
    | none => failNext .endInValue
    | some 'n' =>
      advance
      word ['u', 'l', 'l']
      return .null
    | some 't' =>
      advance
      word ['r', 'u', 'e']
      return .bool true
    | some 'f' =>
      advance
      word ['a', 'l', 's', 'e']
      return .bool false
    | some '-' =>
      advance
      number true
    | some '"' =>
      advance
      return .string (← stringRest (fuel + 1) [])
    | some '[' =>
      if depth ≤ 1 then
        failNext .tooDeep
      advance
      return .array (← itemsRest fuel (depth - 1) true)
    | some '\x7b' =>
      if depth ≤ 1 then
        failNext .tooDeep
      advance
      return .object (← fieldsRest fuel (depth - 1) [])
    | some c => if Text.isDecimalDigit c then number false else failNext .expectedValue

/-- Reads the items of an array and its closing bracket. -/
def itemsRest : (fuel : Nat) → (depth : Nat) → (first : Bool) → Reads (List Json)
  | 0, _, _ => failHere .endInList
  | fuel + 1, depth, first => do
    match ← peekBehindBlanks with
    | none => failNext .endInList
    | some ']' =>
      advance
      return []
    | some c =>
      if !first then
        if c ≠ ',' then
          failNext .expectedListEnd
        advance
        match ← peekBehindBlanks with
        | none => failNext .endInValue
        | some ']' => failNext .trailingComma
        | some _ => pure ()
      let item ← value fuel depth
      return item :: (← itemsRest fuel depth false)

/-- Reads the fields of an object and its closing brace; `done` holds the fields so far. -/
def fieldsRest : (fuel : Nat) → (depth : Nat) → (done : List (String × Json)) →
    Reads (List (String × Json))
  | 0, _, _ => failHere .endInObject
  | fuel + 1, depth, done => do
    match ← peekBehindBlanks with
    | none => failNext .endInObject
    | some '\x7d' =>
      advance
      return done
    | some c =>
      if done.isEmpty then
        if c ≠ '"' then
          failNext .keyMustBeString
      else
        if c ≠ ',' then
          failNext .expectedObjectEnd
        advance
        match ← peekBehindBlanks with
        | some '"' => pure ()
        | some '\x7d' => failNext .trailingComma
        | some _ => failNext .keyMustBeString
        | none => failNext .endInValue
      advance
      let key ← stringRest fuel []
      match ← peekBehindBlanks with
      | some ':' => advance
      | some _ => failNext .expectedColon
      | none => failNext .endInObject
      let item ← value fuel depth
      fieldsRest fuel depth (putField key item done)

end

/-- Reads a document and the end of the text. -/
def document (fuel : Nat) : Reads Json := do
  let found ← value fuel 128
  match ← peekBehindBlanks with
  | none => return found
  | some _ => failNext .trailingCharacters

end Reads

/-- The document that a text holds. -/
def parse (text : String) : Except ReadError Json :=
  let chars := text.toList
  ((Reads.document (chars.length + 2)).run ⟨chars, 1, 0⟩).map Prod.fst

end PixelApplet.Json
