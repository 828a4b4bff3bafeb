import PixelApplet.Library.Received
import PixelApplet.Number.Numeral

/-!
# Methods of strings

Positions count characters, searching and splitting follow `Text.Search`, and letter case follows
the character tables.
-/

/-! ## Templates

Text with fields in braces.  A doubled brace stands for itself; a field names its value by nothing,
by a position or by a name, and may ask for a conversion behind an exclamation mark.
-/

namespace PixelApplet.Text

/-- Which value a field shows. -/
inductive FieldKey where
  /-- The next positional value. -/
  | next
  | position (index : Nat)
  | name (name : String)
  deriving DecidableEq

/-- A piece of a template. -/
inductive TemplatePiece where
  | char (c : Char)
  | field (key : FieldKey) (conversion : Option String)
  /-- A closing brace that closes nothing; the rest is not read. -/
  | strayClose
  /-- An opening brace that is never closed. -/
  | neverClosed
  deriving DecidableEq

/-- The value that the text of a field names. -/
def FieldKey.ofText (text : List Char) : FieldKey :=
  if text.isEmpty then .next
  else
    match Numeral.index? text with
    | some index => .position index
    | none => .name (String.ofList text)

/-- A field by the text between its braces. -/
def TemplatePiece.ofField (text : List Char) : TemplatePiece :=
  match text.dropWhile (· ≠ '!') with
  | '!' :: conversion =>
    .field (.ofText (text.takeWhile (· ≠ '!'))) (some (String.ofList conversion))
  | _ => .field (.ofText text) none

mutual

/-- The pieces of a template. -/
def templatePieces : List Char → List TemplatePiece
  | [] => []
  | '\x7b' :: '\x7b' :: rest => .char '\x7b' :: templatePieces rest
  | '\x7d' :: '\x7d' :: rest => .char '\x7d' :: templatePieces rest
  | '\x7d' :: _ => [.strayClose]
  | '\x7b' :: rest => fieldPieces [] rest
  | c :: rest => .char c :: templatePieces rest

/-- The pieces from inside a field on; the characters of the field so far, last first. -/
def fieldPieces (seen : List Char) : List Char → List TemplatePiece
  | [] => [.neverClosed]
  | '\x7d' :: rest => .ofField seen.reverse :: templatePieces rest
  | c :: rest => fieldPieces (c :: seen) rest

end

end PixelApplet.Text

/-! ## Methods -/

namespace PixelApplet.TextMethods

/-- The text that an argument of a method must be. -/
def textArgument (function : String) : Value → Eval String
  | .str s => pure s
  | other => Eval.fail s!"{function}: got {other.typeName}, want string"

/-- The texts that an argument of a method names: one text, or a tuple of texts. -/
def affixes (function : String) : Value → Eval (List (List Char))
  | .str s => pure [s.toList]
  | .tuple items =>
    items.mapM fun item =>
      match item with
      | .str s => pure s.toList
      | _ => Eval.fail s!"{function}: want string or tuple of strings"
  | other => Eval.fail s!"{function}: got {other.typeName}, want string or tuple"

/-- The characters that stripping leaves out. -/
def strippedClass (function : String) : List Value → Eval (Char → Bool)
  | [] | .none :: _ => pure Text.isBlank
  | value :: _ => do
    let set := (← textArgument function value).toList
    return set.contains

/-- Leaves out characters of a class at the chosen ends. -/
def strip (class_ : Char → Bool) (left right : Bool) (text : List Char) : List Char :=
  let text := if left then text.dropWhile class_ else text
  if right then Text.dropEndWhile class_ text else text

/-- The pieces of a text.  Without a separator they are its words, whatever the limit; without a
limit they are cut from the left. -/
def pieces (fromRight : Bool) (separator : Option (List Char)) (limit : Option Nat)
    (text : List Char) : List (List Char) :=
  match separator, limit with
  | none, _ => Text.words text
  | some separator, none => Text.splitOn separator text
  | some separator, some cuts =>
    if fromRight then Text.splitLastAtMost separator cuts text
    else Text.splitAtMost separator cuts text

/-- A list of texts. -/
def newTexts (texts : List (List Char)) : Eval Value :=
  Eval.newList (texts.map fun text => .str (String.ofList text))

/-- Splits a text. -/
def split (function : String) (fromRight : Bool) (text : String) (arguments : Arguments) :
    Eval Value := do
  let r ← receive function [.optional "sep", .optional "maxsplit"] arguments
  let separator ← r.text? "sep"
  let limit := (← r.int? "maxsplit").filter (· ≥ 0)
  if separator = some "" then Eval.fail s!"{function}: empty separator"
  newTexts (pieces fromRight (separator.map String.toList) (limit.map fun n => n.toInt.toNat)
    text.toList)

/-- Joins texts with another between them. -/
def join (separator : String) (arguments : Arguments) : Eval Value := do
  let items ← Eval.iterate (← receiveOne "join" arguments)
  let parts ← items.mapM fun item =>
    match item with
    | .str s => pure s
    | other => Eval.fail s!"join: in list, want string, got {other.typeName}"
  return .str (separator.intercalate parts)

/-- Whether a text begins or ends with one of the texts an argument names. -/
def hasAffix (function : String) (matches_ : (affix text : List Char) → Bool) (text : String)
    (arguments : Arguments) : Eval Value := do
  let candidates ← affixes function (← receiveOne function arguments)
  return .bool (candidates.any fun affix => matches_ affix text.toList)

/-- Whether a text begins with a piece. -/
def startsWith (piece text : List Char) : Bool :=
  (Text.dropStart? piece text).isSome

/-- Whether a text ends with a piece. -/
def endsWith (piece text : List Char) : Bool :=
  startsWith piece.reverse text.reverse

/-- A text with another in the place of its occurrences, of at most so many where a count is given.
-/
def replace (text : String) (arguments : Arguments) : Eval Value := do
  match ← receiveBetween "replace" 2 3 arguments with
  | old :: new :: rest => do
    let old := (← textArgument "replace" old).toList
    let new := (← textArgument "replace" new).toList
    let limit := (rest.head?.bind Value.asInt?).filter (· ≥ 0)
    let replaced := match limit with
      | some n => Text.replaceAtMost old new n.toInt.toNat text.toList
      | none => Text.replaceAll old new text.toList
    return .str (String.ofList replaced)
  | _ => return .none

/-- The number of occurrences; an empty text occurs around every character. -/
def countOf (piece text : List Char) : Nat :=
  if piece.isEmpty then text.length + 1 else Text.countOccurrences piece text

/-- The position of an occurrence, or minus one. -/
def positionOrMinusOne : Option Nat → Value
  | some i => .int (Int64.ofNat i)
  | none => .int (-1)

/-- Whether a text is not empty and all its characters are in a class. -/
def allOf (class_ : Char → Bool) (text : List Char) : Bool :=
  !text.isEmpty && text.all class_

/-- Whether a text has letters and all of them are in a class. -/
def allLettersOf (class_ : Char → Bool) (text : List Char) : Bool :=
  allOf class_ (text.filter Text.isAlphabetic)

/-- The text of a value under the conversion of a field. -/
def shown (h : Heap) (value : Value) : Option String → Except String String
  | none | some "s" => .ok (value.text h)
  | some "r" => .ok (value.repr h)
  | some other => .error s!"format: unknown conversion {other}"

/-- The value that a field of a template shows, and the number of the next positional value. -/
def fieldValue (arguments : Arguments) (next : Nat) : Text.FieldKey → Except String (Value × Nat)
  | .next =>
    match arguments.positional[next]? with
    | some value => .ok (value, next + 1)
    | none => .error s!"format: tuple index out of range: {next}"
  | .position i =>
    match arguments.positional[i]? with
    | some value => .ok (value, next)
    | none => .error s!"format: tuple index out of range: {i}"
  | .name name =>
    match arguments.named.lookup name with
    | some value => .ok (value, next)
    | none => .error s!"format: keyword {name} not found"

/-- Fills the fields of a template. -/
def fill (h : Heap) (arguments : Arguments) (next : Nat) :
    List Text.TemplatePiece → Except String (List Char)
  | [] => .ok []
  | .char c :: rest => do
    return c :: (← fill h arguments next rest)
  | .field key conversion :: rest => do
    let (value, next) ← fieldValue arguments next key
    let text ← shown h value conversion
    return text.toList ++ (← fill h arguments next rest)
  | .strayClose :: _ => .error "format: single '\x7d' in format"
  | .neverClosed :: _ => .error "format: unmatched '\x7b' in format"

/-- What a method does with its string and its arguments. -/
def run (m : StringMethod) (text : String) (arguments : Arguments) : Eval Value := do
  let chars := text.toList
  match m with
  | .capitalize => do
    receiveNothing "capitalize" arguments
    return .str (Text.capitalize text)
  | .count => do
    let piece ← textArgument "count" (← receiveOne "count" arguments)
    return .int (Int64.ofNat (countOf piece.toList chars))
  | .endswith => hasAffix "endswith" endsWith text arguments
  | .find => do
    let piece ← textArgument "find" (← receiveOne "find" arguments)
    return positionOrMinusOne (Text.find? piece.toList chars)
  | .format =>
    return .str (String.ofList
      (← Eval.accept id (← Eval.readHeap fun h => fill h arguments 0 (Text.templatePieces chars))))
  | .index => do
    let piece ← textArgument "index" (← receiveOne "index" arguments)
    match Text.find? piece.toList chars with
    | some i => return .int (Int64.ofNat i)
    | none => Eval.fail "index: substring not found"
  | .isalnum => do
    receiveNothing "isalnum" arguments
    return .bool (allOf (fun c => Text.isAlphabetic c || Text.isNumeric c) chars)
  | .isalpha => do
    receiveNothing "isalpha" arguments
    return .bool (allOf Text.isAlphabetic chars)
  | .isdigit => do
    receiveNothing "isdigit" arguments
    return .bool (allOf Text.isDecimalDigit chars)
  | .islower => do
    receiveNothing "islower" arguments
    return .bool (allLettersOf Text.isLower chars)
  | .isspace => do
    receiveNothing "isspace" arguments
    return .bool (allOf Text.isBlank chars)
  | .isupper => do
    receiveNothing "isupper" arguments
    return .bool (allLettersOf Text.isUpper chars)
  | .join => join text arguments
  | .lower => do
    receiveNothing "lower" arguments
    return .str (Text.lower text)
  | .lstrip => do
    let class_ ← strippedClass "lstrip" (← receiveBetween "lstrip" 0 1 arguments)
    return .str (String.ofList (strip class_ true false chars))
  | .removeStart => do
    let piece ← textArgument "removeprefix" (← receiveOne "removeprefix" arguments)
    return .str (String.ofList ((Text.dropStart? piece.toList chars).getD chars))
  | .removeEnd => do
    let piece ← textArgument "removesuffix" (← receiveOne "removesuffix" arguments)
    return .str (String.ofList
      (((Text.dropStart? piece.toList.reverse chars.reverse).map List.reverse).getD chars))
  | .replace => replace text arguments
  | .rfind => do
    let piece ← textArgument "rfind" (← receiveOne "rfind" arguments)
    return positionOrMinusOne (Text.findLast? piece.toList chars)
  | .rsplit => split "rsplit" true text arguments
  | .rstrip => do
    let class_ ← strippedClass "rstrip" (← receiveBetween "rstrip" 0 1 arguments)
    return .str (String.ofList (strip class_ false true chars))
  | .split => split "split" false text arguments
  | .splitlines => do
    let _ ← receiveBetween "splitlines" 0 1 arguments
    newTexts (Text.lines chars)
  | .startswith => hasAffix "startswith" startsWith text arguments
  | .strip => do
    let class_ ← strippedClass "strip" (← receiveBetween "strip" 0 1 arguments)
    return .str (String.ofList (strip class_ true true chars))
  | .title => do
    receiveNothing "title" arguments
    return .str (Text.title text)
  | .upper => do
    receiveNothing "upper" arguments
    return .str (Text.upper text)

end PixelApplet.TextMethods
