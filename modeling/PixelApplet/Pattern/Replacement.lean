import PixelApplet.Number.Numeral
import PixelApplet.Pattern.Reader
import PixelApplet.Pattern.Search

/-!
# Replacements

Texts that are put in the place of matches.  A dollar sign brings in a group of the match, by its
number or its name; two of them stand for one.
-/

namespace PixelApplet.Pattern

/-- A group by its number or its name. -/
inductive GroupKey where
  | number (n : Nat)
  | name (name : String)
  deriving DecidableEq

/-- A piece of a replacement. -/
inductive ReplacementPiece where
  | char (c : Char)
  | group (key : GroupKey)
  deriving DecidableEq

/-- The group that a text names. -/
def GroupKey.ofText (text : List Char) : GroupKey :=
  match Numeral.index? text with
  | some n => .number n
  | none => .name (String.ofList text)

/-- Whether a character belongs to the name of a group that stands without braces. -/
def isBareNameChar (c : Char) : Bool :=
  Text.isAsciiLetter c || Text.isDecimalDigit c || c == '_'

/-- The group named behind a dollar sign, and the text behind its name. -/
def groupKey? : List Char → Option (GroupKey × List Char)
  | '\x7b' :: rest =>
    match rest.dropWhile (· ≠ '\x7d') with
    | _ :: behind => some (.ofText (rest.takeWhile (· ≠ '\x7d')), behind)
    | [] => none
  | rest =>
    match rest.takeWhile isBareNameChar with
    | [] => none
    | name => some (.ofText name, rest.dropWhile isBareNameChar)

/-- The pieces of a replacement, read in at most `turns` turns. -/
def piecesWithin : (turns : Nat) → List Char → List ReplacementPiece
  | 0, _ => []
  | _, [] => []
  | turns + 1, '$' :: '$' :: rest => .char '$' :: piecesWithin turns rest
  | turns + 1, '$' :: rest =>
    match groupKey? rest with
    | some (key, behind) => .group key :: piecesWithin turns behind
    | none => .char '$' :: piecesWithin turns rest
  | turns + 1, c :: rest => .char c :: piecesWithin turns rest

/-- The pieces of a replacement. -/
def replacementPieces (text : String) : List ReplacementPiece :=
  piecesWithin text.length text.toList

/-- The text that a piece stands for in the place of a match.  A group that does not exist is empty.
-/
def ReplacementPiece.fill (names : List (String × Nat)) (text : Array Char) (found : Found) :
    ReplacementPiece → String
  | char c => c.toString
  | group (.number n) => found.groupText text n
  | group (.name name) =>
    match names.lookup name with
    | some n => found.groupText text n
    | none => ""

end PixelApplet.Pattern

namespace PixelApplet

/-- A pattern ready for use: its program and the names of its groups. -/
structure Matcher where
  program : Pattern.Program
  names : List (String × Nat)

namespace Matcher

/-- The matcher of a pattern. -/
def ofText (text : String) : Except Pattern.Fault Matcher := do
  let (pattern, names) ← Pattern.ofText text
  return ⟨Pattern.program pattern, names⟩

/-- Whether a text has a match. -/
def isFound (m : Matcher) (text : String) : Bool :=
  m.program.isFound text

/-- The texts of all matches. -/
def findAll (m : Matcher) (text : String) : List String :=
  let chars := text.toList.toArray
  (m.program.matches chars).map fun found => found.groupText chars 0

/-- The texts of all groups of all matches. -/
def groups (m : Matcher) (text : String) : List (List String) :=
  let chars := text.toList.toArray
  (m.program.matches chars).map fun found =>
    (List.range found.groups.length).map (found.groupText chars)

/-- Puts a replacement in the place of the first `limit` matches, or of all. -/
def replace (m : Matcher) (replacement text : String) (limit : Option Nat) : String :=
  let chars := text.toList.toArray
  let found := m.program.matches chars
  let pieces := Pattern.replacementPieces replacement
  Pattern.fillIn chars
    (fun found => String.join (pieces.map fun piece => piece.fill m.names chars found)) 0
    (match limit with
      | some limit => found.take limit
      | none => found)

/-- The pieces of a text around the first `limit` matches, or around all. -/
def split (m : Matcher) (text : String) (limit : Option Nat) : List String :=
  let chars := text.toList.toArray
  let found := m.program.matches chars
  Pattern.piecesAround chars 0
    (match limit with
      | some limit => found.take limit
      | none => found)

end Matcher

end PixelApplet
