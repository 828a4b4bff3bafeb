import PixelApplet.Text.Character

/-!
# Searching, splitting and replacing text

Texts are searched as lists of characters, so that every position is a character position.  An
occurrence is found from the left or from the right; splitting and replacing go on behind the
occurrence they used, so occurrences never overlap.
-/

namespace PixelApplet.Text

/-- What is left of a text behind a piece it begins with. -/
def dropStart? : (piece text : List Char) → Option (List Char)
  | [], text => some text
  | _ :: _, [] => none
  | p :: piece, c :: text => if p = c then dropStart? piece text else none

/-- Looks for the first occurrence of a piece behind the characters already seen (nearest first). -/
def cutFrom? (piece : List Char) (seen : List Char) : List Char → Option (List Char × List Char)
  | [] => (dropStart? piece []).map fun rest => (seen.reverse, rest)
  | c :: text =>
    match dropStart? piece (c :: text) with
    | some rest => some (seen.reverse, rest)
    | none => cutFrom? piece (c :: seen) text

/-- The text before and behind the first occurrence of a piece. -/
def cutFirst? (piece text : List Char) : Option (List Char × List Char) :=
  cutFrom? piece [] text

/-- The text before and behind the last occurrence of a piece. -/
def cutLast? (piece text : List Char) : Option (List Char × List Char) :=
  (cutFirst? piece.reverse text.reverse).map fun cut => (cut.2.reverse, cut.1.reverse)

/-- The character position of the first occurrence. -/
def find? (piece text : List Char) : Option Nat :=
  (cutFirst? piece text).map fun cut => cut.1.length

/-- The character position of the last occurrence. -/
def findLast? (piece text : List Char) : Option Nat :=
  (cutLast? piece text).map fun cut => cut.1.length

/-- Whether a piece occurs in a text. -/
def occursIn (piece text : List Char) : Bool :=
  (cutFirst? piece text).isSome

/-- The pieces of a text around at most `cuts` occurrences of a separator, from the left. -/
def splitAtMost (separator : List Char) : (cuts : Nat) → List Char → List (List Char)
  | 0, text => [text]
  | cuts + 1, text =>
    match cutFirst? separator text with
    | none => [text]
    | some (before, behind) => before :: splitAtMost separator cuts behind

/-- The pieces of a text around all occurrences of a separator, from the left. -/
def splitOn (separator text : List Char) : List (List Char) :=
  splitAtMost separator (text.length + 1) text

/-- The pieces of a text around at most `cuts` occurrences of a separator, taken from the right and
listed from the left. -/
def splitLastAtMost (separator : List Char) (cuts : Nat) (text : List Char) : List (List Char) :=
  (splitAtMost separator.reverse cuts text.reverse).reverse.map List.reverse

/-- The maximal runs of characters that are not blank. -/
def words (text : List Char) : List (List Char) :=
  let (run, runs) := text.foldr
    (fun c (run, runs) =>
      if isBlank c then ([], if run.isEmpty then runs else run :: runs) else (c :: run, runs))
    (([] : List Char), ([] : List (List Char)))
  if run.isEmpty then runs else run :: runs

/-- A line without the carriage return that precedes its newline. -/
def trimReturn (line : List Char) : List Char :=
  if line.getLast? = some '\r' then line.dropLast else line

/-- The lines of a text.  A final newline ends the last line and opens no other, and a carriage
return before a newline belongs to the line's end. -/
def lines (text : List Char) : List (List Char) :=
  let all := splitOn ['\n'] text
  let ended := all.dropLast.map trimReturn
  match all.getLast? with
  | none | some [] => ended
  | some last => ended ++ [last]

/-- Puts `filling` in the place of at most `cuts` occurrences of a piece.  An empty piece occurs
before every character and at the end. -/
def replaceAtMost (piece filling : List Char) : (cuts : Nat) → List Char → List Char
  | 0, text => text
  | cuts + 1, text =>
    match piece, text with
    | [], [] => filling
    | [], c :: text => filling ++ c :: replaceAtMost [] filling cuts text
    | piece, text =>
      match cutFirst? piece text with
      | none => text
      | some (before, behind) => before ++ filling ++ replaceAtMost piece filling cuts behind

/-- Puts `filling` in the place of all occurrences of a piece. -/
def replaceAll (piece filling text : List Char) : List Char :=
  replaceAtMost piece filling (text.length + 1) text

/-- The number of occurrences that do not overlap. -/
def countOccurrences (piece text : List Char) : Nat :=
  (splitOn piece text).length - 1

/-- Leaves out the characters of a class at the end. -/
def dropEndWhile (class_ : Char → Bool) (text : List Char) : List Char :=
  (text.reverse.dropWhile class_).reverse

/-- Leaves out blank characters at both ends. -/
def trim (text : List Char) : List Char :=
  dropEndWhile isBlank (text.dropWhile isBlank)

/-- Leaves out blank characters at both ends of a string. -/
def trimString (s : String) : String :=
  String.ofList (trim s.toList)

/-- Whether a string contains another. -/
def contains (s piece : String) : Bool :=
  occursIn piece.toList s.toList

end PixelApplet.Text
