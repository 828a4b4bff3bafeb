import PixelApplet.Text.Ranges

/-!
# Paths and failures

How files are named, and why a file or directory cannot be read, with the wording and the class of
each cause.
-/

namespace PixelApplet

/-- Why reading failed. -/
inductive FileFault where
  /-- A file source has nothing under the path. -/
  | absent (path : String)
  /-- The disk has nothing at the place. -/
  | missing
  | notADirectory
  | isADirectory
  | nameTooLong
  | nulInName
  deriving DecidableEq

namespace FileFault

/-- The wording of a failure. -/
def text : FileFault → String
  | absent path => s!"open {path}: file does not exist"
  | missing => "No such file or directory (os error 2)"
  | notADirectory => "Not a directory (os error 20)"
  | isADirectory => "Is a directory (os error 21)"
  | nameTooLong => "File name too long (os error 36)"
  | nulInName => "file name contained an unexpected NUL byte"

/-- Whether the failure means that nothing is there. -/
def meansAbsent : FileFault → Bool
  | absent _ | missing => true
  | _ => false

end FileFault

/-- One entry of a directory. -/
structure DirectoryEntry where
  name : String
  isDirectory : Bool
  deriving DecidableEq

end PixelApplet

/-! ## Paths

Slash-separated paths are brought to a normal form by reading their segments from left to right
against a stack: empty and `.` segments vanish, and `..` removes the segment before it.  At the root
`..` has no effect; in front of a relative path it stays.
-/

namespace PixelApplet.Path

/-- A segment of a path. -/
abbrev Segment := List Char

/-- The segment for the directory itself. -/
def here : Segment := ['.']

/-- The segment for the directory above. -/
def up : Segment := ['.', '.']

/-- Reads one segment against the segments kept so far, last first. -/
def push (rooted : Bool) (kept : List Segment) (segment : Segment) : List Segment :=
  if segment = [] ∨ segment = here then kept
  else if segment = up then
    match kept with
    | last :: before => if last ≠ up then before else if rooted then kept else up :: kept
    | [] => if rooted then [] else [up]
  else segment :: kept

/-- Segments joined by slashes. -/
def join : List Segment → List Char
  | [] => []
  | [segment] => segment
  | segment :: rest => segment ++ '/' :: join rest

/-- The segments of a path in normal form, first to last. -/
def cleanSegments (path : List Char) : List Segment :=
  ((Text.pieces '/' path).foldl (push (path.head? = some '/')) []).reverse

/-- The normal form of a path given by its characters. -/
def cleanChars (path : List Char) : List Char :=
  let joined := join (cleanSegments path)
  if path.head? = some '/' then '/' :: joined
  else if joined = [] then here
  else joined

/-- The normal form of a path: rooted paths begin with a slash, an empty result is `.`. -/
def clean (path : String) : String :=
  String.ofList (cleanChars path.toList)

/-- Whether a path in normal form leaves the directory it starts from. -/
def escapes (cleaned : String) : Bool :=
  match Text.pieces '/' cleaned.toList with
  | [] => false
  | first :: _ => cleaned.toList.head? = some '/' || first = up

/-- The last segment of a path, without trailing slashes and `.` segments; none when the path ends
in `..` or has no name. -/
def fileName? (path : String) : Option String :=
  match ((Text.pieces '/' path.toList).filter fun s => s ≠ [] ∧ s ≠ here).getLast? with
  | some last => if last = up then none else some (String.ofList last)
  | none => none

/-- A name split at its last dot; a dot in front does not count. -/
def splitExtension (name : String) : String × Option String :=
  let behind := name.toList.reverse.takeWhile (· ≠ '.')
  let before := name.toList.reverse.drop (behind.length + 1)
  if behind.length = name.toList.length ∨ before = [] then (name, none)
  else (String.ofList before.reverse, some (String.ofList behind.reverse))

end PixelApplet.Path
