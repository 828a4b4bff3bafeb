/-!
# Positions in script text

A position is a line, a column and a byte offset.  Positions are never set by hand: they move over
the characters that a reader consumes, so a position is a function of the text before it.
-/

namespace PixelApplet

/-- A place in a script.  Lines and columns count from one, bytes from zero; line zero marks a place
outside every script. -/
structure Position where
  line : Nat
  column : Nat
  offset : Nat
  deriving DecidableEq, Inhabited

namespace Position

/-- The place before the first character of a script. -/
def start : Position :=
  ⟨1, 1, 0⟩

/-- A place outside every script. -/
def nowhere : Position :=
  ⟨0, 0, 0⟩

/-- Whether the place lies outside every script. -/
def isNowhere (p : Position) : Bool :=
  p.line == 0

/-- The place after one more character: a newline opens a line, any other character a column. -/
def advance (p : Position) (c : Char) : Position :=
  if c = '\n' then ⟨p.line + 1, 1, p.offset + 1⟩
  else ⟨p.line, p.column + 1, p.offset + c.utf8Size⟩

/-- The place after a stretch of text. -/
def after (p : Position) (text : List Char) : Position :=
  text.foldl advance p

/-- Line and column, joined by a colon. -/
def text (p : Position) : String :=
  s!"{p.line}:{p.column}"

end Position

/-- A place in a named script. -/
structure FilePosition where
  file : String
  pos : Position
  deriving DecidableEq, Inhabited

/-- File, line and column; a place outside the script shows the file alone. -/
def FilePosition.text (p : FilePosition) : String :=
  if p.pos.isNowhere then p.file else s!"{p.file}:{p.pos.text}"

end PixelApplet
