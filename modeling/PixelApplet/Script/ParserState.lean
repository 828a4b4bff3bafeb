import PixelApplet.Token.Basic

/-!
# The state of the parser

A parser consumes tokens from the front and keeps two counts: how many function bodies are open, and
how deeply the tree it builds is nested.  Nesting beyond `Parser.maxNesting` levels is refused, so
accepted scripts are shallow.
-/

namespace PixelApplet

/-- A refused token and why it is refused. -/
structure ParseError where
  message : String
  position : Position
  deriving DecidableEq

/-- A message with its place in front. -/
def ParseError.text (e : ParseError) : String :=
  s!"{e.position.text}: {e.message}"

/-- What a parser knows between two tokens. -/
structure ParserState where
  /-- The tokens still to be read. -/
  tokens : List Token
  /-- The place of the last token of the script. -/
  lastPosition : Position
  /-- The number of open function bodies. -/
  functionDepth : Nat
  /-- The number of open nesting levels. -/
  depth : Nat

/-- A parser of something. -/
abbrev Parser := StateT ParserState (Except ParseError)

namespace Parser

/-- The deepest nesting of expressions, operator chains and blocks. -/
def maxNesting : Nat :=
  200

/-- Refuses the script. -/
def refuse {α : Type} (message : String) (position : Position) : Parser α :=
  fun _ => .error ⟨message, position⟩

/-- The place of the next token. -/
def position : Parser Position :=
  fun s => match s.tokens with
    | token :: _ => .ok (token.start, s)
    | [] => .ok (s.lastPosition, s)

/-- What the next token is. -/
def kind : Parser TokenKind :=
  fun s => match s.tokens with
    | token :: _ => .ok (token.kind, s)
    | [] => .ok (.endOfFile, s)

/-- What the token behind the next one is. -/
def kindAfter : Parser TokenKind :=
  fun s => match s.tokens with
    | _ :: token :: _ => .ok (token.kind, s)
    | _ => .ok (.endOfFile, s)

/-- Moves over the next token. -/
def advance : Parser Unit :=
  fun s => .ok ((), { s with tokens := s.tokens.tail })

/-- Opens a nesting level. -/
def enter : Parser Unit :=
  fun s =>
    if s.depth ≥ maxNesting then
      (do refuse s!"nesting exceeds {maxNesting} levels" (← position) : Parser Unit) s
    else .ok ((), { s with depth := s.depth + 1 })

/-- The number of open nesting levels. -/
def depth : Parser Nat :=
  fun s => .ok (s.depth, s)

/-- Goes back to an earlier number of open nesting levels. -/
def restoreDepth (d : Nat) : Parser Unit :=
  fun s => .ok ((), { s with depth := d })

/-- Runs a parser one nesting level deeper. -/
def nested {α : Type} (p : Parser α) : Parser α := do
  enter
  let result ← p
  fun s => .ok (result, { s with depth := s.depth - 1 })

/-- Runs a parser inside one more function body. -/
def inFunction {α : Type} (p : Parser α) : Parser α := do
  modify fun s => { s with functionDepth := s.functionDepth + 1 }
  let result ← p
  modify fun s => { s with functionDepth := s.functionDepth - 1 }
  return result

/-- Refuses the next token, which is not what the context wants. -/
def unexpected {α : Type} (context : String) : Parser α := do
  refuse s!"{context}, got {(← kind).describe}" (← position)

/-- Whether the next token is a given mark. -/
def atSymbol (mark : Symbol) : Parser Bool :=
  return (← kind).isSymbol mark

/-- Whether the next token is a given reserved word. -/
def atKeyword (word : Keyword) : Parser Bool :=
  return (← kind).isKeyword word

/-- Moves over a given mark if it comes next. -/
def skipSymbol (mark : Symbol) : Parser Bool := do
  if ← atSymbol mark then
    advance
    return true
  return false

/-- Moves over a given reserved word if it comes next. -/
def skipKeyword (word : Keyword) : Parser Bool := do
  if ← atKeyword word then
    advance
    return true
  return false

/-- Moves over a layout token if it comes next. -/
def skipNewline : Parser Bool := do
  match ← kind with
  | .newline =>
    advance
    return true
  | _ => return false

/-- Moves over a given mark, which must come next. -/
def expectSymbol (mark : Symbol) : Parser Unit := do
  unless ← skipSymbol mark do
    unexpected s!"expected {(TokenKind.symbol mark).describe}"

/-- Moves over a given reserved word, which must come next. -/
def expectKeyword (word : Keyword) : Parser Unit := do
  unless ← skipKeyword word do
    unexpected s!"expected {(TokenKind.keyword word).describe}"

/-- Moves over a line end, which must come next. -/
def expectNewline : Parser Unit := do
  unless ← skipNewline do
    unexpected "expected newline"

/-- Moves over an opened indentation, which must come next. -/
def expectIndent : Parser Unit := do
  match ← kind with
  | .indent => advance
  | _ => unexpected "expected indent"

/-- Reads a name. -/
def expectIdentifier : Parser String := do
  match ← kind with
  | .identifier name =>
    advance
    return name
  | _ => unexpected "expected identifier"

/-- Reads a string literal. -/
def expectString : Parser String := do
  match ← kind with
  | .string text =>
    advance
    return text
  | _ => unexpected "expected string literal"

end Parser

end PixelApplet
