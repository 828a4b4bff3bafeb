import PixelApplet.Token.Lexeme

/-!
# From text to tokens

A script is read line by line.  The indentation of a logical line is compared with the indentations
that are open and turned into layout tokens; blank lines, comments and line ends inside brackets
leave no trace.  All movement through the text goes through `Reader.consume`, which moves the
position over exactly the characters it drops.
-/

namespace PixelApplet

/-- The reader of a script between two tokens. -/
structure Reader where
  /-- The text that is still to be read. -/
  rest : List Char
  /-- The place of the first character of `rest`. -/
  position : Position
  /-- Widths of the open indentations above the left margin, innermost first. -/
  indents : List Nat
  /-- Open brackets, innermost first. -/
  brackets : List (Char × Position)
  /-- Whether the next character begins a logical line. -/
  atLineStart : Bool
  /-- The tokens read so far, last first. -/
  tokens : List Token

namespace Reader

/-- A reader in front of a script. -/
def start (text : List Char) : Reader :=
  ⟨text, .start, [], [], true, []⟩

/-- Moves over `count` characters. -/
def consume (r : Reader) (count : Nat) : Reader :=
  { r with rest := r.rest.drop count, position := r.position.after (r.rest.take count) }

theorem consume_rest_length (r : Reader) (count : Nat) :
    (r.consume count).rest.length = r.rest.length - count := by
  simp [consume]

/-- Adds a layout token at the current place. -/
def pushLayout (r : Reader) (kind : TokenKind) : Reader :=
  { r with tokens := ⟨kind, r.position, r.position⟩ :: r.tokens }

/-- Whether the tokens so far leave nothing for a line end to finish. -/
def atStatementStart (r : Reader) : Bool :=
  match r.tokens with
  | [] => true
  | last :: _ =>
    match last.kind with
    | .newline | .dedent | .indent => true
    | _ => false

/-- The distance between tab stops. -/
def tabWidth : Nat :=
  8

/-- The width of the white space that begins a line, and its number of characters. -/
def indentation (width : Nat) : List Char → Nat × Nat
  | [] => (width, 0)
  | c :: rest =>
    let go (w : Nat) : Nat × Nat :=
      let (total, count) := indentation w rest
      (total, count + 1)
    if c = ' ' then go (width + 1)
    else if c = '\t' then go ((width / tabWidth + 1) * tabWidth)
    else if c = '\r' ∨ c = '\x0c' then go width
    else (width, 0)

/-- The number of characters in front of the line end. -/
def commentLength (text : List Char) : Nat :=
  (text.takeWhile (· ≠ '\n')).length

/-- Closes the open indentations that are wider than the line. -/
def closeIndents (r : Reader) (width : Nat) : List Nat → Reader
  | [] => { r with indents := [] }
  | open_ :: outer =>
    if width < open_ then closeIndents (r.pushLayout .dedent) width outer
    else { r with indents := open_ :: outer }

/-- Compares the indentation of a logical line with the open ones. -/
def applyIndentation (r : Reader) (width : Nat) : Except LexError Reader :=
  let current := r.indents.headD 0
  if current < width then .ok { r.pushLayout .indent with indents := width :: r.indents }
  else if width < current then
    let closed := r.closeIndents width r.indents
    if closed.indents.headD 0 = width then .ok closed
    else .error ⟨.badIndentation, r.position⟩
  else .ok r

/-- What stands at the start of a line. -/
inductive Line where
  /-- A line without tokens, with its line end consumed. -/
  | blank (r : Reader)
  /-- The first token of a logical line, or the end of the text. -/
  | logical (r : Reader)

/-- Reads the start of a line. -/
def beginLine (r : Reader) : Except LexError Line :=
  let (width, count) := indentation 0 r.rest
  let r := r.consume count
  match r.rest with
  | [] => .ok (.logical { r with atLineStart := false })
  | c :: text =>
    if c = '\n' then .ok (.blank (r.consume 1))
    else if c = '#' then
      let comment := commentLength (c :: text)
      if comment < (c :: text).length then .ok (.blank (r.consume (comment + 1)))
      else .ok (.logical { r.consume comment with atLineStart := false })
    else
      (applyIndentation { r with atLineStart := false } width).map .logical

/-- The number of characters of blanks, comments and continued line ends. -/
def insignificant (inComment : Bool) : List Char → Nat
  | [] => 0
  | c :: rest =>
    if inComment then
      if c = '\n' then 0 else insignificant true rest + 1
    else if c = ' ' ∨ c = '\t' ∨ c = '\r' ∨ c = '\x0c' then insignificant false rest + 1
    else if c = '#' then insignificant true rest + 1
    else if c = '\\' then
      match rest with
      | '\n' :: more => insignificant false more + 2
      | _ => 0
    else 0

/-- Moves over blanks, comments and continued line ends. -/
def skipInsignificant (r : Reader) : Reader :=
  r.consume (insignificant false r.rest)

/-- The bracket that a closing bracket answers. -/
def openingOf? : Symbol → Option Char
  | .rightParen => some '('
  | .rightBracket => some '['
  | .rightBrace => some '\x7b'
  | _ => none

/-- Whether a mark opens a bracket. -/
def isOpening : Symbol → Bool
  | .leftParen | .leftBracket | .leftBrace => true
  | _ => false

/-- Keeps account of the open brackets when a token that begins with `first` is read. -/
def trackBracket (r : Reader) (first : Char) : TokenKind → Except LexError Reader
  | .symbol symbol =>
    if isOpening symbol then .ok { r with brackets := (first, r.position) :: r.brackets }
    else
      match openingOf? symbol with
      | none => .ok r
      | some opening =>
        match r.brackets with
        | (top, _) :: outer =>
          if top = opening then .ok { r with brackets := outer }
          else .error ⟨.unbalanced first, r.position⟩
        | [] => .error ⟨.unbalanced first, r.position⟩
  | _ => .ok r

/-- Reads a line end: it ends a statement unless a bracket is open. -/
def lineEnd (r : Reader) : Reader :=
  let after := r.consume 1
  if r.brackets.isEmpty then
    { after with
      atLineStart := true
      tokens := if r.atStatementStart then r.tokens
        else ⟨.newline, r.position, after.position⟩ :: r.tokens }
  else after

/-- Reads the token that begins with `first`. -/
def token (r : Reader) (first : Char) (text : List Char) : Except LexError Reader :=
  match Lexeme.read first text with
  | .error (fault, distance) => .error ⟨fault, r.position.after ((first :: text).take distance)⟩
  | .ok (kind, width) =>
    match r.trackBracket first kind with
    | .error e => .error e
    | .ok tracked =>
      -- a lexeme has at least its first character
      let after := tracked.consume (width - 1 + 1)
      .ok { after with tokens := ⟨kind, r.position, after.position⟩ :: r.tokens }

theorem trackBracket_rest {r s : Reader} {first : Char} {kind : TokenKind}
    (h : r.trackBracket first kind = .ok s) : s.rest = r.rest := by
  unfold trackBracket at h
  repeat' split at h
  all_goals first
    | (cases h; rfl)
    | cases h

theorem token_rest_length {r s : Reader} {first : Char} {text : List Char}
    (hr : r.rest = first :: text) (h : r.token first text = .ok s) :
    s.rest.length < r.rest.length := by
  unfold token at h
  split at h
  · cases h
  · split at h
    · cases h
    · rename_i tracked ht
      cases h
      have := trackBracket_rest ht
      simp only [consume, this, hr, List.length_drop, List.length_cons]
      omega

theorem lineEnd_rest_length {r : Reader} {first : Char} {text : List Char}
    (hr : r.rest = first :: text) : r.lineEnd.rest.length < r.rest.length := by
  unfold lineEnd
  split <;> simp [consume, hr]

theorem skipInsignificant_rest_length (r : Reader) :
    r.skipInsignificant.rest.length ≤ r.rest.length := by
  simp [skipInsignificant, consume]

theorem closeIndents_rest (r : Reader) (width : Nat) (opened : List Nat) :
    (r.closeIndents width opened).rest = r.rest := by
  induction opened generalizing r with
  | nil => rfl
  | cons w outer ih =>
    unfold closeIndents
    split
    · rw [ih]; rfl
    · rfl

theorem applyIndentation_rest {r s : Reader} {width : Nat}
    (h : r.applyIndentation width = .ok s) : s.rest = r.rest := by
  unfold applyIndentation at h
  dsimp only at h
  split at h
  · cases h; rfl
  · split at h
    · split at h
      · cases h; exact closeIndents_rest ..
      · cases h
    · cases h; rfl

theorem beginLine_blank_rest_length {r s : Reader} (h : r.beginLine = .ok (.blank s)) :
    s.rest.length < r.rest.length := by
  unfold beginLine at h
  dsimp only at h
  split at h
  · cases h
  · rename_i c text hr
    have hlen : text.length + 1 ≤ r.rest.length := by
      have := congrArg List.length hr
      simp [consume] at this
      omega
    split at h
    · cases h
      rw [consume_rest_length, hr, List.length_cons]
      omega
    · split at h
      · split at h
        · cases h
          rw [consume_rest_length, hr, List.length_cons]
          omega
        · cases h
      · simp only [Except.map] at h
        split at h <;> cases h

theorem beginLine_logical_rest_length {r s : Reader} (h : r.beginLine = .ok (.logical s)) :
    s.rest.length ≤ r.rest.length := by
  unfold beginLine at h
  dsimp only at h
  split at h
  · cases h
    simp [consume]
  · rename_i c text hr
    split at h
    · cases h
    · split at h
      · split at h
        · cases h
        · cases h
          simp only [consume, List.length_drop]
          omega
      · simp only [Except.map] at h
        split at h
        · cases h
        · rename_i t ht
          cases h
          rw [applyIndentation_rest ht]
          simp [consume]

set_option linter.unusedVariables false in
/-- Reads all tokens up to the end of the text. -/
def readAll (r : Reader) : Except LexError Reader :=
  if r.atLineStart && r.brackets.isEmpty then
    match h : r.beginLine with
    | .error e => .error e
    | .ok (.blank after) => readAll after
    | .ok (.logical line) =>
      match hs : line.skipInsignificant.rest with
      | [] => .ok line.skipInsignificant
      | c :: text =>
        if c = '\n' then readAll line.skipInsignificant.lineEnd
        else
          match ht : line.skipInsignificant.token c text with
          | .error e => .error e
          | .ok after => readAll after
  else
    match hs : r.skipInsignificant.rest with
    | [] => .ok r.skipInsignificant
    | c :: text =>
      if c = '\n' then readAll r.skipInsignificant.lineEnd
      else
        match ht : r.skipInsignificant.token c text with
        | .error e => .error e
        | .ok after => readAll after
termination_by r.rest.length
decreasing_by
  · exact beginLine_blank_rest_length h
  · exact Nat.lt_of_lt_of_le (lineEnd_rest_length hs)
      (Nat.le_trans (skipInsignificant_rest_length line) (beginLine_logical_rest_length h))
  · exact Nat.lt_of_lt_of_le (token_rest_length hs ht)
      (Nat.le_trans (skipInsignificant_rest_length line) (beginLine_logical_rest_length h))
  · exact Nat.lt_of_lt_of_le (lineEnd_rest_length hs) (skipInsignificant_rest_length r)
  · exact Nat.lt_of_lt_of_le (token_rest_length hs ht) (skipInsignificant_rest_length r)

/-- Ends the last statement, closes all indentations and adds the end of the file. -/
def finish (r : Reader) : Except LexError (List Token) :=
  match r.brackets with
  | (c, position) :: _ => .error ⟨.unbalanced c, position⟩
  | [] =>
    let ended := if r.atStatementStart then r else r.pushLayout .newline
    let closed := ended.indents.foldl (fun s _ => s.pushLayout .dedent) ended
    .ok (closed.pushLayout .endOfFile).tokens.reverse

end Reader

/-- The tokens of a script. -/
def tokenize (source : String) : Except LexError (List Token) :=
  (Reader.start source.toList).readAll.bind Reader.finish

end PixelApplet
