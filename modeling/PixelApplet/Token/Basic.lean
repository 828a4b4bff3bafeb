import PixelApplet.Number.Decimal
import PixelApplet.Number.Numeral
import PixelApplet.Text.Position

/-!
# Tokens

The words, symbols and literals of a script, and the layout tokens into which its indentation is
turned. A token stands between two positions of the text.
-/

namespace PixelApplet

/-- The reserved words. -/
inductive Keyword where
  | def_ | return_ | if_ | elif | else_ | for_ | in_ | not_ | and_ | or_ | load | pass | break_
  | continue_ | lambda | none | true_ | false_
  deriving DecidableEq

/-- The operators and punctuation marks. -/
inductive Symbol where
  | plus | minus | star | starStar | slash | slashSlash | percent
  | assign | equal | notEqual | less | lessEqual | greater | greaterEqual
  | plusAssign | minusAssign | starAssign | slashAssign | slashSlashAssign | percentAssign
  | dot | comma | colon | leftParen | rightParen | leftBracket | rightBracket
  | leftBrace | rightBrace
  deriving DecidableEq

/-- What a token is. -/
inductive TokenKind where
  | keyword (word : Keyword)
  | symbol (mark : Symbol)
  | identifier (name : String)
  | int (value : Int64)
  | float (value : Float)
  | string (text : String)
  | newline
  | indent
  | dedent
  | endOfFile

/-- A token and the place it takes; layout tokens take no text. -/
structure Token where
  kind : TokenKind
  start : Position
  stop : Position

/-- The spelling of a reserved word. -/
def Keyword.text : Keyword → String
  | def_ => "def"
  | return_ => "return"
  | if_ => "if"
  | elif => "elif"
  | else_ => "else"
  | for_ => "for"
  | in_ => "in"
  | not_ => "not"
  | and_ => "and"
  | or_ => "or"
  | load => "load"
  | pass => "pass"
  | break_ => "break"
  | continue_ => "continue"
  | lambda => "lambda"
  | none => "None"
  | true_ => "True"
  | false_ => "False"

/-- All reserved words. -/
def Keyword.all : List Keyword :=
  [.def_, .return_, .if_, .elif, .else_, .for_, .in_, .not_, .and_, .or_, .load, .pass, .break_,
    .continue_, .lambda, .none, .true_, .false_]

/-- The reserved word with a given spelling. -/
def Keyword.ofText? (word : String) : Option Keyword :=
  Keyword.all.find? (·.text = word)

/-- The spelling of an operator or punctuation mark. -/
def Symbol.text : Symbol → String
  | plus => "+"
  | minus => "-"
  | star => "*"
  | starStar => "**"
  | slash => "/"
  | slashSlash => "//"
  | percent => "%"
  | assign => "="
  | equal => "=="
  | notEqual => "!="
  | less => "<"
  | lessEqual => "<="
  | greater => ">"
  | greaterEqual => ">="
  | plusAssign => "+="
  | minusAssign => "-="
  | starAssign => "*="
  | slashAssign => "/="
  | slashSlashAssign => "//="
  | percentAssign => "%="
  | dot => "."
  | comma => ","
  | colon => ":"
  | leftParen => "("
  | rightParen => ")"
  | leftBracket => "["
  | rightBracket => "]"
  | leftBrace => "\x7b"
  | rightBrace => "\x7d"

namespace TokenKind

/-- The description of a token in a message about unexpected text. -/
def describe : TokenKind → String
  | identifier name => s!"identifier '{name}'"
  | int value => s!"int literal {Word.text value}"
  | float value => s!"float literal {Decimal.plain value}"
  | string _ => "string literal"
  | newline => "newline"
  | indent => "indent"
  | dedent => "outdent"
  | endOfFile => "end of file"
  | keyword word => s!"'{word.text}'"
  | symbol mark => s!"'{mark.text}'"

/-- Whether the token is the given reserved word. -/
def isKeyword (kind : TokenKind) (word : Keyword) : Bool :=
  match kind with
  | keyword w => w = word
  | _ => false

/-- Whether the token is the given mark. -/
def isSymbol (kind : TokenKind) (mark : Symbol) : Bool :=
  match kind with
  | symbol m => m = mark
  | _ => false

end TokenKind

/-- Why a text is not a sequence of tokens. -/
inductive LexFault where
  | unexpectedChar (c : Char)
  | unterminatedString
  | invalidEscape (c : Char)
  | invalidNumber (literal : String)
  | badIndentation
  | unbalanced (c : Char)
  deriving DecidableEq

/-- A fault and the place where it was found. -/
structure LexError where
  fault : LexFault
  position : Position
  deriving DecidableEq

/-- The wording of a fault. -/
def LexFault.text : LexFault → String
  | unexpectedChar c => s!"unexpected character: '{c}'"
  | unterminatedString => "unterminated string literal"
  | invalidEscape c => s!"invalid escape sequence: \\{c}"
  | invalidNumber literal => s!"invalid number literal: {literal}"
  | badIndentation => "unindent does not match any outer indentation level"
  | unbalanced c => s!"unbalanced '{c}'"

/-- A fault with its place in front. -/
def LexError.text (e : LexError) : String :=
  s!"{e.position.text}: {e.fault.text}"

end PixelApplet
