import PixelApplet.Script.ParserState
import PixelApplet.Script.Tree
import PixelApplet.Token.Lexer

/-!
# From tokens to trees

Statements are read by recursive descent and expressions by precedence climbing.  Each parser takes
the number of further parser calls it may nest; `Parser.fuelFor` is more than any script needs,
because on a path of nested calls a token is consumed at least once in every few calls.
-/

namespace PixelApplet.Parser

/-- How tightly an operator binds. -/
abbrev Power := Nat

/-- The powers from `or`, the loosest, to multiplication, the tightest. -/
def orPower : Power := 1

/-- The power of `and`. -/
def andPower : Power := 2

/-- The power of `not`. -/
def notPower : Power := 3

/-- The power of comparisons and membership tests. -/
def comparePower : Power := 4

/-- The power of sums. -/
def sumPower : Power := 5

/-- The power of products. -/
def productPower : Power := 6

/-- The operator a mark stands for between two operands, with its power. -/
def symbolOperator? : Symbol → Option (BinaryOp × Power)
  | .equal => some (.eq, comparePower)
  | .notEqual => some (.ne, comparePower)
  | .less => some (.lt, comparePower)
  | .lessEqual => some (.le, comparePower)
  | .greater => some (.gt, comparePower)
  | .greaterEqual => some (.ge, comparePower)
  | .plus => some (.add, sumPower)
  | .minus => some (.sub, sumPower)
  | .star => some (.mul, productPower)
  | .slash => some (.div, productPower)
  | .slashSlash => some (.floorDiv, productPower)
  | .percent => some (.mod, productPower)
  | _ => none

/-- The operator that two neighbouring tokens begin, with its power and its number of tokens. -/
def operatorOf? (kind after : TokenKind) : Option (BinaryOp × Power × Nat) :=
  match kind with
  | .keyword .or_ => some (.or, orPower, 1)
  | .keyword .and_ => some (.and, andPower, 1)
  | .keyword .in_ => some (.in_, comparePower, 1)
  | .keyword .not_ => if after.isKeyword .in_ then some (.notIn, comparePower, 2) else none
  | .symbol mark => (symbolOperator? mark).map fun (op, power) => (op, power, 1)
  | _ => none

/-- The operator that comes next, if any. -/
def operator? : Parser (Option (BinaryOp × Power × Nat)) :=
  return operatorOf? (← kind) (← kindAfter)

/-- The operator of an augmented assignment. -/
def augmentedOperator? : TokenKind → Option BinaryOp
  | .symbol .plusAssign => some .add
  | .symbol .minusAssign => some .sub
  | .symbol .starAssign => some .mul
  | .symbol .slashAssign => some .div
  | .symbol .slashSlashAssign => some .floorDiv
  | .symbol .percentAssign => some .mod
  | _ => none

/-- Whether a token can begin an expression. -/
def beginsExpression : TokenKind → Bool
  | .identifier _ | .int _ | .float _ | .string _ => true
  | .keyword .none | .keyword .true_ | .keyword .false_ | .keyword .not_ | .keyword .lambda => true
  | .symbol .leftParen | .symbol .leftBracket | .symbol .leftBrace => true
  | .symbol .minus | .symbol .plus => true
  | _ => false

mutual

/-- The first place in a target that cannot be assigned to. -/
def badTarget? (allowTuple : Bool) : Expr → Option Position
  | .name _ _ | .index _ _ _ | .attribute _ _ _ => none
  | .tuple p items | .list p items => if allowTuple then badTargets? items else some p
  | e => some e.pos

/-- The first place in several targets that cannot be assigned to. -/
def badTargets? : List Expr → Option Position
  | [] => none
  | target :: rest =>
    match badTarget? true target with
    | some p => some p
    | none => badTargets? rest

end

/-- Refuses a target that cannot be assigned to. -/
def checkTarget (target : Expr) (allowTuple : Bool) : Parser Unit :=
  match badTarget? allowTuple target with
  | some p => refuse "cannot assign to this expression" p
  | none => pure ()

/-- String literals that follow each other are one literal. -/
def adjacentStrings : (fuel : Nat) → String → Parser String
  | 0, text => pure text
  | fuel + 1, text => do
    match ← kind with
    | .string more =>
      advance
      adjacentStrings fuel (text ++ more)
    | _ => pure text

/-- Refuses a script that nests more calls than provided for. -/
def exhausted {α : Type} : Parser α :=
  unexpected "expected expression"

mutual

/-- Reads an expression: a lambda, a conditional, or an operator expression. -/
def test : (fuel : Nat) → Parser Expr
  | 0 => exhausted
  | fuel + 1 => nested do
    if ← atKeyword .lambda then
      lambda fuel
    else
      let pos ← position
      let value ← binary fuel orPower
      if ← skipKeyword .if_ then
        let condition ← binary fuel orPower
        expectKeyword .else_
        let other ← test fuel
        return .conditional pos condition value other
      return value

/-- Reads one expression, or several separated by commas as a tuple. -/
def testList : (fuel : Nat) → Parser Expr
  | 0 => exhausted
  | fuel + 1 => do
    let pos ← position
    let first ← test fuel
    if ← atSymbol .comma then
      return .tuple pos (first :: (← testListRest fuel))
    return first

/-- Reads the expressions behind a comma; a final comma may stand alone. -/
def testListRest : (fuel : Nat) → Parser (List Expr)
  | 0 => exhausted
  | fuel + 1 => do
    if ← skipSymbol .comma then
      if beginsExpression (← kind) then
        let item ← test fuel
        return item :: (← testListRest fuel)
    return []

/-- Reads the targets of a for clause: one, or several separated by commas as a tuple. -/
def targetList : (fuel : Nat) → Parser Expr
  | 0 => exhausted
  | fuel + 1 => do
    let pos ← position
    let first ← operand fuel
    if ← atSymbol .comma then
      return .tuple pos (first :: (← targetListRest fuel))
    return first

/-- Reads the targets behind a comma. -/
def targetListRest : (fuel : Nat) → Parser (List Expr)
  | 0 => exhausted
  | fuel + 1 => do
    if ← skipSymbol .comma then
      unless ← atKeyword .in_ do
        let item ← operand fuel
        return item :: (← targetListRest fuel)
    return []

/-- Reads a lambda: a function whose body returns one expression. -/
def lambda : (fuel : Nat) → Parser Expr
  | 0 => exhausted
  | fuel + 1 => do
    let pos ← position
    expectKeyword .lambda
    let params ← paramList fuel .colon []
    expectSymbol .colon
    let bodyPos ← position
    let body ← test fuel
    return .lambda pos (.mk "lambda" pos params [.return_ bodyPos (some body)])

/-- Reads parameters up to, and not including, the closing mark; `done` were read before. -/
def paramList : (fuel : Nat) → (close : Symbol) → (done : List Param) → Parser (List Param)
  | 0, _, _ => exhausted
  | fuel + 1, close, done => do
    if ← atSymbol close then
      return done
    let param ← param fuel done
    if done.any (·.name = param.name) then
      refuse s!"duplicate parameter: {param.name}" param.pos
    if ← skipSymbol .comma then
      paramList fuel close (done ++ [param])
    else
      return done ++ [param]

/-- Reads one parameter. -/
def param : (fuel : Nat) → (done : List Param) → Parser Param
  | 0, _ => exhausted
  | fuel + 1, done => do
    let pos ← position
    if ← skipSymbol .starStar then
      return .mk (← expectIdentifier) pos .restNamed
    if ← skipSymbol .star then
      return .mk (← expectIdentifier) pos .rest
    let name ← expectIdentifier
    if ← skipSymbol .assign then
      return .mk name pos (.optional (← test fuel))
    if done.any Param.isOptional then
      refuse s!"required parameter {name} follows optional" pos
    return .mk name pos .required

/-- Reads an operator expression whose operators bind at least as tightly as `power`. -/
def binary : (fuel : Nat) → (power : Power) → Parser Expr
  | 0, _ => exhausted
  | fuel + 1, power => do
    let left ←
      if (← atKeyword .not_) && power ≤ notPower then
        let pos ← position
        advance
        let value ← nested (binary fuel comparePower)
        pure (Expr.unary pos .not value)
      else unary fuel
    let outer ← depth
    let value ← binaryRest fuel power left
    restoreDepth outer
    return value

/-- Continues an operator expression; each operator nests the tree one level deeper on the left. -/
def binaryRest : (fuel : Nat) → (power : Power) → (left : Expr) → Parser Expr
  | 0, _, _ => exhausted
  | fuel + 1, power, left => do
    match ← operator? with
    | none => return left
    | some (op, opPower, width) =>
      if opPower < power then
        return left
      let pos ← position
      advance
      if width = 2 then
        advance
      enter
      let right ← binary fuel (opPower + 1)
      binaryRest fuel power (.binary pos op left right)

/-- Reads an operand with its signs. -/
def unary : (fuel : Nat) → Parser Expr
  | 0 => exhausted
  | fuel + 1 => do
    let pos ← position
    if ← skipSymbol .minus then
      return .unary pos .neg (← nested (unary fuel))
    if ← skipSymbol .plus then
      return .unary pos .pos (← nested (unary fuel))
    operand fuel

/-- Reads an atom with the attributes, calls and subscripts that follow it. -/
def operand : (fuel : Nat) → Parser Expr
  | 0 => exhausted
  | fuel + 1 => do
    let first ← atom fuel
    let outer ← depth
    let value ← suffixes fuel first
    restoreDepth outer
    return value

/-- Reads attributes, calls and subscripts; each nests the tree one level deeper. -/
def suffixes : (fuel : Nat) → (object : Expr) → Parser Expr
  | 0, _ => exhausted
  | fuel + 1, object => do
    let pos ← position
    match ← kind with
    | .symbol .dot =>
      enter
      advance
      let name ← expectIdentifier
      suffixes fuel (.attribute pos object name)
    | .symbol .leftParen =>
      enter
      advance
      let args ← argumentList fuel []
      expectSymbol .rightParen
      suffixes fuel (.call pos object args)
    | .symbol .leftBracket =>
      enter
      advance
      suffixes fuel (← subscript fuel pos object)
    | _ => return object

/-- Reads the inside of a subscript and its closing bracket. -/
def subscript : (fuel : Nat) → (pos : Position) → (object : Expr) → Parser Expr
  | 0, _, _ => exhausted
  | fuel + 1, pos, object => do
    let (colons, start, stop, step) ← subscriptParts fuel pos 0 none none none
    expectSymbol .rightBracket
    if colons = 0 then
      match start with
      | some key => return .index pos object key
      | none => refuse "empty subscript" pos
    return .slice pos object start stop step

/-- Reads the expressions of a subscript, each in the part that the colons before it select. -/
def subscriptParts : (fuel : Nat) → (pos : Position) → (colons : Nat) →
    (start stop step : Option Expr) → Parser (Nat × Option Expr × Option Expr × Option Expr)
  | 0, _, _, _, _, _ => exhausted
  | fuel + 1, pos, colons, start, stop, step => do
    if ← atSymbol .rightBracket then
      return (colons, start, stop, step)
    if ← skipSymbol .colon then
      if colons + 1 > 2 then
        refuse "too many ':' in slice" pos
      subscriptParts fuel pos (colons + 1) start stop step
    else
      let value ← test fuel
      let (start, stop, step) :=
        match colons with
        | 0 => (some value, stop, step)
        | 1 => (start, some value, step)
        | _ => (start, stop, some value)
      if ← atSymbol .colon then
        subscriptParts fuel pos colons start stop step
      else
        return (colons, start, stop, step)

/-- Reads the arguments of a call up to the closing parenthesis; `done` were read before. -/
def argumentList : (fuel : Nat) → (done : List Argument) → Parser (List Argument)
  | 0, _ => exhausted
  | fuel + 1, done => do
    if ← atSymbol .rightParen then
      return done
    let arg ← argument fuel done
    if ← skipSymbol .comma then
      argumentList fuel (done ++ [arg])
    else
      return done ++ [arg]

/-- Reads one argument of a call. -/
def argument : (fuel : Nat) → (done : List Argument) → Parser Argument
  | 0, _ => exhausted
  | fuel + 1, done => do
    if ← skipSymbol .starStar then
      return .spreadNamed (← test fuel)
    if ← skipSymbol .star then
      return .spread (← test fuel)
    match ← kind, (← kindAfter).isSymbol .assign with
    | .identifier name, true =>
      advance
      advance
      return .named name (← test fuel)
    | _, _ =>
      if done.any (fun a => match a with | .named _ _ => true | _ => false) then
        unexpected "positional argument follows keyword argument"
      return .positional (← test fuel)

/-- Reads a name, a literal, or something in brackets. -/
def atom : (fuel : Nat) → Parser Expr
  | 0 => exhausted
  | fuel + 1 => do
    let pos ← position
    match ← kind with
    | .identifier name =>
      advance
      return .name pos name
    | .int value =>
      advance
      return .literal pos (.int value)
    | .float value =>
      advance
      return .literal pos (.float value)
    | .string text =>
      advance
      return .literal pos (.string (← adjacentStrings fuel text))
    | .keyword .none =>
      advance
      return .literal pos .none
    | .keyword .true_ =>
      advance
      return .literal pos (.bool true)
    | .keyword .false_ =>
      advance
      return .literal pos (.bool false)
    | .symbol .leftParen =>
      advance
      if ← skipSymbol .rightParen then
        return .tuple pos []
      let inner ← testList fuel
      expectSymbol .rightParen
      return inner
    | .symbol .leftBracket =>
      advance
      listDisplay fuel pos
    | .symbol .leftBrace =>
      advance
      dictDisplay fuel pos
    | _ => unexpected "expected expression"

/-- Reads a list or a list comprehension behind its opening bracket. -/
def listDisplay : (fuel : Nat) → (pos : Position) → Parser Expr
  | 0, _ => exhausted
  | fuel + 1, pos => do
    if ← skipSymbol .rightBracket then
      return .list pos []
    let first ← test fuel
    if ← atKeyword .for_ then
      let clauses ← comprehensionClauses fuel
      expectSymbol .rightBracket
      return .listComp pos first clauses
    let items ← listItems fuel
    expectSymbol .rightBracket
    return .list pos (first :: items)

/-- Reads further items of a list. -/
def listItems : (fuel : Nat) → Parser (List Expr)
  | 0 => exhausted
  | fuel + 1 => do
    if ← skipSymbol .comma then
      unless ← atSymbol .rightBracket do
        let item ← test fuel
        return item :: (← listItems fuel)
    return []

/-- Reads a dict or a dict comprehension behind its opening brace. -/
def dictDisplay : (fuel : Nat) → (pos : Position) → Parser Expr
  | 0, _ => exhausted
  | fuel + 1, pos => do
    if ← skipSymbol .rightBrace then
      return .dict pos []
    let key ← test fuel
    expectSymbol .colon
    let value ← test fuel
    if ← atKeyword .for_ then
      let clauses ← comprehensionClauses fuel
      expectSymbol .rightBrace
      return .dictComp pos key value clauses
    let entries ← dictEntries fuel
    expectSymbol .rightBrace
    return .dict pos ((key, value) :: entries)

/-- Reads further entries of a dict. -/
def dictEntries : (fuel : Nat) → Parser (List (Expr × Expr))
  | 0 => exhausted
  | fuel + 1 => do
    if ← skipSymbol .comma then
      unless ← atSymbol .rightBrace do
        let key ← test fuel
        expectSymbol .colon
        let value ← test fuel
        return (key, value) :: (← dictEntries fuel)
    return []

/-- Reads the clauses of a comprehension. -/
def comprehensionClauses : (fuel : Nat) → Parser (List Clause)
  | 0 => exhausted
  | fuel + 1 => do
    if ← skipKeyword .for_ then
      let target ← targetList fuel
      expectKeyword .in_
      let iterable ← binary fuel orPower
      return .for_ target iterable :: (← comprehensionClauses fuel)
    if ← skipKeyword .if_ then
      let condition ← binary fuel orPower
      return .if_ condition :: (← comprehensionClauses fuel)
    return []

end

/-- Reads the bindings of a load statement. -/
def loadBindings : (fuel : Nat) → Parser (List LoadBinding)
  | 0 => exhausted
  | fuel + 1 => do
    if ← skipSymbol .comma then
      unless ← atSymbol .rightParen do
        let pos ← position
        let binding ← match ← kind with
          | .string name =>
            advance
            pure (LoadBinding.mk name name pos)
          | .identifier name =>
            advance
            expectSymbol .assign
            pure (LoadBinding.mk name (← expectString) pos)
          | _ => unexpected "expected load binding"
        if binding.exported.toList.head? = some '_' then
          refuse s!"load: names with leading underscores are not exported: {binding.exported}" pos
        return binding :: (← loadBindings fuel)
    return []

/-- Reads a load statement. -/
def loadStatement (fuel : Nat) (pos : Position) : Parser Stmt := do
  expectKeyword .load
  expectSymbol .leftParen
  let module ← expectString
  let bindings ← loadBindings fuel
  expectSymbol .rightParen
  if bindings.isEmpty then
    refuse "load statement must import at least 1 symbol" pos
  return .load pos module bindings

/-- Reads an expression statement or an assignment. -/
def expressionStatement (fuel : Nat) (pos : Position) : Parser Stmt := do
  let target ← testList fuel
  match augmentedOperator? (← kind) with
  | some op =>
    advance
    checkTarget target false
    return .augAssign pos target op (← testList fuel)
  | none =>
    if ← skipSymbol .assign then
      checkTarget target true
      return .assign pos target (← testList fuel)
    return .expr pos target

/-- Reads a statement that takes one line. -/
def simpleStatement (fuel : Nat) : Parser Stmt := do
  let pos ← position
  match ← kind with
  | .keyword .pass =>
    advance
    return .pass pos
  | .keyword .break_ =>
    advance
    return .break_ pos
  | .keyword .continue_ =>
    advance
    return .continue_ pos
  | .keyword .return_ =>
    advance
    if (← get).functionDepth = 0 then
      refuse "return statement not within a function" pos
    if beginsExpression (← kind) then
      return .return_ pos (some (← testList fuel))
    return .return_ pos none
  | .keyword .load =>
    if (← get).functionDepth > 0 then
      refuse "load statement within a function" pos
    loadStatement fuel pos
  | _ => expressionStatement fuel pos

mutual

/-- Reads a statement. -/
def statement : (fuel : Nat) → Parser Stmt
  | 0 => exhausted
  | fuel + 1 => do
    match ← kind with
    | .keyword .def_ => definition fuel
    | .keyword .if_ => ifStatement fuel
    | .keyword .for_ => forStatement fuel
    | .indent => unexpected "unexpected indentation"
    | _ =>
      let stmt ← simpleStatement fuel
      match ← kind with
      | .endOfFile | .dedent => return stmt
      | _ =>
        expectNewline
        return stmt

/-- Reads a function definition. -/
def definition : (fuel : Nat) → Parser Stmt
  | 0 => exhausted
  | fuel + 1 => do
    let pos ← position
    expectKeyword .def_
    let name ← expectIdentifier
    expectSymbol .leftParen
    let params ← paramList fuel .rightParen []
    expectSymbol .rightParen
    expectSymbol .colon
    let body ← inFunction (suite fuel)
    return .define pos (.mk name pos params body)

/-- Reads a conditional statement at its first word, `if` or `elif`. -/
def ifStatement : (fuel : Nat) → Parser Stmt
  | 0 => exhausted
  | fuel + 1 => do
    let pos ← position
    advance
    let condition ← test fuel
    expectSymbol .colon
    let thenBlock ← suite fuel
    if ← atKeyword .elif then
      return .if_ pos condition thenBlock [← nested (ifStatement fuel)]
    if ← skipKeyword .else_ then
      expectSymbol .colon
      return .if_ pos condition thenBlock (← suite fuel)
    return .if_ pos condition thenBlock []

/-- Reads a loop. -/
def forStatement : (fuel : Nat) → Parser Stmt
  | 0 => exhausted
  | fuel + 1 => do
    let pos ← position
    expectKeyword .for_
    let target ← targetList fuel
    checkTarget target true
    expectKeyword .in_
    let iterable ← testList fuel
    expectSymbol .colon
    return .for_ pos target iterable (← suite fuel)

/-- Reads the body behind a colon: an indented block, or one statement on the same line. -/
def suite : (fuel : Nat) → Parser Block
  | 0 => exhausted
  | fuel + 1 => nested do
    if ← skipNewline then
      expectIndent
      indentedBlock fuel
    else
      let stmt ← simpleStatement fuel
      match ← kind with
      | .endOfFile => return [stmt]
      | _ =>
        expectNewline
        return [stmt]

/-- Reads the statements of an indented block up to its end. -/
def indentedBlock : (fuel : Nat) → Parser Block
  | 0 => exhausted
  | fuel + 1 => do
    match ← kind with
    | .dedent =>
      advance
      return []
    | .endOfFile => return []
    | .newline =>
      advance
      indentedBlock fuel
    | _ =>
      let stmt ← statement fuel
      return stmt :: (← indentedBlock fuel)

end

/-- Reads the statements of a file up to its end. -/
def fileBlock : (fuel : Nat) → Parser Block
  | 0 => exhausted
  | fuel + 1 => do
    match ← kind with
    | .endOfFile => return []
    | .newline =>
      advance
      fileBlock fuel
    | _ =>
      let stmt ← statement fuel
      return stmt :: (← fileBlock fuel)

/-- A number of nested parser calls that suffices for a number of tokens. -/
def fuelFor (tokens : List Token) : Nat :=
  16 * (tokens.length + 2)

/-- The statements that a sequence of tokens forms. -/
def file (tokens : List Token) : Except ParseError Block :=
  let last := (tokens.getLast?.map Token.start).getD .nowhere
  (fileBlock (fuelFor tokens) ⟨tokens, last, 0, 0⟩).map Prod.fst

end PixelApplet.Parser

namespace PixelApplet

/-- Why a text is not a script. -/
inductive ScriptError where
  | lex (error : LexError)
  | parse (error : ParseError)
  deriving DecidableEq

/-- A fault with its place in front. -/
def ScriptError.text : ScriptError → String
  | lex e => e.text
  | parse e => e.text

/-- The statements of a script. -/
def parseScript (source : String) : Except ScriptError Block :=
  match tokenize source with
  | .error e => .error (.lex e)
  | .ok tokens =>
    match Parser.file tokens with
    | .error e => .error (.parse e)
    | .ok block => .ok block

end PixelApplet
