import PixelApplet.Script.Parser

/-!
# Writing trees as tokens

A tree is written with every sub-expression in parentheses and every block between an opened and a
closed indentation, so the tokens alone fix its shape.  Beside the writing stand the tree without
its positions, the height of a tree, and the rules that a tree keeps when it has been read.
-/

namespace PixelApplet

/-- Tokens between parentheses. -/
def parenthesized (kinds : List TokenKind) : List TokenKind :=
  .symbol .leftParen :: (kinds ++ [.symbol .rightParen])

/-- Pieces, each behind a comma. -/
def commaLed : List (List TokenKind) → List TokenKind
  | [] => []
  | piece :: rest => .symbol .comma :: (piece ++ commaLed rest)

/-- Pieces with commas between them. -/
def commaSeparated : List (List TokenKind) → List TokenKind
  | [] => []
  | piece :: rest => piece ++ commaLed rest

/-- The token of a constant. -/
def Literal.token : Literal → TokenKind
  | none => .keyword .none
  | bool true => .keyword .true_
  | bool false => .keyword .false_
  | int i => .int i
  | float x => .float x
  | string s => .string s

/-- The tokens of an operator between two operands. -/
def BinaryOp.tokens : BinaryOp → List TokenKind
  | add => [.symbol .plus]
  | sub => [.symbol .minus]
  | mul => [.symbol .star]
  | div => [.symbol .slash]
  | floorDiv => [.symbol .slashSlash]
  | mod => [.symbol .percent]
  | eq => [.symbol .equal]
  | ne => [.symbol .notEqual]
  | lt => [.symbol .less]
  | le => [.symbol .lessEqual]
  | gt => [.symbol .greater]
  | ge => [.symbol .greaterEqual]
  | in_ => [.keyword .in_]
  | notIn => [.keyword .not_, .keyword .in_]
  | and => [.keyword .and_]
  | or => [.keyword .or_]

/-- The mark of an augmented assignment, for the operators that have one. -/
def BinaryOp.augmentedMark? : BinaryOp → Option Symbol
  | add => some .plusAssign
  | sub => some .minusAssign
  | mul => some .starAssign
  | div => some .slashAssign
  | floorDiv => some .slashSlashAssign
  | mod => some .percentAssign
  | _ => Option.none

/-- The token of a prefixed operator. -/
def UnaryOp.token : UnaryOp → TokenKind
  | neg => .symbol .minus
  | pos => .symbol .plus
  | not => .keyword .not_

/-- The tokens of a binding of a load statement. -/
def LoadBinding.rendering (binding : LoadBinding) : List TokenKind :=
  [.identifier binding.name, .symbol .assign, .string binding.exported]

/-- The line of tokens that a statement without a block takes. -/
def logicalLine (kinds : List TokenKind) : List TokenKind :=
  kinds ++ [.newline]

/-- A block behind its colon. -/
def indented (kinds : List TokenKind) : List TokenKind :=
  .symbol .colon :: .newline :: .indent :: (kinds ++ [.dedent])

mutual

/-- The tokens of an expression, without parentheses around it. -/
def Expr.rendering : Expr → List TokenKind
  | .literal _ literal => [literal.token]
  | .name _ name => [.identifier name]
  | .list _ items =>
    .symbol .leftBracket :: (commaSeparated (Expr.renderings items) ++ [.symbol .rightBracket])
  | .tuple _ items =>
    parenthesized (commaSeparated (Expr.renderings items)
      ++ if items.length = 1 then [.symbol .comma] else [])
  | .dict _ entries =>
    .symbol .leftBrace :: (commaSeparated (Expr.entryRenderings entries) ++ [.symbol .rightBrace])
  | .listComp _ element clauses =>
    .symbol .leftBracket :: (parenthesized element.rendering
      ++ (Clause.renderings clauses ++ [.symbol .rightBracket]))
  | .dictComp _ key value clauses =>
    .symbol .leftBrace :: (parenthesized key.rendering
      ++ .symbol .colon :: (parenthesized value.rendering
      ++ (Clause.renderings clauses ++ [.symbol .rightBrace])))
  | .unary _ op operand => op.token :: parenthesized operand.rendering
  | .binary _ op left right =>
    parenthesized left.rendering ++ (op.tokens ++ parenthesized right.rendering)
  | .conditional _ test thenValue elseValue =>
    parenthesized thenValue.rendering
      ++ .keyword .if_ :: (parenthesized test.rendering
      ++ .keyword .else_ :: parenthesized elseValue.rendering)
  | .lambda _ function => .keyword .lambda :: FunctionDecl.lambdaRendering function
  | .call _ callee arguments =>
    parenthesized callee.rendering
      ++ parenthesized (commaSeparated (Argument.renderings arguments))
  | .attribute _ object name =>
    parenthesized object.rendering ++ [.symbol .dot, .identifier name]
  | .index _ object key =>
    parenthesized object.rendering
      ++ .symbol .leftBracket :: (parenthesized key.rendering ++ [.symbol .rightBracket])
  | .slice _ object start stop step =>
    parenthesized object.rendering
      ++ .symbol .leftBracket :: (Expr.optionRendering start
      ++ .symbol .colon :: (Expr.optionRendering stop
      ++ .symbol .colon :: (Expr.optionRendering step ++ [.symbol .rightBracket])))

/-- The tokens of several expressions, each in parentheses. -/
def Expr.renderings : List Expr → List (List TokenKind)
  | [] => []
  | e :: rest => parenthesized e.rendering :: Expr.renderings rest

/-- The tokens of the entries of a dict. -/
def Expr.entryRenderings : List (Expr × Expr) → List (List TokenKind)
  | [] => []
  | (key, value) :: rest =>
    (parenthesized key.rendering ++ .symbol .colon :: parenthesized value.rendering)
      :: Expr.entryRenderings rest

/-- The tokens of an expression that may be missing. -/
def Expr.optionRendering : Option Expr → List TokenKind
  | none => []
  | some e => parenthesized e.rendering

/-- The tokens of the clauses of a comprehension. -/
def Clause.renderings : List Clause → List TokenKind
  | [] => []
  | .for_ target iterable :: rest =>
    .keyword .for_ :: (parenthesized target.rendering
      ++ .keyword .in_ :: (parenthesized iterable.rendering ++ Clause.renderings rest))
  | .if_ test :: rest =>
    .keyword .if_ :: (parenthesized test.rendering ++ Clause.renderings rest)

/-- The tokens of an argument of a call. -/
def Argument.rendering : Argument → List TokenKind
  | .positional e => parenthesized e.rendering
  | .named name e => .identifier name :: .symbol .assign :: parenthesized e.rendering
  | .spread e => .symbol .star :: parenthesized e.rendering
  | .spreadNamed e => .symbol .starStar :: parenthesized e.rendering

/-- The tokens of the arguments of a call. -/
def Argument.renderings : List Argument → List (List TokenKind)
  | [] => []
  | argument :: rest => argument.rendering :: Argument.renderings rest

/-- The tokens of a parameter. -/
def Param.rendering : Param → List TokenKind
  | .mk name _ .required => [.identifier name]
  | .mk name _ (.optional e) => .identifier name :: .symbol .assign :: parenthesized e.rendering
  | .mk name _ .rest => [.symbol .star, .identifier name]
  | .mk name _ .restNamed => [.symbol .starStar, .identifier name]

/-- The tokens of parameters. -/
def Param.renderings : List Param → List (List TokenKind)
  | [] => []
  | param :: rest => param.rendering :: Param.renderings rest

/-- The tokens of a lambda behind its first word. -/
def FunctionDecl.lambdaRendering : FunctionDecl → List TokenKind
  | .mk _ _ params [.return_ _ (some body)] =>
    commaSeparated (Param.renderings params) ++ .symbol .colon :: parenthesized body.rendering
  | _ => []

end

mutual

/-- The tokens of a statement. -/
def Stmt.rendering : Stmt → List TokenKind
  | .expr _ value => logicalLine (parenthesized value.rendering)
  | .assign _ target value =>
    logicalLine (parenthesized target.rendering ++ .symbol .assign :: parenthesized value.rendering)
  | .augAssign _ target op value =>
    logicalLine (parenthesized target.rendering
      ++ (op.augmentedMark?.map TokenKind.symbol).toList ++ parenthesized value.rendering)
  | .define _ function => .keyword .def_ :: FunctionDecl.rendering function
  | .return_ _ value => logicalLine (.keyword .return_ :: Expr.optionRendering value)
  | .if_ _ test thenBlock elseBlock =>
    .keyword .if_ :: (parenthesized test.rendering ++ (indented (Stmt.renderings thenBlock)
      ++ if elseBlock.isEmpty then []
        else .keyword .else_ :: indented (Stmt.renderings elseBlock)))
  | .for_ _ target iterable body =>
    .keyword .for_ :: (parenthesized target.rendering
      ++ .keyword .in_ :: (parenthesized iterable.rendering ++ indented (Stmt.renderings body)))
  | .break_ _ => logicalLine [.keyword .break_]
  | .continue_ _ => logicalLine [.keyword .continue_]
  | .pass _ => logicalLine [.keyword .pass]
  | .load _ module bindings =>
    logicalLine (.keyword .load
      :: parenthesized (.string module :: commaLed (bindings.map LoadBinding.rendering)))

/-- The tokens of statements. -/
def Stmt.renderings : List Stmt → List TokenKind
  | [] => []
  | s :: rest => s.rendering ++ Stmt.renderings rest

/-- The tokens of a function definition behind its first word. -/
def FunctionDecl.rendering : FunctionDecl → List TokenKind
  | .mk name _ params body =>
    .identifier name :: (parenthesized (commaSeparated (Param.renderings params))
      ++ indented (Stmt.renderings body))

end

/-- The tokens of a file. -/
def Block.rendering (block : Block) : List TokenKind :=
  Stmt.renderings block ++ [.endOfFile]

mutual

/-- An expression without its positions. -/
def Expr.unplaced : Expr → Expr
  | .literal _ literal => .literal .nowhere literal
  | .name _ name => .name .nowhere name
  | .list _ items => .list .nowhere (Expr.unplacedAll items)
  | .tuple _ items => .tuple .nowhere (Expr.unplacedAll items)
  | .dict _ entries => .dict .nowhere (Expr.unplacedEntries entries)
  | .listComp _ element clauses => .listComp .nowhere element.unplaced (Clause.unplacedAll clauses)
  | .dictComp _ key value clauses =>
    .dictComp .nowhere key.unplaced value.unplaced (Clause.unplacedAll clauses)
  | .unary _ op operand => .unary .nowhere op operand.unplaced
  | .binary _ op left right => .binary .nowhere op left.unplaced right.unplaced
  | .conditional _ test thenValue elseValue =>
    .conditional .nowhere test.unplaced thenValue.unplaced elseValue.unplaced
  | .lambda _ function => .lambda .nowhere function.unplaced
  | .call _ callee arguments => .call .nowhere callee.unplaced (Argument.unplacedAll arguments)
  | .attribute _ object name => .attribute .nowhere object.unplaced name
  | .index _ object key => .index .nowhere object.unplaced key.unplaced
  | .slice _ object start stop step =>
    .slice .nowhere object.unplaced (Expr.unplacedOption start) (Expr.unplacedOption stop)
      (Expr.unplacedOption step)

/-- Expressions without their positions. -/
def Expr.unplacedAll : List Expr → List Expr
  | [] => []
  | e :: rest => e.unplaced :: Expr.unplacedAll rest

/-- Entries without their positions. -/
def Expr.unplacedEntries : List (Expr × Expr) → List (Expr × Expr)
  | [] => []
  | (key, value) :: rest => (key.unplaced, value.unplaced) :: Expr.unplacedEntries rest

/-- An expression that may be missing, without its positions. -/
def Expr.unplacedOption : Option Expr → Option Expr
  | none => none
  | some e => some e.unplaced

/-- Clauses without their positions. -/
def Clause.unplacedAll : List Clause → List Clause
  | [] => []
  | .for_ target iterable :: rest =>
    .for_ target.unplaced iterable.unplaced :: Clause.unplacedAll rest
  | .if_ test :: rest => .if_ test.unplaced :: Clause.unplacedAll rest

/-- An argument without its positions. -/
def Argument.unplaced : Argument → Argument
  | .positional e => .positional e.unplaced
  | .named name e => .named name e.unplaced
  | .spread e => .spread e.unplaced
  | .spreadNamed e => .spreadNamed e.unplaced

/-- Arguments without their positions. -/
def Argument.unplacedAll : List Argument → List Argument
  | [] => []
  | argument :: rest => argument.unplaced :: Argument.unplacedAll rest

/-- A parameter without its positions. -/
def Param.unplaced : Param → Param
  | .mk name _ .required => .mk name .nowhere .required
  | .mk name _ (.optional e) => .mk name .nowhere (.optional e.unplaced)
  | .mk name _ .rest => .mk name .nowhere .rest
  | .mk name _ .restNamed => .mk name .nowhere .restNamed

/-- Parameters without their positions. -/
def Param.unplacedAll : List Param → List Param
  | [] => []
  | param :: rest => param.unplaced :: Param.unplacedAll rest

/-- A function without its positions. -/
def FunctionDecl.unplaced : FunctionDecl → FunctionDecl
  | .mk name _ params body => .mk name .nowhere (Param.unplacedAll params) (Stmt.unplacedAll body)

/-- A statement without its positions. -/
def Stmt.unplaced : Stmt → Stmt
  | .expr _ value => .expr .nowhere value.unplaced
  | .assign _ target value => .assign .nowhere target.unplaced value.unplaced
  | .augAssign _ target op value => .augAssign .nowhere target.unplaced op value.unplaced
  | .define _ function => .define .nowhere function.unplaced
  | .return_ _ value => .return_ .nowhere (Expr.unplacedOption value)
  | .if_ _ test thenBlock elseBlock =>
    .if_ .nowhere test.unplaced (Stmt.unplacedAll thenBlock) (Stmt.unplacedAll elseBlock)
  | .for_ _ target iterable body =>
    .for_ .nowhere target.unplaced iterable.unplaced (Stmt.unplacedAll body)
  | .break_ _ => .break_ .nowhere
  | .continue_ _ => .continue_ .nowhere
  | .pass _ => .pass .nowhere
  | .load _ module bindings =>
    .load .nowhere module (bindings.map fun b => { b with pos := .nowhere })

/-- Statements without their positions. -/
def Stmt.unplacedAll : List Stmt → List Stmt
  | [] => []
  | s :: rest => s.unplaced :: Stmt.unplacedAll rest

end

mutual

/-- The number of expressions and statements on the longest path into an expression. -/
def Expr.height : Expr → Nat
  | .literal _ _ | .name _ _ => 1
  | .list _ items | .tuple _ items => 1 + Expr.heightAll items
  | .dict _ entries => 1 + Expr.heightEntries entries
  | .listComp _ element clauses => 1 + max element.height (Clause.heightAll clauses)
  | .dictComp _ key value clauses =>
    1 + max key.height (max value.height (Clause.heightAll clauses))
  | .unary _ _ operand => 1 + operand.height
  | .binary _ _ left right => 1 + max left.height right.height
  | .conditional _ test thenValue elseValue =>
    1 + max test.height (max thenValue.height elseValue.height)
  | .lambda _ function => 1 + function.height
  | .call _ callee arguments => 1 + max callee.height (Argument.heightAll arguments)
  | .attribute _ object _ => 1 + object.height
  | .index _ object key => 1 + max object.height key.height
  | .slice _ object start stop step =>
    1 + max object.height (max (Expr.heightOption start)
      (max (Expr.heightOption stop) (Expr.heightOption step)))

/-- The greatest height of several expressions. -/
def Expr.heightAll : List Expr → Nat
  | [] => 0
  | e :: rest => max e.height (Expr.heightAll rest)

/-- The greatest height in the entries of a dict. -/
def Expr.heightEntries : List (Expr × Expr) → Nat
  | [] => 0
  | (key, value) :: rest => max (max key.height value.height) (Expr.heightEntries rest)

/-- The height of an expression that may be missing. -/
def Expr.heightOption : Option Expr → Nat
  | none => 0
  | some e => e.height

/-- The greatest height in clauses. -/
def Clause.heightAll : List Clause → Nat
  | [] => 0
  | .for_ target iterable :: rest => max (max target.height iterable.height) (Clause.heightAll rest)
  | .if_ test :: rest => max test.height (Clause.heightAll rest)

/-- The height of an argument. -/
def Argument.height : Argument → Nat
  | .positional e | .named _ e | .spread e | .spreadNamed e => e.height

/-- The greatest height of several arguments. -/
def Argument.heightAll : List Argument → Nat
  | [] => 0
  | argument :: rest => max argument.height (Argument.heightAll rest)

/-- The height of the default of a parameter. -/
def Param.height : Param → Nat
  | .mk _ _ (.optional e) => e.height
  | .mk _ _ .required | .mk _ _ .rest | .mk _ _ .restNamed => 0

/-- The greatest height of several parameters. -/
def Param.heightAll : List Param → Nat
  | [] => 0
  | param :: rest => max param.height (Param.heightAll rest)

/-- The greatest height in a function. -/
def FunctionDecl.height : FunctionDecl → Nat
  | .mk _ _ params body => max (Param.heightAll params) (Stmt.heightAll body)

/-- The number of statements and expressions on the longest path into a statement. -/
def Stmt.height : Stmt → Nat
  | .expr _ value => 1 + value.height
  | .assign _ target value | .augAssign _ target _ value => 1 + max target.height value.height
  | .define _ function => 1 + function.height
  | .return_ _ value => 1 + Expr.heightOption value
  | .if_ _ test thenBlock elseBlock =>
    1 + max test.height (max (Stmt.heightAll thenBlock) (Stmt.heightAll elseBlock))
  | .for_ _ target iterable body =>
    1 + max target.height (max iterable.height (Stmt.heightAll body))
  | .break_ _ | .continue_ _ | .pass _ | .load _ _ _ => 1

/-- The greatest height of several statements. -/
def Stmt.heightAll : List Stmt → Nat
  | [] => 0
  | s :: rest => max s.height (Stmt.heightAll rest)

end

mutual

/-- Whether something can be assigned to an expression; with `nested`, tuples and lists of targets
count. -/
def Expr.IsTarget (nested : Bool) : Expr → Prop
  | .name _ _ | .index _ _ _ | .attribute _ _ _ => True
  | .tuple _ items | .list _ items => nested = true ∧ Expr.AreTargets items
  | _ => False

/-- Whether something can be assigned to each of several expressions. -/
def Expr.AreTargets : List Expr → Prop
  | [] => True
  | e :: rest => e.IsTarget true ∧ Expr.AreTargets rest

end

/-- Whether a parameter must be given. -/
def Param.isRequired (p : Param) : Bool :=
  p.isOwn && !p.isOptional

/-- The names of parameters differ, and behind a parameter with a default none is required. -/
structure Param.Arranged (params : List Param) : Prop where
  distinct : (params.map Param.name).Nodup
  defaultsLast : params.Pairwise fun p q => p.isOptional = true → q.isRequired = false

/-- Whether an argument is given by name. -/
def Argument.isNamed : Argument → Bool
  | .named _ _ => true
  | _ => false

/-- Whether an argument is given by position. -/
def Argument.isPositional : Argument → Bool
  | .positional _ => true
  | _ => false

/-- Behind an argument that is given by name none is given by position. -/
def Argument.Arranged (arguments : List Argument) : Prop :=
  arguments.Pairwise fun a b => a.isNamed = true → b.isPositional = false

/-- Whether the first of several clauses is a loop. -/
def Clause.BeginWithFor : List Clause → Prop
  | .for_ _ _ :: _ => True
  | _ => False

mutual

/-- The rules for an expression. -/
def Expr.WellFormed : Expr → Prop
  | .literal _ _ | .name _ _ => True
  | .list _ items | .tuple _ items => Expr.WellFormedAll items
  | .dict _ entries => Expr.WellFormedEntries entries
  | .listComp _ element clauses =>
    element.WellFormed ∧ Clause.BeginWithFor clauses ∧ Clause.WellFormedAll clauses
  | .dictComp _ key value clauses =>
    key.WellFormed ∧ value.WellFormed ∧ Clause.BeginWithFor clauses ∧ Clause.WellFormedAll clauses
  | .unary _ _ operand => operand.WellFormed
  | .binary _ _ left right => left.WellFormed ∧ right.WellFormed
  | .conditional _ test thenValue elseValue =>
    test.WellFormed ∧ thenValue.WellFormed ∧ elseValue.WellFormed
  | .lambda _ function => function.WellFormedLambda
  | .call _ callee arguments =>
    callee.WellFormed ∧ Argument.Arranged arguments ∧ Argument.WellFormedAll arguments
  | .attribute _ object _ => object.WellFormed
  | .index _ object key => object.WellFormed ∧ key.WellFormed
  | .slice _ object start stop step =>
    object.WellFormed ∧ Expr.WellFormedOption start ∧ Expr.WellFormedOption stop
      ∧ Expr.WellFormedOption step

/-- The rules for several expressions. -/
def Expr.WellFormedAll : List Expr → Prop
  | [] => True
  | e :: rest => e.WellFormed ∧ Expr.WellFormedAll rest

/-- The rules for the entries of a dict. -/
def Expr.WellFormedEntries : List (Expr × Expr) → Prop
  | [] => True
  | (key, value) :: rest => key.WellFormed ∧ value.WellFormed ∧ Expr.WellFormedEntries rest

/-- The rules for an expression that may be missing. -/
def Expr.WellFormedOption : Option Expr → Prop
  | none => True
  | some e => e.WellFormed

/-- The rules for clauses. -/
def Clause.WellFormedAll : List Clause → Prop
  | [] => True
  | .for_ target iterable :: rest =>
    target.WellFormed ∧ iterable.WellFormed ∧ Clause.WellFormedAll rest
  | .if_ test :: rest => test.WellFormed ∧ Clause.WellFormedAll rest

/-- The rules for an argument. -/
def Argument.WellFormed : Argument → Prop
  | .positional e | .named _ e | .spread e | .spreadNamed e => e.WellFormed

/-- The rules for several arguments. -/
def Argument.WellFormedAll : List Argument → Prop
  | [] => True
  | argument :: rest => argument.WellFormed ∧ Argument.WellFormedAll rest

/-- The rules for the default of a parameter. -/
def Param.WellFormed : Param → Prop
  | .mk _ _ (.optional e) => e.WellFormed
  | .mk _ _ .required | .mk _ _ .rest | .mk _ _ .restNamed => True

/-- The rules for the defaults of several parameters. -/
def Param.WellFormedAll : List Param → Prop
  | [] => True
  | param :: rest => param.WellFormed ∧ Param.WellFormedAll rest

/-- The rules for a lambda: it is called `lambda`, and its body returns one expression. -/
def FunctionDecl.WellFormedLambda : FunctionDecl → Prop
  | .mk name _ params [.return_ _ (some body)] =>
    name = "lambda" ∧ Param.Arranged params ∧ Param.WellFormedAll params ∧ body.WellFormed
  | _ => False

end

mutual

/-- The rules for a statement, which stands inside a function or outside of all. -/
def Stmt.WellFormed (inFunction : Bool) : Stmt → Prop
  | .expr _ value => value.WellFormed
  | .assign _ target value => target.IsTarget true ∧ target.WellFormed ∧ value.WellFormed
  | .augAssign _ target op value =>
    op.augmentedMark?.isSome = true ∧ target.IsTarget false ∧ target.WellFormed ∧ value.WellFormed
  | .define _ function => function.WellFormed
  | .return_ _ value => inFunction = true ∧ Expr.WellFormedOption value
  | .if_ _ test thenBlock elseBlock =>
    test.WellFormed ∧ thenBlock ≠ [] ∧ Stmt.WellFormedAll inFunction thenBlock
      ∧ Stmt.WellFormedAll inFunction elseBlock
  | .for_ _ target iterable body =>
    target.IsTarget true ∧ target.WellFormed ∧ iterable.WellFormed ∧ body ≠ []
      ∧ Stmt.WellFormedAll inFunction body
  | .break_ _ | .continue_ _ | .pass _ => True
  | .load _ _ bindings =>
    inFunction = false ∧ bindings ≠ [] ∧ ∀ b ∈ bindings, b.exported.toList.head? ≠ some '_'

/-- The rules for several statements. -/
def Stmt.WellFormedAll (inFunction : Bool) : List Stmt → Prop
  | [] => True
  | s :: rest => s.WellFormed inFunction ∧ Stmt.WellFormedAll inFunction rest

/-- The rules for a function. -/
def FunctionDecl.WellFormed : FunctionDecl → Prop
  | .mk _ _ params body =>
    Param.Arranged params ∧ Param.WellFormedAll params ∧ body ≠ [] ∧ Stmt.WellFormedAll true body

end

theorem Expr.rendering_begins (e : Expr) :
    ∃ k ks, e.rendering = k :: ks ∧ k.isSymbol .rightParen = false := by
  cases e with
  | unary pos op operand => cases op <;> exact ⟨_, _, rfl, rfl⟩
  | literal pos value =>
    cases value with
    | bool b => cases b <;> exact ⟨_, _, rfl, rfl⟩
    | _ => exact ⟨_, _, rfl, rfl⟩
  | _ => exact ⟨_, _, rfl, rfl⟩

theorem Expr.height_pos (e : Expr) : 0 < e.height := by
  cases e <;> simp only [Expr.height] <;> omega

@[simp] theorem length_parenthesized (kinds : List TokenKind) :
    (parenthesized kinds).length = kinds.length + 2 := by
  simp [parenthesized]

@[simp] theorem length_logicalLine (kinds : List TokenKind) :
    (logicalLine kinds).length = kinds.length + 1 := by
  simp [logicalLine]

@[simp] theorem length_indented (kinds : List TokenKind) :
    (indented kinds).length = kinds.length + 4 := by
  simp [indented]

end PixelApplet
