import PixelApplet.Text.Position

/-!
# Script trees

The statements and expressions of a script, each with the place it was read at.  A lambda is a
function whose body is a single return statement.
-/

namespace PixelApplet

/-- The prefixed operators. -/
inductive UnaryOp where
  | neg | pos | not
  deriving DecidableEq

/-- The operators between two operands. -/
inductive BinaryOp where
  | add | sub | mul | div | floorDiv | mod
  | eq | ne | lt | le | gt | ge | in_ | notIn
  | and | or
  deriving DecidableEq

/-- The spelling of an operator between two operands. -/
def BinaryOp.symbol : BinaryOp → String
  | add => "+"
  | sub => "-"
  | mul => "*"
  | div => "/"
  | floorDiv => "//"
  | mod => "%"
  | eq => "=="
  | ne => "!="
  | lt => "<"
  | le => "<="
  | gt => ">"
  | ge => ">="
  | in_ => "in"
  | notIn => "not in"
  | and => "and"
  | or => "or"

/-- The spelling of a prefixed operator. -/
def UnaryOp.symbol : UnaryOp → String
  | neg => "-"
  | pos => "+"
  | not => "not"

/-- Constants written in a script. -/
inductive Literal where
  | none
  | bool (value : Bool)
  | int (value : Int64)
  | float (value : Float)
  | string (text : String)

/-- One name taken from a loaded module: the name it gets here, and the name it has there. -/
structure LoadBinding where
  name : String
  exported : String
  pos : Position
  deriving DecidableEq

mutual

/-- An expression. -/
inductive Expr where
  | literal (pos : Position) (value : Literal)
  | name (pos : Position) (name : String)
  | list (pos : Position) (items : List Expr)
  | tuple (pos : Position) (items : List Expr)
  | dict (pos : Position) (entries : List (Expr × Expr))
  | listComp (pos : Position) (element : Expr) (clauses : List Clause)
  | dictComp (pos : Position) (key value : Expr) (clauses : List Clause)
  | unary (pos : Position) (op : UnaryOp) (operand : Expr)
  | binary (pos : Position) (op : BinaryOp) (left right : Expr)
  | conditional (pos : Position) (test thenValue elseValue : Expr)
  | lambda (pos : Position) (function : FunctionDecl)
  | call (pos : Position) (callee : Expr) (arguments : List Argument)
  | attribute (pos : Position) (object : Expr) (name : String)
  | index (pos : Position) (object key : Expr)
  | slice (pos : Position) (object : Expr) (start stop step : Option Expr)

/-- A clause of a comprehension. -/
inductive Clause where
  | for_ (target iterable : Expr)
  | if_ (test : Expr)

/-- An argument of a call. -/
inductive Argument where
  | positional (value : Expr)
  | named (name : String) (value : Expr)
  | spread (value : Expr)
  | spreadNamed (value : Expr)

/-- How a parameter takes its argument. -/
inductive ParamKind where
  | required
  | optional (default : Expr)
  | rest
  | restNamed

/-- A parameter of a function. -/
inductive Param where
  | mk (name : String) (pos : Position) (kind : ParamKind)

/-- A function written in a script. -/
inductive FunctionDecl where
  | mk (name : String) (pos : Position) (params : List Param) (body : List Stmt)

/-- A statement. -/
inductive Stmt where
  | expr (pos : Position) (value : Expr)
  | assign (pos : Position) (target value : Expr)
  | augAssign (pos : Position) (target : Expr) (op : BinaryOp) (value : Expr)
  | define (pos : Position) (function : FunctionDecl)
  | return_ (pos : Position) (value : Option Expr)
  | if_ (pos : Position) (test : Expr) (thenBlock elseBlock : List Stmt)
  | for_ (pos : Position) (target iterable : Expr) (body : List Stmt)
  | break_ (pos : Position)
  | continue_ (pos : Position)
  | pass (pos : Position)
  | load (pos : Position) (module : String) (bindings : List LoadBinding)

end

/-- A sequence of statements. -/
abbrev Block := List Stmt

instance : Inhabited Expr :=
  ⟨.literal .nowhere .none⟩

/-- The place of an expression. -/
def Expr.pos : Expr → Position
  | .literal p _ | .name p _ | .list p _ | .tuple p _ | .dict p _ | .listComp p _ _
  | .dictComp p _ _ _ | .unary p _ _ | .binary p _ _ _ | .conditional p _ _ _ | .lambda p _
  | .call p _ _ | .attribute p _ _ | .index p _ _ | .slice p _ _ _ _ => p

/-- The place of a statement. -/
def Stmt.pos : Stmt → Position
  | .expr p _ | .assign p _ _ | .augAssign p _ _ _ | .define p _ | .return_ p _ | .if_ p _ _ _
  | .for_ p _ _ _ | .break_ p | .continue_ p | .pass p | .load p _ _ => p

namespace Param

/-- The name of a parameter. -/
def name : Param → String
  | .mk name _ _ => name

/-- The place of a parameter. -/
def pos : Param → Position
  | .mk _ pos _ => pos

/-- How a parameter takes its argument. -/
def kind : Param → ParamKind
  | .mk _ _ kind => kind

/-- Whether the parameter takes one argument of its own. -/
def isOwn (p : Param) : Bool :=
  match p.kind with
  | .required | .optional _ => true
  | .rest | .restNamed => false

/-- Whether the parameter collects the remaining positional arguments. -/
def isRest (p : Param) : Bool :=
  match p.kind with
  | .rest => true
  | _ => false

/-- Whether the parameter collects the remaining named arguments. -/
def isRestNamed (p : Param) : Bool :=
  match p.kind with
  | .restNamed => true
  | _ => false

/-- Whether the parameter has a default. -/
def isOptional (p : Param) : Bool :=
  match p.kind with
  | .optional _ => true
  | _ => false

end Param

namespace FunctionDecl

/-- The name of a function; a lambda is called `lambda`. -/
def name : FunctionDecl → String
  | .mk name _ _ _ => name

/-- The place of a function. -/
def pos : FunctionDecl → Position
  | .mk _ pos _ _ => pos

/-- The parameters of a function. -/
def params : FunctionDecl → List Param
  | .mk _ _ params _ => params

/-- The body of a function. -/
def body : FunctionDecl → Block
  | .mk _ _ _ body => body

end FunctionDecl

/-- The modules that the load statements of a block name, in order. -/
def Block.loads (block : Block) : List String :=
  block.filterMap fun stmt => match stmt with
    | .load _ module _ => some module
    | _ => none

end PixelApplet
