import PixelApplet.Library.Attributes
import PixelApplet.Library.Received

/-!
# Evaluating expressions

Expressions are evaluated from left to right.  They never bind a name of the scope around them: a
comprehension binds its variables in a copy.  How a value is called is a parameter, so evaluation is
a recursion on the expression alone.
-/

/-! ## Scopes

Where the names of a block are looked up and bound.  The top level of a file binds the variables of
its module; the body of a function, and every comprehension, binds variables of its own.
-/

namespace PixelApplet

/-- What the names of a block mean. -/
structure Scope where
  /-- The module of the file. -/
  home : ModuleRef
  file : String
  /-- The own variables; the top level of a file has none. -/
  locals : Option (Bindings Value)
  /-- The variables of the enclosing functions. -/
  captured : Option (Bindings Value)

/-- The value of a function that every script sees. -/
def Universal.value (f : Universal) : Value :=
  .builtin (.fixed f.name) ⟨f.name, none, .universal f⟩

/-- What a name means in every script. -/
def universalValue? (name : String) : Option Value :=
  (Universal.members.find? fun f => f.name = name).map Universal.value

namespace Scope

/-- The scope of the top level of a file. -/
def topLevel (home : ModuleRef) (file : String) : Scope :=
  ⟨home, file, none, none⟩

/-- What a name means: an own variable, one of an enclosing function, a name of the module, or one
that every script sees. -/
def lookup? (scope : Scope) (h : Heap) (name : String) : Option Value :=
  match scope.locals.bind (·.get? name) with
  | some value => some value
  | none =>
    match scope.captured.bind (·.get? name) with
    | some value => some value
    | none =>
      match (h.module scope.home).lookup? name with
      | some value => some value
      | none => universalValue? name

/-- Binds a name. -/
def assign (scope : Scope) (name : String) (value : Value) : Eval Scope := do
  match scope.locals with
  | some locals => return { scope with locals := some (locals.insert name value) }
  | none =>
    if ← Eval.readHeap fun h => (h.module scope.home).frozen then
      Eval.fail s!"cannot reassign global {name} of frozen module"
    else
      Eval.changeHeap fun h =>
        h.modifyModule scope.home fun cell => { cell with vars := cell.vars.insert name value }
      return scope

/-- The scope of a comprehension, whose variables are seen nowhere else. -/
def comprehension (scope : Scope) : Scope :=
  { scope with locals := some (scope.locals.getD []) }

/-- What a function defined here keeps of the variables around it; own variables hide those of the
enclosing functions. -/
def capture (scope : Scope) : Option (Bindings Value) :=
  scope.locals.map fun locals => Bindings.insertAll locals (scope.captured.getD [])

end Scope

end PixelApplet

/-! ## Expressions -/

namespace PixelApplet

/-- How a value is called. -/
abbrev Caller :=
  Value → Arguments → Eval Value

/-- The value of a constant. -/
def Literal.value : Literal → Value
  | none => .none
  | bool b => .bool b
  | int i => .int i
  | float x => .float x
  | string s => .str s

/-- The value of a function defined in a scope. -/
def Scope.newFunction (scope : Scope) (decl : FunctionDecl) (defaults : List (Option Value)) :
    Eval Value := do
  return .function (← Eval.newIdentity)
    ⟨decl, scope.home, defaults, scope.capture, scope.file⟩

/-- The named arguments that a dict spread into a call stands for. -/
def spreadEntries : List (Value × Value) → Eval (List (String × Value))
  | [] => pure []
  | (.str name, value) :: rest => do
    return (name, value) :: (← spreadEntries rest)
  | (key, _) :: _ => Eval.fail s!"keywords must be strings, not {key.typeName}"

/-- Runs a step for each item of a loop, as long as the thread may go on. -/
def eachItem {σ : Type} (step : σ → Value → Eval σ) : List Value → σ → Eval σ
  | [], state => pure state
  | item :: rest, state => do
    Eval.checkCancelled
    eachItem step rest (← step state item)

/-- Refuses to unpack a wrong number of values. -/
def refuseUnpacking {α : Type} (given wanted : Nat) : Eval α :=
  let which := if given > wanted then "too many" else "too few"
  Eval.fail s!"{which} values to unpack (got {given}, want {wanted})"

mutual

/-- The value of an expression. -/
def evalExpr (call : Caller) (scope : Scope) (e : Expr) : Eval Value :=
  Eval.nested <| match e with
    | .literal _ literal => pure literal.value
    | .name _ name => do
      match ← Eval.readHeap fun h => scope.lookup? h name with
      | some value => return value
      | none => Eval.fail s!"undefined: {name}"
    | .list _ items => do
      Eval.newList (← evalAll call scope items)
    | .tuple _ items => do
      return .tuple (← evalAll call scope items)
    | .dict _ entries => do
      Eval.newDict (← evalEntries call scope entries .empty)
    | .listComp _ element clauses => do
      let ref ← Eval.readHeap Heap.nextList
      let list ← Eval.newList []
      let _ ← comprehend call
        (fun scope => do
          let value ← evalExpr call scope element
          Eval.changeList ref fun items => items.push value)
        clauses scope.comprehension
      return list
    | .dictComp _ key value clauses => do
      let ref ← Eval.readHeap Heap.nextDict
      let dict ← Eval.newDict .empty
      let _ ← comprehend call
        (fun scope => do
          let key ← evalExpr call scope key
          let value ← evalExpr call scope value
          Eval.storeInDict ref key value)
        clauses scope.comprehension
      return dict
    | .unary _ op operand => do
      let operand ← evalExpr call scope operand
      Eval.operate fun h => operand.unary h op
    | .binary _ op left right => do
      let left ← evalExpr call scope left
      match op with
      | .and =>
        if ← Eval.readHeap left.truth then evalExpr call scope right else return left
      | .or =>
        if ← Eval.readHeap left.truth then return left else evalExpr call scope right
      | op => do
        let right ← evalExpr call scope right
        Eval.produce fun h => Value.binary h op left right
    | .conditional _ test thenValue elseValue => do
      let test ← evalExpr call scope test
      if ← Eval.readHeap test.truth then evalExpr call scope thenValue
      else evalExpr call scope elseValue
    | .lambda _ decl => evalFunction call scope decl
    | .call pos callee arguments => do
      let callee ← evalExpr call scope callee
      let arguments ← evalArguments call scope arguments
      Eval.moveTo pos
      call callee arguments
    | .attribute _ object name => do
      let object ← evalExpr call scope object
      object.member name
    | .index _ object key => do
      let object ← evalExpr call scope object
      let key ← evalExpr call scope key
      Eval.operate fun h => object.index h key
    | .slice _ object start stop step => do
      let object ← evalExpr call scope object
      let start ← evalOption call scope start
      let stop ← evalOption call scope stop
      let step ← evalOption call scope step
      Eval.produce fun h => object.slice h start stop step

/-- The values of expressions. -/
def evalAll (call : Caller) (scope : Scope) : List Expr → Eval (List Value)
  | [] => pure []
  | e :: rest => do
    let value ← evalExpr call scope e
    return value :: (← evalAll call scope rest)

/-- The value of an expression that may be missing. -/
def evalOption (call : Caller) (scope : Scope) : Option Expr → Eval (Option Value)
  | none => pure none
  | some e => do
    return some (← evalExpr call scope e)

/-- The entries of a dict. -/
def evalEntries (call : Caller) (scope : Scope) : List (Expr × Expr) → DictCell → Eval DictCell
  | [], cell => pure cell
  | (key, value) :: rest, cell => do
    let key ← evalExpr call scope key
    let value ← evalExpr call scope value
    evalEntries call scope rest (cell.insert (← Eval.keyFor key) key value)

/-- The arguments of a call. -/
def evalArguments (call : Caller) (scope : Scope) : List Argument → Eval Arguments
  | [] => pure .empty
  | .positional e :: rest => do
    let value ← evalExpr call scope e
    let others ← evalArguments call scope rest
    return ⟨value :: others.positional, others.named⟩
  | .named name e :: rest => do
    let value ← evalExpr call scope e
    let others ← evalArguments call scope rest
    return ⟨others.positional, (name, value) :: others.named⟩
  | .spread e :: rest => do
    let values ← Eval.iterate (← evalExpr call scope e)
    let others ← evalArguments call scope rest
    return ⟨values ++ others.positional, others.named⟩
  | .spreadNamed e :: rest => do
    match ← evalExpr call scope e with
    | .dict ref => do
      let entries ← spreadEntries (← Eval.readHeap fun h => (h.dict ref).pairs)
      let others ← evalArguments call scope rest
      return ⟨others.positional, entries ++ others.named⟩
    | other => Eval.fail s!"argument after ** must be a mapping, not {other.typeName}"

/-- Runs an action for every way through the clauses of a comprehension. -/
def comprehend (call : Caller) (body : Scope → Eval Unit) : List Clause → Scope → Eval Scope
  | [], scope => do
    body scope
    return scope
  | .for_ target iterable :: rest, scope => do
    let items ← Eval.iterate (← evalExpr call scope iterable)
    eachItem
      (fun scope item => do
        let scope ← assignTarget call scope target item
        comprehend call body rest scope)
      items scope
  | .if_ test :: rest, scope => do
    let test ← evalExpr call scope test
    if ← Eval.readHeap test.truth then comprehend call body rest scope else return scope

/-- Binds or changes what a target names. -/
def assignTarget (call : Caller) (scope : Scope) (target : Expr) (value : Value) : Eval Scope :=
  match target with
  | .name _ name => scope.assign name value
  | .tuple _ targets | .list _ targets => do
    let values ← Eval.iterate value
    if values.length ≠ targets.length then refuseUnpacking values.length targets.length
    else assignTargets call scope targets values
  | .index _ object key => do
    let object ← evalExpr call scope object
    let key ← evalExpr call scope key
    Eval.assignIndex object key value
    return scope
  | .attribute _ object name => do
    let object ← evalExpr call scope object
    Eval.fail s!"cannot set .{name} field of {object.typeName} value"
  | _ => Eval.fail "cannot assign to this expression"

/-- Binds or changes what targets name, one value each. -/
def assignTargets (call : Caller) (scope : Scope) : List Expr → List Value → Eval Scope
  | target :: targets, value :: values => do
    let scope ← assignTarget call scope target value
    assignTargets call scope targets values
  | _, _ => pure scope

/-- The value of a function: its defaults are evaluated where it is defined. -/
def evalFunction (call : Caller) (scope : Scope) (decl : FunctionDecl) : Eval Value :=
  match decl with
  | .mk name pos params body => do
    let defaults ← evalDefaults call scope params
    scope.newFunction (.mk name pos params body) defaults

/-- The defaults of parameters. -/
def evalDefaults (call : Caller) (scope : Scope) : List Param → Eval (List (Option Value))
  | [] => pure []
  | .mk _ _ kind :: rest => do
    let default ← evalDefault call scope kind
    return default :: (← evalDefaults call scope rest)

/-- The default of a parameter. -/
def evalDefault (call : Caller) (scope : Scope) : ParamKind → Eval (Option Value)
  | .optional e => do
    return some (← evalExpr call scope e)
  | _ => pure none

end

end PixelApplet
