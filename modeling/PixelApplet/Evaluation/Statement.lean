import PixelApplet.Evaluation.Expression

/-!
# Executing statements

A block runs its statements in order until one of them leaves it.  The variables of a function are
handed from statement to statement; those of a module live in the heap.  An error notes the open
calls when it leaves the innermost statement.
-/

namespace PixelApplet

/-- How a block finished. -/
inductive Flow where
  | normal
  | break_
  | continue_
  | return_ (value : Value)

/-- How a load statement finds a module; a host need not allow loading. -/
abbrev Loader :=
  Option (String → Eval (Except LoadFault ModuleRef))

/-- Runs a step for each item of a loop, as long as the thread may go on and the step does not leave
the loop. -/
def eachIteration (step : Scope → Value → Eval (Flow × Scope)) :
    List Value → Scope → Eval (Flow × Scope)
  | [], scope => pure (.normal, scope)
  | item :: rest, scope => do
    Eval.checkCancelled
    match ← step scope item with
    | (.break_, scope) => return (.normal, scope)
    | (.return_ value, scope) => return (.return_ value, scope)
    | (_, scope) => eachIteration step rest scope

/-- The value of an augmented assignment.  A list on the left is extended in place. -/
def augmented (op : BinaryOp) (current value : Value) : Eval Value := do
  match op, current with
  | .add, .list ref => do
    let more ← Eval.iterate value
    Eval.changeList ref fun items => items ++ more.toArray
    return current
  | op, current => Eval.produce fun h => Value.binary h op current value

/-- An augmented assignment; the object and the index of an indexed target are evaluated once. -/
def augAssign (call : Caller) (scope : Scope) (target : Expr) (op : BinaryOp) (value : Expr) :
    Eval Scope := do
  match target with
  | .index _ object key => do
    let object ← evalExpr call scope object
    let key ← evalExpr call scope key
    let current ← Eval.operate fun h => object.index h key
    let value ← evalExpr call scope value
    Eval.assignIndex object key (← augmented op current value)
    return scope
  | target => do
    let current ← evalExpr call scope target
    let value ← evalExpr call scope value
    assignTarget call scope target (← augmented op current value)

/-- Takes the names of a load statement from a module. -/
def bindLoaded (home loaded : ModuleRef) (module : String) : List LoadBinding → Eval Unit
  | [] => pure ()
  | binding :: rest => do
    match ← Eval.readHeap fun h => (h.module loaded).vars.get? binding.exported with
    | none => Eval.fail s!"load: name {binding.exported} not found in module {module}"
    | some value => do
      Eval.changeHeap fun h => h.modifyModule home fun cell =>
        { cell with loaded := cell.loaded.insert binding.name value }
      bindLoaded home loaded module rest

/-- Loads a module and takes names from it. -/
def loadModule (load : Loader) (home : ModuleRef) (module : String) (bindings : List LoadBinding) :
    Eval Unit := do
  match load with
  | none => Eval.fail "load not implemented by this application"
  | some find => do
    match ← find module with
    | .error fault =>
      throw (.error ⟨s!"cannot load {module}: {fault.text}", none, [], some fault⟩)
    | .ok loaded => bindLoaded home loaded module bindings

mutual

/-- Executes a statement. -/
def execStmt (call : Caller) (load : Loader) (scope : Scope) (s : Stmt) : Eval (Flow × Scope) := do
  Eval.moveTo s.pos
  Eval.mapError
    (do
      Eval.checkCancelled
      match s with
      | .expr _ e => do
        let _ ← evalExpr call scope e
        return (.normal, scope)
      | .assign _ target value => do
        let value ← evalExpr call scope value
        return (.normal, ← assignTarget call scope target value)
      | .augAssign _ target op value => do
        return (.normal, ← augAssign call scope target op value)
      | .define _ decl => do
        let function ← evalFunction call scope decl
        return (.normal, ← scope.assign decl.name function)
      | .return_ _ value => do
        let value ← evalOption call scope value
        return (.return_ (value.getD .none), scope)
      | .if_ _ test thenBlock elseBlock => do
        let test ← evalExpr call scope test
        if ← Eval.readHeap test.truth then execBlock call load scope thenBlock
        else execBlock call load scope elseBlock
      | .for_ _ target iterable body => do
        let items ← Eval.iterate (← evalExpr call scope iterable)
        eachIteration
          (fun scope item => do
            let scope ← assignTarget call scope target item
            execBlock call load scope body)
          items scope
      | .break_ _ => return (.break_, scope)
      | .continue_ _ => return (.continue_, scope)
      | .pass _ => return (.normal, scope)
      | .load _ module bindings => do
        loadModule load scope.home module bindings
        return (.normal, scope))
    fun m e => e.trace m.thread.stack.trace

/-- Executes statements until one of them leaves the block. -/
def execBlock (call : Caller) (load : Loader) (scope : Scope) : List Stmt → Eval (Flow × Scope)
  | [] => pure (.normal, scope)
  | s :: rest => do
    match ← execStmt call load scope s with
    | (.normal, scope) => execBlock call load scope rest
    | left => return left

end

end PixelApplet
