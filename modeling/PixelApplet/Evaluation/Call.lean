import PixelApplet.Evaluation.Statement
import PixelApplet.Library.Dispatch
import PixelApplet.Script.Parser
import PixelApplet.Value.Heap

/-!
# Calls and files

Calling a value, and executing a file.  Calls of script functions are nested at most as deep as the
stack of open calls allows, so a call is a recursion on the number of calls that may still be
opened.  A builtin function that calls back passes no function on, so two levels of builtin
functions are all there are.
-/

namespace PixelApplet

/-- How the body of a script function is entered. -/
abbrev Entry :=
  Function Value → Arguments → Eval Value

/-- The variables that parameters are bound to. -/
def bindLocals : List (String × Bound) → Bindings Value → Eval (Bindings Value)
  | [], locals => pure locals
  | (name, .value value) :: rest, locals => bindLocals rest (locals.insert name value)
  | (name, .remaining named) :: rest, locals => do
    bindLocals rest (locals.insert name (← Eval.newDict (.ofBindings named)))

/-- Runs the body of a script function in a call of its own. -/
def enterFunction (call : Caller) (load : Loader) (f : Function Value) (arguments : Arguments) :
    Eval Value := do
  if ← Eval.readHeap fun h => (h.module f.home).held then
    let bound ← Eval.accept BindingFault.text (f.bind arguments)
    let locals ← bindLocals bound []
    Eval.inFrame ⟨f.decl.name, f.file, f.decl.pos⟩ do
      match ← execBlock call load ⟨f.home, f.file, some locals, f.captured⟩ f.decl.body with
      | (.return_ value, _) => return value
      | _ => return .none
  else Eval.fail s!"{f.decl.name}: the module that defined it is no longer loaded"

/-- Calls a value, given how script functions are entered and how builtin functions call back. -/
def callOnce (enter : Entry) (callBack : Caller) (callee : Value) (arguments : Arguments) :
    Eval Value := do
  Eval.checkCancelled
  match callee with
  | .function _ f => enter f arguments
  | .builtin _ b => Eval.mapError (b.run callBack arguments) fun _ e => e.blame b.name
  | other => Eval.fail s!"invalid call of non-function ({other.typeName})"

/-- Refuses a call for want of room. -/
def refuseCall {α : Type} : Eval α :=
  Eval.fail s!"call stack depth exceeds {deepestCalls}"

/-- Calls a value, given how script functions are entered. -/
def callWith (enter : Entry) : Caller :=
  callOnce enter (callOnce enter fun _ _ => refuseCall)

/-- Calls a value when calls may be nested `calls` deep. -/
def callTo (load : Loader) : (calls : Nat) → Caller
  | 0, callee, arguments => callWith (fun _ _ => refuseCall) callee arguments
  | calls + 1, callee, arguments =>
    callWith (enterFunction (callTo load calls) load) callee arguments

/-- Calls a value on the running thread. -/
def callValue (load : Loader) : Caller :=
  callTo load (deepestCalls + 1)

/-- A module whose variables are what something binds. -/
def Eval.newModule (cell : ModuleCell) : Eval ModuleRef :=
  fun m => .ok m.heap.nextModule { m with heap := m.heap.addModule cell }

/-- The frozen module of some bindings. -/
def Eval.bindingsModule (name : String) (bindings : Bindings Value) : Eval ModuleRef := do
  let ref ← Eval.newModule { ModuleCell.ofFile name [] with vars := bindings }
  Eval.changeHeap (Heap.freezeModule ref)
  return ref

/-- Executes a file on the running thread and freezes its module. -/
def executeFile (load : Loader) (name source : String) (predeclared : Bindings Value) :
    Eval (Except ScriptError ModuleRef) := do
  match parseScript source with
  | .error e => return .error e
  | .ok block => do
    let home ← Eval.newModule (ModuleCell.ofFile name predeclared)
    let _ ← Eval.inFrame ⟨"<toplevel>", name, .nowhere⟩
      (execBlock (callValue load) load (Scope.topLevel home name) block)
    Eval.changeHeap (Heap.freezeModule home)
    return .ok home

end PixelApplet
