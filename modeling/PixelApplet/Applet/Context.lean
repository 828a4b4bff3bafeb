import PixelApplet.Evaluation.Call
import PixelApplet.Library.Modules

/-!
# Invocation contexts

Every invocation of an applet runs on a thread of its own, set up in the same way: it is named for
the applet, prints behind the applet's name unless the host decides otherwise, draws from its own
random generator, and is handed to the host's initializers.  However the invocation ends, its thread
is torn down, and what it registered elsewhere is dropped.
-/

namespace PixelApplet

/-- What a host decides about an applet. -/
structure AppletOptions where
  /-- Supplies modules before those of the library are looked at. -/
  moduleLoader : Option (String → Eval (Except String (Bindings Value)))
  decrypter : Option Decrypter
  /-- The host takes the printed lines. -/
  capturesPrint : Bool
  /-- Printed lines are dropped; this wins over the host taking them. -/
  disablesPrint : Bool
  /-- Run in order on every new thread. -/
  initializers : List (Eval Unit)

/-- The options of a host that decides nothing. -/
def AppletOptions.none : AppletOptions :=
  ⟨.none, .none, false, false, []⟩

/-- What all invocations of an applet share. -/
structure Context where
  id : String
  options : AppletOptions

namespace Context

/-- Where the lines that an applet prints go. -/
def printing (context : Context) : PrintTarget :=
  if context.options.disablesPrint then .nowhere
  else if context.options.capturesPrint then .host
  else .standardOutput context.id

/-- Sets the running thread up. -/
def setUp (context : Context) : Eval Unit := do
  Eval.changeThread fun thread => { thread with printing := .standardOutput context.id }
  Chance.attach (← Chance.state)
  match context.options.decrypter with
  | some decrypter =>
    Eval.changeThread fun thread => thread.attach Secrets.key (.decrypter decrypter)
  | none => pure ()
  Eval.changeThread fun thread => { thread with printing := context.printing }
  context.options.initializers.forM fun initializer => initializer

/-- Loads a module of the library. -/
def loadLibraryModule (name : String) : Eval (Except LoadFault ModuleRef) := do
  match LibraryModule.bindings? name with
  | some bindings => return .ok (← Eval.bindingsModule name bindings)
  | none => return .error (.refused (AppletFault.invalidModule name).text)

/-- Loads a module that is no file of the applet: from the host, or else from the library. -/
def loadModule (context : Context) (name : String) : Eval (Except LoadFault ModuleRef) := do
  let supplied ← match context.options.moduleLoader with
    | some supply => supply name
    | none => pure (.error "")
  match supplied with
  | .ok bindings => return .ok (← Eval.bindingsModule name bindings)
  | .error _ => loadLibraryModule name

/-- How scripts load modules when an applet is running. -/
def loader (context : Context) : Loader :=
  some context.loadModule

/-- Registers the running thread with a token, so that cancelling the token stops the thread. -/
def watch (token : TokenRef) : Eval CancellationToken.Registered := do
  let m ← get
  let (watched, registered) := (m.token token).watch m.thread.cell
  let m := m.setToken token watched
  set (match registered with
    | .told reason => m.cancelCell m.thread.cell reason
    | .kept _ => m)
  return registered

/-- Drops a registration with a token. -/
def unwatch (token : TokenRef) (registered : CancellationToken.Registered) (m : Machine) :
    Machine :=
  m.setToken token ((m.token token).unwatch registered)

/-- Calls a value under a token. -/
def callUnder (context : Context) (token : TokenRef) (callable : Value) (arguments : Arguments) :
    Eval Value := do
  let registered ← watch token
  Eval.followedBy (callValue context.loader callable arguments) (unwatch token registered)

/-- The place of a callable value as a fault names it. -/
def placeOf : Value → String
  | .function _ f => (FilePosition.mk f.file f.decl.pos).text
  | _ => "<builtin>"

/-- The fault of an invocation that stopped. -/
def faultOf (context : Context) (callable : Value) : Abort → AppletFault
  | .error e =>
    if e.backtrace.isEmpty then .call callable.callableName (placeOf callable) e.message
    else .evaluation e.traceback
  | .panic message => .callPanic context.id message

/-- Calls a value on a thread of its own, which is prepared before.  Gives the outcome and the
failed assertions that the thread collected. -/
def invokeWith (context : Context) (prepare : Eval Unit) (callable : Value) (arguments : Arguments)
    (token : TokenRef) : Eval (Except AppletFault Value × List String) :=
  Eval.onThread context.id do
    let outcome ← Eval.recover do
      context.setUp
      prepare
      context.callUnder token callable arguments
    let failures := (Assertions.failures? (← Eval.read Machine.thread)).getD []
    match outcome with
    | .ok value => return (.ok value, failures)
    | .error abort => return (.error (context.faultOf callable abort), failures)

/-- Calls a value on a thread of its own. -/
def invoke (context : Context) (callable : Value) (arguments : Arguments) (token : TokenRef) :
    Eval (Except AppletFault Value) := do
  return (← context.invokeWith (pure ()) callable arguments token).1

end Context

end PixelApplet
