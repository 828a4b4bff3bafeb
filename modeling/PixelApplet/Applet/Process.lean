import PixelApplet.Applet.Basic

/-!
# Processes

A host may keep many applets in one process, and load and invoke them in any order.  What all of
them share are the tables of the process: the cache, the registered descriptors and the dict of the
fonts, which the library hands out to every script.  Everything else is reached by references, and
an applet is handed references to nothing but what was made for it, so applets of different names
live in worlds of their own.
-/

namespace PixelApplet

/-- What all applets of a process share. -/
structure SharedTables where
  cache : CacheStore
  registry : Descriptor.Registry
  fonts : DictCell

/-- What belongs to the applets of one name, and the applets in the order in which they were
loaded. -/
structure World where
  machine : Machine
  applets : List Applet

/-- A process in which each name has a world. -/
structure Process where
  shared : SharedTables
  worlds : String → World

/-- What a host may do with the applets of a name.  The applets are numbered in the order in which
they were loaded. -/
inductive HostRequest where
  | newToken
  | cancel (token : TokenRef) (reason : String)
  | load (options : AppletOptions) (source : FileSource)
  | run (applet : Nat) (config : List (String × String)) (token : TokenRef)
  | callHandler (applet : Nat) (name parameter : String) (token : TokenRef)
  | call (applet : Nat) (callable : Value) (arguments : List Value) (token : TokenRef)
  | runTests (applet : Nat)

/-- What a host gets to know. -/
inductive HostAnswer where
  | done
  | token (ref : TokenRef)
  | loaded (applet : Nat)
  | roots (roots : List RenderRoot)
  | text (text : String)
  | value (value : Value)
  | tests (results : List TestResult)
  | failed (fault : AppletFault)
  /-- There is no such applet. -/
  | absent

/-- The answer for a result. -/
def HostAnswer.ofResult {α : Type} (answer : α → HostAnswer) : Except AppletFault α → HostAnswer
  | .ok result => answer result
  | .error fault => .failed fault

/-- What is done with an applet in a list, if it is there. -/
def Applet.within (applets : List Applet) (number : Nat) (act : Applet → Eval HostAnswer) :
    Eval (HostAnswer × List Applet) :=
  match applets[number]? with
  | none => return (.absent, applets)
  | some applet => return (← act applet, applets)

/-- Does what a host requests, given the applets that were loaded before. -/
def HostRequest.perform (id : String) (applets : List Applet) :
    HostRequest → Eval (HostAnswer × List Applet)
  | newToken => return (.token (← Eval.newToken), applets)
  | cancel token reason => do
    modify fun m => m.cancelToken token reason
    return (.done, applets)
  | load options source => do
    match ← Applet.load ⟨id, options⟩ source with
    | .error fault => return (.failed fault, applets)
    | .ok applet => return (.loaded applets.length, applets ++ [applet])
  | run number config token =>
    Applet.within applets number fun applet => .ofResult .roots <$> applet.run config token
  | callHandler number name parameter token =>
    Applet.within applets number fun applet =>
      .ofResult .text <$> applet.callHandler name parameter token
  | call number callable arguments token =>
    Applet.within applets number fun applet =>
      .ofResult .value <$> applet.call callable arguments token
  | runTests number =>
    Applet.within applets number fun applet => .tests <$> applet.runTests

/-- An operation of the host: a request for the applets of a name, what the clock shows, and the
files that are there. -/
structure HostOperation where
  id : String
  clock : Nat
  disk : Disk
  request : HostRequest

/-- What is seen of an operation: its answer, and what was printed or noted, in order. -/
structure HostOutcome where
  id : String
  answer : Except Abort HostAnswer
  seen : List Event

namespace Process

/-- The process before anything happened. -/
def initial : Process :=
  ⟨⟨.empty, .empty, Heap.initial.dict Heap.fonts⟩, fun _ => ⟨.initial (.under []), []⟩⟩

/-- The machine on which an operation begins: the world of its applets with the shared tables. -/
def enter (p : Process) (op : HostOperation) : Machine :=
  let m := (p.worlds op.id).machine
  { m with
    heap := m.heap.modifyDict Heap.fonts fun _ => p.shared.fonts
    thread := .named op.id ⟨0⟩
    events := []
    cache := p.shared.cache
    registry := p.shared.registry
    disk := op.disk
    clock := op.clock }

/-- The process when an operation has ended on a machine. -/
def leave (p : Process) (op : HostOperation) (m : Machine) (applets : List Applet) : Process where
  shared := ⟨m.cache, m.registry, m.heap.dict Heap.fonts⟩
  worlds id :=
    if id = op.id then ⟨{ m with cache := .empty, registry := .empty }, applets⟩ else p.worlds id

/-- Performs an operation. -/
def perform (p : Process) (op : HostOperation) : Process × HostOutcome :=
  let applets := (p.worlds op.id).applets
  match op.request.perform op.id applets (p.enter op) with
  | .ok (answer, applets) m => (p.leave op m applets, ⟨op.id, .ok answer, m.events.reverse⟩)
  | .error abort m => (p.leave op m applets, ⟨op.id, .error abort, m.events.reverse⟩)

/-- The process after some operations, one after the other. -/
def after (p : Process) (ops : List HostOperation) : Process :=
  ops.foldl (fun p op => (p.perform op).1) p

/-- What is seen of operations, one after the other. -/
def outcomes (p : Process) : List HostOperation → List HostOutcome
  | [] => []
  | op :: rest => (p.perform op).2 :: (p.perform op).1.outcomes rest

end Process

end PixelApplet
