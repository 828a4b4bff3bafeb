import PixelApplet.Applet.Progress
import PixelApplet.Descriptor.Registry
import PixelApplet.Files.Source
import PixelApplet.Machine.Thread
import PixelApplet.Render.Widget
import PixelApplet.Value.Heap

/-!
# The machine

Everything that running a script can read or change, and the actions on it.  An action gives a
result or stops; the changes it has made stay in both cases.
-/

/-! ## The cache

Texts that scripts keep between invocations.  Entries belong to the thread name that wrote them, and
an entry is forgotten when its time has come.
-/

namespace PixelApplet

/-- An entry: who wrote it under which key, and from which second on it is gone. -/
structure CacheEntry where
  owner : String
  key : String
  value : String
  expires : Nat
  deriving DecidableEq

/-- All entries. -/
structure CacheStore where
  entries : List CacheEntry
  deriving DecidableEq, Inhabited

namespace CacheStore

/-- The cache without entries. -/
def empty : CacheStore :=
  ⟨[]⟩

/-- Forgets what an owner wrote under a key. -/
def erase (store : CacheStore) (owner key : String) : CacheStore :=
  ⟨store.entries.filter fun entry => ¬ (entry.owner = owner ∧ entry.key = key)⟩

/-- Writes an entry in place of an earlier one. -/
def set (store : CacheStore) (owner key value : String) (expires : Nat) : CacheStore :=
  ⟨⟨owner, key, value, expires⟩ :: (store.erase owner key).entries⟩

/-- What an owner wrote under a key, if it is not gone at second `now`. -/
def get? (store : CacheStore) (owner key : String) (now : Nat) : Option String :=
  match store.entries.find? fun entry => entry.owner = owner ∧ entry.key = key with
  | some entry => if entry.expires > now then some entry.value else none
  | none => none

end CacheStore

/-! ## States -/

/-- What an outside observer sees of a run. -/
inductive Event where
  /-- A line handed to the host, with the name of the thread that printed it. -/
  | printed (thread message : String)
  | standardOutput (text : String)
  | standardError (text : String)
  /-- Something the host noted. -/
  | noted (text : String)
  deriving DecidableEq

/-- A reference to a cancellation token. -/
structure TokenRef where
  index : Nat
  deriving DecidableEq, Inhabited

/-- The state of all runs. -/
structure Machine where
  heap : Heap
  thread : Thread
  cells : Array CancelCell
  tokens : Array (CancellationToken CellRef)
  /-- The token that the host cancels when a script asks it to. -/
  hostToken : Option TokenRef
  /-- Newest first. -/
  events : List Event
  cache : CacheStore
  registry : Descriptor.Registry
  disk : Disk
  /-- What the applet that is being loaded has produced so far. -/
  loading : LoadProgress
  /-- Seconds on a clock that never goes back. -/
  clock : Nat

/-- The dict of the fonts, which is there before anything runs. -/
def Heap.fonts : DictRef :=
  ⟨0⟩

/-- The heap before anything runs. -/
def Heap.initial : Heap :=
  Heap.empty.addDict
    { DictCell.ofBindings (Font.names.map fun font => (font, .str font)) with frozen := true }

namespace Machine

/-- The machine before anything ran; its thread is a placeholder. -/
def initial (disk : Disk) : Machine :=
  ⟨.initial, .named "" ⟨0⟩, #[.fresh], #[], none, [], .empty, .empty, disk, .empty, 100000⟩

/-- The cell that stops the running thread. -/
def cell (m : Machine) : CancelCell :=
  m.cells.getD m.thread.cell.index default

/-- Tells a thread to stop. -/
def cancelCell (m : Machine) (ref : CellRef) (reason : String) : Machine :=
  { m with cells := m.cells.modify ref.index fun cell => cell.cancel reason }

/-- A token by its reference. -/
def token (m : Machine) (ref : TokenRef) : CancellationToken CellRef :=
  m.tokens.getD ref.index default

/-- Puts a token in the place of another. -/
def setToken (m : Machine) (ref : TokenRef) (token : CancellationToken CellRef) : Machine :=
  { m with tokens := m.tokens.modify ref.index fun _ => token }

/-- Cancels a token and tells the threads that watch it. -/
def cancelToken (m : Machine) (ref : TokenRef) (reason : String) : Machine :=
  let (token, told) := (m.token ref).cancel reason
  told.foldl (fun m cell => m.cancelCell cell reason) (m.setToken ref token)

end Machine

/-- An action on the machine. -/
abbrev Eval :=
  EStateM Abort Machine

namespace Eval

/-- Stops with an error. -/
def fail {α : Type} (message : String) : Eval α :=
  throw (.error (.ofMessage message))

/-- The value of an optional result, or an error. -/
def require {α : Type} (message : String) : Option α → Eval α
  | some value => pure value
  | none => fail message

/-- The result of a computation that can be refused, given the wording of the refusal. -/
def accept {ε α : Type} (wording : ε → String) : Except ε α → Eval α
  | .ok value => pure value
  | .error e => fail (wording e)

/-- Reads a part of the machine. -/
def read {α : Type} (f : Machine → α) : Eval α :=
  fun m => .ok (f m) m

/-- Reads the heap. -/
def readHeap {α : Type} (f : Heap → α) : Eval α :=
  read fun m => f m.heap

/-- Changes the heap. -/
def changeHeap (f : Heap → Heap) : Eval Unit :=
  modify fun m => { m with heap := f m.heap }

/-- Changes the running thread. -/
def changeThread (f : Thread → Thread) : Eval Unit :=
  modify fun m => { m with thread := f m.thread }

/-- Runs an action and then, whether it stopped or not, changes the machine. -/
def followedBy {α : Type} (act : Eval α) (finish : Machine → Machine) : Eval α :=
  fun m =>
    match act m with
    | .ok value m => .ok value (finish m)
    | .error abort m => .error abort (finish m)

/-- Runs an action and puts something in the place of the error it stops with. -/
def mapError {α : Type} (act : Eval α) (f : Machine → EvalError → EvalError) : Eval α :=
  fun m =>
    match act m with
    | .ok value m => .ok value m
    | .error (.error e) m => .error (.error (f m e)) m
    | .error (.panic message) m => .error (.panic message) m

/-- Runs an action and gives its error as a result. -/
def attempt {α : Type} (act : Eval α) : Eval (Except EvalError α) :=
  fun m =>
    match act m with
    | .ok value m => .ok (.ok value) m
    | .error (.error e) m => .ok (.error e) m
    | .error (.panic message) m => .error (.panic message) m

/-- Runs an action and gives whatever stops it as a result. -/
def recover {α : Type} (act : Eval α) : Eval (Except Abort α) :=
  fun m =>
    match act m with
    | .ok value m => .ok (.ok value) m
    | .error abort m => .ok (.error abort) m

/-- Stops if the running thread was told to. -/
def checkCancelled : Eval Unit := do
  match (← read fun m => m.cell.reason) with
  | some reason => fail s!"computation cancelled: {reason}"
  | none => pure ()

/-- Moves the innermost call to a place. -/
def moveTo (pos : Position) : Eval Unit :=
  changeThread fun thread => { thread with stack := thread.stack.moveTo pos }

/-- Runs an action inside a call. -/
def inFrame {α : Type} (frame : Frame) (act : Eval α) : Eval α := do
  match (← read fun m => m.thread.stack).push? frame with
  | none => fail s!"call stack depth exceeds {deepestCalls}"
  | some stack =>
    changeThread fun thread => { thread with stack := stack }
    followedBy act fun m => { m with thread := { m.thread with stack := m.thread.stack.pop } }

/-- Runs an action one level deeper. -/
def nested {α : Type} (act : Eval α) : Eval α := do
  match (← read fun m => m.thread.depth).enter? with
  | none => fail s!"expression nesting exceeds {deepestNesting}"
  | some depth =>
    changeThread fun thread => { thread with depth := depth }
    followedBy act fun m => { m with thread := { m.thread with depth := m.thread.depth.leave } }

/-- Records what an observer sees. -/
def record (event : Event) : Eval Unit :=
  modify fun m => { m with events := event :: m.events }

/-- Prints a line of the running thread. -/
def print (message : String) : Eval Unit := do
  let thread ← read Machine.thread
  match thread.printing with
  | .standardError => record (.standardError (message ++ "\n"))
  | .standardOutput tag => record (.standardOutput s!"[{tag}] {message}\n")
  | .host => record (.printed thread.name message)
  | .nowhere => pure ()

/-- A cell that nobody has cancelled. -/
def newCell : Eval CellRef :=
  fun m => .ok ⟨m.cells.size⟩ { m with cells := m.cells.push .fresh }

/-- A token that nobody has cancelled. -/
def newToken : Eval TokenRef :=
  fun m => .ok ⟨m.tokens.size⟩ { m with tokens := m.tokens.push .fresh }

/-- The number of the next object. -/
def newIdentity : Eval Identity :=
  fun m =>
    .ok (.fresh m.heap.nextIdentity)
      { m with heap := { m.heap with nextIdentity := m.heap.nextIdentity + 1 } }

/-- Ends the running thread: its cleanups run, and the thread that waited goes on. -/
def endThread (waiting : Thread) (m : Machine) : Machine :=
  { m with
    events := (m.thread.cleanups.map Event.noted).reverse ++ m.events
    thread := waiting }

/-- Runs an action on a new thread, which ends with the action. -/
def onThread {α : Type} (name : String) (act : Eval α) : Eval α := do
  let waiting ← read Machine.thread
  let cell ← newCell
  modify fun m => { m with thread := .named name cell }
  followedBy act (endThread waiting)

end Eval

end PixelApplet
