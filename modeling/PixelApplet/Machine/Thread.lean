import PixelApplet.Applet.Fault
import PixelApplet.Machine.Cancellation
import PixelApplet.Text.Position

/-!
# Threads

A thread is the context of one invocation: where it prints, whether it was told to stop, what the
host has attached to it, and the calls that are open.  Neither the calls nor the nesting of
expressions can exceed their limits, for the stack and the depth carry the proof.
-/

/-! ## Failures

An error carries its message, the builtin function that raised it, and the calls that were open when
it left the innermost statement.  A script can also be aborted by a failure of the host itself.
-/

namespace PixelApplet

/-- An open call: the function, and the place of the statement or call it is executing. -/
structure StackFrame where
  name : String
  pos : FilePosition
  deriving DecidableEq

/-- One line of a traceback. -/
def StackFrame.text (frame : StackFrame) : String :=
  s!"{frame.pos.text}: in {frame.name}"

/-- Why a module cannot be loaded. -/
inductive LoadFault where
  /-- A file of the same applet failed to load. -/
  | sibling (fault : AppletFault)
  /-- The host refused. -/
  | refused (reason : String)

/-- The wording of a load fault. -/
def LoadFault.text : LoadFault → String
  | sibling fault => fault.text
  | refused reason => reason

/-- An error raised while a script runs. -/
structure EvalError where
  message : String
  /-- The builtin function that raised the error. -/
  callee : Option String
  /-- The open calls when the error left the innermost statement, outermost first. -/
  backtrace : List StackFrame
  /-- What made a load statement fail. -/
  cause : Option LoadFault

namespace EvalError

/-- An error that nothing but its message is known of. -/
def ofMessage (message : String) : EvalError :=
  ⟨message, none, [], none⟩

/-- Notes the builtin function that raised the error, unless one is known or a statement was left.
-/
def blame (e : EvalError) (name : String) : EvalError :=
  if e.callee.isNone && e.backtrace.isEmpty then { e with callee := some name } else e

/-- Notes the open calls, unless they are known. -/
def trace (e : EvalError) (frames : List StackFrame) : EvalError :=
  if e.backtrace.isEmpty then { e with backtrace := frames } else e

/-- The traceback, innermost call last. -/
def traceback (e : EvalError) : String :=
  "Traceback (most recent call last):\n"
    ++ String.join (e.backtrace.map fun frame => s!"  {frame.text}\n")
    ++ match e.callee with
      | some callee => s!"Error in {callee}: {e.message}"
      | none => s!"Error: {e.message}"

/-- The message with the innermost place and the builtin function in front. -/
def text (e : EvalError) : String :=
  (match e.backtrace.getLast? with
    | some frame => s!"{frame.pos.text}: "
    | none => "")
    ++ (match e.callee with
      | some callee => s!"in {callee}: "
      | none => "")
    ++ e.message

end EvalError

/-- Why running a script stops. -/
inductive Abort where
  | error (e : EvalError)
  /-- The host failed. -/
  | panic (message : String)

/-! ## Open calls -/

/-- The greatest number of open calls. -/
def deepestCalls : Nat :=
  128

/-- The greatest number of expressions nested in each other, counted across calls. -/
def deepestNesting : Nat :=
  1000

/-- An open call of a function in a file, and the place it has reached. -/
structure Frame where
  name : String
  file : String
  pos : Position
  deriving DecidableEq

/-- The call as a line of a traceback shows it. -/
def Frame.shown (frame : Frame) : StackFrame :=
  ⟨frame.name, ⟨frame.file, frame.pos⟩⟩

/-- The open calls, innermost first. -/
structure CallStack where
  frames : List Frame
  fits : frames.length ≤ deepestCalls

namespace CallStack

/-- The stack without calls. -/
def empty : CallStack :=
  ⟨[], Nat.zero_le _⟩

instance : Inhabited CallStack :=
  ⟨empty⟩

/-- Opens a call, if there is room. -/
def push? (stack : CallStack) (frame : Frame) : Option CallStack :=
  if h : stack.frames.length < deepestCalls then some ⟨frame :: stack.frames, h⟩ else none

/-- Closes the innermost call. -/
def pop (stack : CallStack) : CallStack :=
  ⟨stack.frames.tail, by
    have := stack.fits
    rw [List.length_tail]
    omega⟩

/-- Moves the innermost call to a place. -/
def moveTo (stack : CallStack) (pos : Position) : CallStack :=
  match h : stack.frames with
  | [] => stack
  | frame :: rest =>
    ⟨{ frame with pos := pos } :: rest, by
      have := stack.fits
      rw [h] at this
      exact this⟩

/-- The open calls as a traceback lists them, outermost first. -/
def trace (stack : CallStack) : List StackFrame :=
  stack.frames.reverse.map Frame.shown

end CallStack

/-- How deep expressions are nested at a moment. -/
abbrev Depth :=
  Fin (deepestNesting + 1)

/-- One level deeper, if the limit allows it. -/
def Depth.enter? (depth : Depth) : Option Depth :=
  if h : depth.val < deepestNesting then some ⟨depth.val + 1, Nat.succ_lt_succ h⟩ else none

/-- One level less deep. -/
def Depth.leave (depth : Depth) : Depth :=
  ⟨depth.val - 1, Nat.lt_of_le_of_lt (Nat.sub_le _ _) depth.isLt⟩

/-- Where the lines that a thread prints go. -/
inductive PrintTarget where
  | standardError
  /-- Standard output, behind a tag in brackets. -/
  | standardOutput (tag : String)
  /-- The host takes them. -/
  | host
  | nowhere
  deriving DecidableEq

/-- Opens a sealed text for an applet. -/
abbrev Decrypter :=
  (appletId sealedText : String) → Except String String

/-- What a host attaches to a thread. -/
inductive Attachment where
  | text (text : String)
  | count (n : Nat)
  /-- Collects failed assertions in the order in which they were reported. -/
  | failures (messages : List String)
  | decrypter (open_ : Decrypter)
  /-- The state of a random generator. -/
  | generator (state : UInt64)

/-- A reference to a cancel cell. -/
structure CellRef where
  index : Nat
  deriving DecidableEq, Inhabited

/-- The context of one invocation. -/
structure Thread where
  name : String
  printing : PrintTarget
  cell : CellRef
  attachments : List (String × Attachment)
  /-- What is noted when the thread ends, in order of registration. -/
  cleanups : List String
  stack : CallStack
  depth : Depth

namespace Thread

/-- A thread on which nothing has happened. -/
def named (name : String) (cell : CellRef) : Thread :=
  ⟨name, .standardError, cell, [], [], .empty, 0⟩

instance : Inhabited Thread :=
  ⟨named "" default⟩

/-- What is attached under a key. -/
def attached? (thread : Thread) (key : String) : Option Attachment :=
  thread.attachments.lookup key

/-- Attaches something under a key, in place of what was there. -/
def attach (thread : Thread) (key : String) (attachment : Attachment) : Thread :=
  { thread with
    attachments := (key, attachment) :: thread.attachments.filter fun entry => entry.1 ≠ key }

/-- Adds something that is noted when the thread ends. -/
def noteAtEnd (thread : Thread) (note : String) : Thread :=
  { thread with cleanups := thread.cleanups ++ [note] }

/-- The thread as diagnostics show it, given the cell that stops it. -/
def describe (thread : Thread) (cell : CancelCell) : String :=
  "Thread \x7b name: " ++ Text.quote thread.name ++ ", cancelled: " ++ toString cell.isCancelled
    ++ ", depth: " ++ toString thread.stack.frames.length ++ " \x7d"

end Thread

end PixelApplet
