import PixelApplet.Library.Assertions
import PixelApplet.Proofs.Evaluation.Places

/-!
# Logs of failed assertions

A thread may have a log, in which failed assertions are collected.  The log is attached to the
thread, and everything else that is attached to it is found as if there was no log.
-/

namespace PixelApplet

namespace Thread

variable (thread : Thread) {key : String}

/-- The thread without a log. -/
def unlogged : Thread :=
  { thread with attachments := thread.attachments.filter fun entry => entry.1 ≠ Assertions.key }

@[simp] theorem unlogged_unlogged : thread.unlogged.unlogged = thread.unlogged := by
  unfold unlogged
  rw [List.filter_filter]
  simp only [Bool.and_self]

theorem lookup_filter_of_ne {α : Type} {hidden : String} (other : key ≠ hidden)
    (entries : List (String × α)) :
    (entries.filter fun entry => entry.1 ≠ hidden).lookup key = entries.lookup key := by
  induction entries with
  | nil => rfl
  | cons entry rest ih =>
    rw [List.filter_cons]
    by_cases isHidden : entry.1 = hidden
    · rw [if_neg (by simpa using isHidden), ih, List.lookup_cons, beq_false_of_ne]
      exact fun same => other (same.trans isHidden)
    · rw [if_pos (by simpa using isHidden), List.lookup_cons, List.lookup_cons, ih]

/-- What is attached under another key is found. -/
@[simp] theorem attached?_unlogged (other : key ≠ Assertions.key) :
    thread.unlogged.attached? key = thread.attached? key :=
  lookup_filter_of_ne other thread.attachments

theorem unlogged_attach (other : key ≠ Assertions.key) (attachment : Attachment) :
    (thread.attach key attachment).unlogged = thread.unlogged.attach key attachment := by
  unfold unlogged attach
  dsimp only
  rw [List.filter_cons, if_pos (by simpa using other), List.filter_filter, List.filter_filter]
  simp only [Bool.and_comm]

/-- No log is found without it. -/
theorem attached?_key_unlogged : thread.unlogged.attached? Assertions.key = none := by
  refine List.lookup_eq_none_iff.mpr fun entry member => ?_
  have other : entry.1 ≠ Assertions.key := of_decide_eq_true (List.mem_filter.mp member).2
  exact bne_iff_ne.mpr (Ne.symm other)

/-- A log is all that collecting attaches. -/
@[simp] theorem unlogged_collecting (messages : List String) :
    (Assertions.collecting messages thread).unlogged = thread.unlogged := by
  unfold Assertions.collecting unlogged attach
  dsimp only
  rw [List.filter_cons, if_neg (by simp), List.filter_filter]
  simp only [Bool.and_self]

end Thread

namespace Assertions

variable (thread : Thread)

@[simp] theorem failures?_collecting (messages : List String) :
    failures? (collecting messages thread) = some messages := by
  unfold failures? collecting Thread.attached? Thread.attach
  rw [List.lookup_cons_self]

@[simp] theorem failures?_unlogged : failures? thread.unlogged = none := by
  unfold failures?
  rw [thread.attached?_key_unlogged]

theorem failures?_attach {key : String} (other : key ≠ Assertions.key) (attachment : Attachment) :
    failures? (thread.attach key attachment) = failures? thread := by
  have found : (thread.attach key attachment).attached? Assertions.key
      = thread.attached? Assertions.key := by
    unfold Thread.attached? Thread.attach
    rw [List.lookup_cons, beq_false_of_ne (Ne.symm other)]
    exact Thread.lookup_filter_of_ne (Ne.symm other) thread.attachments
  unfold failures?
  rw [found]

end Assertions

namespace Machine

variable (m : Machine)

/-- The machine whose thread has no log. -/
def unlogged : Machine :=
  { m with thread := m.thread.unlogged }

/-- The machine whose thread collects failures behind some messages. -/
def logging (messages : List String) : Machine :=
  { m with thread := Assertions.collecting messages m.thread }

/-- What the running thread has collected, if it collects failures. -/
def log? : Option (List String) :=
  Assertions.failures? m.thread

@[simp] theorem unlogged_unlogged : m.unlogged.unlogged = m.unlogged :=
  congrArg (fun thread => { m with thread := thread }) m.thread.unlogged_unlogged

@[simp] theorem unlogged_logging (messages : List String) :
    (m.logging messages).unlogged = m.unlogged :=
  congrArg (fun thread => { m with thread := thread }) (m.thread.unlogged_collecting messages)

@[simp] theorem log?_unlogged : m.unlogged.log? = none :=
  Assertions.failures?_unlogged m.thread

@[simp] theorem log?_logging (messages : List String) :
    (m.logging messages).log? = some messages :=
  Assertions.failures?_collecting m.thread messages

end Machine

namespace Eval

variable {α : Type} {m : Machine}

/-- The ending of an action with the log left out. -/
def Ending.unlogged : Ending α → Ending α
  | .ok value m => .ok value m.unlogged
  | .error abort m => .error abort m.unlogged

theorem report_of_log {messages : List String} (logs : m.log? = some messages) (message : String) :
    Assertions.report message m = .ok .none (m.logging (messages ++ [message])) := by
  have looks : Eval.read Machine.thread m = .ok m.thread m := rfl
  have found : Assertions.failures? m.thread = some messages := logs
  rw [Assertions.report, bind_ok looks, found]
  rfl

theorem report_of_no_log (silent : m.log? = none) (message : String) :
    Assertions.report message m = Eval.fail message m := by
  have looks : Eval.read Machine.thread m = .ok m.thread m := rfl
  have absent : Assertions.failures? m.thread = none := silent
  rw [Assertions.report, bind_ok looks, absent]

end Eval

end PixelApplet
