import PixelApplet.Library.Patterns

/-!
# Assertions for scripts

A failed assertion is noted where the host collects failures, and then the script goes on; without a
collection it fails the call.
-/

namespace PixelApplet.Assertions

/-- The key under which a thread keeps the failures it collects. -/
def key : String :=
  "assert.failures"

/-- The failures collected on a thread, if it collects them. -/
def failures? (thread : Thread) : Option (List String) :=
  match thread.attached? key with
  | some (.failures messages) => some messages
  | _ => none

/-- A thread that collects failures. -/
def collecting (messages : List String) (thread : Thread) : Thread :=
  thread.attach key (.failures messages)

/-- Reports a failed assertion. -/
def report (message : String) : Eval Value := do
  match failures? (← Eval.read Machine.thread) with
  | some messages => do
    Eval.changeThread (collecting (messages ++ [message]))
    return .none
  | none => Eval.fail message

/-- Reports a failed assertion with the script's own words in front. -/
def reportWith (custom : Slot) (message : String) : Eval Value := do
  match custom with
  | none | some .none => report message
  | some words => do
    let shown ← Eval.readHeap words.text
    report s!"{shown}: {message}"

/-- An assertion about two values: whether it holds, and what stands between their texts when it
does not. -/
def compareTwo (function first second between : String) (arguments : Arguments)
    (holds : Value → Value → Eval Bool) : Eval Value := do
  let r ← receive function [.needed first, .needed second, .optional "msg"] arguments
  let a := r.value first
  let b := r.value second
  if ← holds a b then return .none
  else
    let message ← Eval.readHeap fun h => a.repr h ++ between ++ b.repr h
    reportWith (r.slot "msg") message

/-- The assertion that a call fails with an error in which a pattern is found. -/
def fails (call : Value → Arguments → Eval Value) (arguments : Arguments) : Eval Value := do
  let r ← receive "fails" [.needed "f", .needed "pattern"] arguments
  match r.value "pattern" with
  | .str pattern => do
    let matcher ← Eval.matcher "fails" pattern
    match ← Eval.attempt (call (r.value "f") .empty) with
    | .ok _ =>
      report s!"evaluation succeeded unexpectedly (want error matching {Text.quote pattern})"
    | .error e =>
      if matcher.isFound e.message then return .str e.message
      else report s!"regular expression ({pattern}) did not match error ({e.message})"
  | other => Eval.fail ((ArgumentFault.wrongType "pattern" other.typeName "string").text "fails")

/-- What an assertion does with its arguments; `call` calls a value. -/
def run (call : Value → Arguments → Eval Value) (f : AssertFunction) (arguments : Arguments) :
    Eval Value := do
  match f with
  | .eq => compareTwo "eq" "got" "want" " != " arguments fun a b =>
      Eval.readHeap fun h => a.equal h b
  | .ne => compareTwo "ne" "got" "unwanted" " == " arguments fun a b =>
      Eval.readHeap fun h => !a.equal h b
  | .lt => compareTwo "lt" "a" "b" " is not less than " arguments fun a b => do
      return (← Eval.accept Value.Incomparable.text (← Eval.readHeap fun h => a.order h b)) == .lt
  | .contains =>
    compareTwo "contains" "container" "item" " does not contain " arguments fun a b =>
      Eval.operate fun h => a.contains h b
  | .true_ => do
    let r ← receive "true" [.needed "cond", .optional "msg"] arguments
    let condition := r.value "cond"
    if ← Eval.readHeap condition.truth then return .none
    else
      let shown ← Eval.readHeap condition.repr
      reportWith (r.slot "msg") s!"assertion failed: {shown} is not truthy"
  | .fails => fails call arguments

end PixelApplet.Assertions
