import PixelApplet.Proofs.Evaluation.Posture

/-!
# The course of an error

An error is raised somewhere and leaves what is in progress there, one thing after the other:
builtin functions, call expressions, statements and the bodies of functions.  Some of these mark it
on its way.  The course of the error lists what it leaves, outermost first, so the marks are applied
from the end of the list.

What can enclose what is the same in every script: the body of a function consists of statements,
which stand inside of each other; in the innermost of them, a call expression calls builtin
functions, the last of which may call a function of a script, with a body again.  This alone decides
what an error shows of its course.
-/

namespace PixelApplet

/-- Something in progress that an error leaves. -/
inductive Layer where
  | builtin (name : String)
  /-- A call expression at a place, the callee and the arguments of which are known. -/
  | call (pos : Position)
  /-- The body of a function or of a file. -/
  | body (frame : Frame)
  /-- A statement, with the calls that are open when the error leaves it. -/
  | statement (stack : CallStack)

namespace Layer

/-- What a layer notes on an error that leaves it. -/
def mark : Layer → EvalError → EvalError
  | builtin name, e => e.blame name
  | statement stack, e => e.trace stack.trace
  | call _, e => e
  | body _, e => e

def isBuiltin : Layer → Bool
  | builtin _ => true
  | _ => false

def isBody : Layer → Bool
  | body _ => true
  | _ => false

def isStatement : Layer → Bool
  | statement _ => true
  | _ => false

end Layer

/-- An error after it has left a course. -/
def EvalError.leaving (e : EvalError) (course : List Layer) : EvalError :=
  course.foldr Layer.mark e

/-- Nothing was noted on an error yet. -/
def EvalError.Unmarked (e : EvalError) : Prop :=
  e.callee = none ∧ e.backtrace = []

/-! ## Open calls -/

namespace Frame

/-- The open calls, with the innermost moved to a place. -/
def moveTo (pos : Position) : List Frame → List Frame
  | [] => []
  | frame :: rest => { frame with pos := pos } :: rest

/-- The same calls are open; only the places that the innermost has reached may differ. -/
def SameCalls (frames frames' : List Frame) : Prop :=
  frames.map call = frames'.map call ∧ frames.tail = frames'.tail

namespace SameCalls

variable {a b c : List Frame}

theorem refl (a : List Frame) : SameCalls a a :=
  ⟨rfl, rfl⟩

theorem symm (same : SameCalls a b) : SameCalls b a :=
  ⟨same.1.symm, same.2.symm⟩

theorem trans (first : SameCalls a b) (second : SameCalls b c) : SameCalls a c :=
  ⟨first.1.trans second.1, first.2.trans second.2⟩

theorem moveTo (pos : Position) (a : List Frame) : SameCalls (Frame.moveTo pos a) a := by
  cases a <;> exact ⟨rfl, rfl⟩

/-- Where the innermost call moves, it does not matter where it was. -/
theorem moveTo_eq (same : SameCalls a b) (pos : Position) :
    Frame.moveTo pos a = Frame.moveTo pos b := by
  obtain ⟨calls, rest⟩ := same
  cases a with
  | nil =>
    cases b with
    | nil => rfl
    | cons => cases calls
  | cons f fs =>
    cases b with
    | nil => cases calls
    | cons g gs =>
      obtain ⟨head, -⟩ := List.cons.inj calls
      obtain ⟨name, file⟩ := Prod.mk.inj head
      have rest : fs = gs := rest
      simp only [Frame.moveTo, name, file, rest]

end SameCalls

end Frame

theorem CallStack.frames_moveTo (stack : CallStack) (pos : Position) :
    (stack.moveTo pos).frames = Frame.moveTo pos stack.frames := by
  unfold CallStack.moveTo
  split
  · rename_i empty
    rw [empty]
    rfl
  · rename_i frame rest frames
    exact (congrArg (Frame.moveTo pos) frames).symm

/-- The open calls inside of a layer. -/
def Layer.inside (frames : List Frame) : Layer → List Frame
  | body frame => frame :: frames
  | call pos => Frame.moveTo pos frames
  | builtin _ => frames
  | statement _ => frames

/-! ## What encloses what -/

/-- What is in progress: a call of some value, something in a statement, or the statements of a
body. -/
inductive Stage where
  | calling
  | evaluating
  | executing

/-- What is in progress leaves these calls open instead of those.  What is called leaves them as
they were; what is evaluated or executed may move the innermost. -/
def Stage.Keeps : Stage → List Frame → List Frame → Prop
  | calling, frames, frames' => frames = frames'
  | evaluating, frames, frames' => Frame.SameCalls frames frames'
  | executing, frames, frames' => Frame.SameCalls frames frames'

namespace Stage.Keeps

variable {stage : Stage} {a b c : List Frame}

theorem of_eq (same : a = b) : stage.Keeps a b := by
  subst same
  cases stage
  · rfl
  · exact .refl a
  · exact .refl a

theorem trans (first : stage.Keeps a b) (second : stage.Keeps b c) : stage.Keeps a c := by
  cases stage
  · exact Eq.trans first second
  · exact Frame.SameCalls.trans first second
  · exact Frame.SameCalls.trans first second

end Stage.Keeps

/-- A course may be left where the given calls are open. -/
inductive Crosses : Stage → List Frame → List Layer → Prop where
  | called {frames : List Frame} : Crosses .calling frames []
  | builtin {frames : List Frame} {course : List Layer} (name : String)
    (within : Crosses .calling frames course) : Crosses .calling frames (.builtin name :: course)
  | body {frames : List Frame} {course : List Layer} {frame : Frame}
    (within : Crosses .executing (frame :: frames) course) :
    Crosses .calling frames (.body frame :: course)
  | evaluated {frames : List Frame} : Crosses .evaluating frames []
  | call {frames : List Frame} {course : List Layer} {pos : Position}
    (within : Crosses .calling (Frame.moveTo pos frames) course) :
    Crosses .evaluating frames (.call pos :: course)
  | inner {frames : List Frame} {course : List Layer}
    (within : Crosses .executing frames course) : Crosses .evaluating frames course
  | statement {frames : List Frame} {course : List Layer} {stack : CallStack}
    (same : Frame.SameCalls frames stack.frames) (within : Crosses .evaluating frames course) :
    Crosses .executing frames (.statement stack :: course)

namespace Crosses

variable {stage : Stage} {frames frames' : List Frame} {course above below : List Layer}
  {stack : CallStack}

/-- Where the same course may be left. -/
theorem of_keeps (crosses : Crosses stage frames course) (keeps : stage.Keeps frames' frames) :
    Crosses stage frames' course := by
  induction crosses generalizing frames' with
  | called => exact .called
  | builtin name within _ => exact (show _ = _ from keeps) ▸ .builtin name within
  | body within _ => exact (show _ = _ from keeps) ▸ .body within
  | evaluated => exact .evaluated
  | call within _ => exact .call (Frame.SameCalls.moveTo_eq keeps _ ▸ within)
  | inner _ ih => exact .inner (ih keeps)
  | statement same _ ih => exact .statement (.trans keeps same) (ih keeps)

/-- Statements stand in the body of some call. -/
theorem exists_open (crosses : Crosses stage frames course)
    (opened : stage ≠ .calling → frames ≠ []) (crossed : .statement stack ∈ course) : stack.frames ≠ [] := by
  induction crosses with
  | called => cases crossed
  | builtin name _ ih =>
    cases crossed with
    | tail _ deeper => exact ih opened deeper
  | body _ ih =>
    cases crossed with
    | tail _ deeper => exact ih (fun _ => List.cons_ne_nil _ _) deeper
  | evaluated => cases crossed
  | call _ ih =>
    cases crossed with
    | tail _ deeper => exact ih nofun deeper
  | inner _ ih => exact ih (fun _ => opened nofun) crossed
  | statement same _ ih =>
    cases crossed with
    | head =>
      intro empty
      rw [empty] at same
      exact opened nofun (List.map_eq_nil_iff.mp same.1)
    | tail _ deeper => exact ih (fun _ => opened nofun) deeper

/-- When an error leaves a statement, the open calls are those whose bodies it has not left. -/
theorem sameCalls_of_statement
    (crosses : Crosses stage frames (above ++ .statement stack :: below)) :
    Frame.SameCalls (above.foldl Layer.inside frames) stack.frames := by
  generalize split : above ++ .statement stack :: below = course at crosses
  induction crosses generalizing above with
  | called => cases above <;> cases split
  | builtin name _ ih =>
    cases above with
    | nil => cases split
    | cons layer above =>
      cases split
      exact @ih above rfl
  | body _ ih =>
    cases above with
    | nil => cases split
    | cons layer above =>
      cases split
      exact @ih above rfl
  | evaluated => cases above <;> cases split
  | call _ ih =>
    cases above with
    | nil => cases split
    | cons layer above =>
      cases split
      exact @ih above rfl
  | inner _ ih => exact ih split
  | statement same _ ih =>
    cases above with
    | nil =>
      cases split
      exact same
    | cons layer above =>
      cases split
      exact @ih above rfl

end Crosses

/-! ## What the marks amount to -/

namespace EvalError

variable {e : EvalError} {course : List Layer} {frames : List StackFrame}

/-- Once the open calls are noted, the error stays as it is. -/
theorem mark_of_traced (traced : e.backtrace ≠ []) (layer : Layer) : layer.mark e = e := by
  have known : e.backtrace.isEmpty = false := List.isEmpty_eq_false_iff.mpr traced
  cases layer with
  | builtin name => simp [Layer.mark, blame, known]
  | statement stack => simp [Layer.mark, trace, known]
  | call pos => rfl
  | body frame => rfl

theorem leaving_of_traced (traced : e.backtrace ≠ []) (course : List Layer) :
    e.leaving course = e := by
  induction course with
  | nil => rfl
  | cons layer course ih =>
    show layer.mark (e.leaving course) = e
    rw [ih]
    exact mark_of_traced traced layer

theorem leaving_append (e : EvalError) (above below : List Layer) :
    e.leaving (above ++ below) = (e.leaving below).leaving above :=
  List.foldr_append

theorem callee_trace (e : EvalError) (frames : List StackFrame) :
    (e.trace frames).callee = e.callee := by
  unfold trace
  split <;> rfl

theorem backtrace_blame (e : EvalError) (name : String) :
    (e.blame name).backtrace = e.backtrace := by
  unfold blame
  split <;> rfl

theorem backtrace_trace (untraced : e.backtrace = []) : (e.trace frames).backtrace = frames := by
  simp [trace, untraced]

/-- Nothing but statements notes the open calls. -/
theorem leaving_untraced (untraced : e.backtrace = [])
    (noStatement : ∀ layer ∈ course, layer.isStatement = false) :
    (e.leaving course).backtrace = [] := by
  induction course with
  | nil => exact untraced
  | cons layer course ih =>
    obtain ⟨plain, others⟩ := List.forall_mem_cons.mp noStatement
    show (layer.mark (e.leaving course)).backtrace = []
    cases layer with
    | builtin name => exact (backtrace_blame _ name).trans (ih others)
    | call pos => exact ih others
    | body frame => exact ih others
    | statement stack => cases plain

/-- A builtin function leaves alone what was noted already. -/
theorem blame_of_noted (noted : e.callee ≠ none ∨ e.backtrace ≠ []) (name : String) :
    e.blame name = e := by
  rcases noted with known | traced
  · have known : e.callee.isNone = false :=
      Option.isNone_eq_false_iff.mpr (Option.isSome_iff_ne_none.mpr known)
    simp [blame, known]
  · exact mark_of_traced traced (.builtin name)

theorem noted_blame (e : EvalError) (name : String) :
    (e.blame name).callee ≠ none ∨ (e.blame name).backtrace ≠ [] := by
  by_cases noted : e.callee ≠ none ∨ e.backtrace ≠ []
  · rw [blame_of_noted noted]
    exact noted
  · obtain ⟨unknown, untraced⟩ := not_or.mp noted
    simp [blame, Classical.not_not.mp unknown, Classical.not_not.mp untraced]

theorem Unmarked.callee_blame (unmarked : e.Unmarked) (name : String) :
    (e.blame name).callee = some name := by
  simp [blame, unmarked.1, unmarked.2]

end EvalError

/-- A builtin function is in progress, and nothing above it is but what is evaluated for it: neither
a function of a script nor another builtin function. -/
def InnermostBuiltin (name : String) (course : List Layer) : Prop :=
  ∃ above below, course = above ++ .builtin name :: below
    ∧ ∀ layer ∈ below, layer.isBuiltin = false ∧ layer.isBody = false

theorem innermostBuiltin_cons {name : String} {layer : Layer} {course : List Layer} :
    InnermostBuiltin name (layer :: course)
      ↔ (layer = .builtin name ∧ ∀ inner ∈ course, inner.isBuiltin = false ∧ inner.isBody = false)
        ∨ InnermostBuiltin name course := by
  constructor
  · rintro ⟨above, below, split, plain⟩
    cases above with
    | nil =>
      cases split
      exact .inl ⟨rfl, plain⟩
    | cons _ above =>
      cases split
      exact .inr ⟨above, below, rfl, plain⟩
  · rintro (⟨rfl, plain⟩ | ⟨above, below, rfl, plain⟩)
    · exact ⟨[], course, rfl, plain⟩
    · exact ⟨layer :: above, below, rfl, plain⟩

theorem not_innermostBuiltin_nil {name : String} : ¬InnermostBuiltin name [] := by
  rintro ⟨above, below, split, -⟩
  cases above <;> cases split

namespace Crosses

variable {stage : Stage} {frames : List Frame} {course above below : List Layer} {e : EvalError}
  {stack : CallStack}

/-- What is called notes something, unless the call itself raised the error. -/
theorem noted_of_calling (crosses : Crosses .calling frames course) (inside : course ≠ []) :
    (e.leaving course).callee ≠ none ∨ (e.leaving course).backtrace ≠ [] := by
  cases crosses with
  | called => exact absurd rfl inside
  | @builtin _ course name within => exact EvalError.noted_blame (e.leaving course) name
  | @body _ course frame within =>
    have opened : (Stage.executing ≠ .calling → frame :: frames ≠ []) :=
      fun _ => List.cons_ne_nil _ _
    cases within with
    | @statement _ course stack same within =>
      have nonempty : stack.frames ≠ [] :=
        exists_open (.statement same within) opened (.head _)
      refine .inr ?_
      show ((e.leaving course).trace stack.trace).backtrace ≠ []
      by_cases traced : (e.leaving course).backtrace = []
      · rw [EvalError.backtrace_trace traced]
        simp [CallStack.trace, nonempty]
      · rw [show (e.leaving course).trace stack.trace = _ from
          EvalError.mark_of_traced traced (.statement stack)]
        exact traced

/-- The error names the innermost builtin function, if no function of a script is in progress above
it. -/
theorem callee_iff (crosses : Crosses stage frames course) (unmarked : e.Unmarked) (name : String) :
    (e.leaving course).callee = some name ↔ InnermostBuiltin name course := by
  induction crosses with
  | called =>
    refine iff_of_false ?_ not_innermostBuiltin_nil
    rw [show e.leaving [] = e from rfl, unmarked.1]
    exact nofun
  | @builtin frames course known within ih =>
    show ((e.leaving course).blame known).callee = some name ↔ _
    rw [innermostBuiltin_cons]
    by_cases inside : course = []
    · subst inside
      rw [show e.leaving [] = e from rfl, unmarked.callee_blame]
      simp [not_innermostBuiltin_nil]
    · rw [EvalError.blame_of_noted (within.noted_of_calling inside), ih]
      refine (or_iff_right ?_).symm
      rintro ⟨-, plain⟩
      cases within with
      | called => exact inside rfl
      | builtin => exact nomatch (plain _ (.head _)).1
      | body => exact nomatch (plain _ (.head _)).2
  | body _ ih =>
    rw [innermostBuiltin_cons]
    exact ih.trans (or_iff_right fun ⟨same, _⟩ => nomatch same).symm
  | evaluated =>
    refine iff_of_false ?_ not_innermostBuiltin_nil
    rw [show e.leaving [] = e from rfl, unmarked.1]
    exact nofun
  | call _ ih =>
    rw [innermostBuiltin_cons]
    exact ih.trans (or_iff_right fun ⟨same, _⟩ => nomatch same).symm
  | inner _ ih => exact ih
  | @statement frames course stack same within ih =>
    show ((e.leaving course).trace stack.trace).callee = some name ↔ _
    rw [EvalError.callee_trace, innermostBuiltin_cons]
    exact ih.trans (or_iff_right fun ⟨same, _⟩ => nomatch same).symm

end Crosses

/-! ## What an error shows -/

/-- The function and the file of a line of a traceback. -/
def StackFrame.call (frame : StackFrame) : String × String :=
  (frame.name, frame.pos.file)

/-- What an error shows of the course that it has left, where the given calls were open. -/
structure EvalError.Shows (e : EvalError) (frames : List Frame) (raw : EvalError)
    (course : List Layer) : Prop where
  /-- The traceback is the stack with which the error left the innermost statement: the calls that
  were open already, and those whose bodies the statement is in.  The error has been the same
  since then. -/
  traced : ∀ above stack below, course = above ++ .statement stack :: below →
    (∀ layer ∈ below, layer.isStatement = false) →
      e.backtrace = stack.trace
        ∧ e.backtrace.map StackFrame.call
          = ((above.foldl Layer.inside frames).map Frame.call).reverse
        ∧ ∀ outer inner, above = outer ++ inner →
          raw.leaving (inner ++ .statement stack :: below) = e
  untraced : (∀ layer ∈ course, layer.isStatement = false) → e.backtrace = []
  blamed : ∀ name, e.callee = some name ↔ InnermostBuiltin name course

/-- All lines of a traceback but the last show the calls around the innermost, each at the place of
the call expression that the course has left there. -/
def EvalError.PlacesCalls (e : EvalError) (frames : List Frame) (course : List Layer) : Prop :=
  ∀ above stack below, course = above ++ .statement stack :: below →
    (∀ layer ∈ below, layer.isStatement = false) →
      e.backtrace.dropLast = ((above.foldl Layer.inside frames).tail.map Frame.shown).reverse

theorem CallStack.trace_map_call (stack : CallStack) :
    stack.trace.map StackFrame.call = (stack.frames.map Frame.call).reverse := by
  rw [CallStack.trace, List.map_map, List.map_reverse]
  rfl

namespace Crosses

variable {frames : List Frame} {course above below : List Layer} {e : EvalError}
  {stack : CallStack}

/-- The innermost statement that an error leaves notes the open calls, for there are some. -/
theorem backtrace_of_statement
    (crosses : Crosses .calling frames (above ++ .statement stack :: below))
    (unmarked : e.Unmarked) (innermost : ∀ layer ∈ below, layer.isStatement = false) :
    (e.leaving (.statement stack :: below)).backtrace = stack.trace ∧ stack.trace ≠ [] := by
  have opened : stack.frames ≠ [] :=
    crosses.exists_open (fun other => absurd rfl other) (by simp)
  refine ⟨EvalError.backtrace_trace (EvalError.leaving_untraced unmarked.2 innermost), ?_⟩
  simp [CallStack.trace, opened]

theorem shows (crosses : Crosses .calling frames course) (unmarked : e.Unmarked) :
    (e.leaving course).Shows frames e course where
  traced := by
    rintro above stack below rfl innermost
    obtain ⟨traced, nonempty⟩ := crosses.backtrace_of_statement unmarked innermost
    -- every layer further out finds the calls noted
    have same (outer : List Layer) : e.leaving (outer ++ .statement stack :: below)
        = e.leaving (.statement stack :: below) := by
      rw [EvalError.leaving_append]
      exact EvalError.leaving_of_traced (traced ▸ nonempty) outer
    have noted : (e.leaving (above ++ .statement stack :: below)).backtrace = stack.trace := by
      rw [same, traced]
    refine ⟨noted, ?_, fun outer inner _ => (same inner).trans (same above).symm⟩
    rw [noted, stack.trace_map_call, crosses.sameCalls_of_statement.1]
  untraced := EvalError.leaving_untraced unmarked.2
  blamed := crosses.callee_iff unmarked

theorem placesCalls (crosses : Crosses .calling frames course) (unmarked : e.Unmarked) :
    (e.leaving course).PlacesCalls frames course := by
  rintro above stack below rfl innermost
  obtain ⟨noted, -⟩ := (crosses.shows unmarked).traced above stack below rfl innermost
  rw [noted, crosses.sameCalls_of_statement.2, CallStack.trace, List.map_reverse,
    List.dropLast_reverse, List.map_tail]

end Crosses

end PixelApplet
