import PixelApplet.Proofs.Evaluation.CallStack
import PixelApplet.Proofs.Evaluation.Statements

/-!
# How far a block is executed

A statement of a block leaves it by a return, or by a `break` or `continue` that stands in no loop
of the block.  The parser accepts a return only inside a function, but jumps anywhere.  So a file
that is executed without an error goes on from statement to statement up to its end, unless a jump
outside of all loops ends it early.
-/

namespace PixelApplet

mutual

/-- Whether a `break` or `continue` stands in a statement, but in no loop or function in it. -/
def Stmt.jumps : Stmt → Bool
  | .break_ _ | .continue_ _ => true
  | .if_ _ _ thenBlock elseBlock => Stmt.anyJumps thenBlock || Stmt.anyJumps elseBlock
  | .expr _ _ | .assign _ _ _ | .augAssign _ _ _ _ | .define _ _ | .return_ _ _ | .for_ _ _ _ _
  | .pass _ | .load _ _ _ => false

/-- Whether one of several statements may jump. -/
def Stmt.anyJumps : List Stmt → Bool
  | [] => false
  | s :: rest => s.jumps || Stmt.anyJumps rest

end

theorem Stmt.anyJumps_eq (block : List Stmt) : Stmt.anyJumps block = block.any Stmt.jumps := by
  induction block with
  | nil => rfl
  | cons s rest ih => rw [Stmt.anyJumps, ih, List.any_cons]

/-- Whether a block may finish so, given whether it may return and whether it may jump. -/
def Flow.Allowed (returns jumps : Bool) : Flow → Prop
  | .normal => True
  | .break_ | .continue_ => jumps = true
  | .return_ _ => returns = true

theorem Flow.Allowed.mono {returns jumps more : Bool} {flow : Flow}
    (allowed : flow.Allowed returns jumps) (grown : jumps = true → more = true) :
    flow.Allowed returns more := by
  cases flow with
  | normal => trivial
  | return_ value => exact allowed
  | break_ => exact grown allowed
  | continue_ => exact grown allowed

open Eval.Assures

section Flows

variable {call : Caller} {load : Loader} {inFunction : Bool}

/-- A loop returns if its body does, and keeps the jumps of its body to itself. -/
theorem eachIteration_flows {jumps : Bool} {step : Scope → Value → Eval (Flow × Scope)}
    (flows : ∀ scope item, (step scope item).Assures fun ended => ended.1.Allowed inFunction jumps)
    (items : List Value) (scope : Scope) :
    (eachIteration step items scope).Assures fun ended => ended.1.Allowed inFunction false := by
  induction items generalizing scope with
  | nil => exact pure trivial
  | cons item rest ih =>
    refine andThen fun _ => bind (flows scope item) fun ended allowed => ?_
    obtain ⟨flow, later⟩ := ended
    cases flow with
    | normal => exact ih later
    | continue_ => exact ih later
    | break_ => exact pure trivial
    | return_ value => exact pure allowed

mutual

/-- A statement goes on, or leaves its block as its place and the jumps in it allow. -/
theorem execStmt_flows : (s : Stmt) → s.Placed inFunction → ∀ scope,
    (execStmt call load scope s).Assures fun ended => ended.1.Allowed inFunction s.jumps
  | .define _ _, _, _ | .assign _ _ _, _, _ => by
    rw [execStmt]
    exact andThen fun _ => mapError <| andThen fun _ => andThen fun _ => andThen fun _ =>
      pure trivial
  | .expr _ _, _, _ | .load _ _ _, _, _ | .augAssign _ _ _ _, _, _ => by
    rw [execStmt]
    exact andThen fun _ => mapError <| andThen fun _ => andThen fun _ => pure trivial
  | .pass _, _, _ => by
    rw [execStmt]
    exact andThen fun _ => mapError <| andThen fun _ => pure trivial
  | .break_ _, _, _ | .continue_ _, _, _ => by
    rw [execStmt]
    exact andThen fun _ => mapError <| andThen fun _ => pure rfl
  | .return_ _ _, placed, _ => by
    rw [execStmt]
    rw [Stmt.Placed] at placed
    exact andThen fun _ => mapError <| andThen fun _ => andThen fun _ => pure placed.1
  | .if_ _ test thenBlock elseBlock, placed, scope => by
    rw [execStmt]
    rw [Stmt.Placed] at placed
    refine andThen fun _ => mapError <| andThen fun _ => andThen fun _ => andThen fun holds => ?_
    split
    · exact (execBlock_flows thenBlock placed.2.1 scope).mono fun _ allowed =>
        allowed.mono fun jumps => by rw [Stmt.jumps, jumps, Bool.true_or]
    · exact (execBlock_flows elseBlock placed.2.2 scope).mono fun _ allowed =>
        allowed.mono fun jumps => by rw [Stmt.jumps, jumps, Bool.or_true]
  | .for_ _ target iterable body, placed, scope => by
    rw [execStmt]
    rw [Stmt.Placed] at placed
    refine andThen fun _ => mapError <| andThen fun _ => andThen fun _ => andThen fun items => ?_
    exact eachIteration_flows (fun _ _ => andThen fun scope =>
      execBlock_flows body placed.2.2 scope) items scope

theorem execBlock_flows : (block : List Stmt) → Stmt.PlacedAll inFunction block → ∀ scope,
    (execBlock call load scope block).Assures fun ended =>
      ended.1.Allowed inFunction (Stmt.anyJumps block)
  | [], _, _ => by
    rw [execBlock]
    exact pure trivial
  | s :: rest, placed, scope => by
    rw [execBlock]
    rw [Stmt.PlacedAll] at placed
    refine bind (execStmt_flows s placed.1 scope) fun ended allowed => ?_
    have here (jumps : s.jumps = true) : Stmt.anyJumps (s :: rest) = true := by
      rw [Stmt.anyJumps, jumps, Bool.true_or]
    obtain ⟨flow, later⟩ := ended
    cases flow with
    | normal =>
      exact (execBlock_flows rest placed.2 later).mono fun _ allowed =>
        allowed.mono fun jumps => by rw [Stmt.anyJumps, jumps, Bool.or_true]
    | break_ => exact pure (allowed.mono here)
    | continue_ => exact pure (allowed.mono here)
    | return_ value => exact pure (allowed.mono here)

end

end Flows

/-- Some statements are executed one after the other, each to its end. -/
inductive ExecutedInOrder (call : Caller) (load : Loader) :
    Block → Scope → Machine → Scope → Machine → Prop where
  | nil {scope : Scope} {m : Machine} : ExecutedInOrder call load [] scope m scope m
  | cons {s : Stmt} {rest : Block} {scope between later : Scope} {m m' m'' : Machine} :
    execStmt call load scope s m = .ok (.normal, between) m' →
      ExecutedInOrder call load rest between m' later m'' →
        ExecutedInOrder call load (s :: rest) scope m later m''

/-- How a block ends whose statements up to `left` were executed. -/
inductive BlockEnd (call : Caller) (load : Loader) (reached : Scope) (m : Machine) :
    (left : Block) → Flow → Scope → Machine → Prop where
  | through : BlockEnd call load reached m [] .normal reached m
  | leaves {s : Stmt} {rest : Block} {flow : Flow} {later : Scope} {m' : Machine} :
    flow ≠ .normal → execStmt call load reached s m = .ok (flow, later) m' →
      BlockEnd call load reached m (s :: rest) flow later m'

section Blocks

variable {call : Caller} {load : Loader}

/-- A block that ends without an error executes its statements in order, up to its end or up to a
statement that leaves it. -/
theorem execBlock_splits {block : Block} {scope later : Scope} {m m' : Machine} {flow : Flow}
    (ran : execBlock call load scope block m = .ok (flow, later) m') :
    ∃ done left reached between, block = done ++ left
      ∧ ExecutedInOrder call load done scope m reached between
      ∧ BlockEnd call load reached between left flow later m' := by
  induction block generalizing scope m with
  | nil =>
    rw [execBlock] at ran
    cases ran
    exact ⟨[], [], later, m', rfl, .nil, .through⟩
  | cons s rest ih =>
    rw [execBlock] at ran
    obtain ⟨⟨first, between⟩, m₁, executes, ran⟩ := Eval.exists_of_bind_ok ran
    cases first with
    | normal =>
      obtain ⟨done, left, reached, m₂, rfl, executed, ended⟩ := ih ran
      exact ⟨s :: done, left, reached, m₂, rfl, .cons executes executed, ended⟩
    | break_ =>
      cases ran
      exact ⟨[], s :: rest, scope, m, rfl, .nil, .leaves nofun executes⟩
    | continue_ =>
      cases ran
      exact ⟨[], s :: rest, scope, m, rfl, .nil, .leaves nofun executes⟩
    | return_ value =>
      cases ran
      exact ⟨[], s :: rest, scope, m, rfl, .nil, .leaves nofun executes⟩

/-- A block that keeps the rules of placement is left by a return, which is inside a function, or by
a jump outside of its loops. -/
theorem BlockEnd.leaves_by {inFunction : Bool} {left : Block} {reached later : Scope}
    {m m' : Machine} {flow : Flow} (ended : BlockEnd call load reached m left flow later m')
    (placed : Stmt.PlacedAll inFunction left) :
    ∀ s ∈ left.head?, (inFunction = true ∧ ∃ value, flow = .return_ value)
      ∨ s.jumps = true ∧ (flow = .break_ ∨ flow = .continue_) := by
  cases ended with
  | through => exact nofun
  | @leaves s _ _ _ _ left executes =>
    rintro _ ⟨⟩
    rw [Stmt.PlacedAll] at placed
    have allowed := execStmt_flows s placed.1 _ _ _ _ executes
    cases flow with
    | normal => exact absurd rfl left
    | break_ => exact .inr ⟨allowed, .inl rfl⟩
    | continue_ => exact .inr ⟨allowed, .inr rfl⟩
    | return_ value => exact .inl ⟨allowed, value, rfl⟩

end Blocks

/-- The machine in which the statements of a file begin, inside a call of the file. -/
def Machine.enteringFile (m : Machine) (name : String) (predeclared : Bindings Value)
    (stack : CallStack) : Machine :=
  { m with heap := m.heap.addModule (.ofFile name predeclared) }.withStack stack

/-- The machine when the module of a file is frozen and the call of the file is over. -/
def Machine.leavingFile (m : Machine) (home : ModuleRef) : Machine :=
  { m.withStack m.thread.stack.pop with heap := m.heap.freezeModule home }

section Files

variable {load : Loader} {name source : String} {predeclared : Bindings Value} {m m' : Machine}
  {home : ModuleRef}

/-- A file that is executed without an error is a block that is executed inside a call of it. -/
theorem executeFile_block (ran : executeFile load name source predeclared m = .ok (.ok home) m') :
    ∃ block stack flow later ended, parseScript source = .ok block
      ∧ stack.frames = ⟨"<toplevel>", name, .nowhere⟩ :: m.thread.stack.frames
      ∧ execBlock (callValue load) load (Scope.topLevel home name) block
        (m.enteringFile name predeclared stack) = .ok (flow, later) ended
      ∧ m' = ended.leavingFile home := by
  obtain ⟨block, ⟨flow, later⟩, executed, parses, rfl, executes, rfl⟩ := executeFile_ok ran
  obtain ⟨_, refused⟩ | ⟨stack, _, frames, enters⟩ := Eval.inFrame_limited _ _ _
  · rw [refused] at executes
    cases executes
  · rw [enters] at executes
    unfold Eval.followedBy at executes
    split at executes
    · rename_i outcome ended inside
      cases executes
      exact ⟨block, stack, flow, later, ended, parses, frames, inside, rfl⟩
    · cases executes

/-- A file that is executed without an error keeps the rules of placement, and its statements are
executed in order, each to its end: all of them, or those before one in which a `break` or
`continue` stands outside of all loops, and which ended the file with it. -/
theorem executeFile_splits (ran : executeFile load name source predeclared m = .ok (.ok home) m') :
    ∃ done left stack reached between flow later ended,
      parseScript source = .ok (done ++ left) ∧ Stmt.PlacedAll false (done ++ left)
      ∧ stack.frames = ⟨"<toplevel>", name, .nowhere⟩ :: m.thread.stack.frames
      ∧ ExecutedInOrder (callValue load) load done (Scope.topLevel home name)
        (m.enteringFile name predeclared stack) reached between
      ∧ BlockEnd (callValue load) load reached between left flow later ended
      ∧ (∀ s ∈ left.head?, s.jumps = true ∧ (flow = .break_ ∨ flow = .continue_))
      ∧ m' = ended.leavingFile home := by
  obtain ⟨block, stack, flow, later, ended, parses, frames, executes, closes⟩ :=
    executeFile_block ran
  have placed := parseScript_placed parses
  obtain ⟨done, left, reached, between, rfl, executed, blockEnd⟩ := execBlock_splits executes
  refine ⟨done, left, stack, reached, between, flow, later, ended, parses, placed, frames, executed,
    blockEnd, fun s first => ?_, closes⟩
  have placedLeft : Stmt.PlacedAll false left := Stmt.placedAll_iff.mpr fun s member =>
    Stmt.placedAll_iff.mp placed s (List.mem_append_right done member)
  obtain ⟨inside, _⟩ | jumps := blockEnd.leaves_by placedLeft s first
  · cases inside
  · exact jumps

/-- A file without jumps outside of its loops that is executed without an error executes all its
statements. -/
theorem executeFile_whole {block : Block} (parses : parseScript source = .ok block)
    (stays : Stmt.anyJumps block = false)
    (ran : executeFile load name source predeclared m = .ok (.ok home) m') :
    ∃ stack reached ended, stack.frames = ⟨"<toplevel>", name, .nowhere⟩ :: m.thread.stack.frames
      ∧ ExecutedInOrder (callValue load) load block (Scope.topLevel home name)
        (m.enteringFile name predeclared stack) reached ended
      ∧ m' = ended.leavingFile home := by
  obtain ⟨done, left, stack, reached, between, flow, later, ended, parsed, _, frames, executed,
    blockEnd, leaves, closes⟩ := executeFile_splits ran
  cases parses.symm.trans parsed
  cases blockEnd with
  | through =>
    rw [List.append_nil]
    exact ⟨stack, reached, between, frames, executed, closes⟩
  | @leaves s rest =>
    rw [Stmt.anyJumps_eq, List.any_append, List.any_cons, (leaves s rfl).1] at stays
    simp at stays

end Files

/-- A script that is left between its assignments. -/
def leftScript : String :=
  "x = 1\nbreak\ny = 2\n"

example : (match executeFile none "left.star" leftScript [] (.initial (.under [])) with
    | .ok (.ok home) m => (m.heap.module home).vars.map Prod.fst
    | _ => []) = ["x"] := by
  decide +kernel

end PixelApplet
