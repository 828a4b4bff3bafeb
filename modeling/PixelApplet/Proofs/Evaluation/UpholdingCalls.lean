import PixelApplet.Evaluation.Call
import PixelApplet.Proofs.Evaluation.UpholdingExpressions

/-!
# Calls uphold realms

The body of a function has no load statement, so executing it in a scope of a realm upholds the
realm.  Calling a value of the realm does, too, and if all modules of the realm are held, no call
inside is refused because the module of a function is not: whatever stood in the place of that
refusal, the call would do the same.
-/

namespace PixelApplet

/-- The value that a block returns belongs to a realm. -/
def Flow.Belongs (R : Realm) : Flow → Prop
  | .return_ value => value.Belongs R
  | _ => True

instance : Carrier Flow :=
  ⟨Flow.Belongs⟩

/-- The module of a function is not held: what to do instead of running its body. -/
abbrev Refusal :=
  Function Value → Eval Value

/-- Runs the body of a script function in a call of its own, or does something else if the module of
the function is not held. -/
def enterUnless (refuse : Refusal) (call : Caller) (load : Loader) (f : Function Value)
    (arguments : Arguments) : Eval Value := do
  if ← Eval.readHeap fun h => (h.module f.home).held then enterFunction call load f arguments
  else refuse f

/-- Calls a value when calls may be nested `calls` deep; a call of a function whose module is not
held does something else. -/
def callUnless (refuse : Refusal) (load : Loader) : (calls : Nat) → Caller
  | 0, callee, arguments => callWith (fun _ _ => refuseCall) callee arguments
  | calls + 1, callee, arguments =>
    callWith (enterUnless refuse (callUnless refuse load calls) load) callee arguments

/-- How a call of a function whose module is not held is refused. -/
def Refusal.usual : Refusal :=
  fun f => Eval.fail s!"{f.decl.name}: the module that defined it is no longer loaded"

section Held

variable {refuse : Refusal} {call : Caller} {load : Loader} {f : Function Value}
  {arguments : Arguments} {m : Machine}

theorem enterUnless_of_held (held : (m.heap.module f.home).held = true) :
    enterUnless refuse call load f arguments m = enterFunction call load f arguments m := by
  have chosen : (if (m.heap.module f.home).held then enterFunction call load f arguments
      else refuse f) = enterFunction call load f arguments := if_pos held
  exact congrFun chosen m

theorem enterUnless_of_dropped (dropped : (m.heap.module f.home).held = false) :
    enterUnless refuse call load f arguments m = refuse f m := by
  have chosen : (if (m.heap.module f.home).held then enterFunction call load f arguments
      else refuse f) = refuse f := if_neg (by simp [dropped])
  exact congrFun chosen m

theorem enterFunction_of_dropped (dropped : (m.heap.module f.home).held = false) :
    enterFunction call load f arguments m = Refusal.usual f m :=
  congrFun (if_neg (by simp [dropped])) m

end Held

/-- Entering a function does nothing else if its module is not held than to refuse. -/
theorem enterUnless_usual (call : Caller) (load : Loader) :
    enterUnless .usual call load = enterFunction call load := by
  funext f arguments m
  cases held : (m.heap.module f.home).held with
  | true => exact enterUnless_of_held held
  | false => rw [enterUnless_of_dropped held, enterFunction_of_dropped held]

/-- Calling with the usual refusal is calling. -/
theorem callUnless_usual (load : Loader) (calls : Nat) :
    callUnless .usual load calls = callTo load calls := by
  induction calls with
  | zero => rfl
  | succ calls ih =>
    funext callee arguments
    rw [callUnless, callTo, ih, enterUnless_usual]

namespace Eval.Upholds

open PixelApplet.Realm

variable {R : Realm} {sparing : Prop}

theorem augmented {op : BinaryOp} {current value : Value} (hasCurrent : current.Belongs R)
    (has : value.Belongs R) : Keeps R (PixelApplet.augmented op current value) sparing := by
  unfold PixelApplet.augmented
  split
  · refine (iterate has).bind fun more belongMore => ?_
    have inside : R.lists _ := Value.belongs_list.mp hasCurrent
    refine (changeList inside fun items belong v member => ?_).bind fun _ _ => pure hasCurrent
    rw [Array.toList_append, List.mem_append] at member
    rcases member with old | new
    · exact belong v old
    · exact belongMore v new
  · exact produce fun h guards => guards.spreads.binary _ hasCurrent has

/-- A loop over statements upholds a realm if its step does. -/
theorem eachIteration {step step' : Scope → Value → Eval (Flow × Scope)}
    (upholds : ∀ {scope : Scope} {item : Value}, scope.Belongs R → item.Belongs R →
      Upholds R (step scope item) (step' scope item) R.Has sparing)
    {items : List Value} {scope : Scope} (belong : ∀ v ∈ items, v.Belongs R)
    (inside : scope.Belongs R) :
    Upholds R (PixelApplet.eachIteration step items scope)
      (PixelApplet.eachIteration step' items scope) R.Has sparing := by
  induction items generalizing scope with
  | nil => exact pure ⟨trivial, inside⟩
  | cons item rest ih =>
    obtain ⟨here, later⟩ := List.forall_mem_cons.mp belong
    refine checkCancelled.bind fun _ _ => (upholds inside here).bind fun outcome has => ?_
    obtain ⟨flow, scope⟩ := outcome
    cases flow with
    | normal => exact ih later has.2
    | continue_ => exact ih later has.2
    | break_ => exact pure ⟨trivial, has.2⟩
    | return_ value => exact pure has

section Execution

/-- What follows when a statement is executed at its place. -/
theorem atPlace {act act' : Eval (Flow × Scope)} {pos : Position}
    {trace : Machine → EvalError → EvalError} (upholds : Upholds R act act' R.Has sparing) :
    Upholds R
      (Eval.moveTo pos >>= fun _ => Eval.mapError (Eval.checkCancelled >>= fun _ => act) trace)
      (Eval.moveTo pos >>= fun _ => Eval.mapError (Eval.checkCancelled >>= fun _ => act') trace)
      R.Has sparing :=
  (moveTo pos).bind fun _ _ => mapError (checkCancelled.bind fun _ _ => upholds)

variable {call other : Caller} (calls : Calls R call other sparing)

include calls

theorem augAssign {scope : Scope} {target value : Expr} {op : BinaryOp}
    (placedTarget : target.LoadsOutside) (placed : value.LoadsOutside)
    (inside : scope.Belongs R) :
    Upholds R (PixelApplet.augAssign call scope target op value)
      (PixelApplet.augAssign other scope target op value) R.Has sparing := by
  unfold PixelApplet.augAssign
  split
  · rename_i object key
    rw [Expr.LoadsOutside] at placedTarget
    refine (evalExpr calls object placedTarget.1 inside).bind fun o hasObject => ?_
    refine (evalExpr calls key placedTarget.2 inside).bind fun k hasKey => ?_
    have indexes : Keeps R (Eval.operate fun h => o.index h k) sparing :=
      operateWith fun h guards _ made => guards.spreads.index hasObject made
    refine indexes.bind fun current hasCurrent => ?_
    refine (evalExpr calls value placed inside).bind fun v has => ?_
    refine (augmented hasCurrent has).bind fun result hasResult => ?_
    exact (assignIndex hasObject hasKey hasResult).bind fun _ _ => pure inside
  · refine (evalExpr calls target placedTarget inside).bind fun current hasCurrent => ?_
    refine (evalExpr calls value placed inside).bind fun v has => ?_
    refine (augmented hasCurrent has).bind fun result hasResult => ?_
    exact assignTarget calls target placedTarget inside hasResult

variable {load load' : Loader}

-- most of the theorems use how values are called only through each other
set_option linter.unusedSectionVars false

mutual

theorem execStmt : (s : Stmt) → s.LoadsOutside false → ∀ {scope : Scope}, scope.Belongs R →
    Upholds R (PixelApplet.execStmt call load scope s) (PixelApplet.execStmt other load' scope s)
      R.Has sparing
  | .expr pos e, placed, _, inside => by
    rw [PixelApplet.execStmt, PixelApplet.execStmt]
    rw [Stmt.LoadsOutside] at placed
    exact atPlace ((evalExpr calls e placed inside).bind fun _ _ => pure ⟨trivial, inside⟩)
  | .assign pos target value, placed, _, inside => by
    rw [PixelApplet.execStmt, PixelApplet.execStmt]
    rw [Stmt.LoadsOutside] at placed
    exact atPlace ((evalExpr calls value placed.2 inside).bind fun _ has =>
      (assignTarget calls target placed.1 inside has).bind fun _ bound => pure ⟨trivial, bound⟩)
  | .augAssign pos target op value, placed, _, inside => by
    rw [PixelApplet.execStmt, PixelApplet.execStmt]
    rw [Stmt.LoadsOutside] at placed
    exact atPlace ((augAssign calls placed.1 placed.2 inside).bind fun _ bound =>
      pure ⟨trivial, bound⟩)
  | .define pos decl, placed, _, inside => by
    rw [PixelApplet.execStmt, PixelApplet.execStmt]
    rw [Stmt.LoadsOutside] at placed
    exact atPlace ((evalFunction calls decl placed inside).bind fun _ has =>
      (assign inside has).bind fun _ bound => pure ⟨trivial, bound⟩)
  | .return_ pos value, placed, _, inside => by
    rw [PixelApplet.execStmt, PixelApplet.execStmt]
    rw [Stmt.LoadsOutside] at placed
    exact atPlace ((evalOption calls value placed inside).bind fun _ has =>
      pure ⟨Slot.All.getD has Value.belongs_none, inside⟩)
  | .if_ pos test thenBlock elseBlock, placed, _, inside => by
    rw [PixelApplet.execStmt, PixelApplet.execStmt]
    rw [Stmt.LoadsOutside] at placed
    refine atPlace ((evalExpr calls test placed.1 inside).bind fun v _ =>
      readingHeap fun h _ => ?_)
    split
    · exact execBlock thenBlock placed.2.1 inside
    · exact execBlock elseBlock placed.2.2 inside
  | .for_ pos target iterable body, placed, _, inside => by
    rw [PixelApplet.execStmt, PixelApplet.execStmt]
    rw [Stmt.LoadsOutside] at placed
    have step {scope : Scope} {item : Value} (within : R.Has scope) (belongs : item.Belongs R) :=
      (assignTarget calls target placed.1 within belongs).bind fun _ bound =>
        execBlock body placed.2.2 bound
    exact atPlace ((evalExpr calls iterable placed.2.1 inside).bind fun _ has =>
      (iterate has).bind fun _ belong => eachIteration step belong inside)
  | .break_ pos, _, _, inside | .continue_ pos, _, _, inside | .pass pos, _, _, inside => by
    rw [PixelApplet.execStmt, PixelApplet.execStmt]
    exact atPlace (pure ⟨trivial, inside⟩)
  | .load pos module bindings, placed, _, _ => by
    rw [Stmt.LoadsOutside] at placed
    cases placed

theorem execBlock : (block : List Stmt) → Stmt.LoadsOutsideAll false block →
    ∀ {scope : Scope}, scope.Belongs R →
      Upholds R (PixelApplet.execBlock call load scope block)
        (PixelApplet.execBlock other load' scope block) R.Has sparing
  | [], _, _, inside => by
    rw [PixelApplet.execBlock, PixelApplet.execBlock]
    exact pure ⟨trivial, inside⟩
  | s :: rest, placed, _, inside => by
    rw [PixelApplet.execBlock, PixelApplet.execBlock]
    rw [Stmt.LoadsOutsideAll] at placed
    refine (execStmt s placed.1 inside).bind fun outcome has => ?_
    obtain ⟨flow, scope⟩ := outcome
    cases flow with
    | normal => exact execBlock rest placed.2 has.2
    | break_ => exact pure has
    | continue_ => exact pure has
    | return_ value => exact pure has

end

end Execution

theorem bindLocals {bound : List (String × Bound)} {locals : Bindings Value}
    (all : ∀ entry ∈ bound, entry.2.All (Value.Belongs R)) (belong : locals.Belong R) :
    Upholds R (PixelApplet.bindLocals bound locals) (PixelApplet.bindLocals bound locals)
      (Bindings.Belong R) sparing := by
  induction bound generalizing locals with
  | nil => exact pure belong
  | cons entry rest ih =>
    obtain ⟨here, later⟩ := List.forall_mem_cons.mp all
    obtain ⟨name, bound⟩ := entry
    cases bound with
    | value v => exact ih later (belong.insert here)
    | remaining named =>
      exact (newDict (DictCell.belongs_ofBindings here)).bind fun _ has =>
        ih later (belong.insert has)

/-- The scope of the body of a function. -/
theorem functionScope_belongs {identity : Identity} {f : Function Value} {locals : Bindings Value}
    (belongs : (Value.function identity f).Belongs R) (belong : locals.Belong R) :
    Scope.Belongs R ⟨f.home, f.file, some locals, f.captured⟩ := by
  obtain ⟨⟨home, module, _⟩, inside⟩ := Value.belongs_function.mp belongs
  refine ⟨home, module, ?_, fun captured outer binding member => ?_⟩
  · rintro _ ⟨⟩
    exact belong
  · refine inside _ (List.mem_append_right _ (List.mem_map_of_mem ?_))
    have same : f.captured = some captured := outer
    rw [same]
    exact member

/-- Two ways of entering functions of the realm uphold it alike. -/
def Enters (R : Realm) (enter enter' : Entry) (sparing : Prop := False) : Prop :=
  ∀ {identity : Identity} {f : Function Value} {arguments : Arguments},
    (Value.function identity f).Belongs R → arguments.All (Value.Belongs R) →
      Upholds R (enter f arguments) (enter' f arguments) R.Has sparing

theorem enterFunction {call other : Caller} {load load' : Loader} (calls :
    Calls R call other sparing) :
    Enters R (PixelApplet.enterFunction call load) (PixelApplet.enterFunction other load')
      sparing := by
  intro identity f arguments belongs belong
  obtain ⟨⟨_, _, placed⟩, inside⟩ := Value.belongs_function.mp belongs
  refine readingHeap fun h _ => ?_
  split
  · have binds : Upholds R (Eval.accept BindingFault.text (f.bind arguments))
        (Eval.accept BindingFault.text (f.bind arguments))
        (fun bound => ∀ entry ∈ bound, entry.2.All (Value.Belongs R)) sparing :=
      acceptWith fun bound made => Function.all_bind Value.belongs_none
        (fun _ => Value.belongs_tuple.mpr) inside belong made
    refine binds.bindWith fun bound all => ?_
    refine (bindLocals all (show Bindings.Belong R [] from nofun)).bindWith fun locals own => ?_
    refine inFrame ?_
    refine (execBlock calls f.decl.body placed.body (functionScope_belongs belongs own)).bind
      fun outcome has => ?_
    obtain ⟨flow, scope⟩ := outcome
    cases flow with
    | return_ value => exact pure has.1
    | normal => exact pure Value.belongs_none
    | break_ => exact pure Value.belongs_none
    | continue_ => exact pure Value.belongs_none
  · exact fail _

/-- Functions of a realm whose modules are held are entered. -/
theorem enterUnless {call other : Caller} {load load' : Loader} {refuse : Refusal}
    (standing : R.standing) (calls : Calls R call other sparing) :
    Enters R (PixelApplet.enterFunction call load)
      (PixelApplet.enterUnless refuse other load') sparing := by
  intro identity f arguments belongs belong m guards
  have held := guards.held standing f.home (Value.belongs_function.mp belongs).1.1
  rw [enterUnless_of_held held]
  exact enterFunction calls belongs belong m guards

theorem callOnce {enter enter' : Entry} {callBack callBack' : Caller}
    (enters : Enters R enter enter' sparing) (calls : Calls R callBack callBack' sparing) :
    Calls R (PixelApplet.callOnce enter callBack) (PixelApplet.callOnce enter' callBack')
      sparing := by
  intro callee arguments belongs belong
  refine checkCancelled.bind fun _ _ => ?_
  split
  · exact enters belongs belong
  · exact mapError (builtin calls (Value.belongs_builtin.mp belongs) belong)
  · exact fail _

theorem callWith {enter enter' : Entry} (enters : Enters R enter enter' sparing) :
    Calls R (PixelApplet.callWith enter) (PixelApplet.callWith enter') sparing :=
  callOnce enters (callOnce enters fun _ _ => fail _)

theorem callTo (load load' : Loader) (depth : Nat) :
    Calls R (PixelApplet.callTo load depth) (PixelApplet.callTo load' depth) sparing := by
  induction depth with
  | zero =>
    intro callee arguments
    exact callWith fun _ _ => fail _
  | succ depth ih =>
    intro callee arguments
    exact callWith (enterFunction ih)

/-- Calling a value of a realm upholds the realm. -/
theorem callValue (load : Loader) :
    Calls R (PixelApplet.callValue load) (PixelApplet.callValue load) sparing :=
  callTo load load _

/-- In a realm whose modules are held, no call is refused because a module is not. -/
theorem callUnless (standing : R.standing) (refuse : Refusal) (load : Loader) (depth : Nat) :
    Calls R (PixelApplet.callTo load depth) (PixelApplet.callUnless refuse load depth) sparing := by
  induction depth with
  | zero =>
    intro callee arguments
    exact callWith fun _ _ => fail _
  | succ depth ih =>
    intro callee arguments
    exact callWith (enterUnless standing ih)

end Eval.Upholds

end PixelApplet
