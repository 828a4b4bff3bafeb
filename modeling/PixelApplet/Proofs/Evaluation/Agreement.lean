import PixelApplet.Evaluation.Call
import PixelApplet.Proofs.Library.Callbacks

/-!
# Evaluation under callers that concur

Evaluating an expression, or executing a statement, is woven from calls and load statements: under
two ways of calling it is put together in the same way.  So it obeys every conduct that calls and
what finds modules obey, and does the same under any two ways of calling that concur where it takes
place.
-/

namespace PixelApplet

/-- Two ways of calling agree where so many calls are open. -/
def Caller.Agree (panics : Prop) (calls : Nat) (call other : Caller) : Prop :=
  ∀ callee arguments, Eval.Agree panics calls (call callee arguments) (other callee arguments)

/-- What finds a module leaves the posture of the running thread as it was.  Calls are opened and
closed only here, so this holds of whatever calls and executes through here. -/
def Loader.Steady (panics : Prop) (load : Loader) : Prop :=
  ∀ find ∈ load, ∀ module, Eval.Steady panics (find module)

/-- Two ways of calling concur under a conduct. -/
def Caller.Concurs {panics : Prop} (C : Conduct panics) (call other : Caller) : Prop :=
  ∀ callee arguments, Eval.Concurs C (call callee arguments) (other callee arguments)

/-- A way of calling obeys a conduct. -/
abbrev Caller.Obeys {panics : Prop} (C : Conduct panics) (call : Caller) : Prop :=
  call.Concurs C call

/-- What finds a module obeys a conduct, which also allows that a load statement stops with the
fault that was found instead. -/
def Loader.Obeys {panics : Prop} (C : Conduct panics) (load : Loader) : Prop :=
  ∀ find ∈ load, ∀ module, Eval.Obeys C (find module)
    ∧ ∀ m fault m', C.within m → find module m = .ok (.error fault) m' →
      ∀ e : EvalError, e.cause = some fault → C.step m (some (.error e)) m'

/-- Two ways of calling from a place in a script are woven alike. -/
def Caller.Woven (related : Eval.Relation) (call other : Caller) : Prop :=
  ∀ pos callee arguments, Eval.Woven related
    (Eval.moveTo pos >>= fun _ => call callee arguments)
    (Eval.moveTo pos >>= fun _ => other callee arguments)

/-- Load statements are woven from related actions. -/
def Loader.Woven (related : Eval.Relation) (load : Loader) : Prop :=
  ∀ home module bindings, Eval.Woven related (loadModule load home module bindings)
    (loadModule load home module bindings)

theorem Caller.agree_iff {panics : Prop} {calls : Nat} {call other : Caller} :
    call.Agree panics calls other ↔ call.Concurs (.posture panics calls) other :=
  forall₂_congr fun _ _ => Eval.agree_iff

theorem Loader.Steady.obeys {panics : Prop} {calls : Nat} {load : Loader}
    (steady : load.Steady panics) : load.Obeys (.posture panics calls) := by
  intro find present module
  have finds : Eval.Obeys (.posture panics calls) (find module) :=
    Eval.agree_iff.mp (steady find present module).agree
  refine ⟨finds, fun m fault m' inside ran e _ => ⟨((finds m inside).2.ok ran).1, ?_⟩⟩
  intro message stops
  cases stops

namespace Eval

variable {panics : Prop} {C : Conduct panics} {related : Relation}

namespace Routine

@[grind ←]
theorem assign {scope : Scope} {name : String} {value : Value} :
    Routine (scope.assign name value) := by
  unfold Scope.assign
  split
  · exact pure _
  · refine bind (readHeap _) fun frozen => ?_
    split
    · exact fail _
    · exact bind (changeModule _ _) fun _ => pure _

@[grind ←]
theorem newFunction {scope : Scope} {decl : FunctionDecl} {defaults : List (Option Value)} :
    Routine (scope.newFunction decl defaults) := by
  unfold Scope.newFunction
  grind

theorem spreadEntries (entries : List (Value × Value)) :
    Routine (PixelApplet.spreadEntries entries) := by
  induction entries with
  | nil => exact pure []
  | cons entry rest ih =>
    unfold PixelApplet.spreadEntries
    grind

theorem augmented {op : BinaryOp} {current value : Value} :
    Routine (PixelApplet.augmented op current value) := by
  unfold PixelApplet.augmented
  grind

theorem bindLocals (bound : List (String × Bound)) (locals : Bindings Value) :
    Routine (PixelApplet.bindLocals bound locals) := by
  induction bound generalizing locals with
  | nil => exact pure locals
  | cons binding rest ih =>
    unfold PixelApplet.bindLocals
    grind

theorem bindLoaded {home loaded : ModuleRef} {module : String} (bindings : List LoadBinding) :
    Routine (PixelApplet.bindLoaded home loaded module bindings) := by
  induction bindings with
  | nil => exact pure ()
  | cons binding rest ih =>
    refine bind (readHeap _) fun found => ?_
    cases found with
    | none => exact fail _
    | some value => exact bind (changeModule _ _) fun _ => ih

@[grind ←]
theorem bindingsModule {name : String} {bindings : Bindings Value} :
    Routine (Eval.bindingsModule name bindings) := by
  unfold Eval.bindingsModule
  grind

end Routine

namespace Concurs

theorem loadModule {load : Loader} (obeys : load.Obeys C) {home : ModuleRef} {module : String}
    {bindings : List LoadBinding} :
    Obeys C (PixelApplet.loadModule load home module bindings) := by
  cases load with
  | none => exact (Routine.fail _).concurs
  | some find =>
    intro m inside
    obtain ⟨finds, relays⟩ := obeys find rfl module
    obtain ⟨_, behaves⟩ := finds m inside
    refine ⟨rfl, ?_⟩
    cases ran : find module m with
    | error abort m' => exact behaves_of_error (bind_error ran) (behaves.error ran)
    | ok found m' =>
      cases found with
      | error fault =>
        exact behaves_of_error ((bind_ok ran).trans rfl) (relays m fault m' inside ran _ rfl)
      | ok loaded =>
        have rest : Obeys C (bindLoaded home loaded module bindings) :=
          (Routine.bindLoaded bindings).concurs
        have step := behaves.ok ran
        have behaves' := (rest m' (C.stays inside step)).2
        refine .followed step ?_ ran
        exact behaves'

end Concurs

namespace Woven

/-! ## Loops -/

theorem eachItem {σ : Type} {step step' : σ → Value → Eval σ}
    (woven : ∀ state item, Woven related (step state item) (step' state item))
    (items : List Value) (state : σ) :
    Woven related (PixelApplet.eachItem step items state)
      (PixelApplet.eachItem step' items state) := by
  induction items generalizing state with
  | nil => exact (Routine.pure state).woven
  | cons item rest ih =>
    exact Routine.checkCancelled.bindWoven fun _ => (woven state item).bind ih

theorem eachIteration {step step' : Scope → Value → Eval (Flow × Scope)}
    (woven : ∀ scope item, Woven related (step scope item) (step' scope item))
    (items : List Value) (scope : Scope) :
    Woven related (PixelApplet.eachIteration step items scope)
      (PixelApplet.eachIteration step' items scope) := by
  induction items generalizing scope with
  | nil => exact (Routine.pure _).woven
  | cons item rest ih =>
    refine Routine.checkCancelled.bindWoven fun _ => (woven scope item).bind fun left => ?_
    obtain ⟨flow, scope⟩ := left
    cases flow with
    | normal => exact ih scope
    | break_ => exact (Routine.pure _).woven
    | continue_ => exact ih scope
    | return_ value => exact (Routine.pure _).woven

/-! ## Expressions -/

section Evaluation

variable {call other : Caller} (woven : call.Woven related other)
include woven

-- The induction is on the syntax: the body of a called function is no part of it, and is left to
-- what is known of the callers.  Most of the theorems use that only through each other.
set_option linter.unusedSectionVars false

mutual

theorem evalExpr : (e : Expr) → ∀ {scope : Scope},
    Woven related (PixelApplet.evalExpr call scope e) (PixelApplet.evalExpr other scope e)
  | .literal _ _, _ => by
    rw [PixelApplet.evalExpr, PixelApplet.evalExpr]
    exact nested (Routine.pure _).woven
  | .name _ name, _ => by
    rw [PixelApplet.evalExpr, PixelApplet.evalExpr]
    refine nested (Routine.woven ?_)
    grind
  | .list _ items, _ => by
    rw [PixelApplet.evalExpr, PixelApplet.evalExpr]
    exact nested ((evalAll items).bind fun _ => (Routine.newList _).woven)
  | .tuple _ items, _ => by
    rw [PixelApplet.evalExpr, PixelApplet.evalExpr]
    exact nested ((evalAll items).bind fun _ => (Routine.pure _).woven)
  | .dict _ entries, _ => by
    rw [PixelApplet.evalExpr, PixelApplet.evalExpr]
    exact nested ((evalEntries entries).bind fun _ => (Routine.newDict _).woven)
  | .listComp _ element clauses, _ => by
    rw [PixelApplet.evalExpr, PixelApplet.evalExpr]
    refine nested ((Routine.readHeap _).bindWoven fun ref => ?_)
    refine (Routine.newList _).bindWoven fun _ => ?_
    refine (comprehend clauses fun scope => ?_).bind fun _ => (Routine.pure _).woven
    exact (evalExpr element).bind fun _ => (Routine.changeList _ _).woven
  | .dictComp _ key value clauses, _ => by
    rw [PixelApplet.evalExpr, PixelApplet.evalExpr]
    refine nested ((Routine.readHeap _).bindWoven fun ref => ?_)
    refine (Routine.newDict _).bindWoven fun _ => ?_
    refine (comprehend clauses fun scope => ?_).bind fun _ => (Routine.pure _).woven
    exact (evalExpr key).bind fun _ => (evalExpr value).bind fun _ => Routine.storeInDict.woven
  | .unary _ op operand, _ => by
    rw [PixelApplet.evalExpr, PixelApplet.evalExpr]
    exact nested ((evalExpr operand).bind fun _ => Routine.operate.woven)
  | .binary _ op left right, _ => by
    rw [PixelApplet.evalExpr, PixelApplet.evalExpr]
    refine nested ((evalExpr left).bind fun value => ?_)
    split
    · refine (Routine.readHeap _).bindWoven fun holds => ?_
      split
      · exact evalExpr right
      · exact (Routine.pure _).woven
    · refine (Routine.readHeap _).bindWoven fun holds => ?_
      split
      · exact (Routine.pure _).woven
      · exact evalExpr right
    · exact (evalExpr right).bind fun _ => Routine.produce.woven
  | .conditional _ test thenValue elseValue, _ => by
    rw [PixelApplet.evalExpr, PixelApplet.evalExpr]
    refine nested ((evalExpr test).bind fun value => ?_)
    refine (Routine.readHeap _).bindWoven fun holds => ?_
    split
    · exact evalExpr thenValue
    · exact evalExpr elseValue
  | .lambda _ decl, _ => by
    rw [PixelApplet.evalExpr, PixelApplet.evalExpr]
    exact nested (evalFunction decl)
  | .call pos callee arguments, _ => by
    rw [PixelApplet.evalExpr, PixelApplet.evalExpr]
    exact nested ((evalExpr callee).bind fun callee => (evalArguments arguments).bind fun given =>
      woven pos callee given)
  | .attribute _ object _, _ => by
    rw [PixelApplet.evalExpr, PixelApplet.evalExpr]
    exact nested ((evalExpr object).bind fun _ => Routine.member.woven)
  | .index _ object key, _ => by
    rw [PixelApplet.evalExpr, PixelApplet.evalExpr]
    exact nested ((evalExpr object).bind fun _ => (evalExpr key).bind fun _ =>
      Routine.operate.woven)
  | .slice _ object start stop step, _ => by
    rw [PixelApplet.evalExpr, PixelApplet.evalExpr]
    exact nested ((evalExpr object).bind fun _ => (evalOption start).bind fun _ =>
      (evalOption stop).bind fun _ => (evalOption step).bind fun _ => Routine.produce.woven)

theorem evalAll : (items : List Expr) → ∀ {scope : Scope},
    Woven related (PixelApplet.evalAll call scope items)
      (PixelApplet.evalAll other scope items)
  | [], _ => by
    rw [PixelApplet.evalAll, PixelApplet.evalAll]
    exact (Routine.pure _).woven
  | e :: rest, _ => by
    rw [PixelApplet.evalAll, PixelApplet.evalAll]
    exact (evalExpr e).bind fun _ => (evalAll rest).bind fun _ => (Routine.pure _).woven

theorem evalOption : (e? : Option Expr) → ∀ {scope : Scope},
    Woven related (PixelApplet.evalOption call scope e?)
      (PixelApplet.evalOption other scope e?)
  | none, _ => by
    rw [PixelApplet.evalOption, PixelApplet.evalOption]
    exact (Routine.pure _).woven
  | some e, _ => by
    rw [PixelApplet.evalOption, PixelApplet.evalOption]
    exact (evalExpr e).bind fun _ => (Routine.pure _).woven

theorem evalEntries : (entries : List (Expr × Expr)) → ∀ {scope : Scope} {cell : DictCell},
    Woven related (PixelApplet.evalEntries call scope entries cell)
      (PixelApplet.evalEntries other scope entries cell)
  | [], _, _ => by
    rw [PixelApplet.evalEntries, PixelApplet.evalEntries]
    exact (Routine.pure _).woven
  | (key, value) :: rest, _, _ => by
    rw [PixelApplet.evalEntries, PixelApplet.evalEntries]
    exact (evalExpr key).bind fun _ => (evalExpr value).bind fun _ =>
      Routine.keyFor.bindWoven fun _ => evalEntries rest

theorem evalArguments : (arguments : List Argument) → ∀ {scope : Scope},
    Woven related (PixelApplet.evalArguments call scope arguments)
      (PixelApplet.evalArguments other scope arguments)
  | [], _ => by
    rw [PixelApplet.evalArguments, PixelApplet.evalArguments]
    exact (Routine.pure _).woven
  | .positional e :: rest, _ => by
    rw [PixelApplet.evalArguments, PixelApplet.evalArguments]
    exact (evalExpr e).bind fun _ => (evalArguments rest).bind fun _ => (Routine.pure _).woven
  | .named _ e :: rest, _ => by
    rw [PixelApplet.evalArguments, PixelApplet.evalArguments]
    exact (evalExpr e).bind fun _ => (evalArguments rest).bind fun _ => (Routine.pure _).woven
  | .spread e :: rest, _ => by
    rw [PixelApplet.evalArguments, PixelApplet.evalArguments]
    exact (evalExpr e).bind fun _ => Routine.iterate.bindWoven fun _ =>
      (evalArguments rest).bind fun _ => (Routine.pure _).woven
  | .spreadNamed e :: rest, _ => by
    rw [PixelApplet.evalArguments, PixelApplet.evalArguments]
    refine (evalExpr e).bind fun value => ?_
    split
    · exact (Routine.readHeap _).bindWoven fun pairs => (Routine.spreadEntries pairs).bindWoven
        fun _ => (evalArguments rest).bind fun _ => (Routine.pure _).woven
    · exact (Routine.fail _).woven

theorem comprehend : (clauses : List Clause) → ∀ {body body' : Scope → Eval Unit} {scope : Scope},
    (∀ inner, Woven related (body inner) (body' inner)) →
    Woven related (PixelApplet.comprehend call body clauses scope)
      (PixelApplet.comprehend other body' clauses scope)
  | [], _, _, scope, wovenBody => by
    rw [PixelApplet.comprehend, PixelApplet.comprehend]
    exact (wovenBody scope).bind fun _ => (Routine.pure _).woven
  | .for_ target iterable :: rest, _, _, _, wovenBody => by
    rw [PixelApplet.comprehend, PixelApplet.comprehend]
    refine (evalExpr iterable).bind fun _ => Routine.iterate.bindWoven fun items => ?_
    refine eachItem (fun inner item => ?_) items _
    exact (assignTarget target).bind fun _ => comprehend rest wovenBody
  | .if_ test :: rest, _, _, _, wovenBody => by
    rw [PixelApplet.comprehend, PixelApplet.comprehend]
    refine (evalExpr test).bind fun _ => (Routine.readHeap _).bindWoven fun holds => ?_
    split
    · exact comprehend rest wovenBody
    · exact (Routine.pure _).woven

theorem assignTarget : (target : Expr) → ∀ {scope : Scope} {value : Value},
    Woven related (PixelApplet.assignTarget call scope target value)
      (PixelApplet.assignTarget other scope target value)
  | .name _ _, _, _ => by
    rw [PixelApplet.assignTarget, PixelApplet.assignTarget]
    exact Routine.assign.woven
  | .tuple _ targets, _, _ => by
    rw [PixelApplet.assignTarget, PixelApplet.assignTarget]
    refine Routine.iterate.bindWoven fun values => ?_
    split
    · exact (Routine.fail _).woven
    · exact assignTargets targets
  | .list _ targets, _, _ => by
    rw [PixelApplet.assignTarget, PixelApplet.assignTarget]
    refine Routine.iterate.bindWoven fun values => ?_
    split
    · exact (Routine.fail _).woven
    · exact assignTargets targets
  | .index _ object key, _, _ => by
    rw [PixelApplet.assignTarget, PixelApplet.assignTarget]
    exact (evalExpr object).bind fun _ => (evalExpr key).bind fun _ =>
      Routine.assignIndex.bindWoven fun _ => (Routine.pure _).woven
  | .attribute _ object _, _, _ => by
    rw [PixelApplet.assignTarget, PixelApplet.assignTarget]
    exact (evalExpr object).bind fun _ => (Routine.fail _).woven
  | .literal .., _, _ | .dict .., _, _ | .listComp .., _, _ | .dictComp .., _, _ | .unary .., _, _
  | .binary .., _, _ | .conditional .., _, _ | .lambda .., _, _ | .call .., _, _
  | .slice .., _, _ => by
    simp only [PixelApplet.assignTarget]
    exact (Routine.fail _).woven

theorem assignTargets : (targets : List Expr) → ∀ {scope : Scope} {values : List Value},
    Woven related (PixelApplet.assignTargets call scope targets values)
      (PixelApplet.assignTargets other scope targets values)
  | target :: targets, _, value :: values => by
    rw [PixelApplet.assignTargets, PixelApplet.assignTargets]
    exact (assignTarget target).bind fun _ => assignTargets targets
  | [], _, _ | _ :: _, _, [] => by
    simp only [PixelApplet.assignTargets]
    exact (Routine.pure _).woven

theorem evalFunction : (decl : FunctionDecl) → ∀ {scope : Scope},
    Woven related (PixelApplet.evalFunction call scope decl)
      (PixelApplet.evalFunction other scope decl)
  | .mk _ _ params _, _ => by
    rw [PixelApplet.evalFunction, PixelApplet.evalFunction]
    exact (evalDefaults params).bind fun _ => Routine.newFunction.woven

theorem evalDefaults : (params : List Param) → ∀ {scope : Scope},
    Woven related (PixelApplet.evalDefaults call scope params)
      (PixelApplet.evalDefaults other scope params)
  | [], _ => by
    rw [PixelApplet.evalDefaults, PixelApplet.evalDefaults]
    exact (Routine.pure _).woven
  | .mk _ _ kind :: rest, _ => by
    rw [PixelApplet.evalDefaults, PixelApplet.evalDefaults]
    exact (evalDefault kind).bind fun _ => (evalDefaults rest).bind fun _ =>
      (Routine.pure _).woven

theorem evalDefault : (kind : ParamKind) → ∀ {scope : Scope},
    Woven related (PixelApplet.evalDefault call scope kind)
      (PixelApplet.evalDefault other scope kind)
  | .optional e, _ => by
    rw [PixelApplet.evalDefault, PixelApplet.evalDefault]
    exact (evalExpr e).bind fun _ => (Routine.pure _).woven
  | .required, _ | .rest, _ | .restNamed, _ => by
    simp only [PixelApplet.evalDefault]
    exact (Routine.pure _).woven

end

/-! ## Statements -/

theorem augAssign {scope : Scope} (target : Expr) {op : BinaryOp} {value : Expr} :
    Woven related (PixelApplet.augAssign call scope target op value)
      (PixelApplet.augAssign other scope target op value) := by
  have plain (target : Expr) : Woven related
      (do
        let current ← PixelApplet.evalExpr call scope target
        let value ← PixelApplet.evalExpr call scope value
        PixelApplet.assignTarget call scope target (← PixelApplet.augmented op current value))
      (do
        let current ← PixelApplet.evalExpr other scope target
        let value ← PixelApplet.evalExpr other scope value
        PixelApplet.assignTarget other scope target (← PixelApplet.augmented op current value)) :=
    (evalExpr woven target).bind fun _ => (evalExpr woven value).bind fun _ =>
      Routine.augmented.bindWoven fun _ => assignTarget woven target
  cases target with
  | index _ object key =>
    refine (evalExpr woven object).bind fun _ => (evalExpr woven key).bind fun _ => ?_
    refine Routine.operate.bindWoven fun _ => (evalExpr woven value).bind fun _ => ?_
    exact Routine.augmented.bindWoven fun _ => Routine.assignIndex.bindWoven fun _ =>
      (Routine.pure _).woven
  | _ => exact plain _

variable {executed : Relation} (executes : related.Executes executed) {load : Loader}
  (loads : load.Woven related)
include executes loads

mutual

theorem execStmt : (s : Stmt) → ∀ {scope : Scope},
    executed _ (PixelApplet.execStmt call load scope s)
      (PixelApplet.execStmt other load scope s)
  | .expr _ e, _ => by
    rw [PixelApplet.execStmt, PixelApplet.execStmt]
    exact executes.marked _ ((evalExpr woven e).bind fun _ => (Routine.pure _).woven)
  | .assign _ target value, _ => by
    rw [PixelApplet.execStmt, PixelApplet.execStmt]
    exact executes.marked _ ((evalExpr woven value).bind fun _ =>
      (assignTarget woven target).bind fun _ => (Routine.pure _).woven)
  | .augAssign _ target op value, _ => by
    rw [PixelApplet.execStmt, PixelApplet.execStmt]
    exact executes.marked _ ((augAssign woven target).bind fun _ => (Routine.pure _).woven)
  | .define _ decl, _ => by
    rw [PixelApplet.execStmt, PixelApplet.execStmt]
    exact executes.marked _ ((evalFunction woven decl).bind fun _ =>
      Routine.assign.bindWoven fun _ => (Routine.pure _).woven)
  | .return_ _ value, _ => by
    rw [PixelApplet.execStmt, PixelApplet.execStmt]
    exact executes.marked _ ((evalOption woven value).bind fun _ => (Routine.pure _).woven)
  | .if_ _ test thenBlock elseBlock, _ => by
    rw [PixelApplet.execStmt, PixelApplet.execStmt]
    refine executes.marked _ ((evalExpr woven test).bind fun _ => ?_)
    refine (Routine.readHeap _).bindWoven fun _ => ?_
    split
    · exact executes.woven (execBlock thenBlock)
    · exact executes.woven (execBlock elseBlock)
  | .for_ _ target iterable body, _ => by
    rw [PixelApplet.execStmt, PixelApplet.execStmt]
    refine executes.marked _ ((evalExpr woven iterable).bind fun _ => ?_)
    refine Routine.iterate.bindWoven fun items => eachIteration (fun scope item => ?_) items _
    exact (assignTarget woven target).bind fun _ => executes.woven (execBlock body)
  | .break_ _, _ | .continue_ _, _ | .pass _, _ => by
    simp only [PixelApplet.execStmt]
    exact executes.marked _ (Routine.pure _).woven
  | .load _ module bindings, _ => by
    rw [PixelApplet.execStmt, PixelApplet.execStmt]
    exact executes.marked _ ((loads _ _ _).bind fun _ => (Routine.pure _).woven)

theorem execBlock : (block : List Stmt) → ∀ {scope : Scope},
    executed _ (PixelApplet.execBlock call load scope block)
      (PixelApplet.execBlock other load scope block)
  | [], _ => by
    rw [PixelApplet.execBlock, PixelApplet.execBlock]
    exact executes.pure _
  | s :: rest, _ => by
    rw [PixelApplet.execBlock, PixelApplet.execBlock]
    refine executes.bind (execStmt s) fun left => ?_
    split
    · exact execBlock rest
    · exact executes.pure _

end

end Evaluation

end Woven

namespace Concurs

variable {call other : Caller} (concur : call.Concurs C other)
include concur

theorem woven : call.Woven (fun _ act other => Concurs C act other) other :=
  fun pos callee arguments =>
    .of_related ((Modest.moveTo pos).concurs.bind fun _ => concur callee arguments)

theorem evalExpr (e : Expr) {scope : Scope} :
    Concurs C (PixelApplet.evalExpr call scope e) (PixelApplet.evalExpr other scope e) :=
  (Woven.evalExpr (woven concur) e).concurs

theorem assignTarget (target : Expr) {scope : Scope} {value : Value} :
    Concurs C (PixelApplet.assignTarget call scope target value)
      (PixelApplet.assignTarget other scope target value) :=
  (Woven.assignTarget (woven concur) target).concurs

variable {load : Loader} (obeys : load.Obeys C)
include obeys

theorem execStmt (s : Stmt) {scope : Scope} :
    Concurs C (PixelApplet.execStmt call load scope s)
      (PixelApplet.execStmt other load scope s) :=
  Woven.execStmt (woven concur) (executes C) (fun _ _ _ => .of_related (loadModule obeys)) s

theorem execBlock (block : List Stmt) {scope : Scope} :
    Concurs C (PixelApplet.execBlock call load scope block)
      (PixelApplet.execBlock other load scope block) :=
  Woven.execBlock (woven concur) (executes C) (fun _ _ _ => .of_related (loadModule obeys)) block

end Concurs

end Eval

end PixelApplet
