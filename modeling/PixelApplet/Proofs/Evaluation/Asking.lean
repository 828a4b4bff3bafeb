import PixelApplet.Proofs.Evaluation.Statements
import PixelApplet.Proofs.Evaluation.Discipline
import PixelApplet.Proofs.Evaluation.StoppedExpressions

/-!
# Load statements that are reached

Load statements stand at the top level of a file, also inside of its conditions and loops.  What the
top level does before one of them leads to the machine on which its module is looked for.  If a
fault is found there, the file stops with an error that has the fault as its cause; and no file
stops with such an error for any other reason.
-/

namespace PixelApplet

/-- What is left to execute at the top level of a file. -/
inductive Work where
  | statement (s : Stmt)
  | block (block : Block)
  /-- A loop, with the items that are left. -/
  | loop (target : Expr) (body : Block) (items : List Value)

/-- Executes the body of a loop for an item. -/
def loopBody (call : Caller) (load : Loader) (target : Expr) (body : Block) (scope : Scope)
    (item : Value) : Eval (Flow × Scope) := do
  let scope ← assignTarget call scope target item
  execBlock call load scope body

namespace Work

/-- Executes what is left. -/
def run (call : Caller) (load : Loader) (scope : Scope) : Work → Eval (Flow × Scope)
  | .statement s => execStmt call load scope s
  | .block rest => execBlock call load scope rest
  | .loop target body items => eachIteration (loopBody call load target body) items scope

/-- What is left is of a parsed file, and the items are live. -/
def Ready (extent : Extent) : Work → Prop
  | .statement s => s.LoadsOutside true
  | .block rest => Stmt.LoadsOutsideAll true rest
  | .loop target body items =>
    target.LoadsOutside ∧ Stmt.LoadsOutsideAll true body ∧ ∀ item ∈ items, item.Live extent

end Work

/-- Executing what is left from a machine leads to a load statement, which looks for its module on
another machine. -/
inductive Asks (call : Caller) (load : Loader) :
    Scope → Work → Machine → String → Machine → Prop where
  | load {scope : Scope} {m : Machine} {pos : Position} {module : String}
    {bindings : List LoadBinding} (unstopped : m.cell.reason = none) :
    Asks call load scope (.statement (.load pos module bindings)) m module (m.movedTo pos)
  | branch {scope : Scope} {m m' asked : Machine} {pos : Position} {test : Expr}
    {thenBlock elseBlock : Block} {value : Value} {module : String}
    (unstopped : m.cell.reason = none)
    (tested : evalExpr call scope test (m.movedTo pos) = .ok value m')
    (within : Asks call load scope
      (.block (if value.truth m'.heap then thenBlock else elseBlock)) m' module asked) :
    Asks call load scope (.statement (.if_ pos test thenBlock elseBlock)) m module asked
  | loop {scope : Scope} {m m' m'' asked : Machine} {pos : Position} {target iterable : Expr}
    {body : Block} {value : Value} {items : List Value} {module : String}
    (unstopped : m.cell.reason = none)
    (evaluated : evalExpr call scope iterable (m.movedTo pos) = .ok value m')
    (listed : Eval.iterate value m' = .ok items m'')
    (within : Asks call load scope (.loop target body items) m'' module asked) :
    Asks call load scope (.statement (.for_ pos target iterable body)) m module asked
  | first {scope : Scope} {m asked : Machine} {s : Stmt} {rest : Block} {module : String}
    (within : Asks call load scope (.statement s) m module asked) :
    Asks call load scope (.block (s :: rest)) m module asked
  | later {scope next : Scope} {m m' asked : Machine} {s : Stmt} {rest : Block} {module : String}
    (ran : execStmt call load scope s m = .ok (.normal, next) m')
    (within : Asks call load next (.block rest) m' module asked) :
    Asks call load scope (.block (s :: rest)) m module asked
  | item {scope next : Scope} {m m' asked : Machine} {target : Expr} {body : Block} {item : Value}
    {rest : List Value} {module : String} (unstopped : m.cell.reason = none)
    (assigned : assignTarget call scope target item m = .ok next m')
    (within : Asks call load next (.block body) m' module asked) :
    Asks call load scope (.loop target body (item :: rest)) m module asked
  | nextItem {scope next : Scope} {m m' asked : Machine} {target : Expr} {body : Block}
    {item : Value} {rest : List Value} {flow : Flow} {module : String}
    (unstopped : m.cell.reason = none)
    (ran : loopBody call load target body scope item m = .ok (flow, next) m')
    (stays : flow = .normal ∨ flow = .continue_)
    (within : Asks call load next (.loop target body rest) m' module asked) :
    Asks call load scope (.loop target body (item :: rest)) m module asked

namespace Eval

variable {α : Type} {m m' : Machine}

theorem marked_error {pos : Position} {act : Eval α} {e : EvalError}
    (unstopped : m.cell.reason = none) (stops : act (m.movedTo pos) = .error (.error e) m') :
    marked pos act m = .error (.error (e.trace m'.thread.stack.trace)) m' := by
  have moves : moveTo pos m = .ok () (m.movedTo pos) := rfl
  have unstopped' : (m.movedTo pos).cell.reason = none := unstopped
  rw [marked, bind_ok moves, mapError, checked_unstopped unstopped', stops]

end Eval

/-! ## A fault that is found stops the file -/

theorem loadModule_fault {find : String → Eval (Except LoadFault ModuleRef)} {module : String}
    {m m' : Machine} {fault : LoadFault} (finds : find module m = .ok (.error fault) m')
    (home : ModuleRef) (bindings : List LoadBinding) :
    ∃ e : EvalError, loadModule (some find) home module bindings m = .error (.error e) m'
      ∧ e.cause = some fault :=
  ⟨_, (Eval.bind_ok finds).trans rfl, rfl⟩

/-- The error that a found fault causes leaves everything around the load statement. -/
theorem Asks.fails {call : Caller} {find : String → Eval (Except LoadFault ModuleRef)}
    {scope : Scope} {work : Work} {m asked m' : Machine} {module : String} {fault : LoadFault}
    (asks : Asks call (some find) scope work m module asked)
    (finds : find module asked = .ok (.error fault) m') :
    ∃ e : EvalError, work.run call (some find) scope m = .error (.error e) m'
      ∧ e.cause = some fault := by
  induction asks with
  | @load scope m pos module bindings unstopped =>
    obtain ⟨e, stops, caused⟩ := loadModule_fault finds scope.home bindings
    refine ⟨e.trace m'.thread.stack.trace, ?_, (e.cause_trace _).trans caused⟩
    rw [Work.run, execStmt]
    exact Eval.marked_error unstopped (Eval.bind_error stops)
  | @branch scope m between asked pos test thenBlock elseBlock value module unstopped tested _ ih =>
    obtain ⟨e, stops, caused⟩ := ih finds
    refine ⟨e.trace m'.thread.stack.trace, ?_, (e.cause_trace _).trans caused⟩
    rw [Work.run, execStmt]
    refine Eval.marked_error unstopped ((Eval.bind_ok tested).trans ?_)
    have reads : Eval.readHeap value.truth between = .ok (value.truth between.heap) between := rfl
    rw [Eval.bind_ok reads]
    generalize value.truth between.heap = holds at stops
    cases holds <;> exact stops
  | @loop scope m between listing asked pos target iterable body value items module unstopped
      evaluated listed _ ih =>
    obtain ⟨e, stops, caused⟩ := ih finds
    refine ⟨e.trace m'.thread.stack.trace, ?_, (e.cause_trace _).trans caused⟩
    rw [Work.run, execStmt]
    exact Eval.marked_error unstopped
      ((Eval.bind_ok evaluated).trans ((Eval.bind_ok listed).trans stops))
  | first _ ih =>
    obtain ⟨e, stops, caused⟩ := ih finds
    refine ⟨e, ?_, caused⟩
    rw [Work.run, execBlock]
    exact Eval.bind_error stops
  | later ran _ ih =>
    obtain ⟨e, stops, caused⟩ := ih finds
    refine ⟨e, ?_, caused⟩
    rw [Work.run, execBlock]
    exact (Eval.bind_ok ran).trans stops
  | item unstopped assigned _ ih =>
    obtain ⟨e, stops, caused⟩ := ih finds
    refine ⟨e, (Eval.checked_unstopped unstopped).trans (Eval.bind_error ?_), caused⟩
    exact (Eval.bind_ok assigned).trans stops
  | nextItem unstopped ran stays _ ih =>
    obtain ⟨e, stops, caused⟩ := ih finds
    refine ⟨e, (Eval.checked_unstopped unstopped).trans ((Eval.bind_ok ran).trans ?_), caused⟩
    rcases stays with rfl | rfl <;> exact stops

/-! ## What leads to a load statement -/

section Reaching

variable {call : Caller} {load : Loader} {scope : Scope} {work : Work} {m asked : Machine}
  {module : String}

theorem Eval.Concurs.loopBody {C : Conduct True} (calls : call.Obeys C) (loads : load.Obeys C)
    {target : Expr} {body : Block} {item : Value} :
    Obeys C (PixelApplet.loopBody call load target body scope item) :=
  (assignTarget calls target).bind fun _ => execBlock calls loads body

/-- What leads to a load statement conducts itself as calls and load statements do. -/
theorem Asks.behaves {C : Conduct True} (calls : call.Obeys C) (loads : load.Obeys C)
    (asks : Asks call load scope work m module asked) (inside : C.within m) :
    C.step m none asked := by
  have moves (m : Machine) (pos : Position) (inside : C.within m) :
      C.step m none (m.movedTo pos) :=
    ((Eval.Modest.moveTo pos).concurs m inside).2.ok rfl
  have then_ {a b c : Machine} (inside : C.within a) (first : C.step a none b)
      (second : C.within b → C.step b none c) : C.step a none c :=
    C.trans first (second (C.stays inside first))
  induction asks with
  | load => exact moves _ _ inside
  | @branch _ m _ _ pos _ _ _ _ _ _ tested _ ih =>
    refine then_ inside (moves m pos inside) fun insideMoved => ?_
    exact then_ insideMoved ((Eval.Concurs.evalExpr calls _ _ insideMoved).2.ok tested) ih
  | @loop _ m _ _ _ pos _ _ _ _ _ _ _ evaluated listed _ ih =>
    refine then_ inside (moves m pos inside) fun insideMoved => ?_
    refine then_ insideMoved ((Eval.Concurs.evalExpr calls _ _ insideMoved).2.ok evaluated) ?_
    exact fun insideValue =>
      then_ insideValue ((Eval.Routine.iterate.concurs _ insideValue).2.ok listed) ih
  | first _ ih => exact ih inside
  | later ran _ ih =>
    exact then_ inside ((Eval.Concurs.execStmt calls loads _ _ inside).2.ok ran) ih
  | item _ assigned _ ih =>
    exact then_ inside ((Eval.Concurs.assignTarget calls _ _ inside).2.ok assigned) ih
  | nextItem _ ran _ _ ih =>
    exact then_ inside ((Eval.Concurs.loopBody calls loads _ inside).2.ok ran) ih

variable {E : Effect}

theorem Eval.Safe.ended {α : Type} {act : Eval α} {extent : Extent} {property : Extent → α → Prop}
    {m m' : Machine} {value : α} (safe : Safe E act extent property) (sound : m.heap.Sound)
    (inside : extent ≤ m.heap.extent) (ran : act m = .ok value m') :
    E.done m m' ∧ m'.heap.Sound ∧ m.heap.extent ≤ m'.heap.extent
      ∧ property m'.heap.extent value := by
  have outcome := safe m sound inside
  rw [ran] at outcome
  exact outcome

/-- The body of a loop at the top level of a file. -/
theorem Eval.Safe.loopBody {extent : Extent} {target : Expr} {body : Block} {item : Value}
    (files : E.Files) (calls : Eval.Safe.CallsSafely call) (loads : load.Safe E)
    (placedTarget : target.LoadsOutside) (placed : Stmt.LoadsOutsideAll true body)
    (live : scope.Live extent) (liveItem : item.Live extent) :
    Flows E (PixelApplet.loopBody call load target body scope item) scope extent := by
  refine bind ((assignTarget calls target placedTarget live liveItem).lift (files.program _))
    fun next _ _ bound => ?_
  exact (execBlock calls (fun _ _ module bindings _ => loadModule files loads _ module bindings)
    body placed rfl (files.program _) bound.1).weaken
      fun _ _ _ ended => ⟨ended.1, ended.2.1, bound.2.trans ended.2.2⟩

/-- What leads to a load statement does what an effect allows that allows what load statements do.
-/
theorem Asks.reached (files : E.Files) (calls : Eval.Safe.CallsSafely call) (loads : load.Safe E)
    (asks : Asks call load scope work m module asked) (sound : m.heap.Sound)
    (live : scope.Live m.heap.extent) (ready : work.Ready m.heap.extent) :
    E.done m asked ∧ asked.heap.Sound := by
  have moved (m : Machine) (pos : Position) : E.done m (m.movedTo pos) :=
    E.alike ⟨rfl, rfl, rfl, rfl⟩
  have same := Extent.le_refl
  induction asks with
  | load => exact ⟨moved _ _, sound⟩
  | @branch scope m between asked pos test thenBlock elseBlock value module _ tested _ ih =>
    obtain ⟨placedTest, placedThen, placedElse⟩ := ready
    obtain ⟨done, sound', grown, -⟩ := ((Eval.Safe.evalExpr calls test placedTest live).lift
      files.data).ended (m := m.movedTo pos) sound (same _) tested
    have placed : (Work.block (if value.truth between.heap then thenBlock else elseBlock)).Ready
        between.heap.extent := by
      split
      · exact placedThen
      · exact placedElse
    obtain ⟨done', soundAsked⟩ := ih sound' (live.mono grown) placed
    exact ⟨E.trans (moved m pos) (E.trans done done'), soundAsked⟩
  | @loop scope m between listing asked pos target iterable body value items module _ evaluated
      listed _ ih =>
    obtain ⟨placedTarget, placedIterable, placedBody⟩ := ready
    obtain ⟨done, sound', grown, liveValue⟩ := ((Eval.Safe.evalExpr calls iterable placedIterable
      live).lift files.data).ended (m := m.movedTo pos) sound (same _) evaluated
    obtain ⟨done', sound'', grown', liveItems⟩ :=
      (Eval.Safe.iterate (E := E) liveValue).ended sound' (same _) listed
    obtain ⟨done'', soundAsked⟩ := ih sound'' ((live.mono grown).mono grown')
      ⟨placedTarget, placedBody, liveItems⟩
    exact ⟨E.trans (moved m pos) (E.trans done (E.trans done' done'')), soundAsked⟩
  | first _ ih => exact ih sound live ready.1
  | later ran _ ih =>
    obtain ⟨done, sound', grown, _, liveNext, _⟩ := (Eval.Safe.execStmt calls
      (fun _ _ module bindings _ => Eval.Safe.loadModule files loads _ module bindings) _ ready.1
      rfl (files.program _) live).ended sound (same _) ran
    obtain ⟨done', soundAsked⟩ := ih sound' liveNext ready.2
    exact ⟨E.trans done done', soundAsked⟩
  | item _ assigned _ ih =>
    obtain ⟨placedTarget, placedBody, liveItems⟩ := ready
    obtain ⟨done, sound', grown, liveNext, _⟩ := ((Eval.Safe.assignTarget calls _ placedTarget live
      (liveItems _ (.head _))).lift (files.program _)).ended sound (same _) assigned
    obtain ⟨done', soundAsked⟩ := ih sound' liveNext placedBody
    exact ⟨E.trans done done', soundAsked⟩
  | nextItem _ ran _ _ ih =>
    obtain ⟨placedTarget, placedBody, liveItems⟩ := ready
    obtain ⟨done, sound', grown, _, liveNext, _⟩ := (Eval.Safe.loopBody files calls loads
      placedTarget placedBody live (liveItems _ (.head _))).ended sound (same _) ran
    obtain ⟨done', soundAsked⟩ := ih sound' liveNext ⟨placedTarget, placedBody,
      fun v later => (liveItems v (.tail _ later)).mono grown⟩
    exact ⟨E.trans done done', soundAsked⟩

end Reaching

/-! ## Errors with a cause come from load statements -/

/-- The conduct of actions that take back nothing that was noted of loading, and that no fault of
loading stops. -/
def Conduct.uncaused : Conduct True where
  within _ := True
  step m ending m' := m.loading.history <+: m'.loading.history ∧ Mild True ending
  stays _ _ := trivial
  trans first second := ⟨first.1.trans second.1, second.2⟩
  modest untouched mild := ⟨untouched.loading ▸ List.prefix_refl _, mild⟩
  caught step := ⟨step.1, trivial⟩
  relabel step same := ⟨step.1, same.trans step.2⟩
  deeper _ _ := trivial
  leave _ step := step

/-- The conduct of actions that take back nothing that was noted of loading, and that a fault of
loading stops only after something was noted. -/
def Conduct.noting : Conduct True where
  within _ := True
  step m ending m' := ∃ more, m'.loading.history = m.loading.history ++ more
    ∧ (more = [] → Mild True ending)
  stays _ _ := trivial
  trans := by
    rintro a b c ending ⟨more, longer, -⟩ ⟨more', longer', mild⟩
    refine ⟨more ++ more', by rw [longer', longer, List.append_assoc], fun nothing => mild ?_⟩
    exact (List.append_eq_nil_iff.mp nothing).2
  modest untouched mild := ⟨[], by rw [untouched.loading, List.append_nil], fun _ => mild⟩
  caught := fun ⟨more, longer, _⟩ => ⟨more, longer, fun _ => trivial⟩
  relabel := fun ⟨more, longer, mild⟩ same =>
    ⟨more, longer, fun nothing => same.trans (mild nothing)⟩
  deeper _ _ := trivial
  leave _ step := step

namespace Eval

variable {α β : Type} {m m' : Machine} {e : EvalError} {fault : LoadFault}

/-- No fault of loading stops an action. -/
def Uncaused (act : Eval α) (m : Machine) : Prop :=
  ∀ e m', act m = .error (.error e) m' → e.cause = none

theorem Modest.uncaused {act : Eval α} (modest : Modest True act) (m : Machine) :
    Uncaused act m :=
  fun _ _ ran => ((modest m trivial).2.error ran).2

/-- An action that leaves alone what is being loaded. -/
theorem Safe.uncaused {act : Eval α} {home : Option ModuleRef} {extent : Extent}
    {property : Extent → α → Prop} (safe : Safe (.program home) act extent property)
    (obeys : Obeys .noting act) (sound : m.heap.Sound) (inside : extent ≤ m.heap.extent) :
    Uncaused act m := by
  intro e m' ran
  have outcome := safe m sound inside
  rw [ran] at outcome
  obtain ⟨more, longer, mild⟩ := (obeys m trivial).2.error ran
  rw [outcome.1.loading, List.self_eq_append_right] at longer
  exact mild longer

theorem Uncaused.exists_of_bind {act : Eval α} {next : α → Eval β} (uncaused : Uncaused act m)
    (ran : (act >>= next) m = .error (.error e) m') (caused : e.cause = some fault) :
    ∃ value between, act m = .ok value between ∧ next value between = .error (.error e) m' := by
  cases first : act m with
  | error abort between =>
    rw [bind_error first] at ran
    cases ran
    rw [uncaused e m' first] at caused
    cases caused
  | ok value between =>
    rw [bind_ok first] at ran
    exact ⟨value, between, rfl, ran⟩

theorem exists_of_checked {next : PUnit → Eval α}
    (ran : (checkCancelled >>= next) m = .error (.error e) m') (caused : e.cause = some fault) :
    m.cell.reason = none ∧ next ⟨⟩ m = .error (.error e) m' := by
  cases told : m.cell.reason with
  | none =>
    rw [checked_unstopped told] at ran
    exact ⟨rfl, ran⟩
  | some reason =>
    obtain ⟨_, between, looks, -⟩ :=
      (Routine.checkCancelled.modest.uncaused m).exists_of_bind ran caused
    have reads : (read fun m => m.cell.reason) m = .ok (some reason) m := by
      rw [← told]
      rfl
    rw [checkCancelled, bind_ok reads] at looks
    cases looks

theorem exists_of_marked {pos : Position} {act : Eval α}
    (ran : marked pos act m = .error (.error e) m') (caused : e.cause = some fault) :
    m.cell.reason = none ∧ ∃ e' : EvalError, act (m.movedTo pos) = .error (.error e') m'
      ∧ e'.cause = some fault := by
  have moves : moveTo pos m = .ok () (m.movedTo pos) := rfl
  rw [marked, bind_ok moves, mapError] at ran
  split at ran
  · cases ran
  · rename_i e' between stops
    cases ran
    rw [e'.cause_trace] at caused
    obtain ⟨unstopped, stops⟩ := exists_of_checked stops caused
    exact ⟨unstopped, e', stops, caused⟩
  · cases ran

theorem error_of_bind_pure {act : Eval α} {f : α → β} {abort : Abort}
    (ran : (act >>= fun value => Pure.pure (f value)) m = .error abort m') :
    act m = .error abort m' := by
  cases first : act m with
  | error abort' between =>
    rw [bind_error first] at ran
    cases ran
    rfl
  | ok value between =>
    rw [bind_ok first] at ran
    cases ran

/-- If a load statement stops with an error that has a cause, that is what was found. -/
theorem exists_of_loadModule {find : String → Eval (Except LoadFault ModuleRef)}
    {home : ModuleRef} {module : String} {bindings : List LoadBinding}
    (uncaused : Uncaused (find module) m)
    (ran : loadModule (some find) home module bindings m = .error (.error e) m')
    (caused : e.cause = some fault) : find module m = .ok (.error fault) m' := by
  obtain ⟨found, between, finds, ran⟩ := uncaused.exists_of_bind ran caused
  cases found with
  | error fault' =>
    cases ran
    cases caused
    exact finds
  | ok loaded =>
    rw [(Routine.bindLoaded bindings).modest.uncaused between e m' ran] at caused
    cases caused

end Eval

/-- If executing what is left stops with an error that has a cause, it led to a load statement which
found that. -/
def Work.Traced (call : Caller) (find : String → Eval (Except LoadFault ModuleRef)) (work : Work) :
    Prop :=
  ∀ (scope : Scope) (m : Machine), m.heap.Sound → scope.Live m.heap.extent →
    work.Ready m.heap.extent → ∀ (e : EvalError) (fault : LoadFault) (m' : Machine),
      work.run call (some find) scope m = .error (.error e) m' → e.cause = some fault →
        ∃ module asked, Asks call (some find) scope work m module asked
          ∧ find module asked = .ok (.error fault) m'

section Tracing

open Eval

variable {call : Caller} {find : String → Eval (Except LoadFault ModuleRef)}
  (calls : Safe.CallsSafely call) (callsNote : call.Obeys .noting)
  (loads : Loader.Safe .files (some find)) (loadsNote : Loader.Obeys .noting (some find))
  (uncaused : ∀ module m, Uncaused (find module) m)

include calls callsNote loadsNote in
/-- Only load statements, and what holds them, stop with an error that has a cause. -/
theorem Work.traced_plain {s : Stmt} (plain : s.LoadsOutside true → s.LoadsOutside false) :
    Traced call find (.statement s) := by
  intro scope m sound live ready e fault m' ran caused
  have safe : Safe.Flows (.program scope.binds) (execStmt call (some find) scope s) scope
      m.heap.extent :=
    @Safe.execStmt _ call calls (some find) scope.home false (fun inside => nomatch inside) s
      (plain ready) _ _ rfl (.refl _) live
  have none_ := safe.uncaused (.execStmt callsNote loadsNote s) sound (Extent.le_refl _) e m' ran
  rw [none_] at caused
  cases caused

include uncaused in
theorem Work.traced_load {pos : Position} {module : String} {bindings : List LoadBinding} :
    Traced call find (.statement (.load pos module bindings)) := by
  intro scope m _ _ _ e fault m' ran caused
  rw [run, execStmt] at ran
  obtain ⟨unstopped, e', ran, caused⟩ := exists_of_marked ran caused
  have finds := exists_of_loadModule (uncaused module _) (error_of_bind_pure ran) caused
  exact ⟨module, _, .load unstopped, finds⟩

include calls callsNote loads

/-- A loop is traced if its body is: the induction is on the items that are left. -/
theorem Work.traced_loop {target : Expr} {body : Block} (traced : Traced call find (.block body))
    (items : List Value) : Traced call find (.loop target body items) := by
  induction items with
  | nil =>
    intro scope m _ _ _ e fault m' ran _
    cases ran
  | cons item rest ih =>
    intro scope m sound live ready e fault m' ran caused
    obtain ⟨placedTarget, placedBody, liveItems⟩ := ready
    obtain ⟨unstopped, ran⟩ := exists_of_checked ran caused
    have inside := Extent.le_refl m.heap.extent
    cases step : loopBody call (some find) target body scope item m with
    | error abort between =>
      rw [bind_error step] at ran
      cases ran
      have assigns := Safe.assignTarget calls target placedTarget live (liveItems item (.head _))
      obtain ⟨next, between, assigned, ran⟩ :=
        (assigns.uncaused (.assignTarget callsNote target) sound inside).exists_of_bind step caused
      obtain ⟨_, sound', _, liveNext, _⟩ := assigns.ended sound inside assigned
      obtain ⟨module, asked, asks, finds⟩ :=
        traced next between sound' liveNext placedBody e fault m' ran caused
      exact ⟨module, asked, .item unstopped assigned asks, finds⟩
    | ok left between =>
      obtain ⟨flow, next⟩ := left
      rw [bind_ok step] at ran
      obtain ⟨_, sound', grown, _, liveNext, _⟩ := (Safe.loopBody Effect.files_files calls loads
        placedTarget placedBody live (liveItems item (.head _))).ended sound inside step
      have goesOn (stays : flow = .normal ∨ flow = .continue_)
          (ran : (Work.loop target body rest).run call (some find) next between
            = .error (.error e) m') : ∃ module asked, Asks call (some find) scope
              (.loop target body (item :: rest)) m module asked
              ∧ find module asked = .ok (.error fault) m' := by
        obtain ⟨module, asked, asks, finds⟩ := ih next between sound' liveNext ⟨placedTarget,
          placedBody, fun v later => (liveItems v (.tail _ later)).mono grown⟩ e fault m' ran caused
        exact ⟨module, asked, .nextItem unstopped step stays asks, finds⟩
      cases flow with
      | normal => exact goesOn (.inl rfl) ran
      | continue_ => exact goesOn (.inr rfl) ran
      | break_ => cases ran
      | return_ value => cases ran

include loadsNote uncaused

-- the theorems use what is known of calls and load statements also through each other
set_option linter.unusedSectionVars false

mutual

theorem Work.traced_statement : (s : Stmt) → Traced call find (.statement s)
  | .expr .. => traced_plain calls callsNote loadsNote id
  | .assign .. => traced_plain calls callsNote loadsNote id
  | .augAssign .. => traced_plain calls callsNote loadsNote id
  | .define .. => traced_plain calls callsNote loadsNote id
  | .return_ .. => traced_plain calls callsNote loadsNote id
  | .break_ .. => traced_plain calls callsNote loadsNote id
  | .continue_ .. => traced_plain calls callsNote loadsNote id
  | .pass .. => traced_plain calls callsNote loadsNote id
  | .load .. => traced_load uncaused
  | .if_ pos test thenBlock elseBlock => by
    intro scope m sound live ready e fault m' ran caused
    obtain ⟨placedTest, placedThen, placedElse⟩ := ready
    rw [run, execStmt] at ran
    obtain ⟨unstopped, e', ran, caused⟩ := exists_of_marked ran caused
    have tests := Safe.evalExpr calls test placedTest live
    have inside := Extent.le_refl m.heap.extent
    obtain ⟨value, between, tested, ran⟩ := (tests.uncaused (.evalExpr callsNote test)
      (m := m.movedTo pos) sound inside).exists_of_bind ran caused
    obtain ⟨_, sound', grown, _⟩ := tests.ended (m := m.movedTo pos) sound inside tested
    have reads : readHeap value.truth between = .ok (value.truth between.heap) between := rfl
    rw [bind_ok reads] at ran
    have traces {module : String} {asked : Machine} (asks : Asks call (some find) scope
        (.block (if value.truth between.heap then thenBlock else elseBlock)) between module asked) :
        Asks call (some find) scope (.statement (.if_ pos test thenBlock elseBlock)) m module
          asked :=
      .branch unstopped tested asks
    generalize value.truth between.heap = holds at ran traces
    cases holds with
    | true =>
      obtain ⟨module, asked, asks, finds⟩ :=
        traced_block thenBlock scope between sound' (live.mono grown) placedThen e' fault m' ran
          caused
      exact ⟨module, asked, traces asks, finds⟩
    | false =>
      obtain ⟨module, asked, asks, finds⟩ :=
        traced_block elseBlock scope between sound' (live.mono grown) placedElse e' fault m' ran
          caused
      exact ⟨module, asked, traces asks, finds⟩
  | .for_ pos target iterable body => by
    intro scope m sound live ready e fault m' ran caused
    obtain ⟨placedTarget, placedIterable, placedBody⟩ := ready
    rw [run, execStmt] at ran
    obtain ⟨unstopped, e', ran, caused⟩ := exists_of_marked ran caused
    have evaluates := Safe.evalExpr calls iterable placedIterable live
    have inside := Extent.le_refl m.heap.extent
    obtain ⟨value, between, evaluated, ran⟩ := (evaluates.uncaused (.evalExpr callsNote iterable)
      (m := m.movedTo pos) sound inside).exists_of_bind ran caused
    obtain ⟨_, sound', grown, liveValue⟩ :=
      evaluates.ended (m := m.movedTo pos) sound inside evaluated
    obtain ⟨items, listing, listed, ran⟩ :=
      (Routine.iterate.modest.uncaused between).exists_of_bind ran caused
    obtain ⟨_, sound'', grown', liveItems⟩ :=
      (Safe.iterate (E := .data) liveValue).ended sound' (Extent.le_refl _) listed
    have loop (items : List Value) : Traced call find (.loop target body items) :=
      traced_loop calls callsNote loads (traced_block body) items
    obtain ⟨module, asked, asks, finds⟩ := loop items scope listing sound''
      ((live.mono grown).mono grown') ⟨placedTarget, placedBody, liveItems⟩ e' fault m' ran caused
    exact ⟨module, asked, .loop unstopped evaluated listed asks, finds⟩

theorem Work.traced_block : (block : Block) → Traced call find (.block block)
  | [] => by
    intro scope m _ _ _ e fault m' ran _
    rw [run, execBlock] at ran
    cases ran
  | s :: rest => by
    intro scope m sound live ready e fault m' ran caused
    rw [run, execBlock] at ran
    cases step : execStmt call (some find) scope s m with
    | error abort between =>
      rw [bind_error step] at ran
      cases ran
      obtain ⟨module, asked, asks, finds⟩ :=
        traced_statement s scope m sound live ready.1 e fault m' step caused
      exact ⟨module, asked, .first asks, finds⟩
    | ok left between =>
      obtain ⟨flow, next⟩ := left
      rw [bind_ok step] at ran
      cases flow with
      | normal =>
        obtain ⟨_, sound', _, _, liveNext, _⟩ := (Safe.execStmt calls (fun _ _ module bindings _ =>
          Safe.loadModule Effect.files_files loads _ module bindings) s ready.1 rfl
          (Effect.files_files.program _) live).ended sound (Extent.le_refl _) step
        obtain ⟨module, asked, asks, finds⟩ :=
          traced_block rest next between sound' liveNext ready.2 e fault m' ran caused
        exact ⟨module, asked, .later step asks, finds⟩
      | break_ => cases ran
      | continue_ => cases ran
      | return_ value => cases ran

end

end Tracing

end PixelApplet
