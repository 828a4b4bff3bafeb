import PixelApplet.Evaluation.Call
import PixelApplet.Evaluation.Statement
import PixelApplet.Proofs.Evaluation.Expressions
import PixelApplet.Proofs.Library.Dispatch
import PixelApplet.Proofs.Script.ParsedPlacement

/-!
# Statements, calls and files are safe

Executing statements in a live scope does what an effect allows, if the effect allows binding the
variables of the scope and, where load statements may stand, loading.  So calls are safe, however
deep they are nested.
-/

namespace PixelApplet

/-- The value that a block returns is live. -/
def Flow.Live (extent : Extent) : Flow → Prop
  | .return_ value => value.Live extent
  | _ => True

namespace Eval.Safe

/-- An action that tells how a block goes on, and in which scope. -/
abbrev Flows (E : Effect) (act : Eval (Flow × Scope)) (scope : Scope) (extent : Extent) : Prop :=
  Safe E act extent fun extent outcome =>
    outcome.1.Live extent ∧ outcome.2.Live extent ∧ scope.Extends outcome.2

theorem Flow.Live.mono {extent larger : Extent} {flow : Flow} (live : flow.Live extent)
    (grown : extent ≤ larger) : flow.Live larger := by
  cases flow with
  | return_ value => exact Value.Live.mono live grown
  | _ => trivial

variable {E : Effect} {extent : Extent} {scope : Scope}

/-- A block that goes on in the same scope. -/
theorem flows {flow : Flow} (liveFlow : flow.Live extent) (live : scope.Live extent) :
    Flows E (Pure.pure (flow, scope)) scope extent :=
  pure fun _ grown => ⟨Flow.Live.mono liveFlow grown, live.mono grown, .refl scope⟩

/-- A block that goes on in a scope in which more may be bound. -/
theorem flowsOn {act : Eval Scope} (rebinds : Rebinds E act scope extent) :
    Flows E (act >>= fun later => Pure.pure (.normal, later)) scope extent :=
  bind rebinds fun _ _ _ bound => pure fun _ grown => ⟨trivial, bound.1.mono grown, bound.2⟩

theorem augmented {op : BinaryOp} {current value : Value} (liveCurrent : current.Live extent)
    (liveValue : value.Live extent) :
    Yields .data (PixelApplet.augmented op current value) extent := by
  unfold PixelApplet.augmented
  split
  · refine bind (iterate liveValue) fun more larger grown liveMore => ?_
    refine (changeList fun _ items grown' liveItems v member => ?_).bind fun _ _ grown' _ =>
      yields ((liveCurrent.mono grown).mono grown')
    rw [Array.toList_append, List.mem_append] at member
    rcases member with old | new
    · exact liveItems v old
    · exact (liveMore v new).mono grown'
  · exact produce fun h sound inside => Value.live_binary _ sound (liveCurrent.mono inside)
      (liveValue.mono inside)

/-- A loop over statements is safe if its step is. -/
theorem eachIteration {step : Scope → Value → Eval (Flow × Scope)}
    (safe : ∀ {later : Scope} {item : Value} {larger : Extent}, extent ≤ larger →
      later.Live larger → scope.Extends later → item.Live larger →
        Flows E (step later item) scope larger)
    {items : List Value} {start : Scope} (live : ∀ v ∈ items, v.Live extent)
    (liveStart : start.Live extent) (extends_ : scope.Extends start) :
    Flows E (PixelApplet.eachIteration step items start) scope extent := by
  induction items generalizing extent start with
  | nil => exact pure fun _ grown => ⟨trivial, liveStart.mono grown, extends_⟩
  | cons item rest ih =>
    refine andThen checkCancelled fun _ => ?_
    refine bind (safe (Extent.le_refl _) liveStart extends_ (live item (.head _)))
      fun outcome larger grown ended => ?_
    obtain ⟨flow, later⟩ := outcome
    obtain ⟨liveFlow, liveLater, extendsLater⟩ := ended
    have again : Flows E (PixelApplet.eachIteration step rest later) scope larger :=
      ih (fun grown' => safe (Extent.le_trans grown grown'))
        (fun v member => (live v (.tail _ member)).mono grown) liveLater extendsLater
    cases flow with
    | normal => exact again
    | continue_ => exact again
    | break_ => exact pure fun _ grown' => ⟨trivial, liveLater.mono grown', extendsLater⟩
    | return_ value =>
      exact pure fun _ grown' =>
        ⟨Flow.Live.mono liveFlow grown', liveLater.mono grown', extendsLater⟩

section Execution

variable {call : Caller} (calls : CallsSafely call)

include calls

theorem augAssign {target value : Expr} {op : BinaryOp} (placedTarget : target.LoadsOutside)
    (placed : value.LoadsOutside) (live : scope.Live extent) :
    Rebinds (.program scope.binds) (PixelApplet.augAssign call scope target op value) scope
      extent := by
  have lifted {act : Eval Value} {larger : Extent} (yields : Yields .data act larger) :
      Yields (.program scope.binds) act larger :=
    yields.lift (Effect.data_within_program _)
  unfold PixelApplet.augAssign
  split
  · rename_i object key
    rw [Expr.LoadsOutside] at placedTarget
    refine bind (lifted (evalExpr calls object placedTarget.1 live)) fun o _ grown₁ liveObject => ?_
    have live₁ := live.mono grown₁
    refine bind (lifted (evalExpr calls key placedTarget.2 live₁)) fun k _ grown₂ liveKey => ?_
    have live₂ := live₁.mono grown₂
    refine bind (operate fun h sound inside current made larger grown =>
      (Value.live_index sound ((liveObject.mono grown₂).mono inside) made).mono grown)
      fun current _ grown₃ liveCurrent => ?_
    have live₃ := live₂.mono grown₃
    refine bind (lifted (evalExpr calls value placed live₃)) fun v _ grown₄ liveValue => ?_
    refine bind (lifted (augmented (liveCurrent.mono grown₄) liveValue))
      fun result _ grown₅ liveResult => ?_
    have liveKey₅ := ((liveKey.mono grown₃).mono grown₄).mono grown₅
    exact ((assignIndex liveKey₅ liveResult).lift (Effect.data_within_program _)).bind
      fun _ _ grown₆ _ => keepScope (((live₃.mono grown₄).mono grown₅).mono grown₆)
  · refine bind (lifted (evalExpr calls target placedTarget live))
      fun current _ grown₁ liveCurrent => ?_
    refine bind (lifted (evalExpr calls value placed (live.mono grown₁)))
      fun v _ grown₂ liveValue => ?_
    refine bind (lifted (augmented (liveCurrent.mono grown₂) liveValue))
      fun result _ grown₃ liveResult => ?_
    exact assignTarget calls target placedTarget (((live.mono grown₁).mono grown₂).mono grown₃)
      liveResult

variable {load : Loader} {home : ModuleRef} {outside : Bool}
  (loads : outside = true → ∀ {extent : Extent} (module : String) (bindings : List LoadBinding),
    home.index < extent.modules → Runs E (loadModule load home module bindings) extent)

include loads

-- most of the theorems use how values are called only through each other
set_option linter.unusedSectionVars false

mutual

theorem execStmt : (s : Stmt) → s.LoadsOutside outside → ∀ {scope : Scope} {extent : Extent},
    scope.home = home → (Effect.program scope.binds).Within E → scope.Live extent →
      Flows E (PixelApplet.execStmt call load scope s) scope extent
  | .expr pos e, placed, scope, _, _, binding, live => by
    rw [PixelApplet.execStmt]
    rw [Stmt.LoadsOutside] at placed
    refine andThen (moveTo _) fun _ => mapError (andThen checkCancelled fun _ => ?_)
    have allowed := (Effect.data_within_program scope.binds).trans binding
    exact bind ((evalExpr calls e placed live).lift allowed) fun _ _ grown _ =>
      flows trivial (live.mono grown)
  | .assign pos target value, placed, scope, _, _, binding, live => by
    rw [PixelApplet.execStmt]
    rw [Stmt.LoadsOutside] at placed
    refine andThen (moveTo _) fun _ => mapError (andThen checkCancelled fun _ => ?_)
    have allowed := (Effect.data_within_program scope.binds).trans binding
    refine bind ((evalExpr calls value placed.2 live).lift allowed) fun v _ grown liveValue => ?_
    exact flowsOn ((assignTarget calls target placed.1 (live.mono grown) liveValue).lift binding)
  | .augAssign pos target op value, placed, scope, _, _, binding, live => by
    rw [PixelApplet.execStmt]
    rw [Stmt.LoadsOutside] at placed
    refine andThen (moveTo _) fun _ => mapError (andThen checkCancelled fun _ => ?_)
    exact flowsOn ((augAssign calls placed.1 placed.2 live).lift binding)
  | .define pos decl, placed, scope, _, _, binding, live => by
    rw [PixelApplet.execStmt]
    rw [Stmt.LoadsOutside] at placed
    refine andThen (moveTo _) fun _ => mapError (andThen checkCancelled fun _ => ?_)
    have allowed := (Effect.data_within_program scope.binds).trans binding
    refine bind ((evalFunction calls decl placed live).lift allowed)
      fun f _ grown liveFunction => ?_
    exact flowsOn ((assign (live.mono grown) liveFunction).lift binding)
  | .return_ pos value, placed, scope, _, _, binding, live => by
    rw [PixelApplet.execStmt]
    rw [Stmt.LoadsOutside] at placed
    refine andThen (moveTo _) fun _ => mapError (andThen checkCancelled fun _ => ?_)
    have allowed := (Effect.data_within_program scope.binds).trans binding
    refine bind ((evalOption calls value placed live).lift allowed) fun v _ grown liveValue => ?_
    exact flows (Slot.Live.getD liveValue) (live.mono grown)
  | .if_ pos test thenBlock elseBlock, placed, scope, _, same, binding, live => by
    rw [PixelApplet.execStmt]
    rw [Stmt.LoadsOutside] at placed
    refine andThen (moveTo _) fun _ => mapError (andThen checkCancelled fun _ => ?_)
    have allowed := (Effect.data_within_program scope.binds).trans binding
    refine bind ((evalExpr calls test placed.1 live).lift allowed) fun v _ grown _ => ?_
    refine readingHeap fun h _ inside => ?_
    have live' := (live.mono grown).mono inside
    split
    · exact execBlock thenBlock placed.2.1 same binding live'
    · exact execBlock elseBlock placed.2.2 same binding live'
  | .for_ pos target iterable body, placed, scope, _, same, binding, live => by
    rw [PixelApplet.execStmt]
    rw [Stmt.LoadsOutside] at placed
    refine andThen (moveTo _) fun _ => mapError (andThen checkCancelled fun _ => ?_)
    have allowed := (Effect.data_within_program scope.binds).trans binding
    refine bind ((evalExpr calls iterable placed.2.1 live).lift allowed)
      fun v _ grown liveValue => ?_
    refine bind (iterate liveValue) fun items _ grown' liveItems => ?_
    refine eachIteration (fun {later item larger} _ liveLater extends_ liveItem => ?_) liveItems
      ((live.mono grown).mono grown') (.refl scope)
    have binding' : (Effect.program later.binds).Within E := extends_.binds ▸ binding
    refine bind ((assignTarget calls target placed.1 liveLater liveItem).lift binding')
      fun next _ _ bound => ?_
    have extendsNext := extends_.trans bound.2
    have binding'' : (Effect.program next.binds).Within E := extendsNext.binds ▸ binding
    exact (execBlock body placed.2.2 (extendsNext.home.trans same) binding'' bound.1).weaken
      fun _ outcome _ ended => ⟨ended.1, ended.2.1, extendsNext.trans ended.2.2⟩
  | .break_ pos, _, _, _, _, _, live => by
    rw [PixelApplet.execStmt]
    exact andThen (moveTo _) fun _ => mapError (andThen checkCancelled fun _ => flows trivial live)
  | .continue_ pos, _, _, _, _, _, live => by
    rw [PixelApplet.execStmt]
    exact andThen (moveTo _) fun _ => mapError (andThen checkCancelled fun _ => flows trivial live)
  | .pass pos, _, _, _, _, _, live => by
    rw [PixelApplet.execStmt]
    exact andThen (moveTo _) fun _ => mapError (andThen checkCancelled fun _ => flows trivial live)
  | .load pos module bindings, placed, scope, _, same, binding, live => by
    rw [PixelApplet.execStmt]
    rw [Stmt.LoadsOutside] at placed
    subst same
    exact andThen (moveTo _) fun _ => mapError (andThen checkCancelled fun _ =>
      (loads placed module bindings live.home).bind fun _ _ grown _ =>
        flows trivial (live.mono grown))

theorem execBlock : (block : List Stmt) → Stmt.LoadsOutsideAll outside block →
    ∀ {scope : Scope} {extent : Extent}, scope.home = home →
      (Effect.program scope.binds).Within E → scope.Live extent →
        Flows E (PixelApplet.execBlock call load scope block) scope extent
  | [], _, _, _, _, _, live => by
    rw [PixelApplet.execBlock]
    exact flows trivial live
  | s :: rest, placed, scope, _, same, binding, live => by
    rw [PixelApplet.execBlock]
    rw [Stmt.LoadsOutsideAll] at placed
    refine bind (execStmt s placed.1 same binding live) fun outcome _ _ ended => ?_
    obtain ⟨flow, later⟩ := outcome
    obtain ⟨liveFlow, liveLater, extends_⟩ := ended
    have stays : Flows E (Pure.pure (flow, later)) scope _ :=
      pure fun _ grown => ⟨Flow.Live.mono liveFlow grown, liveLater.mono grown, extends_⟩
    cases flow with
    | normal =>
      have binding' : (Effect.program later.binds).Within E := extends_.binds ▸ binding
      exact (execBlock rest placed.2 (extends_.home.trans same) binding' liveLater).weaken
        fun _ outcome _ ended => ⟨ended.1, ended.2.1, extends_.trans ended.2.2⟩
    | break_ => exact stays
    | continue_ => exact stays
    | return_ value => exact stays

end

end Execution

end Eval.Safe

/-!
## Calls are safe

Calling a live value with live arguments is safe, however deep calls are nested: the body of a
function contains no load statement, so nothing is assumed about loading.
-/

/-- A way to enter the body of a function that is safe for live functions. -/
def EntersSafely (enter : Entry) : Prop :=
  ∀ {identity : Identity} {f : Function Value} {arguments : Arguments} {extent : Extent},
    (Value.function identity f).Live extent → arguments.Live extent →
      Eval.Yields .data (enter f arguments) extent

namespace Eval.Safe

variable {extent : Extent}

theorem Bound.Live.mono {larger : Extent} {bound : Bound} (live : bound.Live extent)
    (grown : extent ≤ larger) : bound.Live larger := by
  cases bound with
  | value v => exact Value.Live.mono live grown
  | remaining named => exact Bindings.Live.mono live grown

theorem bindLocals {bound : List (String × Bound)} {locals : Bindings Value}
    (live : ∀ entry ∈ bound, entry.2.Live extent) (liveLocals : locals.Live extent) :
    Safe .data (PixelApplet.bindLocals bound locals) extent fun extent locals =>
      locals.Live extent := by
  induction bound generalizing extent locals with
  | nil => exact pure fun _ grown => liveLocals.mono grown
  | cons entry rest ih =>
    have liveRest : ∀ other ∈ rest, other.2.Live extent :=
      fun other member => live other (.tail _ member)
    obtain ⟨name, bound⟩ := entry
    have liveBound := live _ (.head _)
    cases bound with
    | value v => exact ih liveRest (liveLocals.insert liveBound)
    | remaining named =>
      have made := DictCell.live_ofBindings liveBound
      refine bind (newDict made.1 made.2) fun dict larger grown liveDict => ?_
      exact ih (fun other member => Bound.Live.mono (liveRest other member) grown)
        ((liveLocals.mono grown).insert liveDict)

/-- The scope of the body of a live function. -/
theorem live_functionScope {identity : Identity} {f : Function Value} {locals : Bindings Value}
    (live : (Value.function identity f).Live extent) (liveLocals : locals.Live extent) :
    Scope.Live extent ⟨f.home, f.file, some locals, f.captured⟩ := by
  obtain ⟨home, _, liveValues⟩ := Value.live_function.mp live
  refine ⟨home, ?_, fun captured outer binding member => ?_⟩
  · rintro _ ⟨⟩
    exact liveLocals
  · refine liveValues _ (List.mem_append_right _ (List.mem_map_of_mem ?_))
    have same : f.captured = some captured := outer
    rw [same]
    exact member

theorem enterFunction {call : Caller} {load : Loader} (calls : CallsSafely call) :
    EntersSafely (PixelApplet.enterFunction call load) := by
  intro identity f arguments extent live liveArguments
  obtain ⟨_, placed, liveValues⟩ := Value.live_function.mp live
  refine andThen readsHeap fun held => ?_
  split
  · refine bind (accept fun bound made larger grown entry member =>
      Function.live_bind (fun v kept => (liveValues v kept).mono grown)
        (liveArguments.mono grown) made entry member) fun bound larger grown liveBound => ?_
    refine bind (bindLocals liveBound Bindings.live_nil) fun locals largest grown' liveLocals => ?_
    have liveScope := live_functionScope ((live.mono grown).mono grown') liveLocals
    have runs := @execBlock .data call calls load f.home false (fun outside => nomatch outside)
      f.decl.body placed.body _ _ rfl (Effect.Within.refl _) liveScope
    refine inFrame (bind runs fun outcome _ _ ended => ?_)
    obtain ⟨flow, later⟩ := outcome
    cases flow with
    | return_ value => exact yields ended.1
    | normal => exact yields Value.live_none
    | break_ => exact yields Value.live_none
    | continue_ => exact yields Value.live_none
  · exact fail _

theorem callOnce {enter : Entry} {callBack : Caller} (enters : EntersSafely enter)
    (calls : CallsSafely callBack) : CallsSafely (PixelApplet.callOnce enter callBack) := by
  intro callee arguments extent live liveArguments
  refine andThen checkCancelled fun _ => ?_
  split
  · exact enters live liveArguments
  · exact mapError (builtin calls _ liveArguments)
  · exact fail _

theorem callWith {enter : Entry} (enters : EntersSafely enter) :
    CallsSafely (PixelApplet.callWith enter) :=
  callOnce enters (callOnce enters fun _ _ => fail _)

theorem callTo (load : Loader) (depth : Nat) : CallsSafely (PixelApplet.callTo load depth) := by
  induction depth with
  | zero =>
    intro callee arguments extent
    exact callWith fun _ _ => fail _
  | succ depth ih =>
    intro callee arguments extent
    exact callWith (enterFunction ih)

/-- Calling a value on the running thread is safe. -/
theorem callValue (load : Loader) : CallsSafely (PixelApplet.callValue load) :=
  callTo load _

end Eval.Safe

end PixelApplet

/-!
## Executing files

Executing a file adds its module, executes its statements and freezes the module.  What loading does
besides is left to an effect; load statements stand at the top level only.
-/

namespace PixelApplet

/-- An effect that allows all that executing files does to a heap. -/
structure Effect.Files (E : Effect) : Prop where
  program : ∀ home, (Effect.program home).Within E
  develops : ∀ {m : Machine} {h : Heap}, m.heap.Develops h → E.done m { m with heap := h }

/-- The effect of executing files that load no others. -/
def Effect.files : Effect where
  done m m' := m.heap.Develops m'.heap
  stopped m m' := m.heap.Develops m'.heap
  alike alike := alike.heap ▸ .refl
  trans := Heap.Develops.trans
  stop := Heap.Develops.trans
  stops := id
  after develops alike := alike.heap ▸ develops

theorem Effect.files_files : Effect.files.Files :=
  ⟨fun _ => ⟨fun becomes => becomes.heap.develops, fun becomes => becomes.heap.develops⟩, id⟩

theorem Effect.Files.data {E : Effect} (files : E.Files) : Effect.data.Within E :=
  files.program none

/-- The module that was found is there. -/
def ModulePresent {ε : Type} (extent : Extent) (outcome : Except ε ModuleRef) : Prop :=
  ∀ ref, outcome = .ok ref → ref.index < extent.modules

/-- A loader that does what an effect allows. -/
def Loader.Safe (E : Effect) (load : Loader) : Prop :=
  ∀ find, load = some find → ∀ (module : String) (extent : Extent),
    Eval.Delivers E (find module) extent fun _ _ => True

theorem Loader.safe_none (E : Effect) : Loader.Safe E none :=
  nofun

namespace Eval.Safe

variable {α : Type} {E : Effect} {extent : Extent}

/-- A step that develops the heap. -/
theorem develop {act : Eval α} {property : Extent → α → Prop} (files : E.Files)
    (steps : ∀ m : Machine, m.heap.Sound → extent ≤ m.heap.extent →
      ∃ value h', act m = .ok value { m with heap := h' } ∧ m.heap.Develops h'
        ∧ property h'.extent value) :
    Safe E act extent property := by
  intro m sound inside
  obtain ⟨value, h', ran, develops, holds⟩ := steps m sound inside
  obtain ⟨keeps, sound'⟩ := develops.keeps_and_sound sound
  rw [ran]
  exact ⟨files.develops develops, sound', keeps.extent, holds⟩

theorem newModule {cell : ModuleCell} (files : E.Files) (live : cell.Live extent)
    (thawed : cell.frozen = false) :
    Safe E (Eval.newModule cell) extent fun extent ref => ref.index < extent.modules := by
  refine develop files fun m _ inside =>
    ⟨_, _, rfl, .addModule .refl cell (live.mono inside) thawed, ?_⟩
  rw [Heap.extent_addModule]
  exact Nat.lt_succ_self _

theorem freezeModule (files : E.Files) (ref : ModuleRef) :
    Runs E (Eval.changeHeap (Heap.freezeModule ref)) extent :=
  develop files fun _ _ _ => ⟨_, _, rfl, .freeze .refl ref, trivial⟩

theorem bindingsModule {name : String} {bindings : Bindings Value} (files : E.Files)
    (live : bindings.Live extent) :
    Safe E (Eval.bindingsModule name bindings) extent fun extent ref =>
      ref.index < extent.modules := by
  refine bind (newModule files ⟨live, Bindings.live_nil, Bindings.live_nil⟩ rfl)
    fun ref larger _ present => ?_
  exact (freezeModule files ref).bind fun _ _ grown _ =>
    pure fun _ grown' => Nat.lt_of_lt_of_le present (Extent.le_trans grown grown').modules

theorem bindLoaded {home loaded : ModuleRef} {module : String} (files : E.Files)
    (bindings : List LoadBinding) :
    Runs E (PixelApplet.bindLoaded home loaded module bindings) extent := by
  induction bindings generalizing extent with
  | nil => exact returns
  | cons binding rest ih =>
    refine readingHeap fun h sound inside => ?_
    split
    · exact fail _
    · rename_i value found
      have liveValue : value.Live h.extent := (sound.modules loaded).vars.lookup found
      refine andThen (develop files fun m _ inside' => ⟨_, _, rfl,
        .takeName .refl home binding.name value (liveValue.mono inside'), trivial⟩) fun _ => ih

theorem loadModule {load : Loader} (files : E.Files) (loads : load.Safe E) (home : ModuleRef)
    (module : String) (bindings : List LoadBinding) :
    Runs E (PixelApplet.loadModule load home module bindings) extent := by
  unfold PixelApplet.loadModule
  split
  · exact fail _
  · rename_i find
    refine (loads find rfl module extent).orStop (fun fault m => ⟨_, rfl⟩) fun ref _ _ _ => ?_
    exact bindLoaded files bindings

/-- Executing a file, as far as its module is there and its statements were executed. -/
theorem topLevel {load : Loader} (files : E.Files) (loads : load.Safe E) {home : ModuleRef}
    {name : String} {block : Block} (placed : Stmt.LoadsOutsideAll true block)
    (present : home.index < extent.modules) :
    Runs E (Eval.inFrame ⟨"<toplevel>", name, .nowhere⟩ (PixelApplet.execBlock
      (PixelApplet.callValue load) load (Scope.topLevel home name) block)) extent := by
  have live : (Scope.topLevel home name).Live extent := ⟨present, nofun, nofun⟩
  exact inFrame (execBlock (callValue load)
    (fun _ _ module bindings _ => loadModule files loads home module bindings) block placed rfl
    (files.program _) live).runs

/-- Executing a file is safe. -/
theorem executeFile {load : Loader} {name source : String} {predeclared : Bindings Value}
    (files : E.Files) (loads : load.Safe E) (live : predeclared.Live extent) :
    Safe E (PixelApplet.executeFile load name source predeclared) extent ModulePresent := by
  unfold PixelApplet.executeFile
  split
  · exact pure fun _ _ => nofun
  · rename_i block parses
    refine bind (newModule files ⟨Bindings.live_nil, Bindings.live_nil, live⟩ rfl)
      fun home larger _ present => ?_
    refine (topLevel files loads (parseScript_loadsOutside parses) present).bind
      fun _ _ grown _ => ?_
    refine (freezeModule files home).bind fun _ _ grown' _ => pure fun _ grown'' => ?_
    rintro _ ⟨⟩
    exact Nat.lt_of_lt_of_le present
      (Extent.le_trans grown (Extent.le_trans grown' grown'')).modules

end Eval.Safe

/-- A file that is executed without an error makes its module, executes its statements inside a call
of the file, and freezes the module. -/
theorem executeFile_ok {load : Loader} {name source : String} {predeclared : Bindings Value}
    {m m' : Machine} {ref : ModuleRef}
    (ran : executeFile load name source predeclared m = .ok (.ok ref) m') :
    ∃ block outcome executed, parseScript source = .ok block ∧ ref = m.heap.nextModule
      ∧ Eval.inFrame ⟨"<toplevel>", name, .nowhere⟩
          (execBlock (callValue load) load (Scope.topLevel ref name) block)
          { m with heap := m.heap.addModule (ModuleCell.ofFile name predeclared) }
        = .ok outcome executed
      ∧ m' = { executed with heap := executed.heap.freezeModule ref } := by
  unfold executeFile at ran
  cases parses : parseScript source with
  | error e =>
    rw [parses] at ran
    cases ran
  | ok block =>
    rw [parses] at ran
    obtain ⟨home, opened, adds, ran⟩ := Eval.exists_of_bind_ok ran
    obtain ⟨outcome, executed, executes, ran⟩ := Eval.exists_of_bind_ok ran
    obtain ⟨_, closed, freezes, ran⟩ := Eval.exists_of_bind_ok ran
    cases adds
    cases freezes
    cases ran
    exact ⟨block, outcome, executed, rfl, rfl, executes, rfl⟩

/-- A file that was executed to its end: what its statements did behind its new module, which was
frozen after them. -/
theorem exists_of_executeFile {load : Loader} {name source : String} {predeclared : Bindings Value}
    {m m' : Machine} {ref : ModuleRef} {E : Effect} (files : E.Files) (loads : load.Safe E)
    (sound : m.heap.Sound) (live : predeclared.Live m.heap.extent)
    (ran : executeFile load name source predeclared m = .ok (.ok ref) m') :
    ∃ opened executed : Machine, ref = m.heap.nextModule
      ∧ opened.heap = m.heap.addModule (ModuleCell.ofFile name predeclared)
      ∧ opened.heap.Sound ∧ ref.index < opened.heap.extent.modules
      ∧ E.done opened executed ∧ executed.heap.Sound ∧ opened.heap.extent ≤ executed.heap.extent
      ∧ m'.heap = executed.heap.freezeModule ref := by
  obtain ⟨block, _, executed, parses, rfl, executes, rfl⟩ := executeFile_ok ran
  have liveCell : (ModuleCell.ofFile name predeclared).Live m.heap.extent :=
    ⟨Bindings.live_nil, Bindings.live_nil, live⟩
  obtain ⟨_, soundOpened, _, present⟩ :=
    Eval.Safe.newModule files liveCell rfl m sound (Extent.le_refl _)
  have ended := @Eval.Safe.topLevel _ _ _ files loads _ name _ (parseScript_loadsOutside parses)
    present _ soundOpened (Extent.le_refl _)
  rw [executes] at ended
  obtain ⟨done, soundExecuted, grown, _⟩ := ended
  exact ⟨_, executed, rfl, rfl, soundOpened, present, done, soundExecuted, grown, rfl⟩

section Executed

variable {load : Loader} {name source : String} {predeclared : Bindings Value} {m m' : Machine}
  {ref : ModuleRef} {E : Effect} (files : E.Files) (loads : load.Safe E)

include files loads

/-- The module of a file that was executed is frozen. -/
theorem executeFile_frozen (sound : m.heap.Sound) (live : predeclared.Live m.heap.extent)
    (ran : executeFile load name source predeclared m = .ok (.ok ref) m') :
    (m'.heap.module ref).frozen = true := by
  obtain ⟨_, _, _, _, _, present, _, soundExecuted, grown, same⟩ :=
    exists_of_executeFile files loads sound live ran
  rw [same]
  have freezes := Heap.freezeModule_freezes ref soundExecuted
  exact freezes.frozen (Nat.lt_of_lt_of_le present grown.modules)

/-- The module of a file that was executed binds each name once, too. -/
theorem executeFile_published (develops : ∀ {a b : Machine}, E.done a b → a.heap.Develops b.heap)
    (sound : m.heap.Sound) (live : predeclared.Live m.heap.extent)
    (ran : executeFile load name source predeclared m = .ok (.ok ref) m') :
    m'.heap.Published ref := by
  obtain ⟨opened, executed, new, added, soundOpened, present, done, soundExecuted, grown, same⟩ :=
    exists_of_executeFile files loads sound live ran
  have empty : (opened.heap.module ref).vars = [] := by
    rw [added, Heap.module_addModule, if_pos new]
    rfl
  have distinct := (develops done).nodup_vars soundOpened present
    (by rw [empty]; exact List.nodup_nil)
  rw [same]
  exact Heap.published_freezeModule soundExecuted
    (Nat.lt_of_lt_of_le present grown.modules) distinct

end Executed

/-- The module of some bindings with different names. -/
theorem bindingsModule_published {name : String} {bindings : Bindings Value} {m : Machine}
    (sound : m.heap.Sound) (live : bindings.Live m.heap.extent)
    (distinct : (bindings.map Prod.fst).Nodup) :
    ∃ h, Eval.bindingsModule name bindings m = .ok m.heap.nextModule { m with heap := h }
      ∧ m.heap.Develops h ∧ h.Published m.heap.nextModule := by
  have added : m.heap.Develops
      (m.heap.addModule { ModuleCell.ofFile name [] with vars := bindings }) :=
    .addModule .refl _ ⟨live, Bindings.live_nil, Bindings.live_nil⟩ rfl
  refine ⟨_, rfl, .freeze added _, ?_⟩
  refine Heap.published_freezeModule (added.keeps_and_sound sound).2 ?_ ?_
  · rw [Heap.extent_addModule]
    exact Nat.lt_succ_self _
  · rw [Heap.module_addModule, if_pos rfl]
    exact distinct

end PixelApplet
