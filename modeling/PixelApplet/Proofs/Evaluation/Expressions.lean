import PixelApplet.Evaluation.Expression
import PixelApplet.Proofs.Library.Collections

/-!
# Expressions are safe

Evaluating an expression in a live scope gives a live value, and binds no variable of a module; a
target binds one at most where the scope has no variables of its own.  Calling is safe by
assumption.
-/

namespace PixelApplet

namespace Scope

/-- Nothing in a scope dangles. -/
structure Live (extent : Extent) (scope : Scope) : Prop where
  home : scope.home.index < extent.modules
  locals : ∀ locals, scope.locals = some locals → Bindings.Live extent locals
  captured : ∀ captured, scope.captured = some captured → Bindings.Live extent captured

/-- The module whose variables a scope binds, if it has no variables of its own. -/
def binds (scope : Scope) : Option ModuleRef :=
  if scope.locals.isSome then none else some scope.home

/-- A scope in which more names may be bound than in another. -/
structure Extends (scope later : Scope) : Prop where
  home : later.home = scope.home
  locals : later.locals.isSome = scope.locals.isSome

theorem Extends.refl (scope : Scope) : scope.Extends scope :=
  ⟨rfl, rfl⟩

theorem Extends.trans {a b c : Scope} (first : a.Extends b) (second : b.Extends c) :
    a.Extends c :=
  ⟨second.home.trans first.home, second.locals.trans first.locals⟩

theorem Extends.binds {scope later : Scope} (extends_ : scope.Extends later) :
    later.binds = scope.binds := by
  rw [Scope.binds, Scope.binds, extends_.home, extends_.locals]

theorem binds_of_module {scope : Scope} (own : scope.locals = none) :
    scope.binds = some scope.home := by
  rw [binds, own]
  rfl

section Live

variable {extent : Extent} {scope : Scope}

theorem Live.mono {larger : Extent} (live : scope.Live extent) (grown : extent ≤ larger) :
    scope.Live larger :=
  ⟨Nat.lt_of_lt_of_le live.home grown.modules,
    fun locals own => (live.locals locals own).mono grown,
    fun captured outer => (live.captured captured outer).mono grown⟩

theorem Live.comprehension (live : scope.Live extent) : scope.comprehension.Live extent := by
  refine ⟨live.home, ?_, live.captured⟩
  rintro _ ⟨⟩
  cases own : scope.locals with
  | none => exact Bindings.live_nil
  | some locals => exact live.locals locals own

theorem Live.capture {captured : Bindings Value} (live : scope.Live extent)
    (captures : scope.capture = some captured) : captured.Live extent := by
  obtain ⟨locals, own, rfl⟩ := Option.map_eq_some_iff.mp captures
  refine (live.locals locals own).insertAll ?_
  cases outer : scope.captured with
  | none => exact Bindings.live_nil
  | some captured => exact live.captured captured outer

theorem Live.lookup {h : Heap} {name : String} {value : Value} (live : scope.Live h.extent)
    (sound : h.Sound) (found : scope.lookup? h name = some value) : value.Live h.extent := by
  unfold Scope.lookup? at found
  split at found
  · rename_i here
    cases found
    obtain ⟨locals, own, bound⟩ := Option.bind_eq_some_iff.mp here
    exact (live.locals locals own).lookup bound
  split at found
  · rename_i here
    cases found
    obtain ⟨captured, outer, bound⟩ := Option.bind_eq_some_iff.mp here
    exact (live.captured captured outer).lookup bound
  split at found
  · rename_i here
    cases found
    have cell := sound.modules scope.home
    unfold ModuleCell.lookup? at here
    split at here
    · rename_i bound
      cases here
      exact cell.vars.lookup bound
    split at here
    · rename_i bound
      cases here
      exact cell.loaded.lookup bound
    · exact cell.predeclared.lookup here
  · obtain ⟨f, _, rfl⟩ := Option.map_eq_some_iff.mp found
    exact Value.live_builtin.mpr (by rintro _ ⟨⟩)

end Live

section Assign

variable {scope : Scope} {m : Machine} {name : String} {value : Value}

theorem assign_of_own {locals : Bindings Value} (own : scope.locals = some locals) :
    scope.assign name value
      = Pure.pure { scope with locals := some (locals.insert name value) } := by
  unfold Scope.assign
  rw [own]

theorem assign_of_frozen (own : scope.locals = none)
    (frozen : (m.heap.module scope.home).frozen = true) : scope.assign name value m
      = Eval.fail s!"cannot reassign global {name} of frozen module" m := by
  unfold Scope.assign
  rw [own]
  show (if (m.heap.module scope.home).frozen = true then Eval.fail _ else _) m = _
  rw [if_pos frozen]

theorem assign_of_thawed (own : scope.locals = none)
    (thawed : (m.heap.module scope.home).frozen = false) : scope.assign name value m
      = .ok scope { m with heap := m.heap.modifyModule scope.home fun cell =>
          { cell with vars := cell.vars.insert name value } } := by
  unfold Scope.assign
  rw [own]
  show (if (m.heap.module scope.home).frozen = true then Eval.fail _ else _) m = _
  rw [if_neg (Bool.eq_false_iff.mp thawed)]
  rfl

end Assign

end Scope

namespace Eval.Safe

variable {E : Effect} {extent : Extent} {scope : Scope}

/-- An action that goes on with a scope in which more names may be bound. -/
abbrev Rebinds (E : Effect) (act : Eval Scope) (scope : Scope) (extent : Extent) : Prop :=
  Safe E act extent fun extent later => later.Live extent ∧ scope.Extends later

theorem keepScope (live : scope.Live extent) : Rebinds E (Pure.pure scope) scope extent :=
  pure fun _ grown => ⟨live.mono grown, .refl scope⟩

/-- Binding a name changes nothing but the own variables, or one variable of the module. -/
theorem assign {name : String} {value : Value} (live : scope.Live extent)
    (liveValue : value.Live extent) :
    Rebinds (.program scope.binds) (scope.assign name value) scope extent := by
  cases own : scope.locals with
  | some locals =>
    rw [Scope.assign_of_own own]
    refine pure fun larger grown => ⟨⟨(live.mono grown).home, ?_, (live.mono grown).captured⟩,
      rfl, ?_⟩
    · rintro _ ⟨⟩
      exact ((live.locals locals own).mono grown).insert (liveValue.mono grown)
    · rw [own]
      rfl
  | none =>
    intro m sound inside
    rw [Scope.binds_of_module own]
    cases frozen : (m.heap.module scope.home).frozen with
    | true =>
      rw [Scope.assign_of_frozen own frozen]
      exact ⟨Effect.stops _ (Effect.refl _ m), sound⟩
    | false =>
      rw [Scope.assign_of_thawed own frozen]
      have step : Heap.Step (some scope.home) m.heap _ :=
        .bind scope.home rfl name value frozen (liveValue.mono inside)
      exact ⟨⟨.single step, rfl, rfl, rfl⟩, sound.step step, step.keeps.extent,
        live.mono (Extent.le_trans inside step.keeps.extent), .refl scope⟩

theorem newFunction {decl : FunctionDecl} {defaults : List (Option Value)}
    (live : scope.Live extent) (placed : decl.LoadsOutside)
    (liveDefaults : ∀ slot ∈ defaults, Slot.Live extent slot) :
    Yields .data (scope.newFunction decl defaults) extent := by
  refine newIdentity.bind fun identity larger grown _ => yields ?_
  refine Value.live_function.mpr ⟨(live.mono grown).home, placed, fun v member => ?_⟩
  rcases List.mem_append.mp member with default | captured
  · obtain ⟨slot, present, same⟩ := List.mem_filterMap.mp default
    exact (liveDefaults slot present v same).mono grown
  · obtain ⟨binding, present, rfl⟩ := List.mem_map.mp captured
    cases captures : scope.capture with
    | none =>
      rw [captures] at present
      cases present
    | some captured =>
      rw [captures] at present
      exact (live.capture captures binding present).mono grown

theorem spreadEntries {pairs : List (Value × Value)} (live : PairsLive extent pairs) :
    Safe E (PixelApplet.spreadEntries pairs) extent fun extent entries =>
      Bindings.Live extent entries := by
  induction pairs with
  | nil => exact pure fun _ _ => Bindings.live_nil
  | cons pair rest ih =>
    unfold PixelApplet.spreadEntries
    split
    · exact pure fun _ _ => Bindings.live_nil
    · rename_i name value others same
      cases same
      refine bind (ih fun other member => live other (.tail _ member))
        fun entries larger grown liveEntries => pure fun _ grown' entry member => ?_
      rcases List.mem_cons.mp member with rfl | later
      · exact (live _ (.head _)).2.mono (Extent.le_trans grown grown')
      · exact (liveEntries entry later).mono grown'
    · exact fail _

/-- A loop is safe if its step keeps a property of the state. -/
theorem eachItem {σ : Type} {step : σ → Value → Eval σ} {property : Extent → σ → Prop}
    (mono : ∀ {smaller larger state}, smaller ≤ larger → property smaller state →
      property larger state)
    (safe : ∀ {state item larger}, extent ≤ larger → property larger state → item.Live larger →
      Safe E (step state item) larger property)
    {items : List Value} {state : σ} (live : ∀ v ∈ items, v.Live extent)
    (holds : property extent state) :
    Safe E (PixelApplet.eachItem step items state) extent property := by
  induction items generalizing extent state with
  | nil => exact pure fun _ grown => mono grown holds
  | cons item rest ih =>
    refine andThen checkCancelled fun _ => ?_
    refine bind (safe (Extent.le_refl _) holds (live item (.head _)))
      fun later larger grown holds' => ?_
    exact ih (fun grown' => safe (Extent.le_trans grown grown'))
      (fun v member => (live v (.tail _ member)).mono grown) holds'

section Evaluation

variable {call : Caller} (calls : CallsSafely call)

include calls

-- most of the theorems use how values are called only through each other
set_option linter.unusedSectionVars false

mutual

theorem evalExpr : (e : Expr) → e.LoadsOutside → ∀ {scope : Scope} {extent : Extent},
    scope.Live extent → Yields .data (PixelApplet.evalExpr call scope e) extent
  | .literal _ literal, _, _, _, _ => by
    rw [PixelApplet.evalExpr]
    refine nested ?_
    cases literal with
    | none => exact yields Value.live_none
    | bool b => exact yields (Value.live_bool b)
    | int i => exact yields (Value.live_int i)
    | float x => exact yields (Value.live_float x)
    | string s => exact yields (Value.live_str s)
  | .name _ name, _, scope, _, live => by
    rw [PixelApplet.evalExpr]
    refine nested (readingHeap fun h sound inside => ?_)
    split
    · rename_i found
      exact yields ((live.mono inside).lookup sound found)
    · exact fail _
  | .list _ items, placed, _, _, live => by
    rw [PixelApplet.evalExpr]
    rw [Expr.LoadsOutside] at placed
    exact nested (bind (evalAll items placed live) fun _ _ _ liveItems => newList liveItems)
  | .tuple _ items, placed, _, _, live => by
    rw [PixelApplet.evalExpr]
    rw [Expr.LoadsOutside] at placed
    exact nested (bind (evalAll items placed live) fun _ _ _ liveItems =>
      yields (Value.live_tuple.mpr liveItems))
  | .dict _ entries, placed, _, _, live => by
    rw [PixelApplet.evalExpr]
    rw [Expr.LoadsOutside] at placed
    exact nested (bind (evalEntries entries placed live DictCell.live_empty rfl)
      fun _ _ _ made => newDict made.1 made.2)
  | .listComp _ element clauses, placed, scope, _, live => by
    rw [PixelApplet.evalExpr]
    rw [Expr.LoadsOutside] at placed
    refine nested (andThen readsHeap fun ref => ?_)
    refine bind (newList nofun) fun list larger grown liveList => ?_
    refine bind (comprehend clauses placed.2 (fun {inner extent'} liveInner => ?_) rfl
      (live.mono grown).comprehension) fun _ _ grown' _ => yields (liveList.mono grown')
    refine bind (evalExpr element placed.1 liveInner) fun value _ _ liveValue => ?_
    refine changeList fun _ items grown liveItems v member => ?_
    rw [Array.toList_push, List.mem_append, List.mem_singleton] at member
    rcases member with old | rfl
    · exact liveItems v old
    · exact liveValue.mono grown
  | .dictComp _ key value clauses, placed, scope, _, live => by
    rw [PixelApplet.evalExpr]
    rw [Expr.LoadsOutside] at placed
    refine nested (andThen readsHeap fun ref => ?_)
    refine bind (newDict DictCell.live_empty rfl) fun dict larger grown liveDict => ?_
    refine bind (comprehend clauses placed.2.2 (fun {inner extent'} liveInner => ?_) rfl
      (live.mono grown).comprehension) fun _ _ grown' _ => yields (liveDict.mono grown')
    refine bind (evalExpr key placed.1 liveInner) fun k _ grownKey liveKey => ?_
    refine bind (evalExpr value placed.2.1 (liveInner.mono grownKey))
      fun v _ grownValue liveValue => ?_
    exact storeInDict (liveKey.mono grownValue) liveValue
  | .unary _ op operand, placed, _, _, live => by
    rw [PixelApplet.evalExpr]
    rw [Expr.LoadsOutside] at placed
    refine nested (bind (evalExpr operand placed live) fun v _ _ liveOperand => ?_)
    exact operate fun h _ _ result made _ grown => (Value.live_unary made).mono grown
  | .binary _ op left right, placed, _, _, live => by
    rw [PixelApplet.evalExpr]
    rw [Expr.LoadsOutside] at placed
    refine nested (bind (evalExpr left placed.1 live) fun l _ grown liveLeft => ?_)
    have onRight {extent' : Extent} (liveLeft : l.Live extent') (op : BinaryOp) :=
      fun (r : Value) (larger : Extent) (grown : extent' ≤ larger) (liveRight : r.Live larger) =>
        (produce (fun h sound inside => Value.live_binary op sound
          ((liveLeft.mono grown).mono inside) (liveRight.mono inside)) :
          Yields .data (Eval.produce fun h => Value.binary h op l r) larger)
    split
    · refine readingHeap fun h _ inside => ?_
      split
      · exact evalExpr right placed.2 ((live.mono grown).mono inside)
      · exact yields (liveLeft.mono inside)
    · refine readingHeap fun h _ inside => ?_
      split
      · exact yields (liveLeft.mono inside)
      · exact evalExpr right placed.2 ((live.mono grown).mono inside)
    · exact bind (evalExpr right placed.2 (live.mono grown)) (onRight liveLeft _)
  | .conditional _ test thenValue elseValue, placed, _, _, live => by
    rw [PixelApplet.evalExpr]
    rw [Expr.LoadsOutside] at placed
    refine nested (bind (evalExpr test placed.1 live) fun t _ grown _ => ?_)
    refine readingHeap fun h _ inside => ?_
    split
    · exact evalExpr thenValue placed.2.1 ((live.mono grown).mono inside)
    · exact evalExpr elseValue placed.2.2 ((live.mono grown).mono inside)
  | .lambda _ decl, placed, _, _, live => by
    rw [PixelApplet.evalExpr]
    rw [Expr.LoadsOutside] at placed
    exact nested (evalFunction decl placed live)
  | .call _ callee arguments, placed, _, _, live => by
    rw [PixelApplet.evalExpr]
    rw [Expr.LoadsOutside] at placed
    refine nested (bind (evalExpr callee placed.1 live) fun c _ grown liveCallee => ?_)
    refine bind (evalArguments arguments placed.2 (live.mono grown))
      fun given _ grown' liveArguments => ?_
    refine bind (moveTo _) fun _ _ grown'' _ => ?_
    exact calls (liveCallee.mono (Extent.le_trans grown' grown'')) (liveArguments.mono grown'')
  | .attribute _ object name, placed, _, _, live => by
    rw [PixelApplet.evalExpr]
    rw [Expr.LoadsOutside] at placed
    exact nested (bind (evalExpr object placed live) fun _ _ _ liveObject => member liveObject name)
  | .index _ object key, placed, _, _, live => by
    rw [PixelApplet.evalExpr]
    rw [Expr.LoadsOutside] at placed
    refine nested (bind (evalExpr object placed.1 live) fun o _ grown liveObject => ?_)
    refine bind (evalExpr key placed.2 (live.mono grown)) fun k _ grown' _ => ?_
    exact operate fun h sound inside result made _ grown'' =>
      (Value.live_index sound ((liveObject.mono grown').mono inside) made).mono grown''
  | .slice _ object start stop step, placed, _, _, live => by
    rw [PixelApplet.evalExpr]
    rw [Expr.LoadsOutside] at placed
    refine nested (bind (evalExpr object placed.1 live) fun o _ grown liveObject => ?_)
    refine bind (evalOption start placed.2.1 (live.mono grown)) fun a _ grown₁ _ => ?_
    have live₁ := (live.mono grown).mono grown₁
    refine bind (evalOption stop placed.2.2.1 live₁) fun b _ grown₂ _ => ?_
    refine bind (evalOption step placed.2.2.2 (live₁.mono grown₂)) fun c _ grown₃ _ => ?_
    have liveObject' := ((liveObject.mono grown₁).mono grown₂).mono grown₃
    exact produce fun h sound inside => Value.live_slice sound (liveObject'.mono inside)

theorem evalAll : (items : List Expr) → Expr.LoadsOutsideAll items →
    ∀ {scope : Scope} {extent : Extent}, scope.Live extent →
      YieldsAll .data (PixelApplet.evalAll call scope items) extent
  | [], _, _, _, _ => by
    rw [PixelApplet.evalAll]
    exact pure fun _ _ => nofun
  | e :: rest, placed, _, _, live => by
    rw [PixelApplet.evalAll]
    rw [Expr.LoadsOutsideAll] at placed
    refine bind (evalExpr e placed.1 live) fun value _ grown liveValue => ?_
    refine bind (evalAll rest placed.2 (live.mono grown)) fun values _ grown' liveValues => ?_
    refine pure fun _ grown'' v member => ?_
    rcases List.mem_cons.mp member with rfl | later
    · exact liveValue.mono (Extent.le_trans grown' grown'')
    · exact (liveValues v later).mono grown''

theorem evalOption : (e : Option Expr) → Expr.LoadsOutsideOption e →
    ∀ {scope : Scope} {extent : Extent}, scope.Live extent →
      MayYield .data (PixelApplet.evalOption call scope e) extent
  | none, _, _, _, _ => by
    rw [PixelApplet.evalOption]
    exact noValue
  | some e, placed, _, _, live => by
    rw [PixelApplet.evalOption]
    rw [Expr.LoadsOutsideOption] at placed
    exact someOf (evalExpr e placed live)

theorem evalEntries : (entries : List (Expr × Expr)) → Expr.LoadsOutsideEntries entries →
    ∀ {scope : Scope} {extent : Extent} {cell : DictCell}, scope.Live extent → cell.Live extent →
      cell.frozen = false → Safe .data (PixelApplet.evalEntries call scope entries cell) extent
        fun extent made => made.Live extent ∧ made.frozen = false
  | [], _, _, _, _, _, liveCell, thawed => by
    rw [PixelApplet.evalEntries]
    exact pure fun _ grown => ⟨liveCell.mono grown, thawed⟩
  | (key, value) :: rest, placed, _, _, _, live, liveCell, thawed => by
    rw [PixelApplet.evalEntries]
    rw [Expr.LoadsOutsideEntries] at placed
    refine bind (evalExpr key placed.1 live) fun k _ grown liveKey => ?_
    refine bind (evalExpr value placed.2.1 (live.mono grown)) fun v _ grown' liveValue => ?_
    refine andThen keyFor fun hash => ?_
    refine evalEntries rest placed.2.2 ((live.mono grown).mono grown') ?_ ?_
    · exact ((liveCell.mono grown).mono grown').insert (liveKey.mono grown') liveValue
    · rw [DictCell.frozen_insert]
      exact thawed

theorem evalArguments : (arguments : List Argument) → Argument.LoadsOutsideAll arguments →
    ∀ {scope : Scope} {extent : Extent}, scope.Live extent →
      Safe .data (PixelApplet.evalArguments call scope arguments) extent fun extent given =>
        given.Live extent
  | [], _, _, _, _ => by
    rw [PixelApplet.evalArguments]
    exact pure fun _ _ => Arguments.live_empty
  | .positional e :: rest, placed, _, _, live => by
    rw [PixelApplet.evalArguments]
    rw [Argument.LoadsOutsideAll] at placed
    refine bind (evalExpr e placed.1 live) fun value _ grown liveValue => ?_
    refine bind (evalArguments rest placed.2 (live.mono grown)) fun others _ grown' liveOthers => ?_
    refine pure fun _ grown'' => ⟨fun v member => ?_, (liveOthers.mono grown'').named⟩
    rcases List.mem_cons.mp member with rfl | later
    · exact liveValue.mono (Extent.le_trans grown' grown'')
    · exact (liveOthers.positional v later).mono grown''
  | .named name e :: rest, placed, _, _, live => by
    rw [PixelApplet.evalArguments]
    rw [Argument.LoadsOutsideAll] at placed
    refine bind (evalExpr e placed.1 live) fun value _ grown liveValue => ?_
    refine bind (evalArguments rest placed.2 (live.mono grown)) fun others _ grown' liveOthers => ?_
    refine pure fun _ grown'' => ⟨(liveOthers.mono grown'').positional, fun entry member => ?_⟩
    rcases List.mem_cons.mp member with rfl | later
    · exact liveValue.mono (Extent.le_trans grown' grown'')
    · exact (liveOthers.named entry later).mono grown''
  | .spread e :: rest, placed, _, _, live => by
    rw [PixelApplet.evalArguments]
    rw [Argument.LoadsOutsideAll] at placed
    refine bind (evalExpr e placed.1 live) fun value _ grown liveValue => ?_
    refine bind (iterate liveValue) fun values _ grown₁ liveValues => ?_
    refine bind (evalArguments rest placed.2 ((live.mono grown).mono grown₁))
      fun others _ grown₂ liveOthers => ?_
    refine pure fun _ grown₃ => ⟨fun v member => ?_, (liveOthers.mono grown₃).named⟩
    rcases List.mem_append.mp member with first | later
    · exact (liveValues v first).mono (Extent.le_trans grown₂ grown₃)
    · exact (liveOthers.positional v later).mono grown₃
  | .spreadNamed e :: rest, placed, _, _, live => by
    rw [PixelApplet.evalArguments]
    rw [Argument.LoadsOutsideAll] at placed
    refine bind (evalExpr e placed.1 live) fun value _ grown liveValue => ?_
    split
    · refine readingHeap fun h sound inside => ?_
      refine bind (spreadEntries (sound.dicts _).pairs) fun entries _ grown₁ liveEntries => ?_
      have live₁ := ((live.mono grown).mono inside).mono grown₁
      refine bind (evalArguments rest placed.2 live₁) fun others _ grown₂ liveOthers => ?_
      refine pure fun _ grown₃ => ⟨(liveOthers.mono grown₃).positional, fun entry member => ?_⟩
      rcases List.mem_append.mp member with first | later
      · exact (liveEntries entry first).mono (Extent.le_trans grown₂ grown₃)
      · exact (liveOthers.named entry later).mono grown₃
    · exact fail _

theorem comprehend : (clauses : List Clause) → Clause.LoadsOutsideAll clauses →
    ∀ {body : Scope → Eval Unit}, (∀ {scope : Scope} {extent : Extent}, scope.Live extent →
      Runs .data (body scope) extent) → ∀ {scope : Scope} {extent : Extent},
        scope.locals.isSome = true → scope.Live extent →
          Rebinds .data (PixelApplet.comprehend call body clauses scope) scope extent
  | [], _, _, runs, _, _, _, live => by
    rw [PixelApplet.comprehend]
    exact (runs live).bind fun _ _ grown _ => keepScope (live.mono grown)
  | .for_ target iterable :: rest, placed, body, runs, scope, extent, own, live => by
    rw [PixelApplet.comprehend]
    rw [Clause.LoadsOutsideAll] at placed
    refine bind (evalExpr iterable placed.2.1 live) fun value larger grown liveValue => ?_
    refine bind (iterate liveValue) fun items largest grown' liveItems => ?_
    refine eachItem (fun grown holds => ⟨holds.1.mono grown, holds.2⟩)
      (fun {state item larger} _ holds liveItem => ?_) liveItems
      ⟨(live.mono grown).mono grown', .refl scope⟩
    have none_ : state.binds = none := by
      rw [Scope.binds, holds.2.locals, own]
      rfl
    have binding := assignTarget target placed.1 holds.1 liveItem
    rw [none_] at binding
    refine bind binding fun next _ _ bound => ?_
    refine (comprehend rest placed.2.2 runs ?_ bound.1).weaken fun _ last _ ended => ?_
    · rw [bound.2.locals, holds.2.locals]
      exact own
    · exact ⟨ended.1, holds.2.trans (bound.2.trans ended.2)⟩
  | .if_ test :: rest, placed, body, runs, scope, extent, own, live => by
    rw [PixelApplet.comprehend]
    rw [Clause.LoadsOutsideAll] at placed
    refine bind (evalExpr test placed.1 live) fun value larger grown _ => ?_
    refine readingHeap fun h _ inside => ?_
    split
    · exact comprehend rest placed.2 runs own ((live.mono grown).mono inside)
    · exact keepScope ((live.mono grown).mono inside)

theorem assignTarget : (target : Expr) → target.LoadsOutside →
    ∀ {scope : Scope} {extent : Extent} {value : Value}, scope.Live extent → value.Live extent →
      Rebinds (.program scope.binds) (PixelApplet.assignTarget call scope target value) scope extent
  | .name _ name, _, _, _, _, live, liveValue => by
    rw [PixelApplet.assignTarget]
    exact assign live liveValue
  | .tuple _ targets, placed, _, _, _, live, liveValue => by
    rw [PixelApplet.assignTarget]
    rw [Expr.LoadsOutside] at placed
    refine bind (iterate liveValue) fun values _ grown liveValues => ?_
    split
    · exact fail _
    · exact assignTargets targets placed (live.mono grown) liveValues
  | .list _ targets, placed, _, _, _, live, liveValue => by
    rw [PixelApplet.assignTarget]
    rw [Expr.LoadsOutside] at placed
    refine bind (iterate liveValue) fun values _ grown liveValues => ?_
    split
    · exact fail _
    · exact assignTargets targets placed (live.mono grown) liveValues
  | .index _ object key, placed, _, _, _, live, liveValue => by
    rw [PixelApplet.assignTarget]
    rw [Expr.LoadsOutside] at placed
    refine bind ((evalExpr object placed.1 live).lift (Effect.data_within_program _))
      fun o _ grown liveObject => ?_
    refine bind ((evalExpr key placed.2 (live.mono grown)).lift (Effect.data_within_program _))
      fun k _ grown' liveKey => ?_
    have liveValue' := (liveValue.mono grown).mono grown'
    refine ((assignIndex liveKey liveValue').lift (Effect.data_within_program _)).bind
      fun _ _ grown'' _ => keepScope (((live.mono grown).mono grown').mono grown'')
  | .attribute _ object name, placed, _, _, _, live, _ => by
    rw [PixelApplet.assignTarget]
    rw [Expr.LoadsOutside] at placed
    exact bind ((evalExpr object placed live).lift (Effect.data_within_program _))
      fun _ _ _ _ => fail _
  | .literal .., _, _, _, _, _, _ | .dict .., _, _, _, _, _, _ | .listComp .., _, _, _, _, _, _
  | .dictComp .., _, _, _, _, _, _ | .unary .., _, _, _, _, _, _ | .binary .., _, _, _, _, _, _
  | .conditional .., _, _, _, _, _, _ | .lambda .., _, _, _, _, _, _ | .call .., _, _, _, _, _, _
  | .slice .., _, _, _, _, _, _ => by
    rw [PixelApplet.assignTarget]
    all_goals first | exact fail _ | exact nofun

theorem assignTargets : (targets : List Expr) → Expr.LoadsOutsideAll targets →
    ∀ {scope : Scope} {extent : Extent} {values : List Value}, scope.Live extent →
      (∀ v ∈ values, v.Live extent) → Rebinds (.program scope.binds)
        (PixelApplet.assignTargets call scope targets values) scope extent
  | [], _, scope, _, values, live, _ => by
    rw [PixelApplet.assignTargets]
    · exact keepScope live
    · exact nofun
  | target :: targets, placed, scope, _, [], live, _ => by
    rw [PixelApplet.assignTargets]
    · exact keepScope live
    · exact nofun
  | target :: targets, placed, scope, _, value :: values, live, liveValues => by
    rw [PixelApplet.assignTargets]
    rw [Expr.LoadsOutsideAll] at placed
    refine bind (assignTarget target placed.1 live (liveValues value (.head _)))
      fun next _ grown bound => ?_
    have others := assignTargets targets placed.2 bound.1
      fun v member => (liveValues v (.tail _ member)).mono grown
    rw [bound.2.binds] at others
    exact others.weaken fun _ last _ ended => ⟨ended.1, bound.2.trans ended.2⟩

theorem evalFunction : (decl : FunctionDecl) → decl.LoadsOutside →
    ∀ {scope : Scope} {extent : Extent}, scope.Live extent →
      Yields .data (PixelApplet.evalFunction call scope decl) extent
  | .mk name pos params body, placed, _, _, live => by
    rw [PixelApplet.evalFunction]
    have placed' := placed
    rw [FunctionDecl.LoadsOutside] at placed'
    exact bind (evalDefaults params placed'.1 live) fun _ _ grown liveDefaults =>
      newFunction (live.mono grown) placed liveDefaults

theorem evalDefaults : (params : List Param) → Param.LoadsOutsideAll params →
    ∀ {scope : Scope} {extent : Extent}, scope.Live extent →
      Safe .data (PixelApplet.evalDefaults call scope params) extent fun extent slots =>
        ∀ slot ∈ slots, Slot.Live extent slot
  | [], _, _, _, _ => by
    rw [PixelApplet.evalDefaults]
    exact pure fun _ _ => nofun
  | .mk _ _ kind :: rest, placed, _, _, live => by
    rw [PixelApplet.evalDefaults]
    rw [Param.LoadsOutsideAll] at placed
    refine bind (evalDefault kind placed.1 live) fun slot _ grown liveSlot => ?_
    refine bind (evalDefaults rest placed.2 (live.mono grown)) fun slots _ grown' liveSlots => ?_
    refine pure fun _ grown'' other member v there => ?_
    rcases List.mem_cons.mp member with rfl | later
    · exact (liveSlot v there).mono (Extent.le_trans grown' grown'')
    · exact (liveSlots other later v there).mono grown''

theorem evalDefault : (kind : ParamKind) → kind.LoadsOutside →
    ∀ {scope : Scope} {extent : Extent}, scope.Live extent →
      MayYield .data (PixelApplet.evalDefault call scope kind) extent
  | .optional e, placed, _, _, live => by
    rw [PixelApplet.evalDefault]
    rw [ParamKind.LoadsOutside] at placed
    exact someOf (evalExpr e placed live)
  | .required, _, _, _, _ | .rest, _, _, _, _ | .restNamed, _, _, _, _ => by
    rw [PixelApplet.evalDefault]
    all_goals first | exact noValue | exact nofun

end

end Evaluation

end Eval.Safe

end PixelApplet
