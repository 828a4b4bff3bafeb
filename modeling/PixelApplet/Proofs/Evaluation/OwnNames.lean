import PixelApplet.Proofs.Evaluation.FrozenData

/-!
# Only the statements of a scope bind its names

Which names a block binds can be read off its statements: targets, loop variables and the names of
functions.  Variables of comprehensions are not among them, nor is anything that stands in a function.
Evaluating an expression, and calling a value, changes the meaning of no name in any scope; executing
a block changes the meaning of the names that it binds at most, and only in its own scope.
-/

namespace PixelApplet

/-! ## The names of a block -/

mutual

/-- The names that a target binds. -/
def Expr.boundNames : Expr → List String
  | .name _ bound => [bound]
  | .tuple _ targets | .list _ targets => Expr.boundNamesAll targets
  | _ => []

/-- The names that several targets bind. -/
def Expr.boundNamesAll : List Expr → List String
  | [] => []
  | target :: rest => target.boundNames ++ Expr.boundNamesAll rest

end

mutual

/-- The names that a statement binds in its scope. -/
def Stmt.boundNames : Stmt → List String
  | .assign _ target _ | .augAssign _ target _ _ => target.boundNames
  | .define _ function => [function.name]
  | .if_ _ _ thenBlock elseBlock =>
    Stmt.boundNamesAll thenBlock ++ Stmt.boundNamesAll elseBlock
  | .for_ _ target _ body => target.boundNames ++ Stmt.boundNamesAll body
  | .load _ _ bindings => bindings.map LoadBinding.name
  | .expr _ _ | .return_ _ _ | .break_ _ | .continue_ _ | .pass _ => []

/-- The names that several statements bind in their scope. -/
def Stmt.boundNamesAll : List Stmt → List String
  | [] => []
  | s :: rest => s.boundNames ++ Stmt.boundNamesAll rest

end

/-! ## What binding names changes -/

/-- From one heap to another, variables of some names were bound in one module at most. -/
structure Heap.BindsOnly (home : Option ModuleRef) (names : List String) (h h' : Heap) : Prop where
  others : ∀ ref, home ≠ some ref → h'.module ref = h.module ref
  cell : ∀ ref, h'.module ref = { h.module ref with vars := (h'.module ref).vars }
  vars : ∀ ref, ∀ name ∉ names,
    (h'.module ref).vars.get? name = (h.module ref).vars.get? name

namespace Heap

variable {home : Option ModuleRef} {names : List String}

theorem BindsOnly.of_same {h h' : Heap} (same : ∀ ref, h'.module ref = h.module ref) :
    h.BindsOnly home names h' :=
  ⟨fun ref _ => same ref, fun ref => by rw [same], fun ref _ _ => by rw [same]⟩

theorem BindsOnly.trans {a b c : Heap} (first : a.BindsOnly home names b)
    (second : b.BindsOnly home names c) : a.BindsOnly home names c where
  others ref other := (second.others ref other).trans (first.others ref other)
  cell ref := by rw [second.cell ref, first.cell ref]
  vars ref name free := (second.vars ref name free).trans (first.vars ref name free)

theorem bindsOnly_insert (h : Heap) (ref : ModuleRef) {name : String} (value : Value)
    (listed : name ∈ names) : h.BindsOnly (some ref) names (h.modifyModule ref fun cell =>
      { cell with vars := cell.vars.insert name value }) where
  others other different := by
    rw [module_modifyModule, if_neg]
    rintro ⟨rfl, _⟩
    exact different rfl
  cell other := by
    rw [module_modifyModule]
    split
    · rename_i same
      rw [same.1]
    · rfl
  vars other free fresh := by
    rw [module_modifyModule]
    split
    · rename_i same
      rw [same.1]
      exact Bindings.get?_insert_of_ne _ _ fun same => fresh (same ▸ listed)
    · rfl

/-- Where no variable of a module is bound, the modules stay as they are. -/
theorem Evolves.module {h h' : Heap} (evolves : Evolves none h h') (ref : ModuleRef) :
    h'.module ref = h.module ref := by
  induction evolves with
  | refl => rfl
  | tail _ step ih =>
    refine Eq.trans ?_ ih
    cases step with
    | bind ref own => cases own
    | _ => rfl

end Heap

/-- The effect of a program that binds variables of some names, in one module at most. -/
def Effect.naming (home : Option ModuleRef) (names : List String) : Effect where
  done m m' := m.heap.BindsOnly home names m'.heap
  stopped m m' := m.heap.BindsOnly home names m'.heap
  alike alike := .of_same fun _ => by rw [alike.heap]
  trans := Heap.BindsOnly.trans
  stop := Heap.BindsOnly.trans
  stops := id
  after binds alike := alike.heap ▸ binds

theorem Effect.data_within_naming (home : Option ModuleRef) (names : List String) :
    Effect.data.Within (.naming home names) :=
  ⟨fun becomes => .of_same becomes.heap.module, fun becomes => .of_same becomes.heap.module⟩

namespace Scope

/-- What a name means in a scope by its own variables. -/
def own? (scope : Scope) (name : String) : Option Value :=
  scope.locals.bind (·.get? name)

/-- A later scope of the same block, in which own variables of some names were bound. -/
structure AgreesOff (names : List String) (scope later : Scope) : Prop where
  extends_ : scope.Extends later
  captured : later.captured = scope.captured
  own : ∀ name ∉ names, later.own? name = scope.own? name

variable {names : List String}

theorem AgreesOff.refl (scope : Scope) : scope.AgreesOff names scope :=
  ⟨.refl scope, rfl, fun _ _ => rfl⟩

theorem AgreesOff.trans {a b c : Scope} (first : a.AgreesOff names b)
    (second : b.AgreesOff names c) : a.AgreesOff names c where
  extends_ := first.extends_.trans second.extends_
  captured := second.captured.trans first.captured
  own name free := (second.own name free).trans (first.own name free)

/-- A name that is bound nowhere in between means the same later on. -/
theorem AgreesOff.lookup? {scope later : Scope} {h h' : Heap} {name : String}
    (agrees : scope.AgreesOff names later) (binds : h.BindsOnly scope.binds names h')
    (free : name ∉ names) : later.lookup? h' name = scope.lookup? h name := by
  have own := agrees.own name free
  have cell : (h'.module scope.home).lookup? name = (h.module scope.home).lookup? name := by
    rw [binds.cell scope.home]
    unfold ModuleCell.lookup?
    rw [binds.vars scope.home name free]
  unfold own? at own
  unfold Scope.lookup?
  rw [own, agrees.captured, agrees.extends_.home, cell]

end Scope

/-! ## What statements bind -/

namespace Eval.Safe

variable {names : List String} {extent : Extent} {scope : Scope}

/-- An action that binds no names of its scope but those of a list. -/
abbrev Binds (names : List String) (act : Eval Scope) (scope : Scope) (extent : Extent) : Prop :=
  Safe (.naming scope.binds names) act extent fun extent later =>
    later.Live extent ∧ scope.AgreesOff names later

/-- A block that binds no names of its scope but those of a list. -/
abbrev FlowBinds (names : List String) (act : Eval (Flow × Scope)) (scope : Scope)
    (extent : Extent) : Prop :=
  Safe (.naming scope.binds names) act extent fun extent outcome =>
    outcome.1.Live extent ∧ outcome.2.Live extent ∧ scope.AgreesOff names outcome.2

theorem bindsNothing (live : scope.Live extent) :
    Binds names (Pure.pure scope) scope extent :=
  pure fun _ grown => ⟨live.mono grown, .refl scope⟩

theorem flowBindsNothing (flow : Flow) (liveFlow : flow.Live extent) (live : scope.Live extent) :
    FlowBinds names (Pure.pure (flow, scope)) scope extent :=
  pure fun _ grown => ⟨Flow.Live.mono liveFlow grown, live.mono grown, .refl scope⟩

/-- What happens in a later scope of a block happens in the block. -/
theorem Binds.earlier {act : Eval Scope} {later : Scope} (agrees : scope.AgreesOff names later)
    (binds : Binds names act later extent) : Binds names act scope extent := by
  unfold Binds at binds ⊢
  rw [agrees.extends_.binds] at binds
  exact binds.weaken fun _ _ _ ended => ⟨ended.1, agrees.trans ended.2⟩

theorem FlowBinds.earlier {act : Eval (Flow × Scope)} {later : Scope}
    (agrees : scope.AgreesOff names later) (binds : FlowBinds names act later extent) :
    FlowBinds names act scope extent := by
  unfold FlowBinds at binds ⊢
  rw [agrees.extends_.binds] at binds
  exact binds.weaken fun _ _ _ ended => ⟨ended.1, ended.2.1, agrees.trans ended.2.2⟩

/-- A block goes on where something was bound. -/
theorem flowBinds {act : Eval Scope} (binds : Binds names act scope extent) :
    FlowBinds names (act >>= fun later => Pure.pure (.normal, later)) scope extent :=
  bind binds fun _ _ _ bound => pure fun _ grown => ⟨trivial, bound.1.mono grown, bound.2⟩

theorem assignListed {name : String} {value : Value} (listed : name ∈ names)
    (live : scope.Live extent) (liveValue : value.Live extent) :
    Binds names (scope.assign name value) scope extent := by
  cases own : scope.locals with
  | some locals =>
    have safe := @assign _ _ name _ live liveValue
    rw [Scope.assign_of_own own] at safe ⊢
    refine fun m sound inside => ⟨Effect.refl _ m, sound, Extent.le_refl _, ?_⟩
    obtain ⟨_, _, _, liveLater, extends_⟩ := safe m sound inside
    refine ⟨liveLater, extends_, rfl, fun other free => ?_⟩
    have different : other ≠ name := fun same => free (same ▸ listed)
    unfold Scope.own?
    rw [own]
    exact Bindings.get?_insert_of_ne value locals different
  | none =>
    intro m sound inside
    have safe := @assign _ _ name _ live liveValue m sound inside
    rw [Scope.binds_of_module own]
    cases frozen : (m.heap.module scope.home).frozen with
    | true =>
      rw [Scope.assign_of_frozen own frozen]
      exact ⟨(Effect.naming _ names).stops (Effect.refl _ m), sound⟩
    | false =>
      rw [Scope.assign_of_thawed own frozen] at safe ⊢
      obtain ⟨_, sound', grown, liveLater, _⟩ := safe
      exact ⟨Heap.bindsOnly_insert _ _ _ listed, sound', grown, liveLater, .refl scope⟩

section Execution

variable {call : Caller} (calls : CallsSafely call)

include calls

-- most of the theorems use how values are called only through each other
set_option linter.unusedSectionVars false

mutual

theorem assignTargetListed : (target : Expr) → target.LoadsOutside → target.boundNames ⊆ names →
    ∀ {scope : Scope} {extent : Extent} {value : Value}, scope.Live extent → value.Live extent →
      Binds names (PixelApplet.assignTarget call scope target value) scope extent
  | .name _ name, _, listed, _, _, _, live, liveValue => by
    rw [PixelApplet.assignTarget]
    rw [Expr.boundNames] at listed
    exact assignListed (listed (.head _)) live liveValue
  | .tuple _ targets, placed, listed, _, _, _, live, liveValue
  | .list _ targets, placed, listed, _, _, _, live, liveValue => by
    rw [PixelApplet.assignTarget]
    rw [Expr.LoadsOutside] at placed
    rw [Expr.boundNames] at listed
    refine bind (iterate liveValue) fun values _ grown liveValues => ?_
    split
    · exact fail _
    · exact assignTargetsListed targets placed listed (live.mono grown) liveValues
  | .index _ object key, placed, _, _, _, _, live, liveValue => by
    rw [PixelApplet.assignTarget]
    rw [Expr.LoadsOutside] at placed
    refine bind ((evalExpr calls object placed.1 live).lift (Effect.data_within_naming _ _))
      fun o _ grown liveObject => ?_
    refine bind ((evalExpr calls key placed.2 (live.mono grown)).lift
      (Effect.data_within_naming _ _)) fun k _ grown' liveKey => ?_
    have liveValue' := (liveValue.mono grown).mono grown'
    refine ((assignIndex liveKey liveValue').lift (Effect.data_within_naming _ _)).bind
      fun _ _ grown'' _ => bindsNothing (((live.mono grown).mono grown').mono grown'')
  | .attribute _ object name, placed, _, _, _, _, live, _ => by
    rw [PixelApplet.assignTarget]
    rw [Expr.LoadsOutside] at placed
    exact bind ((evalExpr calls object placed live).lift (Effect.data_within_naming _ _))
      fun _ _ _ _ => fail _
  | .literal .., _, _, _, _, _, _, _ | .dict .., _, _, _, _, _, _, _
  | .listComp .., _, _, _, _, _, _, _ | .dictComp .., _, _, _, _, _, _, _
  | .unary .., _, _, _, _, _, _, _ | .binary .., _, _, _, _, _, _, _
  | .conditional .., _, _, _, _, _, _, _ | .lambda .., _, _, _, _, _, _, _
  | .call .., _, _, _, _, _, _, _ | .slice .., _, _, _, _, _, _, _ => by
    rw [PixelApplet.assignTarget]
    all_goals first | exact fail _ | exact nofun

theorem assignTargetsListed : (targets : List Expr) → Expr.LoadsOutsideAll targets →
    Expr.boundNamesAll targets ⊆ names → ∀ {scope : Scope} {extent : Extent} {values : List Value},
      scope.Live extent → (∀ v ∈ values, v.Live extent) →
        Binds names (PixelApplet.assignTargets call scope targets values) scope extent
  | [], _, _, scope, _, values, live, _ => by
    rw [PixelApplet.assignTargets]
    · exact bindsNothing live
    · exact nofun
  | target :: targets, placed, _, scope, _, [], live, _ => by
    rw [PixelApplet.assignTargets]
    · exact bindsNothing live
    · exact nofun
  | target :: targets, placed, listed, scope, _, value :: values, live, liveValues => by
    rw [PixelApplet.assignTargets]
    rw [Expr.LoadsOutsideAll] at placed
    rw [Expr.boundNamesAll, List.append_subset] at listed
    refine bind (assignTargetListed target placed.1 listed.1 live (liveValues value (.head _)))
      fun next _ grown bound => ?_
    exact (assignTargetsListed targets placed.2 listed.2 bound.1
      fun v member => (liveValues v (.tail _ member)).mono grown).earlier bound.2

end

theorem augAssignListed {target value : Expr} {op : BinaryOp} (placedTarget : target.LoadsOutside)
    (placed : value.LoadsOutside) (listed : target.boundNames ⊆ names) (live : scope.Live extent) :
    Binds names (PixelApplet.augAssign call scope target op value) scope extent := by
  have lifted {α : Type} {act : Eval α} {larger : Extent} {property : Extent → α → Prop}
      (safe : Safe .data act larger property) :
      Safe (.naming scope.binds names) act larger property :=
    safe.lift (Effect.data_within_naming _ _)
  unfold PixelApplet.augAssign
  split
  · rename_i object key
    rw [Expr.LoadsOutside] at placedTarget
    refine bind (lifted (evalExpr calls object placedTarget.1 live)) fun o _ grown₁ liveObject => ?_
    have live₁ := live.mono grown₁
    refine bind (lifted (evalExpr calls key placedTarget.2 live₁)) fun k _ grown₂ liveKey => ?_
    have live₂ := live₁.mono grown₂
    refine bind (operate fun h sound inside current made larger grown =>
      (Value.live_index sound ((liveObject.mono grown₂).mono inside) made).mono grown)
      fun current _ grown₃ liveCurrent => ?_
    have live₃ := live₂.mono grown₃
    refine bind (lifted (evalExpr calls value placed live₃)) fun v _ grown₄ liveValue => ?_
    refine bind (lifted (augmented (liveCurrent.mono grown₄) liveValue))
      fun result _ grown₅ liveResult => ?_
    have liveKey₅ := ((liveKey.mono grown₃).mono grown₄).mono grown₅
    exact (lifted (assignIndex liveKey₅ liveResult)).bind
      fun _ _ grown₆ _ => bindsNothing (((live₃.mono grown₄).mono grown₅).mono grown₆)
  · refine bind (lifted (evalExpr calls target placedTarget live))
      fun current _ grown₁ liveCurrent => ?_
    refine bind (lifted (evalExpr calls value placed (live.mono grown₁)))
      fun v _ grown₂ liveValue => ?_
    refine bind (lifted (augmented (liveCurrent.mono grown₂) liveValue))
      fun result _ grown₃ liveResult => ?_
    exact assignTargetListed calls target placedTarget listed
      (((live.mono grown₁).mono grown₂).mono grown₃) liveResult

omit calls in
/-- A loop binds no other names than its step. -/
theorem eachIterationListed {step : Scope → Value → Eval (Flow × Scope)}
    (binds : ∀ {later : Scope} {item : Value} {larger : Extent}, extent ≤ larger →
      later.Live larger → item.Live larger → FlowBinds names (step later item) later larger)
    {items : List Value} (live : ∀ v ∈ items, v.Live extent) (liveScope : scope.Live extent) :
    FlowBinds names (PixelApplet.eachIteration step items scope) scope extent := by
  induction items generalizing extent scope with
  | nil => exact flowBindsNothing .normal trivial liveScope
  | cons item rest ih =>
    refine andThen checkCancelled fun _ => ?_
    refine bind (binds (Extent.le_refl _) liveScope (live item (.head _)))
      fun outcome larger grown ended => ?_
    obtain ⟨flow, later⟩ := outcome
    obtain ⟨liveFlow, liveLater, agrees⟩ := ended
    have again : FlowBinds names (PixelApplet.eachIteration step rest later) later larger :=
      ih (fun grown' => binds (Extent.le_trans grown grown'))
        (fun v member => (live v (.tail _ member)).mono grown) liveLater
    cases flow with
    | normal => exact again.earlier agrees
    | continue_ => exact again.earlier agrees
    | break_ => exact (flowBindsNothing .normal trivial liveLater).earlier agrees
    | return_ value => exact (flowBindsNothing _ liveFlow liveLater).earlier agrees

variable {load : Loader}

mutual

theorem execStmtListed : (s : Stmt) → s.LoadsOutside false → s.boundNames ⊆ names →
    ∀ {scope : Scope} {extent : Extent}, scope.Live extent →
      FlowBinds names (PixelApplet.execStmt call load scope s) scope extent
  | .expr pos e, placed, _, scope, _, live => by
    rw [PixelApplet.execStmt]
    rw [Stmt.LoadsOutside] at placed
    refine andThen (moveTo _) fun _ => mapError (andThen checkCancelled fun _ => ?_)
    exact bind ((evalExpr calls e placed live).lift (Effect.data_within_naming _ _))
      fun _ _ grown _ => flowBindsNothing .normal trivial (live.mono grown)
  | .assign pos target value, placed, listed, scope, _, live => by
    rw [PixelApplet.execStmt]
    rw [Stmt.LoadsOutside] at placed
    rw [Stmt.boundNames] at listed
    refine andThen (moveTo _) fun _ => mapError (andThen checkCancelled fun _ => ?_)
    refine bind ((evalExpr calls value placed.2 live).lift (Effect.data_within_naming _ _))
      fun v _ grown liveValue => ?_
    exact flowBinds (assignTargetListed calls target placed.1 listed (live.mono grown) liveValue)
  | .augAssign pos target op value, placed, listed, scope, _, live => by
    rw [PixelApplet.execStmt]
    rw [Stmt.LoadsOutside] at placed
    rw [Stmt.boundNames] at listed
    refine andThen (moveTo _) fun _ => mapError (andThen checkCancelled fun _ => ?_)
    exact flowBinds (augAssignListed calls placed.1 placed.2 listed live)
  | .define pos decl, placed, listed, scope, _, live => by
    rw [PixelApplet.execStmt]
    rw [Stmt.LoadsOutside] at placed
    rw [Stmt.boundNames] at listed
    refine andThen (moveTo _) fun _ => mapError (andThen checkCancelled fun _ => ?_)
    refine bind ((evalFunction calls decl placed live).lift (Effect.data_within_naming _ _))
      fun f _ grown liveFunction => ?_
    exact flowBinds (assignListed (listed (.head _)) (live.mono grown) liveFunction)
  | .return_ pos value, placed, _, scope, _, live => by
    rw [PixelApplet.execStmt]
    rw [Stmt.LoadsOutside] at placed
    refine andThen (moveTo _) fun _ => mapError (andThen checkCancelled fun _ => ?_)
    refine bind ((evalOption calls value placed live).lift (Effect.data_within_naming _ _))
      fun v _ grown liveValue => ?_
    exact flowBindsNothing _ (Slot.Live.getD liveValue) (live.mono grown)
  | .if_ pos test thenBlock elseBlock, placed, listed, scope, _, live => by
    rw [PixelApplet.execStmt]
    rw [Stmt.LoadsOutside] at placed
    rw [Stmt.boundNames, List.append_subset] at listed
    refine andThen (moveTo _) fun _ => mapError (andThen checkCancelled fun _ => ?_)
    refine bind ((evalExpr calls test placed.1 live).lift (Effect.data_within_naming _ _))
      fun v _ grown _ => ?_
    refine readingHeap fun h _ inside => ?_
    have live' := (live.mono grown).mono inside
    split
    · exact execBlockListed thenBlock placed.2.1 listed.1 live'
    · exact execBlockListed elseBlock placed.2.2 listed.2 live'
  | .for_ pos target iterable body, placed, listed, scope, _, live => by
    rw [PixelApplet.execStmt]
    rw [Stmt.LoadsOutside] at placed
    rw [Stmt.boundNames, List.append_subset] at listed
    refine andThen (moveTo _) fun _ => mapError (andThen checkCancelled fun _ => ?_)
    refine bind ((evalExpr calls iterable placed.2.1 live).lift (Effect.data_within_naming _ _))
      fun v _ grown liveValue => ?_
    refine bind (iterate liveValue) fun items _ grown' liveItems => ?_
    refine eachIterationListed (fun {later item larger} _ liveLater liveItem => ?_) liveItems
      ((live.mono grown).mono grown')
    refine bind (assignTargetListed calls target placed.1 listed.1 liveLater liveItem)
      fun next _ _ bound => ?_
    exact (execBlockListed body placed.2.2 listed.2 bound.1).earlier bound.2
  | .break_ pos, _, _, _, _, live | .continue_ pos, _, _, _, _, live
  | .pass pos, _, _, _, _, live => by
    rw [PixelApplet.execStmt]
    exact andThen (moveTo _) fun _ => mapError (andThen checkCancelled fun _ =>
      flowBindsNothing _ trivial live)
  | .load pos module bindings, placed, _, _, _, _ => by
    rw [Stmt.LoadsOutside] at placed
    exact Bool.noConfusion placed

theorem execBlockListed : (block : List Stmt) → Stmt.LoadsOutsideAll false block →
    Stmt.boundNamesAll block ⊆ names → ∀ {scope : Scope} {extent : Extent}, scope.Live extent →
      FlowBinds names (PixelApplet.execBlock call load scope block) scope extent
  | [], _, _, _, _, live => by
    rw [PixelApplet.execBlock]
    exact flowBindsNothing .normal trivial live
  | s :: rest, placed, listed, scope, _, live => by
    rw [PixelApplet.execBlock]
    rw [Stmt.LoadsOutsideAll] at placed
    rw [Stmt.boundNamesAll, List.append_subset] at listed
    refine bind (execStmtListed s placed.1 listed.1 live) fun outcome _ _ ended => ?_
    obtain ⟨flow, later⟩ := outcome
    obtain ⟨liveFlow, liveLater, agrees⟩ := ended
    cases flow with
    | normal => exact (execBlockListed rest placed.2 listed.2 liveLater).earlier agrees
    | break_ => exact (flowBindsNothing _ liveFlow liveLater).earlier agrees
    | continue_ => exact (flowBindsNothing _ liveFlow liveLater).earlier agrees
    | return_ value => exact (flowBindsNothing _ liveFlow liveLater).earlier agrees

end

end Execution

end Eval.Safe

/-! ## Names keep their meanings -/

/-- Every name of every scope means in one machine what it means in another. -/
structure Machine.SameBindings (m m' : Machine) : Prop where
  modules : ∀ ref, m'.heap.module ref = m.heap.module ref
  lookups : ∀ (scope : Scope) (name : String),
    scope.lookup? m'.heap name = scope.lookup? m.heap name

theorem Machine.SameBindings.of_modules {m m' : Machine}
    (modules : ∀ ref, m'.heap.module ref = m.heap.module ref) : m.SameBindings m' where
  modules := modules
  lookups scope name := by
    unfold Scope.lookup?
    rw [modules]

/-- What happens to data binds no names, however it ends. -/
theorem Eval.Safe.sameBindings {α : Type} {act : Eval α} {property : Extent → α → Prop}
    {m : Machine} (safe : Safe .data act m.heap.extent property) (sound : m.heap.Sound) :
    m.SameBindings (act.after m) := by
  have ended := safe m sound (Extent.le_refl _)
  refine .of_modules fun ref => ?_
  unfold after
  cases ran : act m with
  | ok value m' =>
    rw [ran] at ended
    exact ended.1.heap.module ref
  | error abort m' =>
    rw [ran] at ended
    exact ended.1.heap.module ref

/-- Evaluating an expression and calling a value, however that ends, leave the meanings of all names
in all scopes as they are.  A block without load statements, however it ends, binds variables of its
own module at most, and none if it is the body of a function; if it was executed, then all names mean
what they meant before but those that its own statements bind. -/
theorem only_own_statements_bind {m : Machine} (sound : m.heap.Sound) (load : Loader) :
    (∀ (scope : Scope) (e : Expr), scope.Live m.heap.extent → e.LoadsOutside →
      m.SameBindings ((evalExpr (callValue load) scope e).after m))
    ∧ (∀ (callee : Value) (arguments : Arguments), callee.Live m.heap.extent →
      arguments.Live m.heap.extent → m.SameBindings ((callValue load callee arguments).after m))
    ∧ ∀ (scope : Scope) (block : Block), scope.Live m.heap.extent →
      Stmt.LoadsOutsideAll false block →
        (∀ ref, scope.binds ≠ some ref →
          ((execBlock (callValue load) load scope block).after m).heap.module ref
            = m.heap.module ref)
        ∧ ∀ flow later m', execBlock (callValue load) load scope block m = .ok (flow, later) m' →
          ∀ name ∉ Stmt.boundNamesAll block,
            later.lookup? m'.heap name = scope.lookup? m.heap name := by
  refine ⟨fun scope e live placed => ?_, fun callee arguments live liveArguments => ?_,
    fun scope block live placed => ?_⟩
  · exact (Eval.Safe.evalExpr (Eval.Safe.callValue load) e placed live).sameBindings sound
  · exact (Eval.Safe.callValue load live liveArguments).sameBindings sound
  · have ended := @Eval.Safe.execBlockListed _ _ (Eval.Safe.callValue load) load block placed
      (List.Subset.refl _) _ _ live m sound (Extent.le_refl _)
    constructor
    · intro ref other
      unfold Eval.after
      cases ran : execBlock (callValue load) load scope block m with
      | ok outcome m' =>
        rw [ran] at ended
        exact ended.1.others ref other
      | error abort m' =>
        rw [ran] at ended
        exact ended.1.others ref other
    · intro flow later m' ran name free
      rw [ran] at ended
      obtain ⟨binds, _, _, _, _, agrees⟩ := ended
      exact agrees.lookup? binds free

/-- A script whose function binds the name of a variable of the module, and whose comprehension binds
the name of a parameter. -/
def shadowingScript : String :=
  "x = 1\ndef shadow(items):\n    x = [items for items in items]\n    return x\n"

/-- The machine after the script was executed. -/
def shadowingMachine : Machine :=
  (executeFile none "shadow.star" shadowingScript []).after (.initial (.under []))

/-- A scope of a function in the file of that script. -/
def shadowingScope : Scope :=
  ⟨⟨0⟩, "shadow.star", some [("x", .int 5)], none⟩

/-- A line that calls the function in a comprehension with the name of the variable once more. -/
def shadowingLine : String :=
  "y = [shadow([x, x]) for x in [1, 2] for x in [x]]\n"

/-- Whether a script is one assignment to a name that is executed, as is its right side. -/
def isShadowing : Except ScriptError Block → Bool
  | .ok [.assign pos target value] =>
    target.boundNames == ["y"]
    && (match evalExpr (callValue none) shadowingScope value shadowingMachine with
      | .ok (.list _) _ => true
      | _ => false)
    && match execBlock (callValue none) none shadowingScope [.assign pos target value]
        shadowingMachine with
      | .ok (.normal, later) m => (later.lookup? m.heap "y").isSome
      | _ => false
  | _ => false

theorem shadowingLine_executes : ∃ pos target value, ∃ results m later m',
    parseScript shadowingLine = .ok [.assign pos target value] ∧ target.boundNames = ["y"]
      ∧ evalExpr (callValue none) shadowingScope value shadowingMachine = .ok (.list results) m
      ∧ execBlock (callValue none) none shadowingScope [.assign pos target value] shadowingMachine
        = .ok (.normal, later) m' ∧ (later.lookup? m'.heap "y").isSome = true := by
  have shadowing : isShadowing (parseScript shadowingLine) = true := by
    decide +kernel
  unfold isShadowing at shadowing
  split at shadowing
  · rename_i pos target value parses
    simp only [Bool.and_eq_true, beq_iff_eq] at shadowing
    obtain ⟨⟨named, evaluates⟩, executes⟩ := shadowing
    split at evaluates
    · rename_i results m evaluated
      split at executes
      · rename_i later m' executed
        exact ⟨pos, target, value, results, m, later, m', parses, named, evaluated, executed,
          executes⟩
      · cases executes
    · cases evaluates
  · cases shadowing

theorem shadowing_keeps_x : shadowingMachine.heap.Sound
    ∧ shadowingScope.Live shadowingMachine.heap.extent
    ∧ ∃ pos target value, ∃ results m later m',
      parseScript shadowingLine = .ok [.assign pos target value]
        ∧ evalExpr (callValue none) shadowingScope value shadowingMachine = .ok (.list results) m
        ∧ shadowingScope.lookup? m.heap "x" = some (.int 5)
        ∧ (∀ ref, m.heap.module ref = shadowingMachine.heap.module ref)
        ∧ execBlock (callValue none) none shadowingScope [.assign pos target value]
          shadowingMachine = .ok (.normal, later) m'
        ∧ (later.lookup? m'.heap "y").isSome = true
        ∧ later.lookup? m'.heap "x" = some (.int 5) := by
  have reached : (Machine.initial (.under [])).Leads shadowingMachine :=
    .tail .refl (.operation (.file (Loader.safe_none _) _ _ Bindings.live_nil))
  have sound := (reached.keeps Heap.sound_initial).2
  have live : shadowingScope.Live shadowingMachine.heap.extent := by
    refine ⟨?_, ?_, nofun⟩
    · show 0 < shadowingMachine.heap.extent.modules
      decide +kernel
    · rintro _ ⟨⟩ binding member
      rw [List.mem_singleton.mp member]
      exact .intro trivial nofun
  obtain ⟨pos, target, value, results, m, later, m', parses, named, evaluated, executed, bound⟩ :=
    shadowingLine_executes
  have placed := parseScript_loadsOutside parses
  rw [Stmt.LoadsOutsideAll, Stmt.LoadsOutside] at placed
  have kept := (only_own_statements_bind sound none).1 _ value live placed.1.2
  have same := ((only_own_statements_bind sound none).2.2 _ [.assign pos target value] live
    (by rw [Stmt.LoadsOutsideAll, Stmt.LoadsOutside]; exact placed)).2 _ _ _ executed "x"
  have free : "x" ∉ Stmt.boundNamesAll [.assign pos target value] := by
    rw [Stmt.boundNamesAll, Stmt.boundNames, named]
    decide
  rw [Eval.after, evaluated] at kept
  exact ⟨sound, live, pos, target, value, results, m, later, m', parses, evaluated,
    kept.lookups _ _, kept.modules, executed, bound, same free⟩

end PixelApplet
