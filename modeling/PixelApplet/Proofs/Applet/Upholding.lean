import PixelApplet.Applet.Basic
import PixelApplet.Proofs.Applet.Hosting
import PixelApplet.Proofs.Evaluation.UpholdingCalls

/-!
# Invocations uphold realms

Whatever is called on a thread of its own upholds a realm that the callable and its arguments belong
to, if the hooks of the host uphold every realm: they refer to nothing in the heap but what they
made themselves.
-/

namespace PixelApplet

/-- The hooks of the host refer to nothing but what they made themselves. -/
structure Context.Upstanding (context : Context) : Prop where
  moduleLoader : ∀ supply, context.options.moduleLoader = some supply → ∀ (R : Realm) (name : String),
    Eval.Upholds R (supply name) (supply name) fun outcome =>
      ∀ bindings, outcome = .ok bindings → Bindings.Belong R bindings
  initializers : ∀ initializer ∈ context.options.initializers, ∀ R : Realm,
    Eval.Keeps R initializer

/-- A host that decides nothing has no hooks. -/
theorem Context.upstanding_of_none (id : String) : Context.Upstanding ⟨id, .none⟩ :=
  ⟨nofun, nofun⟩

/-- Calls a value on a thread of its own, given how values are called there. -/
def Context.invokeBy (call : Caller) (context : Context) (prepare : Eval Unit) (callable : Value)
    (arguments : Arguments) (token : TokenRef) : Eval (Except AppletFault Value × List String) :=
  Eval.onThread context.id do
    let outcome ← Eval.recover do
      context.setUp
      prepare
      let registered ← watch token
      Eval.followedBy (call callable arguments) (unwatch token registered)
    let failures := (Assertions.failures? (← Eval.read Machine.thread)).getD []
    match outcome with
    | .ok value => return (.ok value, failures)
    | .error abort => return (.error (context.faultOf callable abort), failures)

/-- An invocation calls values as scripts do. -/
theorem Context.invokeBy_callValue (context : Context) (prepare : Eval Unit) (callable : Value)
    (arguments : Arguments) (token : TokenRef) :
    context.invokeBy (callValue context.loader) prepare callable arguments token
      = context.invokeWith prepare callable arguments token :=
  rfl

namespace Heap

/-- Freezing a module leaves alone what is frozen. -/
theorem keeps_freezeModule (h : Heap) (ref : ModuleRef) : h.Keeps (h.freezeModule ref) := by
  unfold freezeModule
  split
  · exact .refl h
  · have marked : h.Keeps (h.modifyModule ref fun cell => { cell with frozen := true }) :=
      keeps_modifyModule fun frozen => ⟨rfl, rfl⟩
    exact marked.trans (marks_freezeAll _ _).keeps

theorem frozen_freezeModule {h : Heap} {ref : ModuleRef} (there : ref.index < h.extent.modules) :
    ((h.freezeModule ref).module ref).frozen = true := by
  unfold freezeModule
  split
  · assumption
  · rw [(marks_freezeAll _ _).module ref, module_modifyModule, if_pos ⟨rfl, there⟩]

end Heap

namespace LibraryModule

variable {R : Realm}

/-- All values of a module of the library belong to a realm. -/
def Belongs (R : Realm) (module : LibraryModule) : Prop :=
  ∀ member ∈ module.members, member.2.Belongs R

theorem belongs_make {path name : String} {functions : List (String × Action)}
    {constants : List (String × Value)} (belong : ∀ constant ∈ constants, constant.2.Belongs R) :
    (make path name functions constants).Belongs R := by
  intro member inMembers
  rcases List.mem_append.mp inMembers with isFunction | isConstant
  · obtain ⟨function, _, rfl⟩ := List.mem_map.mp isFunction
    simp
  · exact belong member isConstant

/-- The library refers to nothing but the dict of the fonts. -/
theorem belongs_of_mem_all (fonts : R.dicts Heap.fonts) {module : LibraryModule}
    (member : module ∈ all) : module.Belongs R := by
  simp only [all, List.mem_cons, List.not_mem_nil, or_false] at member
  rcases member with rfl | rfl | rfl | rfl | rfl | rfl | rfl | rfl | rfl | rfl | rfl
  all_goals apply belongs_make
  all_goals simp [fonts, handlerKinds, HandlerKind.name]

theorem belong_bindings? (fonts : R.dicts Heap.fonts) {path : String} {found : Bindings Value}
    (finds : bindings? path = some found) : found.Belong R := by
  obtain ⟨module, search, rfl⟩ := Option.map_eq_some_iff.mp finds
  have belongs := belongs_of_mem_all fonts (List.mem_of_find?_eq_some search)
  intro binding member
  rw [bindings, List.mem_singleton] at member
  rw [member]
  exact Value.belongs_module.mpr belongs

end LibraryModule

namespace Eval.Upholds

open PixelApplet.Realm

variable {R : Realm} {context : Context}

theorem setUp (upstanding : context.Upstanding) : Keeps R context.setUp := by
  have runsAll (hooks : List (Eval Unit)) (keeps : ∀ hook ∈ hooks, Keeps R hook) :
      Keeps R (hooks.forM fun hook => hook) := by
    induction hooks with
    | nil => exact pure trivial
    | cons first rest ih =>
      exact (keeps first (.head _)).bind fun _ _ => ih fun hook member => keeps hook (.tail _ member)
  have last : Keeps R (do
      Eval.changeThread fun thread => { thread with printing := context.printing }
      context.options.initializers.forM fun hook => hook) :=
    (changeThread _).bind fun _ _ =>
      runsAll _ fun hook member => upstanding.initializers hook member R
  unfold Context.setUp
  refine (changeThread _).bind fun _ _ => generatorState.bind fun _ _ => ?_
  refine attachGenerator.bind fun _ _ => ?_
  split
  · exact (changeThread _).bind fun _ _ => last
  · exact last

/-- Calling a value on a thread of its own, with two ways of calling that do the same for values of
the realm. -/
theorem invokeBy {call other : Caller} {prepare : Eval Unit} {callable : Value}
    {arguments : Arguments} {token : TokenRef} (upstanding : context.Upstanding)
    (prepares : Keeps R prepare) (calls : Calls R call other) (belongs : callable.Belongs R)
    (belong : arguments.All (Value.Belongs R)) :
    Upholds R (context.invokeBy call prepare callable arguments token)
      (context.invokeBy other prepare callable arguments token) fun outcome =>
        R.Has outcome.1 := by
  have watches : Keeps R (Context.watch token) := by
    refine of_ok fun m guards => ⟨_, _, Context.watch_eq token m, ?_⟩
    unfold Context.watched
    dsimp only
    split <;> exact ⟨⟨rfl, .refl _, nofun⟩, guards, trivial⟩
  have ends (registered : CancellationToken.Registered) :
      Upholds R (Eval.followedBy (call callable arguments) (Context.unwatch token registered))
        (Eval.followedBy (other callable arguments) (Context.unwatch token registered)) R.Has :=
    followedBy (fun _ => ⟨rfl, rfl⟩) (calls belongs belong)
  have called := (setUp upstanding).bind fun _ _ => prepares.bind fun _ _ =>
    watches.bind fun registered _ => ends registered
  refine onThread ((recover called).bindWith fun outcome has => reading fun m _ => ?_)
  cases outcome with
  | ok value => exact pure (by rintro _ ⟨⟩; exact has value rfl)
  | error abort => exact pure nofun

theorem invokeWith {prepare : Eval Unit} {callable : Value} {arguments : Arguments}
    {token : TokenRef} (upstanding : context.Upstanding) (prepares : Keeps R prepare)
    (belongs : callable.Belongs R) (belong : arguments.All (Value.Belongs R)) :
    Upholds R (context.invokeWith prepare callable arguments token)
      (context.invokeWith prepare callable arguments token) fun outcome => R.Has outcome.1 :=
  invokeBy upstanding prepares (callValue _) belongs belong

theorem invoke {callable : Value} {arguments : Arguments} {token : TokenRef}
    (upstanding : context.Upstanding) (belongs : callable.Belongs R)
    (belong : arguments.All (Value.Belongs R)) :
    Keeps R (context.invoke callable arguments token) :=
  (invokeWith upstanding (pure trivial) belongs belong).bindWith fun _ has => pure has

/-! ## Modules from elsewhere -/

theorem newModule {cell : ModuleCell} (belongs : cell.Belongs R) (held : cell.held = true) :
    Keeps R (Eval.newModule cell) :=
  of_ok fun _ guards => ⟨_, _, rfl, ⟨rfl, Heap.keeps_addModule _ _, nofun⟩,
    guards.addModule belongs held, guards.newModules _ (Nat.le_refl _)⟩

theorem freezeModule (ref : ModuleRef) : Keeps R (Eval.changeHeap (Heap.freezeModule ref)) :=
  of_ok fun _ guards => ⟨_, _, rfl, ⟨rfl, Heap.keeps_freezeModule _ ref, nofun⟩,
    guards.freezeModule ref, trivial⟩

theorem bindingsModule {name : String} {bindings : Bindings Value} (belong : bindings.Belong R) :
    Keeps R (Eval.bindingsModule name bindings) :=
  have belongs : ModuleCell.Belongs R { ModuleCell.ofFile name [] with vars := bindings } :=
    ⟨belong, nofun, nofun⟩
  (newModule belongs rfl).bind fun ref has => (freezeModule ref).bind fun _ _ => pure has

/-- The module of some bindings, where a module may be missing. -/
theorem givenModule {ε : Type} {name : String} {bindings : Bindings Value}
    (belong : bindings.Belong R) :
    Keeps R (do return (.ok (← Eval.bindingsModule name bindings) : Except ε ModuleRef)) :=
  (bindingsModule belong).bind fun ref has => pure (by rintro _ ⟨⟩; exact has)

theorem loadLibraryModule (name : String) : Keeps R (Context.loadLibraryModule name) := by
  intro m guards
  unfold Context.loadLibraryModule
  cases found : LibraryModule.bindings? name with
  | none => exact pure (fun _ => nofun) m guards
  | some bindings => exact givenModule (LibraryModule.belong_bindings? guards.fonts found) m guards

theorem loadForeignModule (upstanding : context.Upstanding) (name : String) :
    Keeps R (context.loadModule name) := by
  unfold Context.loadModule
  split
  · rename_i supply hook
    refine (upstanding.moduleLoader supply hook R name).bindWith fun outcome belong => ?_
    cases outcome with
    | ok bindings => exact givenModule (belong bindings rfl)
    | error reason => exact loadLibraryModule name
  · exact loadLibraryModule name

end Eval.Upholds

end PixelApplet
