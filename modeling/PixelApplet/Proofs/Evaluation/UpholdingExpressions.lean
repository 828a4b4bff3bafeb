import PixelApplet.Proofs.Evaluation.Expressions
import PixelApplet.Proofs.Library.Upholding

/-!
# Expressions uphold realms

Evaluating an expression in a scope of a realm upholds the realm, if calling its values does: with
two ways of calling that do the same for values of the realm, it does the same.
-/

namespace PixelApplet

namespace Scope

/-- The module, the own variables and those of the enclosing functions belong to a realm. -/
structure Belongs (R : Realm) (scope : Scope) : Prop where
  home : R.homes scope.home
  module : R.modules scope.home
  locals : ∀ locals, scope.locals = some locals → locals.Belong R
  captured : ∀ captured, scope.captured = some captured → captured.Belong R

instance : Carrier Scope :=
  ⟨Belongs⟩

variable {R : Realm} {scope : Scope}

theorem Belongs.comprehension (belongs : scope.Belongs R) : scope.comprehension.Belongs R := by
  refine ⟨belongs.home, belongs.module, ?_, belongs.captured⟩
  rintro _ ⟨⟩
  cases own : scope.locals with
  | none => exact nofun
  | some locals => exact belongs.locals locals own

theorem Belongs.capture {captured : Bindings Value} (belongs : scope.Belongs R)
    (captures : scope.capture = some captured) : captured.Belong R := by
  obtain ⟨locals, own, rfl⟩ := Option.map_eq_some_iff.mp captures
  refine (belongs.locals locals own).insertAll ?_
  cases outer : scope.captured with
  | none => exact nofun
  | some captured => exact belongs.captured captured outer

theorem Belongs.lookup {h : Heap} {name : String} {value : Value} (belongs : scope.Belongs R)
    (guards : R.Guards h) (found : scope.lookup? h name = some value) : value.Belongs R := by
  unfold Scope.lookup? at found
  split at found
  · rename_i here
    cases found
    obtain ⟨locals, own, bound⟩ := Option.bind_eq_some_iff.mp here
    exact (belongs.locals locals own).lookup bound
  split at found
  · rename_i here
    cases found
    obtain ⟨captured, outer, bound⟩ := Option.bind_eq_some_iff.mp here
    exact (belongs.captured captured outer).lookup bound
  split at found
  · rename_i here
    cases found
    have cell := guards.modules scope.home belongs.module
    unfold ModuleCell.lookup? at here
    split at here
    · rename_i bound
      cases here
      exact cell.vars.lookup bound
    split at here
    · rename_i bound
      cases here
      exact cell.loaded.lookup bound
    · exact cell.predeclared.lookup here
  · obtain ⟨f, _, rfl⟩ := Option.map_eq_some_iff.mp found
    exact Value.belongs_builtin.mpr fun v receives => by cases receives

end Scope

namespace Eval.Upholds

open PixelApplet.Realm

variable {R : Realm} {sparing : Prop} {scope : Scope}

/-- Binding a name in a scope of a realm binds an own variable or one of the module. -/
theorem assign {name : String} {value : Value} (inside : scope.Belongs R)
    (belongs : value.Belongs R) : Keeps R (scope.assign name value) sparing := by
  cases own : scope.locals with
  | some locals =>
    unfold Scope.assign
    rw [own]
    refine pure ⟨inside.home, inside.module, ?_, inside.captured⟩
    rintro _ ⟨⟩
    exact (inside.locals locals own).insert belongs
  | none =>
    intro m guards
    cases frozen : (m.heap.module scope.home).frozen with
    | true =>
      rw [Scope.assign_of_frozen own frozen]
      exact ⟨rfl, .refl m, guards⟩
    | false =>
      rw [Scope.assign_of_thawed own frozen]
      have keeps : m.heap.Keeps (m.heap.modifyModule scope.home fun cell =>
          { cell with vars := cell.vars.insert name value }) :=
        Heap.keeps_modifyModule fun still => by
          rw [frozen] at still
          cases still
      refine ⟨rfl, ⟨rfl, keeps, fun _ => .modifyModule⟩,
        guards.modifyModule (fun here => ?_) fun _ => rfl, inside⟩
      have cell := guards.modules _ here
      exact ⟨cell.vars.insert belongs, cell.loaded, cell.predeclared⟩

theorem newFunction {decl : FunctionDecl} {defaults : List (Option Value)}
    (inside : scope.Belongs R) (placed : decl.LoadsOutside)
    (belong : ∀ slot ∈ defaults, Slot.All (Value.Belongs R) slot) :
    Keeps R (scope.newFunction decl defaults) sparing := by
  refine newIdentity.bind fun _ _ => pure (Value.belongs_function.mpr
    ⟨⟨inside.home, inside.module, placed⟩, fun v member => ?_⟩)
  rcases List.mem_append.mp member with default | captured
  · obtain ⟨slot, present, same⟩ := List.mem_filterMap.mp default
    exact belong slot present v same
  · obtain ⟨binding, present, rfl⟩ := List.mem_map.mp captured
    cases captures : scope.capture with
    | none =>
      rw [captures] at present
      cases present
    | some captured =>
      rw [captures] at present
      exact inside.capture captures binding present

theorem spreadEntries {pairs : List (Value × Value)} (belong : ∀ pair ∈ pairs, pair.2.Belongs R) :
    Keeps R (PixelApplet.spreadEntries pairs) sparing := by
  induction pairs with
  | nil => exact pure (List.forall_mem_nil _)
  | cons pair rest ih =>
    unfold PixelApplet.spreadEntries
    split
    · exact pure (List.forall_mem_nil _)
    · rename_i name value others same
      cases same
      obtain ⟨here, later⟩ := List.forall_mem_cons.mp belong
      exact (ih later).bind fun entries has => pure (List.forall_mem_cons.mpr ⟨⟨trivial, here⟩, has⟩)
    · exact fail _

/-- A loop upholds a realm if its step does. -/
theorem eachItem {σ : Type} {step step' : σ → Value → Eval σ} {property : σ → Prop}
    (upholds : ∀ {state item}, property state → item.Belongs R →
      Upholds R (step state item) (step' state item) property sparing)
    {items : List Value} {state : σ} (belong : ∀ v ∈ items, v.Belongs R) (held : property state) :
    Upholds R (PixelApplet.eachItem step items state) (PixelApplet.eachItem step' items state)
      property sparing := by
  induction items generalizing state with
  | nil => exact pure held
  | cons item rest ih =>
    obtain ⟨here, later⟩ := List.forall_mem_cons.mp belong
    exact checkCancelled.bind fun _ _ => (upholds held here).bindWith fun _ held => ih later held

section Evaluation

variable {call other : Caller} (calls : Calls R call other sparing)

include calls

-- most of the theorems use how values are called only through each other
set_option linter.unusedSectionVars false

mutual

theorem evalExpr : (e : Expr) → e.LoadsOutside → ∀ {scope : Scope}, scope.Belongs R →
    Upholds R (PixelApplet.evalExpr call scope e) (PixelApplet.evalExpr other scope e) R.Has sparing
  | .literal _ literal, _, _, _ => by
    rw [PixelApplet.evalExpr, PixelApplet.evalExpr]
    refine nested (pure ?_)
    cases literal <;> exact Value.belongs_of_plain trivial rfl
  | .name _ name, _, scope, inside => by
    rw [PixelApplet.evalExpr, PixelApplet.evalExpr]
    refine nested (readingHeap fun h guards => ?_)
    split
    · rename_i found
      exact pure (inside.lookup guards found)
    · exact fail _
  | .list _ items, placed, _, inside => by
    rw [PixelApplet.evalExpr, PixelApplet.evalExpr]
    rw [Expr.LoadsOutside] at placed
    exact nested ((evalAll items placed inside).bind fun _ belong => newList belong)
  | .tuple _ items, placed, _, inside => by
    rw [PixelApplet.evalExpr, PixelApplet.evalExpr]
    rw [Expr.LoadsOutside] at placed
    exact nested ((evalAll items placed inside).bind fun _ belong =>
      pure (Value.belongs_tuple.mpr belong))
  | .dict _ entries, placed, _, inside => by
    rw [PixelApplet.evalExpr, PixelApplet.evalExpr]
    rw [Expr.LoadsOutside] at placed
    exact nested ((evalEntries entries placed inside DictCell.belongs_empty).bind fun _ belongs =>
      newDict belongs)
  | .listComp _ element clauses, placed, _, inside => by
    rw [PixelApplet.evalExpr, PixelApplet.evalExpr]
    rw [Expr.LoadsOutside] at placed
    have made : Keeps R (Eval.newList []) sparing := newList nofun
    refine nested (readingHeap fun h guards => made.bind fun list belongs => ?_)
    refine (comprehend clauses placed.2 (fun {scope} within => ?_) inside.comprehension).bind
      fun _ _ => pure belongs
    refine (evalExpr element placed.1 within).bind fun value has => ?_
    refine changeList (guards.newLists _ (Nat.le_refl _)) fun items belong v member => ?_
    rw [Array.toList_push, List.mem_append, List.mem_singleton] at member
    rcases member with old | rfl
    · exact belong v old
    · exact has
  | .dictComp _ key value clauses, placed, _, inside => by
    rw [PixelApplet.evalExpr, PixelApplet.evalExpr]
    rw [Expr.LoadsOutside] at placed
    refine nested (readingHeap fun h guards => ?_)
    refine (newDict DictCell.belongs_empty).bind fun dict belongs => ?_
    refine (comprehend clauses placed.2.2 (fun {scope} within => ?_) inside.comprehension).bind
      fun _ _ => pure belongs
    exact (evalExpr key placed.1 within).bind fun _ hasKey =>
      (evalExpr value placed.2.1 within).bind fun _ has =>
        storeInDict (guards.newDicts _ (Nat.le_refl _)) hasKey has
  | .unary _ op operand, placed, _, inside => by
    rw [PixelApplet.evalExpr, PixelApplet.evalExpr]
    rw [Expr.LoadsOutside] at placed
    exact nested ((evalExpr operand placed inside).bind fun _ _ =>
      operateWith fun h guards _ made => guards.spreads.unary made)
  | .binary _ op left right, placed, _, inside => by
    rw [PixelApplet.evalExpr, PixelApplet.evalExpr]
    rw [Expr.LoadsOutside] at placed
    refine nested ((evalExpr left placed.1 inside).bind fun l hasLeft => ?_)
    split
    · refine readingHeap fun h _ => ?_
      split
      · exact evalExpr right placed.2 inside
      · exact pure hasLeft
    · refine readingHeap fun h _ => ?_
      split
      · exact pure hasLeft
      · exact evalExpr right placed.2 inside
    · exact (evalExpr right placed.2 inside).bind fun r hasRight =>
        produce fun h guards => guards.spreads.binary _ hasLeft hasRight
  | .conditional _ test thenValue elseValue, placed, _, inside => by
    rw [PixelApplet.evalExpr, PixelApplet.evalExpr]
    rw [Expr.LoadsOutside] at placed
    refine nested ((evalExpr test placed.1 inside).bind fun t _ => readingHeap fun h _ => ?_)
    split
    · exact evalExpr thenValue placed.2.1 inside
    · exact evalExpr elseValue placed.2.2 inside
  | .lambda _ decl, placed, _, inside => by
    rw [PixelApplet.evalExpr, PixelApplet.evalExpr]
    rw [Expr.LoadsOutside] at placed
    exact nested (evalFunction decl placed inside)
  | .call _ callee arguments, placed, _, inside => by
    rw [PixelApplet.evalExpr, PixelApplet.evalExpr]
    rw [Expr.LoadsOutside] at placed
    exact nested ((evalExpr callee placed.1 inside).bind fun _ hasCallee =>
      (evalArguments arguments placed.2 inside).bind fun _ hasArguments =>
        (moveTo _).bind fun _ _ => calls hasCallee hasArguments)
  | .attribute _ object name, placed, _, inside => by
    rw [PixelApplet.evalExpr, PixelApplet.evalExpr]
    rw [Expr.LoadsOutside] at placed
    exact nested ((evalExpr object placed inside).bind fun _ has => member has name)
  | .index _ object key, placed, _, inside => by
    rw [PixelApplet.evalExpr, PixelApplet.evalExpr]
    rw [Expr.LoadsOutside] at placed
    exact nested ((evalExpr object placed.1 inside).bind fun _ has =>
      (evalExpr key placed.2 inside).bind fun _ _ =>
        operateWith fun h guards _ made => guards.spreads.index has made)
  | .slice _ object start stop step, placed, _, inside => by
    rw [PixelApplet.evalExpr, PixelApplet.evalExpr]
    rw [Expr.LoadsOutside] at placed
    exact nested ((evalExpr object placed.1 inside).bind fun _ has =>
      (evalOption start placed.2.1 inside).bind fun _ _ =>
        (evalOption stop placed.2.2.1 inside).bind fun _ _ =>
          (evalOption step placed.2.2.2 inside).bind fun _ _ =>
            produce fun h guards => guards.spreads.slice has)

theorem evalAll : (items : List Expr) → Expr.LoadsOutsideAll items → ∀ {scope : Scope},
    scope.Belongs R →
      Upholds R (PixelApplet.evalAll call scope items)
        (PixelApplet.evalAll other scope items) R.Has sparing
  | [], _, _, _ => by
    rw [PixelApplet.evalAll, PixelApplet.evalAll]
    exact pure nofun
  | e :: rest, placed, _, inside => by
    rw [PixelApplet.evalAll, PixelApplet.evalAll]
    rw [Expr.LoadsOutsideAll] at placed
    exact (evalExpr e placed.1 inside).bind fun _ has =>
      (evalAll rest placed.2 inside).bind fun _ haveAll =>
        pure (List.forall_mem_cons.mpr ⟨has, haveAll⟩)

theorem evalOption : (e : Option Expr) → Expr.LoadsOutsideOption e → ∀ {scope : Scope},
    scope.Belongs R →
      Upholds R (PixelApplet.evalOption call scope e)
        (PixelApplet.evalOption other scope e) R.Has sparing
  | none, _, _, _ => by
    rw [PixelApplet.evalOption, PixelApplet.evalOption]
    exact pure has_none
  | some e, placed, _, inside => by
    rw [PixelApplet.evalOption, PixelApplet.evalOption]
    rw [Expr.LoadsOutsideOption] at placed
    exact (evalExpr e placed inside).bind fun _ has => pure (has_some.mpr has)

theorem evalEntries : (entries : List (Expr × Expr)) → Expr.LoadsOutsideEntries entries →
    ∀ {scope : Scope} {cell : DictCell}, scope.Belongs R → cell.Belongs R →
      Upholds R (PixelApplet.evalEntries call scope entries cell)
        (PixelApplet.evalEntries other scope entries cell) R.Has sparing
  | [], _, _, _, _, belongs => by
    rw [PixelApplet.evalEntries, PixelApplet.evalEntries]
    exact pure belongs
  | (key, value) :: rest, placed, _, _, inside, belongs => by
    rw [PixelApplet.evalEntries, PixelApplet.evalEntries]
    rw [Expr.LoadsOutsideEntries] at placed
    exact (evalExpr key placed.1 inside).bind fun _ hasKey =>
      (evalExpr value placed.2.1 inside).bind fun _ has => keyFor.bindWith fun _ hash =>
        evalEntries rest placed.2.2 inside (belongs.insert hash hasKey has)

theorem evalArguments : (arguments : List Argument) → Argument.LoadsOutsideAll arguments →
    ∀ {scope : Scope}, scope.Belongs R →
      Upholds R (PixelApplet.evalArguments call scope arguments)
        (PixelApplet.evalArguments other scope arguments) R.Has sparing
  | [], _, _, _ => by
    rw [PixelApplet.evalArguments, PixelApplet.evalArguments]
    exact pure Arguments.all_empty
  | .positional e :: rest, placed, _, inside => by
    rw [PixelApplet.evalArguments, PixelApplet.evalArguments]
    rw [Argument.LoadsOutsideAll] at placed
    exact (evalExpr e placed.1 inside).bind fun _ has =>
      (evalArguments rest placed.2 inside).bind fun _ others =>
        pure ⟨List.forall_mem_cons.mpr ⟨has, others.positional⟩, others.named⟩
  | .named name e :: rest, placed, _, inside => by
    rw [PixelApplet.evalArguments, PixelApplet.evalArguments]
    rw [Argument.LoadsOutsideAll] at placed
    exact (evalExpr e placed.1 inside).bind fun _ has =>
      (evalArguments rest placed.2 inside).bind fun _ others =>
        pure ⟨others.positional, List.forall_mem_cons.mpr ⟨has, others.named⟩⟩
  | .spread e :: rest, placed, _, inside => by
    rw [PixelApplet.evalArguments, PixelApplet.evalArguments]
    rw [Argument.LoadsOutsideAll] at placed
    exact (evalExpr e placed.1 inside).bind fun _ has => (iterate has).bind fun _ values =>
      (evalArguments rest placed.2 inside).bind fun _ others =>
        pure ⟨List.forall_mem_append.mpr ⟨values, others.positional⟩, others.named⟩
  | .spreadNamed e :: rest, placed, _, inside => by
    rw [PixelApplet.evalArguments, PixelApplet.evalArguments]
    rw [Argument.LoadsOutsideAll] at placed
    refine (evalExpr e placed.1 inside).bind fun value has => ?_
    split
    · refine readingHeap fun h guards => ?_
      have pairs := (guards.dicts _ (Value.belongs_dict.mp has)).all.pairs
      refine (spreadEntries fun pair member => (pairs pair member).2).bind fun entries spread => ?_
      refine (evalArguments rest placed.2 inside).bind fun _ others => pure ⟨others.positional, ?_⟩
      exact List.forall_mem_append.mpr
        ⟨fun entry member => (spread entry member).2, others.named⟩
    · exact fail _

theorem comprehend : (clauses : List Clause) → Clause.LoadsOutsideAll clauses →
    ∀ {body body' : Scope → Eval Unit}, (∀ {scope : Scope}, scope.Belongs R →
      Upholds R (body scope) (body' scope) R.Has sparing) → ∀ {scope : Scope}, scope.Belongs R →
        Upholds R (PixelApplet.comprehend call body clauses scope)
          (PixelApplet.comprehend other body' clauses scope) R.Has sparing
  | [], _, _, _, runs, _, inside => by
    rw [PixelApplet.comprehend, PixelApplet.comprehend]
    exact (runs inside).bind fun _ _ => pure inside
  | .for_ target iterable :: rest, placed, _, _, runs, _, inside => by
    rw [PixelApplet.comprehend, PixelApplet.comprehend]
    rw [Clause.LoadsOutsideAll] at placed
    refine (evalExpr iterable placed.2.1 inside).bind fun value has => ?_
    refine (iterate has).bind fun items belong => ?_
    have step {scope : Scope} {item : Value} (within : R.Has scope) (belongs : item.Belongs R) :=
      (assignTarget target placed.1 within belongs).bind fun _ bound =>
        comprehend rest placed.2.2 runs bound
    exact eachItem step belong inside
  | .if_ test :: rest, placed, _, _, runs, _, inside => by
    rw [PixelApplet.comprehend, PixelApplet.comprehend]
    rw [Clause.LoadsOutsideAll] at placed
    refine (evalExpr test placed.1 inside).bind fun value _ => readingHeap fun h _ => ?_
    split
    · exact comprehend rest placed.2 runs inside
    · exact pure inside

theorem assignTarget : (target : Expr) → target.LoadsOutside →
    ∀ {scope : Scope} {value : Value}, scope.Belongs R → value.Belongs R →
      Upholds R (PixelApplet.assignTarget call scope target value)
        (PixelApplet.assignTarget other scope target value) R.Has sparing
  | .name _ name, _, _, _, inside, belongs => by
    rw [PixelApplet.assignTarget, PixelApplet.assignTarget]
    exact assign inside belongs
  | .tuple _ targets, placed, _, _, inside, belongs => by
    rw [PixelApplet.assignTarget, PixelApplet.assignTarget]
    rw [Expr.LoadsOutside] at placed
    refine (iterate belongs).bind fun values belong => ?_
    split
    · exact fail _
    · exact assignTargets targets placed inside belong
  | .list _ targets, placed, _, _, inside, belongs => by
    rw [PixelApplet.assignTarget, PixelApplet.assignTarget]
    rw [Expr.LoadsOutside] at placed
    refine (iterate belongs).bind fun values belong => ?_
    split
    · exact fail _
    · exact assignTargets targets placed inside belong
  | .index _ object key, placed, _, _, inside, belongs => by
    rw [PixelApplet.assignTarget, PixelApplet.assignTarget]
    rw [Expr.LoadsOutside] at placed
    exact (evalExpr object placed.1 inside).bind fun _ has =>
      (evalExpr key placed.2 inside).bind fun _ hasKey =>
        (assignIndex has hasKey belongs).bind fun _ _ => pure inside
  | .attribute _ object name, placed, _, _, inside, _ => by
    rw [PixelApplet.assignTarget, PixelApplet.assignTarget]
    rw [Expr.LoadsOutside] at placed
    exact (evalExpr object placed inside).bind fun _ _ => fail _
  | .literal .., _, _, _, _, _ | .dict .., _, _, _, _, _ | .listComp .., _, _, _, _, _
  | .dictComp .., _, _, _, _, _ | .unary .., _, _, _, _, _ | .binary .., _, _, _, _, _
  | .conditional .., _, _, _, _, _ | .lambda .., _, _, _, _, _ | .call .., _, _, _, _, _
  | .slice .., _, _, _, _, _ => by
    rw [PixelApplet.assignTarget, PixelApplet.assignTarget]
    all_goals first | exact fail _ | exact nofun

theorem assignTargets : (targets : List Expr) → Expr.LoadsOutsideAll targets →
    ∀ {scope : Scope} {values : List Value}, scope.Belongs R → (∀ v ∈ values, v.Belongs R) →
      Upholds R (PixelApplet.assignTargets call scope targets values)
        (PixelApplet.assignTargets other scope targets values) R.Has sparing
  | [], _, _, _, inside, _ => by
    rw [PixelApplet.assignTargets, PixelApplet.assignTargets]
    all_goals first | exact pure inside | exact nofun
  | _ :: _, _, _, [], inside, _ => by
    rw [PixelApplet.assignTargets, PixelApplet.assignTargets]
    all_goals first | exact pure inside | exact nofun
  | target :: targets, placed, _, value :: values, inside, belong => by
    rw [PixelApplet.assignTargets, PixelApplet.assignTargets]
    rw [Expr.LoadsOutsideAll] at placed
    obtain ⟨here, later⟩ := List.forall_mem_cons.mp belong
    exact (assignTarget target placed.1 inside here).bind fun _ bound =>
      assignTargets targets placed.2 bound later

theorem evalFunction : (decl : FunctionDecl) → decl.LoadsOutside → ∀ {scope : Scope},
    scope.Belongs R → Upholds R (PixelApplet.evalFunction call scope decl)
      (PixelApplet.evalFunction other scope decl) R.Has sparing
  | .mk name pos params body, placed, _, inside => by
    rw [PixelApplet.evalFunction, PixelApplet.evalFunction]
    have placed' := placed
    rw [FunctionDecl.LoadsOutside] at placed'
    exact (evalDefaults params placed'.1 inside).bind fun _ belong =>
      newFunction inside placed belong

theorem evalDefaults : (params : List Param) → Param.LoadsOutsideAll params → ∀ {scope : Scope},
    scope.Belongs R → Upholds R (PixelApplet.evalDefaults call scope params)
      (PixelApplet.evalDefaults other scope params) R.Has sparing
  | [], _, _, _ => by
    rw [PixelApplet.evalDefaults, PixelApplet.evalDefaults]
    exact pure nofun
  | .mk _ _ kind :: rest, placed, _, inside => by
    rw [PixelApplet.evalDefaults, PixelApplet.evalDefaults]
    rw [Param.LoadsOutsideAll] at placed
    exact (evalDefault kind placed.1 inside).bind fun _ has =>
      (evalDefaults rest placed.2 inside).bind fun _ haveAll =>
        pure (List.forall_mem_cons.mpr ⟨has, haveAll⟩)

theorem evalDefault : (kind : ParamKind) → kind.LoadsOutside → ∀ {scope : Scope},
    scope.Belongs R → Upholds R (PixelApplet.evalDefault call scope kind)
      (PixelApplet.evalDefault other scope kind) R.Has sparing
  | .optional e, placed, _, inside => by
    rw [PixelApplet.evalDefault, PixelApplet.evalDefault]
    rw [ParamKind.LoadsOutside] at placed
    exact (evalExpr e placed inside).bind fun _ has => pure (has_some.mpr has)
  | .required, _, _, _ | .rest, _, _, _ | .restNamed, _, _, _ => by
    rw [PixelApplet.evalDefault, PixelApplet.evalDefault]
    all_goals first | exact pure has_none | exact nofun

end

end Evaluation

end Eval.Upholds

end PixelApplet
