import PixelApplet.Proofs.Evaluation.Placelessness
import PixelApplet.Proofs.Evaluation.StoppedThreads

/-!
# Comprehensions mean nested loops

A comprehension goes through its clauses by a recursion of its own.  The loops that it stands for
are statements: each of them moves the innermost call to its place, looks whether the thread was
told to stop, and notes the open calls on an error that leaves it.  As long as the thread goes on,
no value, no message and nothing else of the machine tells the two apart; only tracebacks do.
-/

namespace PixelApplet

/-! ## Loops -/

/-- The `for` and `if` statements that stand for clauses, at their places, around a statement. -/
def nestedStmt (s : Stmt) : List (Position × Clause) → Stmt
  | [] => s
  | (pos, .for_ target iterable) :: rest => .for_ pos target iterable [nestedStmt s rest]
  | (pos, .if_ test) :: rest => .if_ pos test [nestedStmt s rest] []

/-- Executes the `for` and `if` statements that stand for clauses, around an innermost body. -/
def execNest (call : Caller) (body : Scope → Eval (Flow × Scope)) :
    List (Position × Clause) → Scope → Eval (Flow × Scope)
  | [], scope => body scope
  | (pos, .for_ target iterable) :: rest, scope =>
    Eval.marked pos do
      let items ← Eval.iterate (← evalExpr call scope iterable)
      eachIteration
        (fun scope item => do
          let scope ← assignTarget call scope target item
          execNest call body rest scope)
        items scope
  | (pos, .if_ test) :: rest, scope =>
    Eval.marked pos do
      let test ← evalExpr call scope test
      if ← Eval.readHeap test.truth then execNest call body rest scope else return (.normal, scope)

/-- Executes a statement that does nothing but an action. -/
def execAction (pos : Position) (act : Scope → Eval Unit) (scope : Scope) : Eval (Flow × Scope) :=
  Eval.marked pos do
    act scope
    return (.normal, scope)

section Statements

variable {call : Caller} {load : Loader}

theorem execBlock_nil (scope : Scope) :
    execBlock call load scope [] = pure (.normal, scope) := by
  rw [execBlock.eq_def]

theorem execBlock_single (scope : Scope) (s : Stmt) :
    execBlock call load scope [s] = execStmt call load scope s := by
  rw [execBlock.eq_def]
  refine (congrArg (execStmt call load scope s >>= ·) (funext fun left => ?_)).trans (bind_pure _)
  obtain ⟨flow, scope⟩ := left
  cases flow with
  | normal => exact execBlock_nil scope
  | _ => rfl

/-- Executing the statements around a statement is executing them around what it does. -/
theorem execStmt_nestedStmt (clauses : List (Position × Clause)) (s : Stmt) (scope : Scope) :
    execStmt call load scope (nestedStmt s clauses)
      = execNest call (fun scope => execStmt call load scope s) clauses scope := by
  induction clauses generalizing scope with
  | nil => rfl
  | cons clause rest ih =>
    obtain ⟨pos, target | test⟩ := clause
    · rw [nestedStmt, execNest, execStmt]
      simp only [execBlock_single, ih]
      rfl
    · rw [nestedStmt, execNest, execStmt]
      simp only [execBlock_single, execBlock_nil, ih]
      rfl

end Statements

/-! ## Gathering -/

/-- What a comprehension gathers: the elements of a list, or the entries of a dict. -/
inductive Gathering where
  | list (element : Expr)
  | dict (key value : Expr)

namespace Gathering

/-- The comprehension that gathers along clauses. -/
def comprehension (pos : Position) (clauses : List Clause) : Gathering → Expr
  | list element => .listComp pos element clauses
  | dict key value => .dictComp pos key value clauses

/-- Executes the loops that stand for clauses in a copy of the scope.  The innermost statement, at
its own place, adds to a new list or dict, which is the result. -/
def loops (call : Caller) (scope : Scope) (pos : Position) (clauses : List (Position × Clause)) :
    Gathering → Eval Value
  | list element => do
    let ref ← Eval.readHeap Heap.nextList
    let list ← Eval.newList []
    let _ ← execNest call
      (execAction pos fun scope => do
        let value ← evalExpr call scope element
        Eval.changeList ref fun items => items.push value)
      clauses scope.comprehension
    return list
  | dict key value => do
    let ref ← Eval.readHeap Heap.nextDict
    let dict ← Eval.newDict .empty
    let _ ← execNest call
      (execAction pos fun scope => do
        let key ← evalExpr call scope key
        let value ← evalExpr call scope value
        Eval.storeInDict ref key value)
      clauses scope.comprehension
    return dict

end Gathering

/-! ## Endings without traces -/

/-- What stopped an action, without the open calls it was noted with. -/
def Abort.untraced : Abort → Abort
  | .error e => .error { e with backtrace := [] }
  | .panic message => .panic message

theorem Abort.untraced_trace (e : EvalError) (frames : List StackFrame) :
    (Abort.error (e.trace frames)).untraced = (Abort.error e).untraced := by
  unfold EvalError.trace
  split <;> rfl

namespace Eval

/-- How an action ended, as those see it who see no tracebacks: its result, or what stopped it, and
the machine but for the places of its open calls. -/
def Ending.untraced {α : Type} : Ending α → Ending α
  | .ok value m => .ok value m.unplaced
  | .error abort m => .error abort.untraced m.unplaced

/-- The result of an ending, turned into something else. -/
def Ending.map {α β : Type} (f : α → β) : Ending α → Ending β
  | .ok value m => .ok (f value) m
  | .error abort m => .error abort m

/-- Wherever the thread goes on to the end of an action, loops end like it, with what a function
makes of its result; and what was told to the thread stays told. -/
structure Resembles {α β : Type} (f : α → β) (act : Eval α) (loops : Eval β) : Prop where
  lasts : Obeys .lasting act
  alike : ∀ m m' : Machine, m.unplaced = m'.unplaced → (act.after m).cell.reason = none →
    Ending.untraced (loops m') = (Ending.untraced (act m)).map f

variable {α β γ δ : Type} {f : α → β} {g : γ → δ} {act : Eval α} {loops : Eval β}

theorem Ending.untraced_unplaced (ending : Ending α) :
    ending.unplaced.untraced = ending.untraced := by
  rcases ending with ⟨value, m⟩ | ⟨e | message, m⟩
  · exact congrArg (EStateM.Result.ok value) m.unplaced_unplaced
  · exact congrArg (EStateM.Result.error _) m.unplaced_unplaced
  · exact congrArg (EStateM.Result.error _) m.unplaced_unplaced

theorem Ending.map_id (ending : Ending α) : ending.map id = ending := by
  cases ending <;> rfl

theorem Ending.of_untraced_ok {ending : Ending α} {value : α} {m : Machine}
    (same : ending.untraced = .ok value m) : ∃ m', ending = .ok value m' ∧ m'.unplaced = m := by
  cases ending with
  | ok value' m' =>
    cases same
    exact ⟨m', rfl, rfl⟩
  | error abort m' => cases same

theorem Ending.of_untraced_error {ending : Ending α} {abort : Abort} {m : Machine}
    (same : ending.untraced = .error abort m) :
    ∃ abort' m', ending = .error abort' m' ∧ abort'.untraced = abort ∧ m'.unplaced = m := by
  cases ending with
  | ok value' m' => cases same
  | error abort' m' =>
    cases same
    exact ⟨abort', m', rfl, rfl, rfl⟩

/-- A thread that was not told to stop by the end of an action was not told before. -/
theorem unstopped_of_after {m : Machine} (lasts : Obeys .lasting act)
    (unstopped : (act.after m).cell.reason = none) : m.cell.reason = none := by
  cases told : m.cell.reason with
  | none => rfl
  | some reason =>
    have stopped : (act.after m).Stopped reason := lasts.keepsStopped told
    rw [Machine.Stopped, unstopped] at stopped
    cases stopped

namespace Resembles

theorem of_placeless (lasts : Obeys .lasting act) (placeless : Placeless act) :
    Resembles id act act where
  lasts := lasts
  alike m m' same _ := by
    have ends := congrArg Ending.untraced (placeless m m' same)
    rw [Ending.untraced_unplaced, Ending.untraced_unplaced] at ends
    rw [← ends, Ending.map_id]

theorem of_routine (routine : Routine act) : Resembles id act act :=
  of_placeless routine.concurs (.of_routine routine)

theorem bind {next : α → Eval γ} {next' : β → Eval δ} (resembles : Resembles f act loops)
    (rest : ∀ value, Resembles g (next value) (next' (f value))) :
    Resembles g (act >>= next) (loops >>= next') where
  lasts := resembles.lasts.bind fun value => (rest value).lasts
  alike m m' same unstopped := by
    cases ran : act m with
    | ok value between =>
      have goes : (act >>= next) m = next value between := bind_ok ran
      have unstopped' : ((next value).after between).cell.reason = none := by
        rw [← unstopped]
        unfold after
        rw [goes]
      have first := resembles.alike m m' same (by
        rw [after_ok ran]
        exact unstopped_of_after (rest value).lasts unstopped')
      rw [ran] at first
      obtain ⟨between', ran', same'⟩ := Ending.of_untraced_ok first
      rw [goes, bind_ok ran']
      exact (rest value).alike between between' same'.symm unstopped'
    | error abort between =>
      have stops : (act >>= next) m = .error abort between := bind_error ran
      have first := resembles.alike m m' same (by
        rw [after_error stops] at unstopped
        rw [after_error ran]
        exact unstopped)
      rw [ran] at first
      obtain ⟨abort', between', ran', told, same'⟩ := Ending.of_untraced_error first
      rw [stops, bind_error ran']
      show EStateM.Result.error abort'.untraced between'.unplaced
        = .error abort.untraced between.unplaced
      rw [told, same']

theorem pure (value : α) : Resembles f (Pure.pure value) (Pure.pure (f value)) where
  lasts := (Routine.pure value).concurs
  alike _ _ same _ := congrArg (EStateM.Result.ok (f value)) same.symm

/-- A statement around the loops only adds its mark. -/
theorem marked (pos : Position) (resembles : Resembles f act loops) :
    Resembles f act (Eval.marked pos loops) where
  lasts := resembles.lasts
  alike m m' same unstopped := by
    have unstopped' : (m'.movedTo pos).cell.reason = none := by
      have cells : m.unplaced.cell = m'.unplaced.cell := by rw [same]
      have before : m.cell.reason = none := unstopped_of_after resembles.lasts unstopped
      exact (congrArg CancelCell.reason cells).symm.trans before
    have moves : moveTo pos m' = .ok () (m'.movedTo pos) := rfl
    have inside := resembles.alike m (m'.movedTo pos)
      (same.trans (m'.unplaced_movedTo pos).symm) unstopped
    rw [← inside, Eval.marked, bind_ok moves, mapError, checked_unstopped unstopped']
    rcases loops (m'.movedTo pos) with ⟨value, last⟩ | ⟨e | message, last⟩
    · rfl
    · exact congrArg (EStateM.Result.error · last.unplaced) (Abort.untraced_trace e _)
    · rfl

theorem nested (resembles : Resembles f act loops) :
    Resembles f (Eval.nested act) (Eval.nested loops) where
  lasts := resembles.lasts.nested
  alike m m' same unstopped := by
    have depth : m.unplaced.thread.depth = m'.unplaced.thread.depth := by rw [same]
    cases entered : m.thread.depth.enter? with
    | none =>
      rw [nested_refused entered, nested_refused (depth ▸ entered)]
      exact congrArg (EStateM.Result.error _) same.symm
    | some deeper =>
      have unstopped' : (act.after (m.atDepth deeper)).cell.reason = none := by
        rw [after, nested_entered entered] at unstopped
        change (after (followedBy act _) (m.atDepth deeper)).cell.reason = none at unstopped
        rw [after_followedBy] at unstopped
        exact unstopped
      have inside := resembles.alike (m.atDepth deeper) (m'.atDepth deeper)
        (congrArg (Machine.atDepth · deeper) same) unstopped'
      rw [nested_entered entered, nested_entered (depth ▸ entered), followedBy, followedBy]
      rcases ran : act (m.atDepth deeper) with ⟨value, last⟩ | ⟨abort, last⟩
      · rw [ran] at inside
        obtain ⟨last', ran', same'⟩ := Ending.of_untraced_ok inside
        rw [ran']
        exact congrArg (fun last : Machine =>
          EStateM.Result.ok (f value) (last.atDepth last.thread.depth.leave)) same'
      · rw [ran] at inside
        obtain ⟨abort', last', ran', told, same'⟩ := Ending.of_untraced_error inside
        rw [ran']
        exact congrArg₂ (fun abort (last : Machine) =>
          EStateM.Result.error abort (last.atDepth last.thread.depth.leave)) told same'

/-- Loops over the same items go on alike if each step does. -/
theorem eachItem {step : Scope → Value → Eval Scope} {step' : Scope → Value → Eval (Flow × Scope)}
    (resembles : ∀ scope item, Resembles (Flow.normal, ·) (step scope item) (step' scope item))
    (items : List Value) (scope : Scope) :
    Resembles (Flow.normal, ·) (PixelApplet.eachItem step items scope)
      (eachIteration step' items scope) := by
  induction items generalizing scope with
  | nil => exact pure scope
  | cons item rest ih =>
    exact (of_routine .checkCancelled).bind fun _ =>
      (resembles scope item).bind fun inner => ih inner

section Clauses

variable {call : Caller} (placeless : ∀ callee arguments, Placeless (call callee arguments))
  (lasts : call.Obeys .lasting)
include placeless lasts

theorem evalExpr (scope : Scope) (e : Expr) :
    Resembles id (PixelApplet.evalExpr call scope e) (PixelApplet.evalExpr call scope e) :=
  of_placeless (Concurs.evalExpr lasts e) (.evalExpr placeless scope e)

theorem comprehend {body : Scope → Eval Unit}
    (resembles : ∀ scope, Resembles id (body scope) (body scope)) (pos : Position)
    (clauses : List (Position × Clause)) (scope : Scope) :
    Resembles (Flow.normal, ·) (PixelApplet.comprehend call body (clauses.map Prod.snd) scope)
      (execNest call (execAction pos body) clauses scope) := by
  induction clauses generalizing scope with
  | nil =>
    rw [List.map_nil, PixelApplet.comprehend]
    exact ((resembles scope).bind fun _ => pure scope).marked pos
  | cons clause rest ih =>
    obtain ⟨at_, ⟨target, iterable⟩ | test⟩ := clause
    · rw [List.map_cons, PixelApplet.comprehend]
      refine marked at_ ((evalExpr placeless lasts scope iterable).bind fun value => ?_)
      refine (of_routine .iterate).bind fun items => eachItem (fun scope item => ?_) items scope
      have assigns := of_placeless (Concurs.assignTarget lasts target)
        (.assignTarget placeless scope target item)
      exact assigns.bind fun inner => ih inner
    · rw [List.map_cons, PixelApplet.comprehend]
      refine marked at_ ((evalExpr placeless lasts scope test).bind fun value => ?_)
      refine (of_routine (.readHeap _)).bind fun holds => ?_
      cases holds with
      | true => exact ih scope
      | false => exact pure scope

theorem gathering (g : Gathering) (scope : Scope) (pos inner : Position)
    (clauses : List (Position × Clause)) :
    Resembles id (PixelApplet.evalExpr call scope (g.comprehension pos (clauses.map Prod.snd)))
      (Eval.nested (g.loops call scope inner clauses)) := by
  cases g with
  | list element =>
    rw [Gathering.comprehension, PixelApplet.evalExpr, Gathering.loops]
    refine nested (Resembles.bind (of_routine (.readHeap _)) fun ref => ?_)
    refine (of_routine (.newList _)).bind fun list => ?_
    refine (comprehend placeless lasts (fun scope => ?_) inner clauses _).bind fun _ => pure list
    exact (evalExpr placeless lasts scope element).bind fun _ => of_routine (.changeList _ _)
  | dict key value =>
    rw [Gathering.comprehension, PixelApplet.evalExpr, Gathering.loops]
    refine nested (Resembles.bind (of_routine (.readHeap _)) fun ref => ?_)
    refine (of_routine (.newDict _)).bind fun dict => ?_
    refine (comprehend placeless lasts (fun scope => ?_) inner clauses _).bind fun _ => pure dict
    exact (evalExpr placeless lasts scope key).bind fun _ =>
      (evalExpr placeless lasts scope value).bind fun _ => of_routine .storeInDict

end Clauses

end Resembles

end Eval

/-- A comprehension ends as the loops do that it stands for, executed in its place: with the same
value or the same message, and with the same machine, its heap and all that was printed included.
Only tracebacks and the places of open calls may differ.  The thread must go on to the end, for
loops look more often whether it was told to stop.  The loops are those that statements execute,
wherever these stand. -/
theorem comprehension_means_loops {load : Loader} (placeless : load.Placeless)
    (lasts : load.Obeys .lasting) (calls : Nat) (scope : Scope) (gathering : Gathering)
    (pos inner : Position) (clauses : List (Position × Clause)) {m : Machine}
    (goesOn : ((evalExpr (callTo load calls) scope
      (gathering.comprehension pos (clauses.map Prod.snd))).after m).cell.reason = none) :
    Eval.Ending.untraced (evalExpr (callTo load calls) scope
        (gathering.comprehension pos (clauses.map Prod.snd)) m)
      = Eval.Ending.untraced
        (Eval.nested (gathering.loops (callTo load calls) scope inner clauses) m)
    ∧ ∀ (s : Stmt) (around : Scope),
      execStmt (callTo load calls) load around (nestedStmt s clauses)
        = execNest (callTo load calls)
          (fun around => execStmt (callTo load calls) load around s) clauses around := by
  have resembles := Eval.Resembles.gathering (fun callee arguments =>
      Eval.Placeless.callTo placeless calls callee arguments)
    (callTo_obeys Eval.lasting_frames lasts calls) gathering scope pos inner clauses
  refine ⟨?_, fun s around => execStmt_nestedStmt clauses s around⟩
  rw [resembles.alike m m rfl goesOn, Eval.Ending.map_id]

/-- Prints what a variable holds. -/
def printedItems : Gathering :=
  .list (.call .start (.name .start "print") [.positional (.name .start "x")])

/-- Goes through two numbers, and takes those that count as true. -/
def truthyNumbers : List (Position × Clause) :=
  [(.start, .for_ (.name .start "x")
      (.tuple .start [.literal .start (.int 0), .literal .start (.int 1)])),
    (.start, .if_ (.name .start "x"))]

theorem printedItems_means_loops :
    Loader.Placeless none ∧ Loader.Obeys .lasting none
      ∧ ((evalExpr (callTo none 0) (.topLevel ⟨0⟩ "a.star")
        (printedItems.comprehension .start (truthyNumbers.map Prod.snd))).after
          (.initial (.under []))).cell.reason = none
      ∧ Eval.Ending.untraced (evalExpr (callTo none 0) (.topLevel ⟨0⟩ "a.star")
          (printedItems.comprehension .start (truthyNumbers.map Prod.snd)) (.initial (.under [])))
        = Eval.Ending.untraced (Eval.nested
          (printedItems.loops (callTo none 0) (.topLevel ⟨0⟩ "a.star") .start truthyNumbers)
            (.initial (.under []))) := by
  have goesOn : ((evalExpr (callTo none 0) (.topLevel ⟨0⟩ "a.star")
      (printedItems.comprehension .start (truthyNumbers.map Prod.snd))).after
        (.initial (.under []))).cell.reason = none := by decide +kernel
  exact ⟨Loader.placeless_none, Loader.obeys_none _, goesOn,
    (comprehension_means_loops Loader.placeless_none (Loader.obeys_none _) 0 _ printedItems _ .start
      truthyNumbers goesOn).1⟩

end PixelApplet
