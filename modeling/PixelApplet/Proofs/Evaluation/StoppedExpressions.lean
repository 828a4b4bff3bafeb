import PixelApplet.Proofs.Evaluation.Agreement

/-!
# Expressions on a stopped thread

A thread that was told to stop looks for that before it calls anything and before each item of a
comprehension.  What is left of evaluating an expression adds to the heap, and changes of it at most
the list or dict of a comprehension, which is new.
-/

namespace PixelApplet

/-- The running thread was told to stop. -/
def Machine.Stopped (m : Machine) (reason : String) : Prop :=
  m.cell.reason = some reason

/-- The error of a thread that was told to stop. -/
def cancellation (reason : String) : EvalError :=
  .ofMessage s!"computation cancelled: {reason}"

/-- From one machine to the next, nothing changes but the place and the depth of the running thread
and the heap, of which the modules and the first lists and dicts stay. -/
structure Machine.Spares (lists dicts : Nat) (m m' : Machine) : Prop where
  rest : m' = { m with heap := m'.heap, thread := m'.thread }
  cell : m'.thread.cell = m.thread.cell
  list : ∀ ref : ListRef, ref.index < lists → m'.heap.list ref = m.heap.list ref
  dict : ∀ ref : DictRef, ref.index < dicts → m'.heap.dict ref = m.heap.dict ref
  lists : m.heap.lists.size ≤ m'.heap.lists.size
  dicts : m.heap.dicts.size ≤ m'.heap.dicts.size
  modules : m'.heap.modules = m.heap.modules

namespace Machine.Spares

variable {lists dicts : Nat} {m m' m'' : Machine}

theorem refl (m : Machine) : m.Spares lists dicts m :=
  ⟨rfl, rfl, fun _ _ => rfl, fun _ _ => rfl, Nat.le_refl _, Nat.le_refl _, rfl⟩

theorem trans (first : m.Spares lists dicts m') (second : m'.Spares lists dicts m'') :
    m.Spares lists dicts m'' where
  rest := by
    rw [second.rest, first.rest]
  cell := second.cell.trans first.cell
  list ref old := (second.list ref old).trans (first.list ref old)
  dict ref old := (second.dict ref old).trans (first.dict ref old)
  lists := Nat.le_trans first.lists second.lists
  dicts := Nat.le_trans first.dicts second.dicts
  modules := second.modules.trans first.modules

theorem stopped (spares : m.Spares lists dicts m') {reason : String} (told : m.Stopped reason) :
    m'.Stopped reason := by
  have same : m'.cells = m.cells := by rw [spares.rest]
  unfold Stopped Machine.cell at *
  rw [same, spares.cell]
  exact told

end Machine.Spares

/-- A way of calling that looks first whether the thread was told to stop. -/
def Caller.Polls (call : Caller) : Prop :=
  ∀ callee arguments m reason, Machine.Stopped m reason →
    call callee arguments m = .error (.error (cancellation reason)) m

namespace Eval

variable {α β : Type} {reason : String} {lists dicts : Nat}

theorem checkCancelled_unstopped {m : Machine} (unstopped : m.cell.reason = none) :
    checkCancelled m = .ok ⟨⟩ m := by
  have looks : (read fun m => m.cell.reason) m = .ok none m := by
    rw [← unstopped]
    rfl
  exact (bind_ok looks).trans rfl

theorem checked_unstopped {next : PUnit → Eval α} {m : Machine}
    (unstopped : m.cell.reason = none) : (checkCancelled >>= next) m = next ⟨⟩ m :=
  bind_ok (checkCancelled_unstopped unstopped)

theorem checkCancelled_stopped {m : Machine} (told : m.Stopped reason) :
    checkCancelled m = .error (.error (cancellation reason)) m := by
  have looks : (read fun m => m.cell.reason) m = .ok (some reason) m := by
    rw [← show m.cell.reason = some reason from told]
    rfl
  exact (bind_ok looks).trans rfl

/-- What follows looking is not run. -/
theorem checkCancelled_bind_stopped {next : PUnit → Eval α} {m : Machine}
    (told : m.Stopped reason) :
    (checkCancelled >>= next) m = .error (.error (cancellation reason)) m :=
  bind_error (checkCancelled_stopped told)

/-- On a thread that was told to stop, an action spares all but what is new. -/
def Idles (reason : String) (lists dicts : Nat) (act : Eval α) : Prop :=
  ∀ m : Machine, m.Stopped reason → lists ≤ m.heap.lists.size → dicts ≤ m.heap.dicts.size →
    m.Spares lists dicts (act.after m)

namespace Idles

@[grind ←]
theorem bind {act : Eval α} {next : α → Eval β} (idles : Idles reason lists dicts act)
    (idlesNext : ∀ value, Idles reason lists dicts (next value)) :
    Idles reason lists dicts (act >>= next) := by
  intro m told manyLists manyDicts
  have spares := idles m told manyLists manyDicts
  unfold after
  cases ran : act m with
  | error abort m' =>
    rw [bind_error ran]
    rw [after_error ran] at spares
    exact spares
  | ok value m' =>
    rw [bind_ok ran]
    rw [after_ok ran] at spares
    exact spares.trans (idlesNext value m' (spares.stopped told)
      (Nat.le_trans manyLists spares.lists) (Nat.le_trans manyDicts spares.dicts))

theorem of_same {act : Eval α} (same : ∀ m, m.Stopped reason → act.after m = m) :
    Idles reason lists dicts act := by
  intro m told _ _
  rw [same m told]
  exact .refl m

@[grind ←]
theorem pure (value : α) : Idles reason lists dicts (Pure.pure value : Eval α) :=
  of_same fun _ _ => rfl

@[grind ←]
theorem fail (message : String) : Idles reason lists dicts (Eval.fail message : Eval α) :=
  of_same fun _ _ => rfl

@[grind ←]
theorem accept {ε : Type} (wording : ε → String) (result : Except ε α) :
    Idles reason lists dicts (Eval.accept wording result) := by
  cases result with
  | error e => exact fail (wording e)
  | ok value => exact pure value

@[grind ←]
theorem readHeap (f : Heap → α) : Idles reason lists dicts (Eval.readHeap f) :=
  of_same fun _ _ => rfl

/-- What follows reading the heap may rely on what was there to read. -/
theorem readingHeap {f : Heap → α} {next : α → Eval β}
    (idles : ∀ h : Heap, lists ≤ h.lists.size → dicts ≤ h.dicts.size →
      Idles reason lists dicts (next (f h))) :
    Idles reason lists dicts (Eval.readHeap f >>= next) :=
  fun m told manyLists manyDicts => idles m.heap manyLists manyDicts m told manyLists manyDicts

/-- Whoever looks first does nothing. -/
theorem checked {next : PUnit → Eval α} :
    Idles reason lists dicts (checkCancelled >>= next) :=
  of_same fun _ told => after_error (checkCancelled_bind_stopped told)

theorem eachItem {σ : Type} (step : σ → Value → Eval σ) (items : List Value) (state : σ) :
    Idles reason lists dicts (PixelApplet.eachItem step items state) := by
  cases items with
  | nil => exact pure state
  | cons item rest => exact checked

/-! ## What adds to the heap -/

theorem list_addList {h : Heap} {cell : ListCell} {ref : ListRef} (old : ref.index < h.lists.size) :
    (h.addList cell).list ref = h.list ref := by
  simp [Heap.list, Heap.addList, Array.getD_eq_getD_getElem?, Array.getElem?_push_lt, old]

theorem dict_addDict {h : Heap} {cell : DictCell} {ref : DictRef} (old : ref.index < h.dicts.size) :
    (h.addDict cell).dict ref = h.dict ref := by
  simp [Heap.dict, Heap.addDict, Array.getD_eq_getD_getElem?, Array.getElem?_push_lt, old]

@[grind ←]
theorem newList (items : List Value) : Idles reason lists dicts (Eval.newList items) := by
  intro m _ manyLists _
  refine ⟨rfl, rfl, fun ref old => list_addList (Nat.lt_of_lt_of_le old manyLists),
    fun _ _ => rfl, ?_, Nat.le_refl _, rfl⟩
  show m.heap.lists.size ≤ (m.heap.lists.push _).size
  rw [Array.size_push]
  exact Nat.le_succ _

@[grind ←]
theorem newDict (cell : DictCell) : Idles reason lists dicts (Eval.newDict cell) := by
  intro m _ _ manyDicts
  refine ⟨rfl, rfl, fun _ _ => rfl, fun ref old => dict_addDict (Nat.lt_of_lt_of_le old manyDicts),
    Nat.le_refl _, ?_, rfl⟩
  show m.heap.dicts.size ≤ (m.heap.dicts.push _).size
  rw [Array.size_push]
  exact Nat.le_succ _

@[grind ←]
theorem newIdentity : Idles reason lists dicts Eval.newIdentity :=
  fun _ _ _ _ => ⟨rfl, rfl, fun _ _ => rfl, fun _ _ => rfl, Nat.le_refl _, Nat.le_refl _, rfl⟩

@[grind ←]
theorem newNative (native : Native Value) : Idles reason lists dicts (Eval.newNative native) := by
  unfold Eval.newNative
  grind

/-- A list that is new may change. -/
theorem changeList {ref : ListRef} {f : Array Value → Array Value} (new : lists ≤ ref.index) :
    Idles reason lists dicts (Eval.changeList ref f) := by
  refine (readHeap _).bind fun frozen => ?_
  split
  · exact fail _
  · intro m _ _ _
    refine ⟨rfl, rfl, fun other old => ?_, fun _ _ => rfl, ?_, Nat.le_refl _, rfl⟩
    · have different : ref.index ≠ other.index := Nat.ne_of_gt (Nat.lt_of_lt_of_le old new)
      show (m.heap.lists.modify _ _).getD _ _ = m.heap.lists.getD _ _
      rw [Array.getD_eq_getD_getElem?, Array.getElem?_modify, if_neg different,
        Array.getD_eq_getD_getElem?]
    · exact Nat.le_of_eq Array.size_modify.symm

/-- A dict that is new may change. -/
theorem storeInDict {ref : DictRef} {key value : Value} (new : dicts ≤ ref.index) :
    Idles reason lists dicts (Eval.storeInDict ref key value) := by
  refine bind (accept _ _) fun hash => (readHeap _).bind fun frozen => ?_
  split
  · exact fail _
  · intro m _ _ _
    refine ⟨rfl, rfl, fun _ _ => rfl, fun other old => ?_, Nat.le_refl _, ?_, rfl⟩
    · have different : ref.index ≠ other.index := Nat.ne_of_gt (Nat.lt_of_lt_of_le old new)
      show (m.heap.dicts.modify _ _).getD _ _ = m.heap.dicts.getD _ _
      rw [Array.getD_eq_getD_getElem?, Array.getElem?_modify, if_neg different,
        Array.getD_eq_getD_getElem?]
    · exact Nat.le_of_eq Array.size_modify.symm

@[grind ←]
theorem operate {f : Heap → Value.Outcome α} : Idles reason lists dicts (Eval.operate f) := by
  unfold Eval.operate
  grind

@[grind ←]
theorem produce {f : Heap → Value.Outcome Made} : Idles reason lists dicts (Eval.produce f) := by
  unfold Eval.produce Eval.make
  grind

@[grind ←]
theorem keyFor {value : Value} : Idles reason lists dicts (Eval.keyFor value) := by
  unfold Eval.keyFor
  grind

mutual

@[grind ←]
theorem toValue : (document : Json) → Idles reason lists dicts document.toValue
  | .null | .bool _ | .int _ | .float _ | .string _ => by
    unfold Json.toValue
    grind
  | .array items => by
    unfold Json.toValue
    exact (toValues items).bind newList
  | .object fields => by
    unfold Json.toValue
    exact (toBindings fields).bind fun _ => newDict _

theorem toValues : (items : List Json) → Idles reason lists dicts (Json.toValues items)
  | [] => pure []
  | item :: rest => by
    unfold Json.toValues
    exact (toValue item).bind fun _ => (toValues rest).bind fun _ => pure _

theorem toBindings : (fields : List (String × Json)) →
    Idles reason lists dicts (Json.toBindings fields)
  | [] => pure []
  | (_, item) :: rest => by
    unfold Json.toBindings
    exact (toValue item).bind fun _ => (toBindings rest).bind fun _ => pure _

end

@[grind ←]
theorem member {object : Value} {name : String} :
    Idles reason lists dicts (object.member name) := by
  have finds : Idles reason lists dicts (object.attribute? name) := by
    unfold Value.attribute? Native.attribute?
    grind
  unfold Value.member Value.refuseAttribute
  grind

theorem spreadEntries (entries : List (Value × Value)) :
    Idles reason lists dicts (PixelApplet.spreadEntries entries) := by
  induction entries with
  | nil => exact pure []
  | cons entry rest ih =>
    unfold PixelApplet.spreadEntries
    grind

theorem newFunction {scope : Scope} {decl : FunctionDecl} {defaults : List (Option Value)} :
    Idles reason lists dicts (scope.newFunction decl defaults) := by
  unfold Scope.newFunction
  grind

/-! ## Evaluation -/

theorem moveTo (pos : Position) : Idles reason lists dicts (Eval.moveTo pos) :=
  fun _ _ _ _ => ⟨rfl, rfl, fun _ _ => rfl, fun _ _ => rfl, Nat.le_refl _, Nat.le_refl _, rfl⟩

theorem nested {act : Eval α} (idles : Idles reason lists dicts act) :
    Idles reason lists dicts (Eval.nested act) := by
  intro m told manyLists manyDicts
  unfold after
  cases entered : m.thread.depth.enter? with
  | none =>
    rw [nested_refused entered]
    exact .refl m
  | some deeper =>
    rw [nested_entered entered]
    show m.Spares lists dicts ((Eval.followedBy act _).after (m.atDepth deeper))
    rw [after_followedBy]
    have spares := idles (m.atDepth deeper) told manyLists manyDicts
    exact ⟨by rw [spares.rest]; rfl, spares.cell, spares.list, spares.dict, spares.lists,
      spares.dicts, spares.modules⟩

section Evaluation

variable {call : Caller} (polls : call.Polls)
include polls

-- most of the theorems use how values are called only through each other
set_option linter.unusedSectionVars false

mutual

theorem evalExpr : (e : Expr) → ∀ {lists dicts : Nat} {scope : Scope},
    Idles reason lists dicts (PixelApplet.evalExpr call scope e)
  | .literal _ _, _, _, _ => by
    rw [PixelApplet.evalExpr]
    exact nested (pure _)
  | .name _ name, _, _, _ => by
    rw [PixelApplet.evalExpr]
    refine nested ?_
    grind
  | .list _ items, _, _, _ => by
    rw [PixelApplet.evalExpr]
    exact nested ((evalAll items).bind fun _ => newList _)
  | .tuple _ items, _, _, _ => by
    rw [PixelApplet.evalExpr]
    exact nested ((evalAll items).bind fun _ => pure _)
  | .dict _ entries, _, _, _ => by
    rw [PixelApplet.evalExpr]
    exact nested ((evalEntries entries).bind fun _ => newDict _)
  | .listComp _ element clauses, _, _, _ => by
    rw [PixelApplet.evalExpr]
    refine nested (readingHeap fun h new _ => (newList _).bind fun list => ?_)
    refine (comprehend clauses fun scope => ?_).bind fun _ => pure _
    exact (evalExpr element).bind fun _ => changeList new
  | .dictComp _ key value clauses, _, _, _ => by
    rw [PixelApplet.evalExpr]
    refine nested (readingHeap fun h _ new => (newDict _).bind fun dict => ?_)
    refine (comprehend clauses fun scope => ?_).bind fun _ => pure _
    exact (evalExpr key).bind fun _ => (evalExpr value).bind fun _ => storeInDict new
  | .unary _ op operand, _, _, _ => by
    rw [PixelApplet.evalExpr]
    exact nested ((evalExpr operand).bind fun _ => operate)
  | .binary _ op left right, _, _, _ => by
    rw [PixelApplet.evalExpr]
    refine nested ((evalExpr left).bind fun value => ?_)
    split
    · refine (readHeap _).bind fun holds => ?_
      split
      · exact evalExpr right
      · exact pure _
    · refine (readHeap _).bind fun holds => ?_
      split
      · exact pure _
      · exact evalExpr right
    · exact (evalExpr right).bind fun _ => produce
  | .conditional _ test thenValue elseValue, _, _, _ => by
    rw [PixelApplet.evalExpr]
    refine nested ((evalExpr test).bind fun value => (readHeap _).bind fun holds => ?_)
    split
    · exact evalExpr thenValue
    · exact evalExpr elseValue
  | .lambda _ decl, _, _, _ => by
    rw [PixelApplet.evalExpr]
    exact nested (evalFunction decl)
  | .call pos callee arguments, _, _, _ => by
    rw [PixelApplet.evalExpr]
    refine nested ((evalExpr callee).bind fun callee => (evalArguments arguments).bind fun given =>
      (moveTo pos).bind fun _ => ?_)
    exact of_same fun m told => after_error (polls callee given m reason told)
  | .attribute _ object _, _, _, _ => by
    rw [PixelApplet.evalExpr]
    exact nested ((evalExpr object).bind fun _ => member)
  | .index _ object key, _, _, _ => by
    rw [PixelApplet.evalExpr]
    exact nested ((evalExpr object).bind fun _ => (evalExpr key).bind fun _ => operate)
  | .slice _ object start stop step, _, _, _ => by
    rw [PixelApplet.evalExpr]
    exact nested ((evalExpr object).bind fun _ => (evalOption start).bind fun _ =>
      (evalOption stop).bind fun _ => (evalOption step).bind fun _ => produce)

theorem evalAll : (items : List Expr) → ∀ {lists dicts : Nat} {scope : Scope},
    Idles reason lists dicts (PixelApplet.evalAll call scope items)
  | [], _, _, _ => by
    rw [PixelApplet.evalAll]
    exact pure _
  | e :: rest, _, _, _ => by
    rw [PixelApplet.evalAll]
    exact (evalExpr e).bind fun _ => (evalAll rest).bind fun _ => pure _

theorem evalOption : (e? : Option Expr) → ∀ {lists dicts : Nat} {scope : Scope},
    Idles reason lists dicts (PixelApplet.evalOption call scope e?)
  | none, _, _, _ => by
    rw [PixelApplet.evalOption]
    exact pure _
  | some e, _, _, _ => by
    rw [PixelApplet.evalOption]
    exact (evalExpr e).bind fun _ => pure _

theorem evalEntries : (entries : List (Expr × Expr)) → ∀ {lists dicts : Nat} {scope : Scope}
    {cell : DictCell}, Idles reason lists dicts (PixelApplet.evalEntries call scope entries cell)
  | [], _, _, _, _ => by
    rw [PixelApplet.evalEntries]
    exact pure _
  | (key, value) :: rest, _, _, _, _ => by
    rw [PixelApplet.evalEntries]
    exact (evalExpr key).bind fun _ => (evalExpr value).bind fun _ => keyFor.bind fun _ =>
      evalEntries rest

theorem evalArguments : (arguments : List Argument) → ∀ {lists dicts : Nat} {scope : Scope},
    Idles reason lists dicts (PixelApplet.evalArguments call scope arguments)
  | [], _, _, _ => by
    rw [PixelApplet.evalArguments]
    exact pure _
  | .positional e :: rest, _, _, _ => by
    rw [PixelApplet.evalArguments]
    exact (evalExpr e).bind fun _ => (evalArguments rest).bind fun _ => pure _
  | .named _ e :: rest, _, _, _ => by
    rw [PixelApplet.evalArguments]
    exact (evalExpr e).bind fun _ => (evalArguments rest).bind fun _ => pure _
  | .spread e :: rest, _, _, _ => by
    rw [PixelApplet.evalArguments]
    exact (evalExpr e).bind fun _ => operate.bind fun _ => (evalArguments rest).bind fun _ => pure _
  | .spreadNamed e :: rest, _, _, _ => by
    rw [PixelApplet.evalArguments]
    refine (evalExpr e).bind fun value => ?_
    split
    · exact (readHeap _).bind fun pairs => (spreadEntries pairs).bind fun _ =>
        (evalArguments rest).bind fun _ => pure _
    · exact fail _

theorem comprehend : (clauses : List Clause) → ∀ {lists dicts : Nat} {body : Scope → Eval Unit}
    {scope : Scope}, (∀ inner, Idles reason lists dicts (body inner)) →
      Idles reason lists dicts (PixelApplet.comprehend call body clauses scope)
  | [], _, _, _, scope, idles => by
    rw [PixelApplet.comprehend]
    exact (idles scope).bind fun _ => pure _
  | .for_ target iterable :: rest, _, _, _, _, _ => by
    rw [PixelApplet.comprehend]
    exact (evalExpr iterable).bind fun _ => operate.bind fun _ => eachItem _ _ _
  | .if_ test :: rest, _, _, _, _, idles => by
    rw [PixelApplet.comprehend]
    refine (evalExpr test).bind fun _ => (readHeap _).bind fun holds => ?_
    split
    · exact comprehend rest idles
    · exact pure _

theorem evalFunction : (decl : FunctionDecl) → ∀ {lists dicts : Nat} {scope : Scope},
    Idles reason lists dicts (PixelApplet.evalFunction call scope decl)
  | .mk _ _ params _, _, _, _ => by
    rw [PixelApplet.evalFunction]
    exact (evalDefaults params).bind fun _ => newFunction

theorem evalDefaults : (params : List Param) → ∀ {lists dicts : Nat} {scope : Scope},
    Idles reason lists dicts (PixelApplet.evalDefaults call scope params)
  | [], _, _, _ => by
    rw [PixelApplet.evalDefaults]
    exact pure _
  | .mk _ _ kind :: rest, _, _, _ => by
    rw [PixelApplet.evalDefaults]
    exact (evalDefault kind).bind fun _ => (evalDefaults rest).bind fun _ => pure _

theorem evalDefault : (kind : ParamKind) → ∀ {lists dicts : Nat} {scope : Scope},
    Idles reason lists dicts (PixelApplet.evalDefault call scope kind)
  | .optional e, _, _, _ => by
    rw [PixelApplet.evalDefault]
    exact (evalExpr e).bind fun _ => pure _
  | .required, _, _, _ | .rest, _, _, _ | .restNamed, _, _, _ => by
    simp only [PixelApplet.evalDefault]
    exact pure _

end

end Evaluation

end Idles

end Eval

end PixelApplet
