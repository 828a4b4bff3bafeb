import PixelApplet.Proofs.Evaluation.Statements
import PixelApplet.Proofs.Evaluation.Posture
import PixelApplet.Proofs.Value.Circles

/-!
# Frozen data is closed and constant

In every machine that programs can bring about, what a frozen list or dict reaches is frozen too,
and nothing that is done from then on changes it.
-/

namespace PixelApplet

namespace Heap

/-- A value is a frozen list or a frozen dict. -/
def IsFrozen (h : Heap) : Value → Prop
  | .list ref => (h.list ref).frozen = true
  | .dict ref => (h.dict ref).frozen = true
  | _ => False

/-- All lists and dicts that a value reaches are frozen. -/
structure Closed (h : Heap) (v : Value) : Prop where
  lists : ∀ ref, h.Reaches v (.list ref) → (h.list ref).frozen = true
  dicts : ∀ ref, h.Reaches v (.dict ref) → (h.dict ref).frozen = true

/-- All lists and dicts that a value reaches have the same contents in another heap. -/
structure Unchanged (h h' : Heap) (v : Value) : Prop where
  lists : ∀ ref, h.Reaches v (.list ref) → h'.list ref = h.list ref
  dicts : ∀ ref, h.Reaches v (.dict ref) → h'.dict ref = h.dict ref

variable {h : Heap}

theorem Holds.settled {v w : Value} (holds : h.Holds v w) (sound : h.Sound)
    (settled : v.Settled h) : w.Settled h := by
  cases holds with
  | element member => exact sound.settledLists _ settled.here _ member
  | key member => exact (sound.settledDicts _ settled.here _ member).1
  | value member => exact (sound.settledDicts _ settled.here _ member).2
  | item member => exact settled.inside _ member
  | field member => exact settled.inside _ (List.mem_map_of_mem member)

/-- What a settled value reaches is settled, through however many cells and also in circles. -/
theorem Reaches.settled {v w : Value} (reaches : h.Reaches v w) (sound : h.Sound)
    (settled : v.Settled h) : w.Settled h := by
  induction reaches with
  | here => exact settled
  | inside _ holds ih => exact holds.settled sound ih

theorem Sound.closed {v : Value} (sound : h.Sound) (settled : v.Settled h) : h.Closed v :=
  ⟨fun _ reaches => (reaches.settled sound settled).here,
    fun _ reaches => (reaches.settled sound settled).here⟩

theorem IsFrozen.settled {v : Value} (frozen : h.IsFrozen v) : v.Settled h := by
  cases v with
  | list ref => exact .intro frozen nofun
  | dict ref => exact .intro frozen nofun
  | _ => exact frozen.elim

theorem Keeps.unchanged {h' : Heap} {v : Value} (keeps : h.Keeps h') (closed : h.Closed v) :
    h.Unchanged h' v :=
  ⟨fun ref reaches => keeps.lists ref (closed.lists ref reaches),
    fun ref reaches => keeps.dicts ref (closed.dicts ref reaches)⟩

theorem list_initial (ref : ListRef) : Heap.initial.list ref = default := by
  simp [Heap.initial, Heap.empty, addDict, list]

theorem module_initial (ref : ModuleRef) : Heap.initial.module ref = default := by
  simp [Heap.initial, Heap.empty, addDict, module]

/-- All dicts of the first heap hold texts only. -/
theorem all_dict_initial {property : Value → Prop} (texts : ∀ text, property (.str text))
    (ref : DictRef) : (Heap.initial.dict ref).All property := by
  rw [Heap.initial, dict_addDict]
  split
  · refine (DictCell.all_ofBindings texts fun binding member => ?_).1
    obtain ⟨font, _, rfl⟩ := List.mem_map.mp member
    exact texts font
  · have none_ : Heap.empty.dict ref = default := by
      simp [Heap.empty, dict]
    rw [none_]
    exact DictCell.all_empty

theorem sound_initial : Heap.initial.Sound where
  fonts := by decide
  lists ref := by
    rw [list_initial]
    exact nofun
  dicts ref := all_dict_initial Value.live_str ref
  modules ref := by
    rw [module_initial]
    exact ⟨nofun, nofun, nofun⟩
  settledLists ref frozen := by
    rw [list_initial] at frozen
    cases frozen
  settledDicts ref _ := all_dict_initial (fun _ => .intro trivial nofun) ref
  settledModules ref frozen := by
    rw [module_initial] at frozen
    cases frozen

end Heap

/-- What a thread can do in one go with values of a heap of some extent: whole files and calls, and
the statements, expressions and operations that they are made of. -/
inductive Operation (extent : Extent) : {α : Type} → Eval α → Prop where
  | file {load : Loader} (loads : load.Safe .files) (name source : String)
    {predeclared : Bindings Value} (live : predeclared.Live extent) :
    Operation extent (executeFile load name source predeclared)
  | statement {load : Loader} (loads : load.Safe .files) {scope : Scope} {s : Stmt}
    (live : scope.Live extent) (placed : s.LoadsOutside true) :
    Operation extent (execStmt (callValue load) load scope s)
  | expression (load : Loader) {scope : Scope} {e : Expr} (live : scope.Live extent)
    (placed : e.LoadsOutside) : Operation extent (evalExpr (callValue load) scope e)
  | assignment (load : Loader) {scope : Scope} {target : Expr} {value : Value}
    (live : scope.Live extent) (placed : target.LoadsOutside) (liveValue : value.Live extent) :
    Operation extent (assignTarget (callValue load) scope target value)
  | augmented (op : BinaryOp) {current value : Value} (live : current.Live extent)
    (liveValue : value.Live extent) : Operation extent (augmented op current value)
  | operator (op : BinaryOp) {left right : Value} (liveLeft : left.Live extent)
    (liveRight : right.Live extent) :
    Operation extent (Eval.produce fun h => Value.binary h op left right)
  | index {object key value : Value} (liveKey : key.Live extent) (liveValue : value.Live extent) :
    Operation extent (Eval.assignIndex object key value)
  | call (load : Loader) {callee : Value} {arguments : Arguments} (live : callee.Live extent)
    (liveArguments : arguments.Live extent) : Operation extent (callValue load callee arguments)
  | listMethod (m : ListMethod) (ref : ListRef) {arguments : Arguments}
    (live : arguments.Live extent) : Operation extent (ListMethods.run m ref arguments)
  | dictMethod (m : DictMethod) (ref : DictRef) {arguments : Arguments}
    (live : arguments.Live extent) : Operation extent (DictMethods.run m ref arguments)
  | newList {items : List Value} (live : ∀ v ∈ items, v.Live extent) :
    Operation extent (Eval.newList items)
  | newDict {cell : DictCell} (live : cell.Live extent) (thawed : cell.frozen = false) :
    Operation extent (Eval.newDict cell)
  | module (name : String) {bindings : Bindings Value} (live : bindings.Live extent) :
    Operation extent (Eval.bindingsModule name bindings)

theorem Operation.runs {extent : Extent} {α : Type} {act : Eval α}
    (operation : Operation extent act) : Eval.Runs .files act extent := by
  have files := Effect.files_files
  cases operation with
  | file loads name source live => exact (Eval.Safe.executeFile files loads live).runs
  | statement loads live placed =>
    exact (Eval.Safe.execStmt (Eval.Safe.callValue _) (fun _ _ module bindings _ =>
      Eval.Safe.loadModule files loads _ module bindings) _ placed rfl (files.program _) live).runs
  | expression load live placed =>
    exact ((Eval.Safe.evalExpr (Eval.Safe.callValue load) _ placed live).lift files.data).runs
  | assignment load live placed liveValue =>
    exact ((Eval.Safe.assignTarget (Eval.Safe.callValue load) _ placed live liveValue).lift
      (files.program _)).runs
  | augmented op live liveValue =>
    exact ((Eval.Safe.augmented live liveValue).lift files.data).runs
  | operator op liveLeft liveRight =>
    exact ((Eval.Safe.produce fun h sound inside => Value.live_binary op sound
      (liveLeft.mono inside) (liveRight.mono inside)).lift files.data).runs
  | index liveKey liveValue =>
    exact (Eval.Safe.assignIndex liveKey liveValue).lift files.data
  | call load live liveArguments =>
    exact ((Eval.Safe.callValue load live liveArguments).lift files.data).runs
  | listMethod m ref live => exact ((Eval.Safe.listMethod m ref live).lift files.data).runs
  | dictMethod m ref live => exact ((Eval.Safe.dictMethod m ref live).lift files.data).runs
  | newList live => exact ((Eval.Safe.newList live).lift files.data).runs
  | newDict live thawed => exact ((Eval.Safe.newDict live thawed).lift files.data).runs
  | module name live => exact (Eval.Safe.bindingsModule files live).runs

/-- One step of the machine: a thread does something with values that are there, or the host changes
what lies outside of the heap, such as which thread is running. -/
inductive Machine.Next (m : Machine) : Machine → Prop where
  | operation {α : Type} {act : Eval α} (operation : Operation m.heap.extent act) :
    Next m (act.after m)
  | host {m' : Machine} (same : m'.heap = m.heap) : Next m m'

/-- Any number of steps. -/
inductive Machine.Leads (m : Machine) : Machine → Prop where
  | refl : Leads m m
  | tail {middle last : Machine} (before : Leads m middle) (next : middle.Next last) : Leads m last

theorem Eval.Runs.keeps {α : Type} {act : Eval α} {m : Machine}
    (runs : Eval.Runs .files act m.heap.extent) (sound : m.heap.Sound) :
    m.heap.Keeps (act.after m).heap ∧ (act.after m).heap.Sound := by
  have outcome := runs m sound (Extent.le_refl _)
  unfold Eval.after
  cases ran : act m with
  | ok value m' =>
    rw [ran] at outcome
    exact outcome.1.keeps_and_sound sound
  | error abort m' =>
    rw [ran] at outcome
    exact outcome.1.keeps_and_sound sound

theorem Machine.Next.keeps {m m' : Machine} (next : m.Next m') (sound : m.heap.Sound) :
    m.heap.Keeps m'.heap ∧ m'.heap.Sound := by
  cases next with
  | operation operation => exact operation.runs.keeps sound
  | host same =>
    rw [same]
    exact ⟨Heap.Keeps.refl _, sound⟩

theorem Machine.Leads.keeps {m m' : Machine} (leads : m.Leads m') (sound : m.heap.Sound) :
    m.heap.Keeps m'.heap ∧ m'.heap.Sound := by
  induction leads with
  | refl => exact ⟨Heap.Keeps.refl _, sound⟩
  | tail _ next ih =>
    have step := next.keeps ih.2
    exact ⟨ih.1.trans step.1, step.2⟩

/-- In every machine that can come about, what a frozen list or dict reaches is frozen and stays as
it is, whatever happens later; and the same is true of what the variables of a file reach when the
file has been executed. -/
theorem frozen_closed_and_constant {disk : Disk} {m : Machine}
    (reached : (Machine.initial disk).Leads m) :
    (∀ v, m.heap.IsFrozen v →
      m.heap.Closed v ∧ ∀ m', m.Leads m' → m.heap.Unchanged m'.heap v)
    ∧ ∀ {load : Loader} {name source : String} {predeclared : Bindings Value} {ref : ModuleRef}
      {m' : Machine}, load.Safe .files → predeclared.Live m.heap.extent →
        executeFile load name source predeclared m = .ok (.ok ref) m' →
          ∀ binding ∈ (m'.heap.module ref).vars, m'.heap.Closed binding.2
            ∧ ∀ m'', m'.Leads m'' → m'.heap.Unchanged m''.heap binding.2 := by
  have sound := (reached.keeps Heap.sound_initial).2
  constructor
  · intro v frozen
    have closed := sound.closed frozen.settled
    exact ⟨closed, fun m' leads => (leads.keeps sound).1.unchanged closed⟩
  · intro load name source predeclared ref m' loads live ran binding member
    have after : (executeFile load name source predeclared).after m = m' := by
      rw [Eval.after, ran]
    have sound' := ((Operation.file loads name source live).runs.keeps sound).2
    rw [after] at sound'
    have frozen := executeFile_frozen Effect.files_files loads sound live ran
    have closed := sound'.closed (sound'.settledModules ref frozen binding member)
    exact ⟨closed, fun m'' leads => (leads.keeps sound').1.unchanged closed⟩

/-- A script that binds a list which holds itself, and a tuple with that list. -/
def ringScript : String :=
  "ring = []\nring.append(ring)\npair = (ring, [1])\n"

/-- The machine after the script was executed. -/
def ringMachine : Machine :=
  (executeFile none "ring.star" ringScript []).after (.initial (.under []))

/-- Whether a run ended with an answer that is no refusal. -/
def Eval.isAnswered {ε α : Type} : EStateM.Result Abort Machine (Except ε α) → Bool
  | .ok (.ok _) _ => true
  | _ => false

theorem Eval.exists_of_isAnswered {ε α : Type} {act : Eval (Except ε α)} {m : Machine}
    (answered : isAnswered (act m) = true) : ∃ x, act m = .ok (.ok x) (act.after m) := by
  unfold after
  unfold isAnswered at answered
  split at answered
  · rename_i x m' ran
    rw [ran]
    exact ⟨x, rfl⟩
  · cases answered

theorem ringScript_succeeds : ∃ ref, executeFile none "ring.star" ringScript []
    (.initial (.under [])) = .ok (.ok ref) ringMachine :=
  Eval.exists_of_isAnswered (by decide +kernel)

/-- The list that values consist of, if they are one list. -/
def Value.loneList? : List Value → Option ListRef
  | [.list ref] => some ref
  | _ => Option.none

theorem ring_holds_itself : ringMachine.heap.Holds (.list ⟨0⟩) (.list ⟨0⟩) := by
  have only : Value.loneList? (ringMachine.heap.list ⟨0⟩).items.toList = some ⟨0⟩ := by
    decide +kernel
  refine .element ?_
  unfold Value.loneList? at only
  split at only
  · rename_i ref items
    cases only
    rw [items]
    exact .head _
  · cases only

theorem frozen_ring :
    (Machine.initial (.under [])).Leads ringMachine
    ∧ ringMachine.heap.IsFrozen (.list ⟨0⟩)
    ∧ ringMachine.heap.Holds (.list ⟨0⟩) (.list ⟨0⟩)
    ∧ (ringMachine.heap.Closed (.list ⟨0⟩)
      ∧ ∀ m', ringMachine.Leads m' → ringMachine.heap.Unchanged m'.heap (.list ⟨0⟩))
    ∧ ∃ ref, ∀ binding ∈ (ringMachine.heap.module ref).vars, ringMachine.heap.Closed binding.2
      ∧ ∀ m', ringMachine.Leads m' → ringMachine.heap.Unchanged m'.heap binding.2 := by
  have reached : (Machine.initial (.under [])).Leads ringMachine :=
    .tail .refl (.operation (.file (Loader.safe_none _) _ _ Bindings.live_nil))
  have frozen : ringMachine.heap.IsFrozen (.list ⟨0⟩) := by
    show (ringMachine.heap.list ⟨0⟩).frozen = true
    decide +kernel
  obtain ⟨ref, ran⟩ := ringScript_succeeds
  exact ⟨reached, frozen, ring_holds_itself, (frozen_closed_and_constant reached).1 _ frozen, ref,
    (frozen_closed_and_constant .refl).2 (Loader.safe_none _) Bindings.live_nil ran⟩

end PixelApplet
