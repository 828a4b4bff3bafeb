import PixelApplet.Proofs.Library.Receiving
import PixelApplet.Proofs.Value.Realms

/-!
# Upholding a realm

An action upholds a realm if, started on a heap that guards the realm, it ends on such a heap,
whether it succeeds or stops, and gives a result that belongs to the realm.  What is frozen and what
is being loaded is left alone.

Two actions uphold a realm alike if they also do the same on every heap that guards it.  So an
action whose checks are about values of the realm is compared with one that does not check.
-/

namespace PixelApplet

/-- Types of data that may carry values, and what it means for such data to belong to a realm. -/
class Carrier (α : Type) where
  Within : Realm → α → Prop

namespace Realm

variable {α β : Type}

/-- All values that some data carries belong to a realm. -/
def Has [Carrier α] (R : Realm) (a : α) : Prop :=
  Carrier.Within R a

/-- Data that carries no values. -/
instance (priority := low) plain : Carrier α :=
  ⟨fun _ _ => True⟩

instance : Carrier Value :=
  ⟨Value.Belongs⟩

instance : Carrier ModuleRef :=
  ⟨Realm.modules⟩

instance [Carrier α] : Carrier (List α) :=
  ⟨fun R items => ∀ a ∈ items, R.Has a⟩

instance [Carrier α] : Carrier (Option α) :=
  ⟨fun R a? => ∀ a, a? = some a → R.Has a⟩

instance [Carrier α] [Carrier β] : Carrier (α × β) :=
  ⟨fun R pair => R.Has pair.1 ∧ R.Has pair.2⟩

instance {ε : Type} [Carrier α] : Carrier (Except ε α) :=
  ⟨fun R outcome => ∀ a, outcome = .ok a → R.Has a⟩

instance : Carrier Arguments :=
  ⟨fun R arguments => arguments.All (Value.Belongs R)⟩

instance : Carrier Received :=
  ⟨fun R r => ∀ entry ∈ r.slots, Slot.All (Value.Belongs R) entry.2⟩

instance : Carrier Made :=
  ⟨fun R made => made.All (Value.Belongs R)⟩

instance : Carrier DictCell :=
  ⟨DictCell.Belongs⟩

instance : Carrier Sorting.Keyed :=
  ⟨fun R entry => entry.item.Belongs R⟩

section Has

variable {R : Realm}

@[simp, grind =] theorem has_value {v : Value} : R.Has v ↔ v.Belongs R := Iff.rfl

@[simp, grind .] theorem has_plain (a : α) : @Has α plain R a := trivial

@[simp, grind =] theorem has_list [Carrier α] {items : List α} :
    R.Has items ↔ ∀ a ∈ items, R.Has a := Iff.rfl

@[grind =] theorem has_option [Carrier α] {a? : Option α} :
    R.Has a? ↔ ∀ a, a? = some a → R.Has a := Iff.rfl

@[simp, grind =] theorem has_some [Carrier α] {a : α} : R.Has (some a) ↔ R.Has a :=
  ⟨fun has => has a rfl, by rintro has _ ⟨⟩; exact has⟩

@[simp, grind .] theorem has_none [Carrier α] : R.Has (none : Option α) := nofun

@[grind =] theorem has_except {ε : Type} [Carrier α] {outcome : Except ε α} :
    R.Has outcome ↔ ∀ a, outcome = .ok a → R.Has a := Iff.rfl

@[simp, grind =] theorem has_arguments {arguments : Arguments} :
    R.Has arguments ↔ arguments.All (Value.Belongs R) := Iff.rfl

@[simp, grind =] theorem has_received {r : Received} :
    R.Has r ↔ ∀ entry ∈ r.slots, Slot.All (Value.Belongs R) entry.2 := Iff.rfl

@[simp, grind =] theorem has_made {made : Made} : R.Has made ↔ made.All (Value.Belongs R) := Iff.rfl

@[simp, grind =] theorem has_cell {cell : DictCell} : R.Has cell ↔ cell.Belongs R := Iff.rfl

@[simp, grind =] theorem has_keyed {entry : Sorting.Keyed} :
    R.Has entry ↔ entry.item.Belongs R := Iff.rfl

@[simp, grind =] theorem has_pair [Carrier α] [Carrier β] {pair : α × β} :
    R.Has pair ↔ R.Has pair.1 ∧ R.Has pair.2 := Iff.rfl

end Has

end Realm

namespace Eval

variable {α β : Type} {R : Realm} {sparing : Prop}

/-- From one machine to the next, what is frozen and what is being loaded is left alone; if the
realm is all that may change, the rest of the heap is spared. -/
structure Aside (R : Realm) (sparing : Prop) (m m' : Machine) : Prop where
  loading : m'.loading = m.loading
  keeps : m.heap.Keeps m'.heap
  spares : sparing → R.Spares m.heap m'.heap

theorem Aside.refl (m : Machine) : Aside R sparing m m :=
  ⟨rfl, .refl _, fun _ => .refl R _⟩

theorem Aside.trans {a b c : Machine} (first : Aside R sparing a b) (second : Aside R sparing b c) :
    Aside R sparing a c where
  loading := second.loading.trans first.loading
  keeps := first.keeps.trans second.keeps
  spares spared := (first.spares spared).trans (second.spares spared)

/-- On heaps that guard a realm, two actions do the same, keep the realm guarded, and leave alone
what is frozen and what is being loaded; and something holds of their result.  They may be sparing
with the rest of the heap, too. -/
def Upholds (R : Realm) (act other : Eval α) (holds : α → Prop) (sparing : Prop := False) : Prop :=
  ∀ m, R.Guards m.heap → act m = other m ∧
    match act m with
    | .ok value m' => Aside R sparing m m' ∧ R.Guards m'.heap ∧ holds value
    | .error _ m' => Aside R sparing m m' ∧ R.Guards m'.heap

/-- An action that upholds a realm, and whose result belongs to it. -/
abbrev Keeps [Carrier α] (R : Realm) (act : Eval α) (sparing : Prop := False) : Prop :=
  Upholds R act act R.Has sparing

namespace Upholds

variable {act other : Eval α} {holds : α → Prop}

/-- What is known of the first result is whatever the action makes sure of. -/
theorem bindWith {next next' : α → Eval β} {later : β → Prop} (first :
    Upholds R act other holds sparing)
    (rest : ∀ value, holds value → Upholds R (next value) (next' value) later sparing) :
    Upholds R (act >>= next) (other >>= next') later sparing := by
  intro m guards
  obtain ⟨same, outcome⟩ := first m guards
  cases ran : act m with
  | error abort m' =>
    rw [ran] at outcome
    have stops : (act >>= next) m = .error abort m' := bind_error ran
    rw [stops]
    exact ⟨(bind_error (same.symm.trans ran)).symm, outcome⟩
  | ok value m' =>
    rw [ran] at outcome
    obtain ⟨aside, guards', held⟩ := outcome
    obtain ⟨same', outcome'⟩ := rest value held m' guards'
    have goes : (act >>= next) m = next value m' := bind_ok ran
    have goes' : (other >>= next') m = next' value m' := bind_ok (same.symm.trans ran)
    rw [goes, goes']
    refine ⟨same', ?_⟩
    cases ran' : next value m' with
    | error abort m'' =>
      rw [ran'] at outcome'
      exact ⟨aside.trans outcome'.1, outcome'.2⟩
    | ok value' m'' =>
      rw [ran'] at outcome'
      exact ⟨aside.trans outcome'.1, outcome'.2⟩

/-- The first result belongs to the realm. -/
@[grind ←]
theorem bind [Carrier α] {next next' : α → Eval β} {later : β → Prop}
    (first : Upholds R act other R.Has sparing)
    (rest : ∀ value, R.Has value → Upholds R (next value) (next' value) later sparing) :
    Upholds R (act >>= next) (other >>= next') later sparing :=
  first.bindWith rest

@[grind ←]
theorem pure {value : α} (held : holds value) :
    Upholds R (Pure.pure value) (Pure.pure value) holds sparing :=
  fun m guards => ⟨rfl, .refl m, guards, held⟩

theorem weaken {weaker : α → Prop} (upholds : Upholds R act other holds sparing)
    (implies : ∀ value, holds value → weaker value) : Upholds R act other weaker sparing := by
  intro m guards
  obtain ⟨same, outcome⟩ := upholds m guards
  refine ⟨same, ?_⟩
  cases ran : act m with
  | error abort m' =>
    rw [ran] at outcome
    exact outcome
  | ok value m' =>
    rw [ran] at outcome
    exact ⟨outcome.1, outcome.2.1, implies value outcome.2.2⟩

@[grind ←]
theorem throw (abort : Abort) :
    Upholds R (MonadExcept.throw abort : Eval α) (MonadExcept.throw abort) holds sparing :=
  fun m guards => ⟨rfl, .refl m, guards⟩

@[grind ←]
theorem fail (message : String) :
    Upholds R (Eval.fail message : Eval α) (Eval.fail message) holds sparing :=
  throw _

/-- A step whose result does not matter. -/
theorem andThen {next next' : α → Eval β} {later : β → Prop}
    (first : Upholds R act other (fun _ => True) sparing)
    (rest : ∀ value, Upholds R (next value) (next' value) later sparing) :
    Upholds R (act >>= next) (other >>= next') later sparing :=
  first.bindWith fun value _ => rest value

theorem runs (upholds :
    Upholds R act other holds sparing) : Upholds R act other (fun _ => True) sparing :=
  upholds.weaken fun _ _ => trivial

/-- A refusal in one case only. -/
theorem guarded {c : Prop} [Decidable c] {message : String} {next : Eval α}
    (upholds : Upholds R next next holds sparing) :
    Upholds R (if c then (Eval.fail message : Eval PUnit) >>= fun _ => next else next)
      (if c then (Eval.fail message : Eval PUnit) >>= fun _ => next else next) holds sparing := by
  split
  · exact andThen (fail message) fun _ => upholds
  · exact upholds

@[grind ←]
theorem acceptWith {ε : Type} {wording : ε → String} {result : Except ε α}
    (held : ∀ value, result = .ok value → holds value) :
    Upholds R (Eval.accept wording result) (Eval.accept wording result) holds sparing := by
  cases result with
  | error e => exact fail _
  | ok value => exact pure (held value rfl)

@[grind ←]
theorem requireWith {message : String} {result : Option α}
    (held : ∀ value, result = some value → holds value) :
    Upholds R (Eval.require message result) (Eval.require message result) holds sparing := by
  cases result with
  | none => exact fail message
  | some value => exact pure (held value rfl)

@[grind ←]
theorem readWith {f : Machine → α} (held : ∀ m, R.Guards m.heap → holds (f m)) :
    Upholds R (Eval.read f) (Eval.read f) holds sparing :=
  fun m guards => ⟨rfl, .refl m, guards, held m guards⟩

@[grind ←]
theorem readHeapWith {f : Heap → α} (held : ∀ h, R.Guards h → holds (f h)) :
    Upholds R (Eval.readHeap f) (Eval.readHeap f) holds sparing :=
  readWith fun m => held m.heap

theorem accepts {ε : Type} {wording : ε → String} {result : Except ε α} :
    Upholds R (Eval.accept wording result) (Eval.accept wording result) (fun _ => True) sparing :=
  acceptWith fun _ _ => trivial

theorem requires {message : String} {result : Option α} :
    Upholds R (Eval.require message result) (Eval.require message result) (fun _ => True)
      sparing :=
  requireWith fun _ _ => trivial

/-- What follows reading is considered with what was there to read. -/
theorem reading {f : Machine → α} {next next' : α → Eval β} {later : β → Prop}
    (rest : ∀ m : Machine, R.Guards m.heap → Upholds R (next (f m)) (next' (f m)) later sparing) :
    Upholds R (Eval.read f >>= next) (Eval.read f >>= next') later sparing :=
  fun m guards => rest m guards m guards

theorem readingHeap {f : Heap → α} {next next' : α → Eval β} {later : β → Prop}
    (rest : ∀ h, R.Guards h → Upholds R (next (f h)) (next' (f h)) later sparing) :
    Upholds R (Eval.readHeap f >>= next) (Eval.readHeap f >>= next') later sparing :=
  reading fun m => rest m.heap

@[grind ←]
theorem operateWith {f : Heap → Value.Outcome α}
    (held : ∀ h, R.Guards h → ∀ a, f h = .ok a → holds a) :
    Upholds R (Eval.operate f) (Eval.operate f) holds sparing :=
  readingHeap fun h guards => acceptWith (held h guards)

/-- A step that cannot fail. -/
theorem of_ok {act : Eval α} (steps : ∀ m, R.Guards m.heap → ∃ value m', act m = .ok value m' ∧
    Aside R sparing m m' ∧ R.Guards m'.heap ∧ holds value) : Upholds R act act holds sparing := by
  intro m guards
  obtain ⟨value, m', ran, kept⟩ := steps m guards
  rw [ran]
  exact ⟨rfl, kept⟩

/-- A step that changes neither the heap nor what is being loaded. -/
theorem modify {f : Machine → Machine}
    (same : ∀ m : Machine, (f m).heap = m.heap ∧ (f m).loading = m.loading) :
    Keeps R (MonadState.modifyGet fun m => ((), f m) : Eval Unit) sparing :=
  of_ok fun m guards => ⟨_, _, rfl, ⟨(same m).2, (same m).1 ▸ .refl _,
    fun _ => (same m).1 ▸ .refl R _⟩, (same m).1 ▸ guards, trivial⟩

theorem changeThread (f : Thread → Thread) : Keeps R (Eval.changeThread f) sparing :=
  modify fun _ => ⟨rfl, rfl⟩

@[grind ←]
theorem record (event : Event) : Keeps R (Eval.record event) sparing :=
  modify fun _ => ⟨rfl, rfl⟩

@[grind ←]
theorem moveTo (pos : Position) : Keeps R (Eval.moveTo pos) sparing :=
  changeThread _

@[grind ←]
theorem newToken : Keeps R Eval.newToken sparing :=
  of_ok fun _ guards => ⟨_, _, rfl, ⟨rfl, .refl _, fun _ => .refl R _⟩, guards, trivial⟩

@[grind ←]
theorem checkCancelled : Keeps R Eval.checkCancelled sparing := by
  refine reading fun m _ => ?_
  split
  · exact fail _
  · exact pure trivial

@[grind ←]
theorem print (message : String) : Keeps R (Eval.print message) sparing := by
  refine reading fun m _ => ?_
  split
  · exact record _
  · exact record _
  · exact record _
  · exact pure trivial

section Around

variable {finish : Machine → Machine}

theorem followedBy (same : ∀ m : Machine, (finish m).heap = m.heap ∧ (finish m).loading = m.loading)
    (upholds : Upholds R act other holds sparing) :
    Upholds R (Eval.followedBy act finish) (Eval.followedBy other finish) holds sparing := by
  intro m guards
  obtain ⟨alike, outcome⟩ := upholds m guards
  refine ⟨by rw [Eval.followedBy, Eval.followedBy, alike], ?_⟩
  have finished {m' : Machine} (aside : Aside R sparing m m') : Aside R sparing m (finish m') :=
    ⟨(same m').2.trans aside.loading, (same m').1 ▸ aside.keeps,
      fun spared => (same m').1 ▸ aside.spares spared⟩
  unfold Eval.followedBy
  cases ran : act m with
  | error abort m' =>
    rw [ran] at outcome
    exact ⟨finished outcome.1, (same m').1 ▸ outcome.2⟩
  | ok value m' =>
    rw [ran] at outcome
    exact ⟨finished outcome.1, (same m').1 ▸ outcome.2.1, outcome.2.2⟩

theorem mapError {f : Machine → EvalError → EvalError} (upholds :
    Upholds R act other holds sparing) :
    Upholds R (Eval.mapError act f) (Eval.mapError other f) holds sparing := by
  intro m guards
  obtain ⟨alike, outcome⟩ := upholds m guards
  refine ⟨by rw [Eval.mapError, Eval.mapError, alike], ?_⟩
  unfold Eval.mapError
  rcases ran : act m with ⟨value, m'⟩ | ⟨e | message, m'⟩ <;> rw [ran] at outcome <;>
    exact outcome

/-- An action whose error becomes a result. -/
theorem attempt (upholds : Upholds R act other holds sparing) :
    Upholds R (Eval.attempt act) (Eval.attempt other)
      (fun outcome => ∀ value, outcome = .ok value → holds value) sparing := by
  intro m guards
  obtain ⟨alike, outcome⟩ := upholds m guards
  refine ⟨by rw [Eval.attempt, Eval.attempt, alike], ?_⟩
  unfold Eval.attempt
  rcases ran : act m with ⟨value, m'⟩ | ⟨e | message, m'⟩ <;> rw [ran] at outcome
  · exact ⟨outcome.1, outcome.2.1, by rintro _ ⟨⟩; exact outcome.2.2⟩
  · exact ⟨outcome.1, outcome.2, fun _ same => by cases same⟩
  · exact outcome

/-- An action whose stopping becomes a result. -/
theorem recover (upholds : Upholds R act other holds sparing) :
    Upholds R (Eval.recover act) (Eval.recover other)
      (fun outcome => ∀ value, outcome = .ok value → holds value) sparing := by
  intro m guards
  obtain ⟨alike, outcome⟩ := upholds m guards
  refine ⟨by rw [Eval.recover, Eval.recover, alike], ?_⟩
  unfold Eval.recover
  rcases ran : act m with ⟨value, m'⟩ | ⟨abort, m'⟩ <;> rw [ran] at outcome
  · exact ⟨outcome.1, outcome.2.1, by rintro _ ⟨⟩; exact outcome.2.2⟩
  · exact ⟨outcome.1, outcome.2, fun _ same => by cases same⟩

theorem nested (upholds : Upholds R act other holds sparing) :
    Upholds R (Eval.nested act) (Eval.nested other) holds sparing := by
  refine reading fun m _ => ?_
  split
  · exact fail _
  · exact bindWith (changeThread _) fun _ _ => followedBy (fun _ => ⟨rfl, rfl⟩) upholds

theorem inFrame {frame : Frame} (upholds : Upholds R act other holds sparing) :
    Upholds R (Eval.inFrame frame act) (Eval.inFrame frame other) holds sparing := by
  refine reading fun m _ => ?_
  split
  · exact fail _
  · exact bindWith (changeThread _) fun _ _ => followedBy (fun _ => ⟨rfl, rfl⟩) upholds

theorem onThread {name : String} (upholds : Upholds R act other holds sparing) :
    Upholds R (Eval.onThread name act) (Eval.onThread name other) holds sparing := by
  have opened : Keeps R Eval.newCell sparing :=
    of_ok fun _ guards => ⟨_, _, rfl, ⟨rfl, .refl _, fun _ => .refl R _⟩, guards, trivial⟩
  refine reading fun m _ => ?_
  refine bindWith opened fun cell _ => ?_
  exact bindWith (modify fun _ => ⟨rfl, rfl⟩) fun _ _ =>
    followedBy (fun _ => ⟨rfl, rfl⟩) upholds

@[grind ←]
theorem mapM {item : Type} [Carrier α] {step : item → Eval α} {items : List item}
    (keeps : ∀ i ∈ items, Keeps R (step i) sparing) : Keeps R (items.mapM step) sparing := by
  induction items with
  | nil =>
    rw [List.mapM_nil]
    exact pure nofun
  | cons i items ih =>
    rw [List.mapM_cons]
    refine (keeps i (.head _)).bind fun value has => ?_
    refine (ih fun j member => keeps j (.tail _ member)).bind fun values haveAll => ?_
    exact pure (List.forall_mem_cons.mpr ⟨has, haveAll⟩)

end Around

/-! ## Making and changing data -/

@[grind ←]
theorem newIdentity : Keeps R Eval.newIdentity sparing :=
  of_ok fun _ guards => ⟨_, _, rfl,
    ⟨rfl, ⟨Extent.le_refl _, fun _ _ => rfl, fun _ _ => rfl, fun _ frozen => ⟨frozen, rfl⟩⟩,
      fun _ => ⟨fun _ _ => rfl, fun _ _ => rfl⟩⟩,
    ⟨guards.newLists, guards.newDicts, guards.newModules, guards.fonts, guards.lists, guards.dicts,
      guards.modules, guards.held⟩, trivial⟩

@[grind ←]
theorem newList {items : List Value} (belong : ∀ v ∈ items, v.Belongs R) :
    Keeps R (Eval.newList items) sparing :=
  of_ok fun _ guards =>
    have inside := guards.newLists _ (Nat.le_refl _)
    ⟨_, _, rfl, ⟨rfl, Heap.keeps_addList _ _, fun _ => .addList inside⟩, guards.addList belong,
      Value.belongs_list.mpr inside⟩

@[grind ←]
theorem newDict {cell : DictCell} (belongs : cell.Belongs R) :
    Keeps R (Eval.newDict cell) sparing :=
  of_ok fun _ guards =>
    have inside := guards.newDicts _ (Nat.le_refl _)
    ⟨_, _, rfl, ⟨rfl, Heap.keeps_addDict _ _, fun _ => .addDict inside⟩, guards.addDict belongs,
      Value.belongs_dict.mpr inside⟩

@[grind ←]
theorem newNative {native : Native Value} (made : native.WellMade)
    (belong : ∀ v ∈ native.values, v.Belongs R) : Keeps R (Eval.newNative native) sparing :=
  newIdentity.bind fun _ _ => pure (Value.belongs_native.mpr ⟨made, belong⟩)

theorem newBuiltin {b : Builtin Value} (belongs : ∀ v, b.receiver = some v → v.Belongs R) :
    Keeps R (do return Value.builtin (← Eval.newIdentity) b) sparing :=
  newIdentity.bind fun _ _ => pure (Value.belongs_builtin.mpr belongs)

@[grind ←]
theorem produce {f : Heap → Value.Outcome Made}
    (belong : ∀ h, R.Guards h → Value.Outcome.All (Value.Belongs R) (f h)) :
    Keeps R (Eval.produce f) sparing := by
  refine bindWith (operateWith belong) fun made belongs => ?_
  cases made with
  | value v => exact pure belongs
  | list items => exact newList belongs

@[grind ←]
theorem iterate {value : Value} (belongs : value.Belongs R) :
    Keeps R (Eval.iterate value) sparing :=
  operateWith fun _ guards _ made => guards.spreads.iterate belongs made

/-- A list may be changed into one whose elements belong to the realm where those of the list did. -/
theorem changeList {ref : ListRef} {f : Array Value → Array Value} (inside : R.lists ref)
    (belong : ∀ items : Array Value, (∀ v ∈ items.toList, v.Belongs R) →
      ∀ v ∈ (f items).toList, v.Belongs R) : Keeps R (Eval.changeList ref f) sparing := by
  intro m guards
  cases frozen : (m.heap.list ref).frozen with
  | true =>
    rw [changeList_of_frozen frozen]
    exact ⟨rfl, .refl m, guards⟩
  | false =>
    rw [changeList_of_thawed frozen]
    exact ⟨rfl, ⟨rfl, Heap.keeps_modifyList _ frozen, fun _ => .modifyList inside⟩,
      guards.modifyList fun _ => belong _ (guards.lists ref inside), trivial⟩

theorem changeDict {ref : DictRef} {f : DictCell → DictCell} (inside : R.dicts ref)
    (belongs : ∀ cell : DictCell, cell.Belongs R → (f cell).Belongs R) :
    Keeps R (Eval.changeDict ref f) sparing := by
  intro m guards
  cases frozen : (m.heap.dict ref).frozen with
  | true =>
    rw [changeDict_of_frozen frozen]
    exact ⟨rfl, .refl m, guards⟩
  | false =>
    rw [changeDict_of_thawed frozen]
    exact ⟨rfl, ⟨rfl, Heap.keeps_modifyDict _ frozen, fun _ => .modifyDict inside⟩,
      guards.modifyDict fun _ => belongs _ (guards.dicts ref inside), trivial⟩

/-- The key of a value is what the value is found by. -/
theorem keyFor {value : Value} :
    Upholds R (Eval.keyFor value) (Eval.keyFor value) (fun hash => value.hashKey = .ok hash)
      sparing := by
  refine acceptWith fun hash made => ?_
  unfold Value.keyFor at made
  split at made
  · cases made
    assumption
  · cases made

@[grind ←]
theorem storeInDict {ref : DictRef} {key value : Value} (inside : R.dicts ref)
    (belongsKey : key.Belongs R) (belongsValue : value.Belongs R) :
    Keeps R (Eval.storeInDict ref key value) sparing :=
  bindWith keyFor fun _ hash => changeDict inside fun _ belongs =>
    belongs.insert hash belongsKey belongsValue

@[grind ←]
theorem assignIndex {object key value : Value} (belongs : object.Belongs R)
    (belongsKey : key.Belongs R) (belongsValue : value.Belongs R) :
    Keeps R (Eval.assignIndex object key value) sparing := by
  unfold Eval.assignIndex
  split
  · refine reading fun m _ => ?_
    refine andThen accepts fun i => ?_
    refine changeList (Value.belongs_list.mp belongs) fun items belong v member => ?_
    rw [Array.toList_setIfInBounds] at member
    rcases List.mem_or_eq_of_mem_set member with old | rfl
    · exact belong v old
    · exact belongsValue
  · exact storeInDict (Value.belongs_dict.mp belongs) belongsKey belongsValue
  · exact fail _

/-! ## Receiving arguments -/

section Receiving

variable {function : String} {arguments : Arguments}

@[grind ←]
theorem receive {parameters : List Parameter} (belong : arguments.All (Value.Belongs R)) :
    Keeps R (PixelApplet.receive function parameters arguments) sparing := by
  refine bindWith (acceptWith fun slots made => belong.unpack made) fun slots all => pure ?_
  intro entry member
  exact all entry.2 (List.of_mem_zip member).2

@[grind ←]
theorem receiveBetween {low high : Nat} (belong : arguments.All (Value.Belongs R)) :
    Keeps R (PixelApplet.receiveBetween function low high arguments) sparing :=
  acceptWith fun _ made => belong.positionalBetween made

@[grind ←]
theorem receiveOne (belong : arguments.All (Value.Belongs R)) :
    Keeps R (PixelApplet.receiveOne function arguments) sparing := by
  refine (receiveBetween belong).bind fun given has => pure ?_
  cases given with
  | nil => exact Value.belongs_none
  | cons v _ => exact has v (.head _)

variable {r : Received} {parameter : String}

theorem slot_belongs (has : R.Has r) (parameter : String) :
    Slot.All (Value.Belongs R) (r.slot parameter) := by
  unfold Received.slot
  cases found : r.slots.lookup parameter with
  | none => exact Slot.all_none
  | some passed => exact has _ (Bindings.mem_of_lookup found)

theorem value_belongs (has : R.Has r) (parameter : String) : (r.value parameter).Belongs R :=
  (slot_belongs has parameter).getD Value.belongs_none

theorem items (has : R.Has r) : Keeps R (r.items parameter) sparing := by
  unfold Received.items
  split
  · exact pure (List.forall_mem_nil _)
  · exact pure (List.forall_mem_nil _)
  · rename_i v _ passed
    have belongs := slot_belongs has parameter v passed
    refine readingHeap fun h guards => ?_
    split
    · rename_i found
      exact pure (guards.spreads.sequence belongs found)
    · exact fail _

end Receiving

end Upholds

end Eval

end PixelApplet
