import PixelApplet.Library.Received
import PixelApplet.Proofs.Value.Freezing

/-!
# Safe actions

An action is safe if, started on a sound heap, it ends on a sound heap, whether it succeeds or
stops, and does not more than an effect allows.  As an action may run in any larger heap than the
one that its values come from, what is known of its result is stated for the extent at its end.
-/

namespace PixelApplet

/-- Two machines that differ in what programs cannot reach through values: threads, tokens, events,
and what the cache and the registry hold. -/
structure Machine.Alike (m m' : Machine) : Prop where
  heap : m'.heap = m.heap
  loading : m'.loading = m.loading
  disk : m'.disk = m.disk
  clock : m'.clock = m.clock

/-- What a program does to a machine, binding variables of one module at most. -/
structure Machine.Becomes (home : Option ModuleRef) (m m' : Machine) : Prop where
  heap : m.heap.Evolves home m'.heap
  loading : m'.loading = m.loading
  disk : m'.disk = m.disk
  clock : m'.clock = m.clock

theorem Machine.Alike.becomes {home : Option ModuleRef} {m m' : Machine} (alike : m.Alike m') :
    m.Becomes home m' :=
  ⟨alike.heap ▸ .refl, alike.loading, alike.disk, alike.clock⟩

theorem Machine.Becomes.trans {home : Option ModuleRef} {a b c : Machine}
    (first : a.Becomes home b) (second : b.Becomes home c) : a.Becomes home c :=
  ⟨first.heap.trans second.heap, second.loading.trans first.loading,
    second.disk.trans first.disk, second.clock.trans first.clock⟩

theorem Machine.Becomes.extent {home : Option ModuleRef} {m m' : Machine}
    (becomes : m.Becomes home m') : m.heap.extent ≤ m'.heap.extent :=
  becomes.heap.keeps.extent

theorem Machine.Becomes.widen {home : Option ModuleRef} {m m' : Machine}
    (becomes : m.Becomes none m') : m.Becomes home m' :=
  ⟨becomes.heap.widen, becomes.loading, becomes.disk, becomes.clock⟩

/-- What an action may do to a machine, when it succeeds and when it stops. -/
structure Effect where
  done : Machine → Machine → Prop
  stopped : Machine → Machine → Prop
  alike : ∀ {a b}, a.Alike b → done a b
  trans : ∀ {a b c}, done a b → done b c → done a c
  stop : ∀ {a b c}, done a b → stopped b c → stopped a c
  stops : ∀ {a b}, done a b → stopped a b
  after : ∀ {a b c}, stopped a b → b.Alike c → stopped a c

namespace Effect

theorem refl (E : Effect) (m : Machine) : E.done m m :=
  E.alike ⟨rfl, rfl, rfl, rfl⟩

/-- The effect of a program that binds variables of one module at most. -/
def program (home : Option ModuleRef) : Effect where
  done := Machine.Becomes home
  stopped := Machine.Becomes home
  alike := Machine.Alike.becomes
  trans := Machine.Becomes.trans
  stop := Machine.Becomes.trans
  stops := id
  after becomes alike := becomes.trans alike.becomes

/-- The effect of expressions, calls and builtin functions, which bind no variable of a module. -/
abbrev data : Effect :=
  program none

/-- One effect allows all that another does. -/
structure Within (small large : Effect) : Prop where
  done : ∀ {a b}, small.done a b → large.done a b
  stopped : ∀ {a b}, small.stopped a b → large.stopped a b

theorem Within.refl (E : Effect) : E.Within E :=
  ⟨id, id⟩

theorem Within.trans {small middle large : Effect} (first : small.Within middle)
    (second : middle.Within large) : small.Within large :=
  ⟨fun done => second.done (first.done done), fun stopped => second.stopped (first.stopped stopped)⟩

theorem data_within_program (home : Option ModuleRef) : data.Within (program home) :=
  ⟨Machine.Becomes.widen, Machine.Becomes.widen⟩

end Effect

namespace Eval

variable {α β : Type} {E : Effect} {extent : Extent}

/-- An action that keeps a heap sound, does what an effect allows, and whose result has a property
with regard to the extent of the heap. -/
def Safe (E : Effect) (act : Eval α) (extent : Extent) (property : Extent → α → Prop) : Prop :=
  ∀ m, m.heap.Sound → extent ≤ m.heap.extent →
    match act m with
    | .ok value m' => E.done m m' ∧ m'.heap.Sound ∧ m.heap.extent ≤ m'.heap.extent
      ∧ property m'.heap.extent value
    | .error _ m' => E.stopped m m' ∧ m'.heap.Sound

/-- A safe action whose result does not matter. -/
abbrev Runs (E : Effect) (act : Eval α) (extent : Extent) : Prop :=
  Safe E act extent fun _ _ => True

/-- A safe action with a live value. -/
abbrev Yields (E : Effect) (act : Eval Value) (extent : Extent) : Prop :=
  Safe E act extent fun extent value => value.Live extent

/-- A safe action with live values. -/
abbrev YieldsAll (E : Effect) (act : Eval (List Value)) (extent : Extent) : Prop :=
  Safe E act extent fun extent values => ∀ v ∈ values, v.Live extent

namespace Safe

variable {property : Extent → α → Prop}

theorem bind {act : Eval α} {next : α → Eval β} {later : Extent → β → Prop}
    (safe : Safe E act extent property)
    (safeNext : ∀ value larger, extent ≤ larger → property larger value →
      Safe E (next value) larger later) :
    Safe E (act >>= next) extent later := by
  intro m sound inside
  have first := safe m sound inside
  show match EStateM.bind act next m with
    | .ok value m' => E.done m m' ∧ m'.heap.Sound ∧ m.heap.extent ≤ m'.heap.extent
      ∧ later m'.heap.extent value
    | .error _ m' => E.stopped m m' ∧ m'.heap.Sound
  unfold EStateM.bind
  cases ran : act m with
  | error abort m' =>
    rw [ran] at first
    exact first
  | ok value m' =>
    rw [ran] at first
    obtain ⟨done, sound', grown, holds⟩ := first
    have second := safeNext value m'.heap.extent (Extent.le_trans inside grown) holds m' sound'
      (Extent.le_refl _)
    simp only
    cases ran' : next value m' with
    | error abort m'' =>
      rw [ran'] at second
      exact ⟨E.stop done second.1, second.2⟩
    | ok value' m'' =>
      rw [ran'] at second
      exact ⟨E.trans done second.1, second.2.1, Extent.le_trans grown second.2.2.1,
        second.2.2.2⟩

theorem pure {value : α} (holds : ∀ larger, extent ≤ larger → property larger value) :
    Safe E (Pure.pure value) extent property :=
  fun m sound inside => ⟨E.refl m, sound, Extent.le_refl _, holds _ inside⟩

theorem weaken {act : Eval α} {weaker : Extent → α → Prop} (safe : Safe E act extent property)
    (implies : ∀ larger value, extent ≤ larger → property larger value → weaker larger value) :
    Safe E act extent weaker := by
  intro m sound inside
  have first := safe m sound inside
  cases ran : act m with
  | error abort m' =>
    rw [ran] at first
    exact first
  | ok value m' =>
    rw [ran] at first
    exact ⟨first.1, first.2.1, first.2.2.1,
      implies _ value (Extent.le_trans inside first.2.2.1) first.2.2.2⟩

theorem runs {act : Eval α} (safe : Safe E act extent property) : Runs E act extent :=
  safe.weaken fun _ _ _ _ => trivial

/-- A step whose result does not matter. -/
theorem andThen {act : Eval α} {next : α → Eval β} {later : Extent → β → Prop}
    (runs : Runs E act extent) (safeNext : ∀ value, Safe E (next value) extent later) :
    Safe E (act >>= next) extent later :=
  runs.bind fun value _ grown _ m sound inside =>
    safeNext value m sound (Extent.le_trans grown inside)

theorem returns {value : α} : Runs E (Pure.pure value) extent :=
  pure fun _ _ => trivial

theorem larger {act : Eval α} {more : Extent} (safe : Safe E act extent property)
    (grown : extent ≤ more) : Safe E act more property :=
  fun m sound inside => safe m sound (Extent.le_trans grown inside)

/-- A larger effect allows what a smaller one does. -/
theorem lift {small : Effect} {act : Eval α} (within : small.Within E)
    (safe : Safe small act extent property) : Safe E act extent property := by
  intro m sound inside
  have first := safe m sound inside
  cases ran : act m with
  | error abort m' =>
    rw [ran] at first
    exact ⟨within.stopped first.1, first.2⟩
  | ok value m' =>
    rw [ran] at first
    exact ⟨within.done first.1, first.2⟩

theorem throw (abort : Abort) : Safe E (MonadExcept.throw abort : Eval α) extent property :=
  fun m sound _ => ⟨E.stops (E.refl m), sound⟩

theorem fail (message : String) : Safe E (Eval.fail message : Eval α) extent property :=
  throw _

/-- A step that is refused under some condition. -/
theorem guarded {c : Prop} [Decidable c] {message : String} {next : PUnit → Eval β}
    {later : Extent → β → Prop} (safeNext : Safe E (next ⟨⟩) extent later) :
    Safe E (if c then Eval.fail message >>= next else next ⟨⟩) extent later := by
  split
  · exact andThen (fail _) fun _ => safeNext
  · exact safeNext

theorem require {message : String} {result : Option α}
    (holds : ∀ value, result = some value → ∀ larger, extent ≤ larger → property larger value) :
    Safe E (Eval.require message result) extent property := by
  cases result with
  | none => exact fail message
  | some value => exact pure (holds value rfl)

theorem accept {ε : Type} {wording : ε → String} {result : Except ε α}
    (holds : ∀ value, result = .ok value → ∀ larger, extent ≤ larger → property larger value) :
    Safe E (Eval.accept wording result) extent property := by
  cases result with
  | error e => exact fail _
  | ok value => exact pure (holds value rfl)

theorem read {f : Machine → α} (holds : ∀ m, m.heap.Sound → extent ≤ m.heap.extent →
    property m.heap.extent (f m)) : Safe E (Eval.read f) extent property :=
  fun m sound inside => ⟨E.refl m, sound, Extent.le_refl _, holds m sound inside⟩

theorem readHeap {f : Heap → α} (holds : ∀ h : Heap, h.Sound → extent ≤ h.extent →
    property h.extent (f h)) : Safe E (Eval.readHeap f) extent property :=
  read fun m => holds m.heap

theorem requires {message : String} {result : Option α} :
    Runs E (Eval.require message result) extent :=
  require fun _ _ _ _ => trivial

theorem accepts {ε : Type} {wording : ε → String} {result : Except ε α} :
    Runs E (Eval.accept wording result) extent :=
  accept fun _ _ _ _ => trivial

theorem reads {f : Machine → α} : Runs E (Eval.read f) extent :=
  read fun _ _ _ => trivial

theorem readsHeap {f : Heap → α} : Runs E (Eval.readHeap f) extent :=
  reads

/-- What follows reading is safe if it is safe with what was there to read. -/
theorem reading {f : Machine → α} {next : α → Eval β} {later : Extent → β → Prop}
    (safeNext : ∀ m : Machine, m.heap.Sound → extent ≤ m.heap.extent →
      Safe E (next (f m)) m.heap.extent later) :
    Safe E (Eval.read f >>= next) extent later :=
  fun m sound inside => safeNext m sound inside m sound (Extent.le_refl _)

theorem readingHeap {f : Heap → α} {next : α → Eval β} {later : Extent → β → Prop}
    (safeNext : ∀ h : Heap, h.Sound → extent ≤ h.extent → Safe E (next (f h)) h.extent later) :
    Safe E (Eval.readHeap f >>= next) extent later :=
  reading fun m => safeNext m.heap

/-- A step that changes nothing that values reach. -/
theorem modify {f : Machine → Machine} (alike : ∀ m : Machine, m.Alike (f m)) :
    Runs E (MonadState.modifyGet fun m => ((), f m) : Eval Unit) extent := by
  intro m sound _
  have same := (alike m).heap
  refine ⟨E.alike (alike m), ?_, ?_, trivial⟩
  · show (f m).heap.Sound
    rw [same]
    exact sound
  · show m.heap.extent ≤ (f m).heap.extent
    rw [same]
    exact Extent.le_refl _

theorem changeThread (f : Thread → Thread) : Runs E (Eval.changeThread f) extent :=
  modify fun _ => ⟨rfl, rfl, rfl, rfl⟩

theorem record (event : Event) : Runs E (Eval.record event) extent :=
  modify fun _ => ⟨rfl, rfl, rfl, rfl⟩

theorem moveTo (pos : Position) : Runs E (Eval.moveTo pos) extent :=
  changeThread _

theorem followedBy {act : Eval α} {finish : Machine → Machine}
    (safe : Safe E act extent property) (alike : ∀ m : Machine, m.Alike (finish m)) :
    Safe E (Eval.followedBy act finish) extent property := by
  intro m sound inside
  have first := safe m sound inside
  unfold Eval.followedBy
  cases ran : act m with
  | error abort m' =>
    rw [ran] at first
    simp only
    exact ⟨E.after first.1 (alike m'), (alike m').heap ▸ first.2⟩
  | ok value m' =>
    rw [ran] at first
    simp only
    refine ⟨E.trans first.1 (E.alike (alike m')), ?_⟩
    rw [(alike m').heap]
    exact first.2

theorem mapError {act : Eval α} {f : Machine → EvalError → EvalError}
    (safe : Safe E act extent property) : Safe E (Eval.mapError act f) extent property := by
  intro m sound inside
  have first := safe m sound inside
  unfold Eval.mapError
  cases ran : act m with
  | ok value m' =>
    rw [ran] at first
    exact first
  | error abort m' =>
    rw [ran] at first
    cases abort with
    | error e => exact first
    | panic message => exact first

/-- An action whose error becomes a result. -/
theorem attempt {act : Eval α} (calm : ∀ {a b}, E.stopped a b → E.done a b)
    (grows : ∀ {a b}, E.stopped a b → a.heap.extent ≤ b.heap.extent)
    (safe : Safe E act extent property) :
    Safe E (Eval.attempt act) extent fun extent outcome =>
      ∀ value, outcome = .ok value → property extent value := by
  intro m sound inside
  have first := safe m sound inside
  unfold Eval.attempt
  cases ran : act m with
  | ok value m' =>
    rw [ran] at first
    refine ⟨first.1, first.2.1, first.2.2.1, ?_⟩
    rintro _ ⟨⟩
    exact first.2.2.2
  | error abort m' =>
    rw [ran] at first
    cases abort with
    | error e => exact ⟨calm first.1, first.2, grows first.1, nofun⟩
    | panic message => exact first

/-- An action whose stopping becomes a result. -/
theorem recover {act : Eval α} (calm : ∀ {a b}, E.stopped a b → E.done a b)
    (grows : ∀ {a b}, a.heap.Sound → E.stopped a b → a.heap.extent ≤ b.heap.extent)
    (safe : Safe E act extent property) :
    Safe E (Eval.recover act) extent fun extent outcome =>
      ∀ value, outcome = .ok value → property extent value := by
  intro m sound inside
  have first := safe m sound inside
  unfold Eval.recover
  cases ran : act m with
  | ok value m' =>
    rw [ran] at first
    refine ⟨first.1, first.2.1, first.2.2.1, ?_⟩
    rintro _ ⟨⟩
    exact first.2.2.2
  | error abort m' =>
    rw [ran] at first
    exact ⟨calm first.1, first.2, grows sound first.1, nofun⟩

/-- The same step for each item of a list. -/
theorem mapM {item : Type} {step : item → Eval α} {items : List item}
    (mono : ∀ {smaller larger value}, smaller ≤ larger → property smaller value →
      property larger value)
    (safe : ∀ i ∈ items, Safe E (step i) extent property) :
    Safe E (items.mapM step) extent fun extent values => ∀ v ∈ values, property extent v := by
  induction items generalizing extent with
  | nil =>
    rw [List.mapM_nil]
    exact pure fun _ _ => nofun
  | cons i items ih =>
    rw [List.mapM_cons]
    refine bind (safe i (.head _)) fun value larger grown holds => ?_
    refine bind (ih fun j member => (safe j (.tail _ member)).larger grown)
      fun values largest grown' allHold => ?_
    refine pure fun last grown'' v member => ?_
    rcases List.mem_cons.mp member with rfl | later
    · exact mono (Extent.le_trans grown' grown'') holds
    · exact mono grown'' (allHold v later)

theorem nested {act : Eval α} (safe : Safe E act extent property) :
    Safe E (Eval.nested act) extent property := by
  refine reading fun m _ grown => ?_
  split
  · exact fail _
  · refine bind (changeThread _) fun _ _ grown' _ => ?_
    refine (followedBy safe ?_).larger (Extent.le_trans grown grown')
    exact fun _ => ⟨rfl, rfl, rfl, rfl⟩

theorem inFrame {frame : Frame} {act : Eval α} (safe : Safe E act extent property) :
    Safe E (Eval.inFrame frame act) extent property := by
  refine reading fun m _ grown => ?_
  split
  · exact fail _
  · refine bind (changeThread _) fun _ _ grown' _ => ?_
    refine (followedBy safe ?_).larger (Extent.le_trans grown grown')
    exact fun _ => ⟨rfl, rfl, rfl, rfl⟩

theorem checkCancelled : Runs E Eval.checkCancelled extent := by
  refine reading fun m _ _ => ?_
  split
  · exact fail _
  · exact pure fun _ _ => trivial

theorem print (message : String) : Runs E (Eval.print message) extent := by
  refine reading fun m _ _ => ?_
  split
  · exact record _
  · exact record _
  · exact record _
  · exact pure fun _ _ => trivial

theorem alike {act : Eval α}
    (steps : ∀ m : Machine, ∃ value m', act m = .ok value m' ∧ m.Alike m') : Runs E act extent := by
  intro m sound _
  obtain ⟨value, m', ran, alike⟩ := steps m
  rw [ran]
  simp only [alike.heap]
  exact ⟨E.alike alike, sound, Extent.le_refl _, trivial⟩

theorem newToken : Runs E Eval.newToken extent :=
  alike fun _ => ⟨_, _, rfl, rfl, rfl, rfl, rfl⟩

theorem onThread {name : String} {act : Eval α} (safe : Safe E act extent property) :
    Safe E (Eval.onThread name act) extent property := by
  unfold Eval.onThread
  apply andThen reads
  intro waiting
  have opened : Runs E Eval.newCell extent := alike fun _ => ⟨_, _, rfl, rfl, rfl, rfl, rfl⟩
  apply andThen opened
  intro cell
  have started : Runs E (modifyThe Machine fun m => { m with thread := .named name cell })
      extent := modify fun _ => ⟨rfl, rfl, rfl, rfl⟩
  apply andThen started
  intro _
  exact followedBy safe fun _ => ⟨rfl, rfl, rfl, rfl⟩

end Safe

/-- An action whose result can be a failure, where failing counts as stopping. -/
@[irreducible] def Delivers {ε : Type} (E : Effect) (act : Eval (Except ε α)) (extent : Extent)
    (property : Extent → α → Prop) : Prop :=
  ∀ m, m.heap.Sound → extent ≤ m.heap.extent →
    match act m with
    | .ok (.ok value) m' => E.done m m' ∧ m'.heap.Sound ∧ m.heap.extent ≤ m'.heap.extent
      ∧ property m'.heap.extent value
    | .ok (.error _) m' => E.stopped m m' ∧ m'.heap.Sound
    | .error _ m' => E.stopped m m' ∧ m'.heap.Sound

namespace Delivers

variable {ε : Type} {property : Extent → α → Prop} {act : Eval (Except ε α)}

/-- A step whose failure stops what follows. -/
theorem orStop {next : Except ε α → Eval β} {later : Extent → β → Prop}
    (delivers : Delivers E act extent property)
    (stops : ∀ fault m, ∃ abort, next (.error fault) m = .error abort m)
    (safeNext : ∀ value larger, extent ≤ larger → property larger value →
      Safe E (next (.ok value)) larger later) :
    Safe E (act >>= next) extent later := by
  intro m sound inside
  unfold Delivers at delivers
  have first := delivers m sound inside
  change match EStateM.bind act next m with
    | .ok value m' => E.done m m' ∧ m'.heap.Sound ∧ m.heap.extent ≤ m'.heap.extent
      ∧ later m'.heap.extent value
    | .error _ m' => E.stopped m m' ∧ m'.heap.Sound
  unfold EStateM.bind
  cases ran : act m with
  | error abort m' =>
    rw [ran] at first
    exact first
  | ok result m' =>
    rw [ran] at first
    cases result with
    | error fault =>
      obtain ⟨abort, stopped⟩ := stops fault m'
      simp only [stopped]
      exact first
    | ok value =>
      obtain ⟨done, sound', grown, holds⟩ := first
      have second := safeNext value _ (Extent.le_trans inside grown) holds m' sound'
        (Extent.le_refl _)
      simp only
      cases ran' : next (.ok value) m' with
      | error abort m'' =>
        rw [ran'] at second
        exact ⟨E.stop done second.1, second.2⟩
      | ok value' m'' =>
        rw [ran'] at second
        obtain ⟨done', sound'', grown', holds'⟩ := second
        exact ⟨E.trans done done', sound'', Extent.le_trans grown grown', holds'⟩

end Delivers

end Eval

end PixelApplet
