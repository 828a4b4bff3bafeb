import PixelApplet.Proofs.Applet.Requests
import PixelApplet.Proofs.Applet.Upholding
import PixelApplet.Proofs.Evaluation.Statements

/-!
# Loading watches over functions

While an applet is being loaded, the realm grows: with every file that is done, the functions of the
file belong to it, and until then the functions of the files that are still being executed belong to
it for the time being.  If loading succeeds, no other functions have come into the realm.
-/

namespace PixelApplet

namespace Realm

/-- A realm with the same cells and the functions of more modules. -/
def withHomes (R : Realm) (more : ModuleRef → Prop) : Realm :=
  { R with homes := fun ref => R.homes ref ∨ more ref }

/-- A realm to which the functions of the loaded files belong. -/
def including (R : Realm) (progress : LoadProgress) : Realm :=
  R.withHomes fun ref => ∃ path, (path, ref) ∈ progress.modules

/-- A realm is made of the same cells as another, and its functions belong to the other. -/
structure Within (R S : Realm) : Prop where
  lists : R.lists = S.lists
  dicts : R.dicts = S.dicts
  modules : R.modules = S.modules
  standing : R.standing = S.standing
  homes : ∀ ref, R.homes ref → S.homes ref

variable {R S : Realm}

theorem Within.refl (R : Realm) : R.Within R :=
  ⟨rfl, rfl, rfl, rfl, fun _ => id⟩

theorem within_including {before after : LoadProgress} (more : before.modules ⊆ after.modules) :
    (R.including before).Within (R.including after) :=
  ⟨rfl, rfl, rfl, rfl, fun _ home => home.imp_right fun ⟨path, member⟩ => ⟨path, more member⟩⟩

section Enlarging

variable (within : R.Within S)

include within

theorem belongs_within {v : Value} (belongs : v.Belongs R) : v.Belongs S := by
  refine Value.Throughout.mono (fun v admitted => ?_) belongs
  cases v with
  | list ref =>
    show S.lists ref
    rw [← within.lists]
    exact admitted
  | dict ref =>
    show S.dicts ref
    rw [← within.dicts]
    exact admitted
  | function identity f =>
    exact ⟨within.homes _ admitted.1, within.modules ▸ admitted.2.1, admitted.2.2⟩
  | struct fields => exact admitted
  | native identity n => exact admitted
  | _ => trivial

theorem belong_within {bindings : Bindings Value} (belong : bindings.Belong R) :
    bindings.Belong S :=
  fun binding member => belongs_within within (belong binding member)

theorem scope_within {scope : Scope} (inside : scope.Belongs R) : scope.Belongs S :=
  ⟨within.homes _ inside.home, within.modules ▸ inside.module,
    fun locals own => belong_within within (inside.locals locals own),
    fun captured outer => belong_within within (inside.captured captured outer)⟩

/-- A heap that guards a realm guards a larger one if the modules that come in are held. -/
theorem Guards.enlarge {h : Heap} (guards : R.Guards h)
    (held : S.standing → ∀ ref, S.homes ref → (h.module ref).held = true) : S.Guards h where
  newLists := within.lists ▸ guards.newLists
  newDicts := within.dicts ▸ guards.newDicts
  newModules := within.modules ▸ guards.newModules
  fonts := within.dicts ▸ guards.fonts
  lists ref inside v member :=
    belongs_within within (guards.lists ref (within.lists ▸ inside) v member)
  dicts ref inside :=
    have cell := guards.dicts ref (within.dicts ▸ inside)
    ⟨fun entry member => (cell.all entry member).imp (belongs_within within)
      (belongs_within within), cell.keyed⟩
  modules ref inside :=
    have cell := guards.modules ref (within.modules ▸ inside)
    ⟨belong_within within cell.vars, belong_within within cell.loaded,
      belong_within within cell.predeclared⟩
  held := held

end Enlarging

/-- A schema is what a value of the realm was decoded to, against what the file of the schema
exports; the module of the file is frozen. -/
def Decodes (R : Realm) (h : Heap) (modules : List (String × ModuleRef)) (loaded : LoadedSchema) :
    Prop :=
  ∃ ref value, (loaded.file, ref) ∈ modules ∧ (h.module ref).frozen = true ∧ value.Belongs R
    ∧ Schema.ofValue (h.module ref).vars value = .ok loaded.schema

theorem decodes_later {h h' : Heap} {modules modules' : List (String × ModuleRef)}
    {loaded : LoadedSchema} (within : R.Within S) (keeps : h.Keeps h') (more : modules ⊆ modules')
    (decodes : R.Decodes h modules loaded) : S.Decodes h' modules' loaded := by
  obtain ⟨ref, value, member, frozen, belongs, decoded⟩ := decodes
  obtain ⟨frozen', vars⟩ := keeps.modules ref frozen
  exact ⟨ref, value, more member, frozen', belongs_within within belongs, vars ▸ decoded⟩

/-- While an applet is being loaded, the heap guards the realm with the functions of the loaded
files, and what is recorded belongs to it. -/
structure Watches (R : Realm) (m : Machine) : Prop where
  guards : (R.including m.loading).Guards m.heap
  modules : ∀ entry ∈ m.loading.modules, R.modules entry.2
  entry : ∀ path main, m.loading.entry = some (path, main) →
    main.Belongs (R.including m.loading)
  schema : ∀ loaded, m.loading.schema = some loaded →
    (R.including m.loading).Decodes m.heap m.loading.modules loaded

/-- What is watched for a realm is watched for another one with the same cells, to which the same
functions belong with those of the loaded files, or more of modules that are held. -/
theorem Watches.rebase {m : Machine} (watches : R.Watches m)
    (within : (R.including m.loading).Within (S.including m.loading))
    (held : S.standing → ∀ ref, (S.including m.loading).homes ref →
      (m.heap.module ref).held = true) : S.Watches m where
  guards := watches.guards.enlarge within held
  modules entry member := within.modules ▸ watches.modules entry member
  entry path main found := belongs_within within (watches.entry path main found)
  schema loaded found := decodes_later within (.refl _) (fun _ => id) (watches.schema loaded found)

end Realm

namespace Eval

variable {α β : Type} {R : Realm} {m : Machine}

/-- From one machine to the next, no file is unloaded, and what is frozen is left alone. -/
structure Onward (m m' : Machine) : Prop where
  modules : m.loading.modules ⊆ m'.loading.modules
  keeps : m.heap.Keeps m'.heap

theorem Onward.refl (m : Machine) : Onward m m :=
  ⟨fun _ => id, .refl _⟩

theorem Onward.trans {a b c : Machine} (first : Onward a b) (second : Onward b c) : Onward a c :=
  ⟨fun _ member => second.modules (first.modules member), first.keeps.trans second.keeps⟩

/-- An action that succeeds, begun on a watched machine, ends on a watched machine on which no fewer
files are loaded; and something holds of its result in the realm with their functions. -/
def Follows (R : Realm) (m : Machine) (act : Eval α) (holds : Realm → α → Prop) : Prop :=
  ∀ value m', act m = .ok value m' → Onward m m' ∧ R.Watches m'
    ∧ holds (R.including m'.loading) value

namespace Follows

variable {act : Eval α} {holds : Realm → α → Prop}

theorem bind {next : α → Eval β} {later : Realm → β → Prop} (first : Follows R m act holds)
    (rest : ∀ value m', Onward m m' → R.Watches m' →
      holds (R.including m'.loading) value → Follows R m' (next value) later) :
    Follows R m (act >>= next) later := by
  intro value m'' ran
  obtain ⟨a, m', begun, ended⟩ := exists_of_bind_ok ran
  obtain ⟨more, watches, held⟩ := first a m' begun
  obtain ⟨more', watches', held'⟩ := rest a m' more watches held value m'' ended
  exact ⟨more.trans more', watches', held'⟩

theorem weaken {weaker : Realm → α → Prop} (follows : Follows R m act holds)
    (implies : ∀ (S : Realm) value, holds S value → weaker S value) :
    Follows R m act weaker := by
  intro value m' ran
  obtain ⟨more, watches, held⟩ := follows value m' ran
  exact ⟨more, watches, implies _ value held⟩

/-- An action that leaves alone what is being loaded. -/
theorem of_upholds {keeps : α → Prop} (watches : R.Watches m)
    (upholds : Upholds (R.including m.loading) act act keeps) :
    Follows R m act fun S value => S = R.including m.loading ∧ keeps value := by
  intro value m' ran
  have outcome := (upholds m watches.guards).2
  rw [ran] at outcome
  obtain ⟨aside, guards, held⟩ := outcome
  obtain ⟨same, kept⟩ := aside
  refine ⟨⟨fun entry member => same ▸ member, kept⟩, ?_, by rw [same], held⟩
  have watches' : R.Watches { m' with loading := m.loading } := by
    refine ⟨guards, watches.modules, watches.entry, fun loaded found => ?_⟩
    exact Realm.decodes_later (.refl _) kept (fun _ => id) (watches.schema loaded found)
  rw [← same] at watches'
  exact watches'

/-- An action whose result belongs to the realm. -/
theorem of_keeps [Carrier α] (watches : R.Watches m)
    (keeps : Keeps (R.including m.loading) act) : Follows R m act fun S value => S.Has value :=
  (of_upholds watches keeps).weaken fun _ _ ⟨same, has⟩ => same ▸ has

theorem pure {value : α} (watches : R.Watches m) (held : holds (R.including m.loading) value) :
    Follows R m (Pure.pure value) holds := by
  rintro _ _ ⟨⟩
  exact ⟨.refl m, watches, held⟩

theorem readingHeap {f : Heap → α} {next : α → Eval β} {later : Realm → β → Prop}
    (rest : Follows R m (next (f m.heap)) later) : Follows R m (Eval.readHeap f >>= next) later :=
  rest

theorem mapError {f : Machine → EvalError → EvalError} (follows : Follows R m act holds) :
    Follows R m (Eval.mapError act f) holds := by
  intro value m' ran
  refine follows value m' ?_
  unfold Eval.mapError at ran
  rcases ended : act m with ⟨_, _⟩ | ⟨_ | _, _⟩ <;> rw [ended] at ran <;> cases ran
  rfl

/-- An action after which the thread is changed. -/
theorem followedBy {finish : Machine → Machine}
    (same : ∀ m : Machine, (finish m).heap = m.heap ∧ (finish m).loading = m.loading)
    (follows : Follows R m act holds) : Follows R m (Eval.followedBy act finish) holds := by
  intro value m' ran
  unfold Eval.followedBy at ran
  rcases ended : act m with ⟨value', m''⟩ | ⟨_, _⟩ <;> rw [ended] at ran <;> cases ran
  obtain ⟨more, watches, held⟩ := follows value m'' ended
  obtain ⟨sameHeap, sameLoading⟩ := same m''
  rw [sameLoading]
  refine ⟨⟨sameLoading ▸ more.modules, sameHeap ▸ more.keeps⟩, ⟨?_, ?_, ?_, ?_⟩, held⟩
  · rw [sameHeap, sameLoading]
    exact watches.guards
  · rw [sameLoading]
    exact watches.modules
  · rw [sameLoading]
    exact watches.entry
  · rw [sameHeap, sameLoading]
    exact watches.schema

/-- A step before an action that neither changes what is being loaded nor gives anything. -/
theorem after {step : Eval Unit} {next : Unit → Eval β} {later : Realm → β → Prop}
    (watches : R.Watches m) (keeps : Keeps (R.including m.loading) step)
    (rest : ∀ m', Onward m m' → R.Watches m' →
      Follows R m' (next ()) later) : Follows R m (step >>= next) later :=
  (of_keeps watches keeps).bind fun _ m' more watches' _ => rest m' more watches'

theorem atPlace {act : Eval (Flow × Scope)} {holds : Realm → Flow × Scope → Prop} {pos : Position}
    {trace : Machine → EvalError → EvalError} (watches : R.Watches m)
    (rest : ∀ m', Onward m m' → R.Watches m' →
      Follows R m' act holds) :
    Follows R m
      (Eval.moveTo pos >>= fun _ => Eval.mapError (Eval.checkCancelled >>= fun _ => act) trace)
      holds :=
  after watches (Upholds.moveTo pos) fun _ more watches => mapError <|
    after watches Upholds.checkCancelled fun m' more' watches =>
      rest m' (more.trans more') watches

theorem inFrame {frame : Frame} (watches : R.Watches m)
    (rest : ∀ m', Onward m m' → R.Watches m' →
      Follows R m' act holds) : Follows R m (Eval.inFrame frame act) holds := by
  cases pushed : m.thread.stack.push? frame with
  | none =>
    intro value m' ran
    rw [inFrame_refused pushed] at ran
    cases ran
  | some stack =>
    intro value m' ran
    rw [inFrame_pushed pushed] at ran
    have entered : R.Watches (m.withStack stack) :=
      ⟨watches.guards, watches.modules, watches.entry, watches.schema⟩
    have same (m : Machine) : (m.withStack m.thread.stack.pop).heap = m.heap
        ∧ (m.withStack m.thread.stack.pop).loading = m.loading := ⟨rfl, rfl⟩
    have entering : Onward m (m.withStack stack) := ⟨fun _ => id, .refl _⟩
    obtain ⟨more, watches', held⟩ := followedBy same (rest _ entering entered) value m' ran
    exact ⟨entering.trans more, watches', held⟩

/-! ## Statements -/

/-- Where more files are loaded, a scope belongs to the realm still. -/
theorem stays {m' : Machine} {scope : Scope} (more : Onward m m')
    (inside : scope.Belongs (R.including m.loading)) : scope.Belongs (R.including m'.loading) :=
  Realm.scope_within (Realm.within_including more.modules) inside

/-- How a block goes on, in the realm. -/
abbrev Flows (R : Realm) (m : Machine) (act : Eval (Flow × Scope)) : Prop :=
  Follows R m act fun S outcome => S.Has outcome

theorem eachIteration {step : Scope → Value → Eval (Flow × Scope)}
    (flows : ∀ {m : Machine} {scope : Scope} {item : Value}, R.Watches m →
      scope.Belongs (R.including m.loading) → item.Belongs (R.including m.loading) →
        Flows R m (step scope item))
    {items : List Value} {scope : Scope} (watches : R.Watches m)
    (belong : ∀ v ∈ items, v.Belongs (R.including m.loading))
    (inside : scope.Belongs (R.including m.loading)) :
    Flows R m (PixelApplet.eachIteration step items scope) := by
  induction items generalizing m scope with
  | nil => exact pure watches ⟨trivial, inside⟩
  | cons item rest ih =>
    refine after watches Upholds.checkCancelled fun m₁ more watches => ?_
    have belong₁ : ∀ v ∈ item :: rest, v.Belongs (R.including m₁.loading) :=
      fun v member => Realm.belongs_within (Realm.within_including more.modules) (belong v member)
    obtain ⟨here, later⟩ := List.forall_mem_cons.mp belong₁
    refine (flows watches (stays more inside) here).bind fun outcome m₂ more watches has => ?_
    have belong₂ : ∀ v ∈ rest, v.Belongs (R.including m₂.loading) :=
      fun v member => Realm.belongs_within (Realm.within_including more.modules) (later v member)
    have again {scope : Scope} (inside : scope.Belongs (R.including m₂.loading)) :=
      ih watches belong₂ inside
    obtain ⟨flow, scope⟩ := outcome
    cases flow with
    | normal => exact again has.2
    | continue_ => exact again has.2
    | break_ => exact pure watches ⟨trivial, has.2⟩
    | return_ value => exact pure watches has

/-- Taking names from a module of the realm. -/
theorem bindLoaded {S : Realm} {home loaded : ModuleRef} {module : String}
    (inside : S.modules loaded) (bindings : List LoadBinding) :
    Keeps S (PixelApplet.bindLoaded home loaded module bindings) := by
  induction bindings with
  | nil => exact Upholds.pure trivial
  | cons binding rest ih =>
    refine Upholds.readingHeap fun h guards => ?_
    split
    · exact Upholds.fail _
    · rename_i value found
      have belongs := (guards.modules loaded inside).vars.lookup found
      have takes : Keeps S (Eval.changeHeap fun h => h.modifyModule home fun cell =>
          { cell with loaded := cell.loaded.insert binding.name value }) :=
        Upholds.of_ok fun m guards => ⟨_, _, rfl,
          ⟨rfl, Heap.keeps_modifyModule fun frozen => ⟨frozen, rfl⟩, nofun⟩,
          guards.modifyModule (fun here =>
            have cell := guards.modules home here
            ⟨cell.vars, cell.loaded.insert belongs, cell.predeclared⟩) fun _ => rfl, trivial⟩
      exact takes.bind fun _ _ => ih

/-- An action that, if it brings a module, ends on a watched machine, and the module is one of the
realm. -/
def Brings {ε : Type} (R : Realm) (m : Machine) (act : Eval (Except ε ModuleRef)) : Prop :=
  ∀ ref m', act m = .ok (.ok ref) m' → Onward m m' ∧ R.Watches m'
    ∧ R.modules ref

/-- Whatever is loaded is brought. -/
def Loads (load : Loader) : Prop :=
  ∀ find, load = some find → ∀ (R : Realm) (m : Machine) (module : String), R.Watches m →
    Brings R m (find module)

section Execution

variable {call : Caller} {load : Loader} (calls : ∀ S : Realm, Upholds.Calls S call call)
  (loads : Loads load)

include loads in
theorem loadModule {home : ModuleRef} {module : String} {bindings : List LoadBinding}
    (watches : R.Watches m) :
    Follows R m (PixelApplet.loadModule load home module bindings) fun _ _ => True := by
  intro _ m'' ran
  unfold PixelApplet.loadModule at ran
  cases given : load with
  | none =>
    rw [given] at ran
    cases ran
  | some find =>
    rw [given] at ran
    obtain ⟨outcome, m', found, ran⟩ := exists_of_bind_ok ran
    cases outcome with
    | error fault => cases ran
    | ok ref =>
      obtain ⟨more, watches', inside⟩ := loads find given R m module watches ref m' found
      obtain ⟨more', watched, _⟩ := of_keeps watches'
        (bindLoaded (S := R.including m'.loading) inside bindings) _ m'' ran
      exact ⟨more.trans more', watched, trivial⟩

include calls

/-- A statement without load statements in it. -/
theorem execWithoutLoads {s : Stmt} {scope : Scope} (placed : s.LoadsOutside false)
    (watches : R.Watches m) (inside : scope.Belongs (R.including m.loading)) :
    Flows R m (PixelApplet.execStmt call load scope s) :=
  of_keeps watches (Upholds.execStmt (calls _) s placed inside)

include loads

-- most of the statements use loading only through each other
set_option linter.unusedSectionVars false

mutual

theorem execStmt : (s : Stmt) → s.LoadsOutside true → ∀ {m : Machine} {scope : Scope},
    R.Watches m → scope.Belongs (R.including m.loading) →
      Flows R m (PixelApplet.execStmt call load scope s)
  | .expr .., placed, _, _, watches, inside | .assign .., placed, _, _, watches, inside
  | .augAssign .., placed, _, _, watches, inside | .define .., placed, _, _, watches, inside
  | .return_ .., placed, _, _, watches, inside =>
    execWithoutLoads calls (by simpa only [Stmt.LoadsOutside] using placed) watches inside
  | .break_ _, _, _, _, watches, inside | .continue_ _, _, _, _, watches, inside
  | .pass _, _, _, _, watches, inside =>
    execWithoutLoads calls (by simp only [Stmt.LoadsOutside]) watches inside
  | .if_ pos test thenBlock elseBlock, placed, _, scope, watches, inside => by
    rw [PixelApplet.execStmt]
    rw [Stmt.LoadsOutside] at placed
    refine atPlace watches fun m₁ more watches₁ => ?_
    have inside₁ := stays more inside
    have tests := Upholds.evalExpr (calls _) test placed.1 inside₁
    refine (of_keeps watches₁ tests).bind fun v m₂ more₂ watches₂ _ => readingHeap ?_
    split
    · exact execBlock thenBlock placed.2.1 watches₂ (stays more₂ inside₁)
    · exact execBlock elseBlock placed.2.2 watches₂ (stays more₂ inside₁)
  | .for_ pos target iterable body, placed, _, scope, watches, inside => by
    rw [PixelApplet.execStmt]
    rw [Stmt.LoadsOutside] at placed
    refine atPlace watches fun m₁ more watches₁ => ?_
    have inside₁ := stays more inside
    have evaluates := Upholds.evalExpr (calls _) iterable placed.2.1 inside₁
    refine (of_keeps watches₁ evaluates).bind fun v m₂ more₂ watches₂ has => ?_
    refine (of_keeps watches₂ (Upholds.iterate has)).bind fun items m₃ more₃ watches₃ belong => ?_
    refine eachIteration (fun {m scope item} watches within belongs => ?_) watches₃ belong
      (stays more₃ (stays more₂ inside₁))
    have binds := Upholds.assignTarget (calls _) target placed.1 within belongs
    exact (of_keeps watches binds).bind fun scope m' _ watches' bound =>
      execBlock body placed.2.2 watches' bound
  | .load pos module bindings, placed, _, scope, watches, inside => by
    rw [PixelApplet.execStmt]
    refine atPlace watches fun m₁ more watches₁ => ?_
    refine (loadModule loads watches₁).bind fun _ m₂ more₂ watches₂ _ => ?_
    exact pure watches₂ ⟨trivial, stays more₂ (stays more inside)⟩

theorem execBlock : (block : List Stmt) → Stmt.LoadsOutsideAll true block →
    ∀ {m : Machine} {scope : Scope}, R.Watches m → scope.Belongs (R.including m.loading) →
      Flows R m (PixelApplet.execBlock call load scope block)
  | [], _, _, _, watches, inside => by
    rw [PixelApplet.execBlock]
    exact pure watches ⟨trivial, inside⟩
  | s :: rest, placed, m, scope, watches, inside => by
    rw [PixelApplet.execBlock]
    rw [Stmt.LoadsOutsideAll] at placed
    refine (execStmt s placed.1 watches inside).bind fun outcome m' _ watches has => ?_
    obtain ⟨flow, scope⟩ := outcome
    cases flow with
    | normal => exact execBlock rest placed.2 watches has.2
    | break_ => exact pure watches has
    | continue_ => exact pure watches has
    | return_ value => exact pure watches has

end

end Execution

/-! ## Files -/

/-- A module that was just made: its functions belong to the realm as well. -/
theorem watches_newModule (cell : ModuleCell) (watches : R.Watches m)
    (belongs : cell.Belongs (R.including m.loading)) (held : cell.held = true) :
    (R.withHomes (· = m.heap.nextModule)).Watches { m with heap := m.heap.addModule cell } := by
  have added := watches.guards.addModule belongs held
  have opened : R.Watches { m with heap := m.heap.addModule cell } :=
    ⟨added, watches.modules, watches.entry, fun loaded found =>
      Realm.decodes_later (.refl _) (Heap.keeps_addModule _ _) (fun _ => id)
        (watches.schema loaded found)⟩
  refine opened.rebase ⟨rfl, rfl, rfl, rfl, fun ref home => home.imp_left .inl⟩ ?_
  rintro standing ref ((old | rfl) | loaded)
  · exact added.held standing ref (.inl old)
  · simp [Heap.module_addModule, held]
  · exact added.held standing ref (.inr loaded)

/-- Freezing a module. -/
theorem watches_freezeModule (watches : R.Watches m) (ref : ModuleRef) :
    R.Watches { m with heap := m.heap.freezeModule ref } :=
  ⟨watches.guards.freezeModule ref, watches.modules, watches.entry, fun loaded found =>
    Realm.decodes_later (.refl _) (Heap.keeps_freezeModule _ ref) (fun _ => id)
      (watches.schema loaded found)⟩

/-- Once a file is noted as loaded, its functions belong to the realm for good. -/
theorem watches_addModule (path : String) {ref : ModuleRef}
    (watches : (R.withHomes (· = ref)).Watches m) (inside : R.modules ref) :
    R.Watches { m with loading := m.loading.addModule path ref } := by
  have within : ((R.withHomes (· = ref)).including m.loading).Within
      (R.including (m.loading.addModule path ref)) := by
    refine ⟨rfl, rfl, rfl, rfl, ?_⟩
    rintro other ((old | rfl) | ⟨path', member⟩)
    · exact .inl old
    · exact .inr ⟨path, List.mem_append_right _ (.head _)⟩
    · exact .inr ⟨path', List.mem_append_left _ member⟩
  have held (standing : R.standing) (other : ModuleRef)
      (home : (R.including (m.loading.addModule path ref)).homes other) :
      (m.heap.module other).held = true := by
    refine watches.guards.held standing other ?_
    rcases home with old | ⟨path', member⟩
    · exact .inl (.inl old)
    · rcases List.mem_append.mp member with old | new
      · exact .inr ⟨path', old⟩
      · cases List.mem_singleton.mp new
        exact .inl (.inr rfl)
  refine ⟨watches.guards.enlarge within held, ?_, ?_, ?_⟩
  · rintro entry member
    rcases List.mem_append.mp member with old | new
    · exact watches.modules entry old
    · rw [List.mem_singleton.mp new]
      exact inside
  · exact fun path main found => Realm.belongs_within within (watches.entry path main found)
  · exact fun loaded found => Realm.decodes_later within (.refl _)
      (List.subset_append_left _ _) (watches.schema loaded found)

theorem executeFile {load : Loader} {name source : String} {ref : ModuleRef} {m' : Machine}
    (loads : Loads load) (watches : R.Watches m)
    (ran : PixelApplet.executeFile load name source [] m = .ok (.ok ref) m') :
    Onward m m' ∧ (R.withHomes (· = ref)).Watches m' ∧ R.modules ref
      ∧ (m'.heap.module ref).frozen = true := by
  obtain ⟨block, _, executed, parses, rfl, executes, rfl⟩ := executeFile_ok ran
  have new : R.modules m.heap.nextModule := watches.guards.newModules _ (Nat.le_refl _)
  have began := watches_newModule (ModuleCell.ofFile name []) watches
    ⟨nofun, nofun, nofun⟩ rfl
  have inside : (Scope.topLevel m.heap.nextModule name).Belongs
      ((R.withHomes (· = m.heap.nextModule)).including m.loading) :=
    ⟨.inl (.inr rfl), new, nofun, nofun⟩
  obtain ⟨more, ended, _⟩ := inFrame began (fun m' more watches =>
    execBlock (fun S => Upholds.callValue load) loads block (parseScript_loadsOutside parses)
      watches (stays more inside)) _ executed executes
  have opens : Onward m { m with heap := m.heap.addModule (ModuleCell.ofFile name []) } :=
    ⟨fun _ => id, Heap.keeps_addModule _ _⟩
  have closes : Onward executed
      { executed with heap := executed.heap.freezeModule m.heap.nextModule } :=
    ⟨fun _ => id, Heap.keeps_freezeModule _ _⟩
  have there : m.heap.nextModule.index < executed.heap.extent.modules := by
    have grown := more.keeps.extent.modules
    rw [Heap.extent_addModule] at grown
    exact Nat.lt_of_lt_of_le (Nat.lt_succ_self _) grown
  exact ⟨opens.trans (more.trans closes), watches_freezeModule ended _, new,
    Heap.frozen_freezeModule there⟩

/-- What happened is noted. -/
theorem watches_after (watches : R.Watches m) (step : LoadStep) :
    R.Watches { m with loading := m.loading.after step } :=
  ⟨watches.guards, watches.modules, watches.entry, watches.schema⟩

theorem started_of_onThread {name : String} {act : Eval α} {value : α} {m' : Machine}
    (ran : Eval.onThread name act m = .ok value m') :
    ∃ ended, act (m.started name) = .ok value ended ∧ m' = endThread m.thread ended := by
  rw [onThread_eq, Eval.followedBy] at ran
  rcases inner : act (m.started name) with ⟨value', ended⟩ | ⟨abort, ended⟩ <;>
    rw [inner] at ran <;> cases ran
  exact ⟨ended, rfl, rfl⟩

theorem ok_of_recover {act : Eval α} {value : α} {m' : Machine}
    (ran : Eval.recover act m = .ok (.ok value) m') : act m = .ok value m' := by
  unfold Eval.recover at ran
  rcases inner : act m with ⟨value', ended⟩ | ⟨abort, ended⟩ <;> rw [inner] at ran <;> cases ran
  rfl

variable {context : Context} {path : String}

/-- A script that is executed. -/
theorem execute {load : Loader} {contents : ByteArray} {ref : ModuleRef} {m' : Machine}
    (upstanding : context.Upstanding) (loads : Loads load) (watches : R.Watches m)
    (ran : context.execute load path contents m = .ok (.ok ref) m') :
    Onward m m' ∧ (R.withHomes (· = ref)).Watches m' ∧ R.modules ref
      ∧ (m'.heap.module ref).frozen = true := by
  unfold Context.execute at ran
  obtain ⟨outcome, m₁, threaded, ran⟩ := exists_of_bind_ok ran
  rcases outcome with abort | (e | ref')
  · rcases abort with e | message
    · obtain ⟨message, callee, backtrace, cause⟩ := e
      rcases cause with _ | (fault | refusal) <;> cases ran
    · cases ran
  · cases ran
  · obtain ⟨_, m₂, notes, ran⟩ := exists_of_bind_ok ran
    cases notes
    cases ran
    obtain ⟨ended, inner, rfl⟩ := started_of_onThread threaded
    obtain ⟨_, prepared, sets, inner⟩ := exists_of_bind_ok (ok_of_recover inner)
    obtain ⟨_, noted, notes, inner⟩ := exists_of_bind_ok inner
    cases notes
    have started : R.Watches (m.started context.id) :=
      ⟨watches.guards, watches.modules, watches.entry, watches.schema⟩
    obtain ⟨more, ready, _⟩ := of_keeps started (Upholds.setUp upstanding) _ prepared sets
    obtain ⟨more', executed, inside, frozen⟩ :=
      executeFile loads (watches_after ready (.began path)) inner
    refine ⟨⟨fun _ member => more'.modules (more.modules member), more.keeps.trans more'.keeps⟩,
      ?_, inside, frozen⟩
    exact ⟨executed.guards, executed.modules, executed.entry, executed.schema⟩

/-- The entry point that is recorded belongs to the realm. -/
theorem recordEntry {ref : ModuleRef} {m' : Machine} (watches : R.Watches m)
    (inside : R.modules ref) (ran : Context.recordEntry path ref m = .ok (.ok ()) m') :
    Onward m m' ∧ R.Watches m' := by
  unfold Context.recordEntry at ran
  obtain ⟨found, m₁, reads, ran⟩ := exists_of_bind_ok ran
  cases reads
  dsimp only at ran
  cases exports : m.heap.exportedFunction? ref entryPointName with
  | none =>
    rw [exports] at ran
    cases ran
    exact ⟨.refl m, watches⟩
  | some main =>
    rw [exports] at ran
    obtain ⟨progress, m₁, reads, ran⟩ := exists_of_bind_ok ran
    cases reads
    cases before : m.loading.entry with
    | some old =>
      rw [before] at ran
      cases ran
    | none =>
      rw [before] at ran
      cases ran
      refine ⟨⟨fun _ => id, .refl _⟩, watches.guards, watches.modules, ?_, watches.schema⟩
      rintro _ _ ⟨⟩
      exact (watches.guards.modules ref inside).vars.lookup (Option.filter_eq_some_iff.mp exports).1

/-- The schema that is recorded was decoded from a value of the realm. -/
theorem recordSchema {ref : ModuleRef} {m' : Machine} (upstanding : context.Upstanding)
    (watches : R.Watches m) (member : (path, ref) ∈ m.loading.modules)
    (frozen : (m.heap.module ref).frozen = true)
    (ran : context.recordSchema path ref m = .ok (.ok ()) m') :
    Onward m m' ∧ R.Watches m' := by
  have inside := watches.modules _ member
  unfold Context.recordSchema at ran
  obtain ⟨found, m₁, reads, ran⟩ := exists_of_bind_ok ran
  cases reads
  dsimp only at ran
  cases exports : m.heap.exportedFunction? ref schemaFunctionName with
  | none =>
    rw [exports] at ran
    cases ran
    exact ⟨.refl m, watches⟩
  | some function =>
    rw [exports] at ran
    obtain ⟨progress, m₁, reads, ran⟩ := exists_of_bind_ok ran
    cases reads
    cases before : m.loading.schema with
    | some old =>
      rw [before] at ran
      cases ran
    | none =>
      rw [before] at ran
      have belongs : function.Belongs (R.including m.loading) :=
        (watches.guards.modules ref inside).vars.lookup (Option.filter_eq_some_iff.mp exports).1
      obtain ⟨token, m₁, makes, ran⟩ := exists_of_bind_ok ran
      obtain ⟨outcome, m₂, invokes, ran⟩ := exists_of_bind_ok ran
      obtain ⟨more, watches₁, _⟩ := of_keeps watches Upholds.newToken _ m₁ makes
      have calls : Keeps (R.including m₁.loading) (context.invoke function .empty token) :=
        Upholds.invoke upstanding
          (Realm.belongs_within (Realm.within_including more.modules) belongs) Arguments.all_empty
      obtain ⟨more', watches₂, has⟩ := of_keeps watches₁ calls _ m₂ invokes
      cases outcome with
      | error fault => cases ran
      | ok value =>
        obtain ⟨exported, m₃, reads, ran⟩ := exists_of_bind_ok ran
        cases reads
        cases decoded : Schema.ofValue (m₂.heap.module ref).vars value with
        | error fault =>
          rw [decoded] at ran
          cases ran
        | ok schema =>
          rw [decoded] at ran
          cases ran
          have onward := more.trans more'
          refine ⟨⟨onward.modules, onward.keeps⟩, watches₂.guards, watches₂.modules,
            watches₂.entry, ?_⟩
          rintro _ ⟨⟩
          exact ⟨ref, value, onward.modules member, (onward.keeps.modules ref frozen).1,
            has value rfl, decoded⟩

/-- A script that is added. -/
theorem addScript {load : Loader} {contents : ByteArray} (upstanding : context.Upstanding)
    (loads : Loads load) (watches : R.Watches m) :
    Brings R m (context.addScript load path contents) := by
  intro ref m' ran
  unfold Context.addScript at ran
  obtain ⟨outcome, m₁, executes, ran⟩ := exists_of_bind_ok ran
  rcases outcome with fault | ref'
  · cases ran
  obtain ⟨more, executed, inside, frozen⟩ := execute upstanding loads watches executes
  obtain ⟨_, m₂, notes, ran⟩ := exists_of_bind_ok ran
  cases notes
  have added := watches_addModule path executed inside
  obtain ⟨outcome, m₃, records, ran⟩ := exists_of_bind_ok ran
  rcases outcome with fault | _
  · cases ran
  obtain ⟨more', entered⟩ := recordEntry added inside records
  obtain ⟨outcome, m₄, records, ran⟩ := exists_of_bind_ok ran
  rcases outcome with fault | _
  · cases ran
  have adds : Onward m₁ { m₁ with loading := m₁.loading.addModule path ref' } :=
    ⟨List.subset_append_left _ _, .refl _⟩
  have member :=
    more'.modules (List.mem_append_right m₁.loading.modules (List.mem_singleton_self _))
  obtain ⟨more'', ended⟩ := recordSchema upstanding entered member
    (more'.keeps.modules ref' frozen).1 records
  cases ran
  exact ⟨more.trans (adds.trans (more'.trans more'')), ended, inside⟩

/-- A file that is no script. -/
theorem addFile {source : FileSource} {ref : ModuleRef} {m' : Machine} (watches : R.Watches m)
    (ran : Context.addFile source path m = .ok ref m') :
    Onward m m' ∧ R.Watches m' ∧ R.modules ref := by
  unfold Context.addFile at ran
  obtain ⟨file, m₁, makes, ran⟩ := exists_of_bind_ok ran
  obtain ⟨added, m₂, adds, ran⟩ := exists_of_bind_ok ran
  obtain ⟨_, m₃, notes, ran⟩ := exists_of_bind_ok ran
  cases notes
  cases ran
  have wraps : Keeps (R.including m.loading) (Eval.newNative (.file path source)) :=
    Upholds.newNative trivial nofun
  obtain ⟨more, watches₁, has⟩ := of_keeps watches wraps _ m₁ makes
  have new : R.modules m₁.heap.nextModule := watches₁.guards.newModules _ (Nat.le_refl _)
  have began := watches_newModule { ModuleCell.ofFile path [] with vars := [("file", file)] } watches₁
    ⟨List.forall_mem_singleton.mpr has, nofun, nofun⟩ rfl
  cases adds
  refine ⟨⟨fun _ member => List.mem_append_left _ (more.modules member), ?_⟩,
    watches_addModule path (watches_freezeModule began _) new, new⟩
  exact (more.keeps.trans (Heap.keeps_addModule _ _)).trans (Heap.keeps_freezeModule _ _)

/-- A load statement of a script that is being executed. -/
theorem loadBy {source : FileSource} {ensure : String → Eval (Except AppletFault ModuleRef)}
    (upstanding : context.Upstanding)
    (ensures : ∀ (R : Realm) (m : Machine) (path : String), R.Watches m →
      Brings R m (ensure path)) :
    Loads (some (context.loadBy source path ensure)) := by
  rintro _ ⟨⟩ R m module watches ref m' ran
  unfold Context.loadBy at ran
  obtain ⟨_, m₁, notes, ran⟩ := exists_of_bind_ok ran
  cases notes
  have noted := watches_after watches (.loads path module)
  obtain ⟨inside, m₂, reads, ran⟩ := exists_of_bind_ok ran
  cases reads
  split at ran
  · obtain ⟨outcome, m₃, loads, ran⟩ := exists_of_bind_ok ran
    rcases outcome with fault | found
    · cases ran
    cases ran
    obtain ⟨more, ended⟩ := ensures R _ module noted ref m' loads
    exact ⟨⟨more.modules, more.keeps⟩, ended⟩
  · obtain ⟨more, watches', has⟩ :=
      of_keeps noted (Upholds.loadForeignModule upstanding module) _ m' ran
    exact ⟨⟨more.modules, more.keeps⟩, watches', has ref rfl⟩

theorem ensureLoaded {source : FileSource} (upstanding : context.Upstanding) (depth : Nat)
    (chain : List String) (watches : R.Watches m) :
    Brings R m (context.ensureLoaded source depth path chain) := by
  induction depth generalizing R m path chain with
  | zero => exact fun _ _ => nofun
  | succ depth ih =>
    intro ref m' ran
    unfold Context.ensureLoaded at ran
    obtain ⟨progress, m₁, reads, ran⟩ := exists_of_bind_ok ran
    cases reads
    cases known : m.loading.module? (Path.clean path) with
    | some found =>
      rw [known] at ran
      cases ran
      exact ⟨.refl m, watches, watches.modules _ (Bindings.mem_of_lookup known)⟩
    | none =>
      rw [known] at ran
      dsimp only at ran
      split at ran
      · cases ran
      · obtain ⟨_, m₁, notes, ran⟩ := exists_of_bind_ok ran
        cases notes
        have opened : R.Watches { m with loading := m.loading.open_ (Path.clean path) } :=
          ⟨watches.guards, watches.modules, watches.entry, watches.schema⟩
        obtain ⟨outcome, m₂, reads, ran⟩ := exists_of_bind_ok ran
        cases reads
        dsimp only at ran
        cases contents : source.read m.disk (Path.clean path) with
        | error fault =>
          rw [contents] at ran
          cases ran
        | ok bytes =>
          rw [contents] at ran
          dsimp only at ran
          split at ran
          · obtain ⟨more, ended⟩ := addScript upstanding
              (loadBy upstanding fun R m module watches => ih _ watches) opened ref m' ran
            exact ⟨⟨more.modules, more.keeps⟩, ended⟩
          · obtain ⟨added, m₂, adds, ran⟩ := exists_of_bind_ok ran
            cases ran
            obtain ⟨more, ended⟩ := addFile opened adds
            exact ⟨⟨more.modules, more.keeps⟩, ended⟩

theorem ensureAllLoaded {source : FileSource} {depth : Nat} {paths : List String} {m' : Machine}
    (upstanding : context.Upstanding) (watches : R.Watches m)
    (ran : context.ensureAllLoaded source depth paths m = .ok (.ok ()) m') : R.Watches m' := by
  induction paths generalizing m with
  | nil =>
    cases ran
    exact watches
  | cons path rest ih =>
    obtain ⟨outcome, m₁, loads, ran⟩ := exists_of_bind_ok ran
    rcases outcome with fault | ref
    · cases ran
    · exact ih (ensureLoaded upstanding depth [] watches ref m₁ loads).2.1 ran

/-- When all scripts of an applet were loaded, the functions of its files, and no others, have come
into the realm. -/
theorem loadAll {source : FileSource} {loaded : LoadProgress} {m' : Machine}
    (upstanding : context.Upstanding) (guards : R.Guards m.heap)
    (ran : context.loadAll source m = .ok (.ok loaded) m') :
    R.Watches { m' with loading := loaded } := by
  obtain ⟨entries, between, _, loads, rfl, rfl⟩ := Context.loadAll_ok_iff.mp ran
  have begun : R.Watches { m with loading := .empty } := by
    have within : R.Within (R.including .empty) := ⟨rfl, rfl, rfl, rfl, fun _ => Or.inl⟩
    refine ⟨guards.enlarge within ?_, nofun, nofun, nofun⟩
    rintro standing ref (home | ⟨_, none_⟩)
    · exact guards.held standing ref home
    · cases none_
  exact ensureAllLoaded upstanding begun loads

end Follows

end Eval

end PixelApplet
