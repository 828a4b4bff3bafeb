import PixelApplet.Proofs.Evaluation.UpholdingCalls
import PixelApplet.Proofs.Library.Mappings

/-!
# Expressions that make dicts

A dict expression and a dict comprehension store one key and value after the other.  To say which,
they are evaluated with a record of what is stored; without the record this is the evaluation of the
expression.  The new dict shows the map that has stored what was recorded.

While a comprehension is evaluated, any code may run between two of its entries.  Nothing that this
code can reach refers to the new dict, though: it stays in the realm of all that was there before
and all that is still to come, and the new dict is the one cell outside.
-/

namespace PixelApplet

/-! ## Evaluation with a record -/

/-- The entries of a dict, with a record of what is stored. -/
def recordEntries (call : Caller) (scope : Scope) :
    List (Expr × Expr) → DictCell × List (Value × Value) → Eval (DictCell × List (Value × Value))
  | [], state => pure state
  | (key, value) :: rest, (cell, stored) => do
    let key ← evalExpr call scope key
    let value ← evalExpr call scope value
    recordEntries call scope rest
      (cell.insert (← Eval.keyFor key) key value, stored ++ [(key, value)])

/-- Runs an action for every way through the clauses of a comprehension, with a record of what it
answers. -/
def recordComprehension {τ : Type} (call : Caller) (body : Scope → Eval τ) :
    List Clause → Scope × List τ → Eval (Scope × List τ)
  | [], (scope, answers) => do
    let answer ← body scope
    return (scope, answers ++ [answer])
  | .for_ target iterable :: rest, (scope, answers) => do
    let items ← Eval.iterate (← evalExpr call scope iterable)
    eachItem
      (fun (scope, answers) item => do
        let scope ← assignTarget call scope target item
        recordComprehension call body rest (scope, answers))
      items (scope, answers)
  | .if_ test :: rest, (scope, answers) => do
    let test ← evalExpr call scope test
    if ← Eval.readHeap test.truth then recordComprehension call body rest (scope, answers)
    else return (scope, answers)

/-- The value of a dict expression, with a record of what is stored. -/
def recordDict (call : Caller) (scope : Scope) (entries : List (Expr × Expr)) :
    Eval (Value × List (Value × Value)) :=
  Eval.nested do
    let (cell, stored) ← recordEntries call scope entries (.empty, [])
    let dict ← Eval.newDict cell
    return (dict, stored)

/-- Stores an entry of a comprehension, and says what it is. -/
def storeEntry (call : Caller) (ref : DictRef) (key value : Expr) (scope : Scope) :
    Eval (Value × Value) := do
  let key ← evalExpr call scope key
  let value ← evalExpr call scope value
  Eval.storeInDict ref key value
  return (key, value)

/-- The value of a dict comprehension, with a record of what is stored. -/
def recordDictComp (call : Caller) (scope : Scope) (key value : Expr) (clauses : List Clause) :
    Eval (Value × List (Value × Value)) :=
  Eval.nested do
    let ref ← Eval.readHeap Heap.nextDict
    let dict ← Eval.newDict .empty
    let (_, stored) ← recordComprehension call (storeEntry call ref key value) clauses
      (scope.comprehension, [])
    return (dict, stored)

section Forgetting

variable {call : Caller} {scope : Scope}

theorem Eval.map_run {α β : Type} (f : α → β) (act : Eval α) (m : Machine) :
    (f <$> act) m = match act m with
      | .ok value m' => .ok (f value) m'
      | .error abort m' => .error abort m' := by
  rw [← bind_pure_comp, bind_run]
  rfl

theorem Eval.map_nested {α β : Type} (f : α → β) (act : Eval α) :
    f <$> Eval.nested act = Eval.nested (f <$> act) := by
  funext m
  rw [map_run]
  cases entered : m.thread.depth.enter? with
  | none =>
    rw [nested_refused entered, nested_refused entered]
    rfl
  | some deeper =>
    rw [nested_entered entered, nested_entered entered]
    unfold followedBy
    rw [map_run]
    cases act (m.atDepth deeper) <;> rfl

theorem forget_entries (entries : List (Expr × Expr))
    (state : DictCell × List (Value × Value)) :
    Prod.fst <$> recordEntries call scope entries state
      = evalEntries call scope entries state.1 := by
  induction entries generalizing state with
  | nil => rw [recordEntries, evalEntries, map_pure]
  | cons entry rest ih =>
    obtain ⟨cell, stored⟩ := state
    rw [recordEntries, evalEntries]
    simp only [map_bind, ih]

theorem map_eachItem {σ τ : Type} {f : σ → τ} {step : σ → Value → Eval σ}
    {step' : τ → Value → Eval τ} (same : ∀ state item, f <$> step state item = step' (f state) item)
    (items : List Value) (state : σ) :
    f <$> eachItem step items state = eachItem step' items (f state) := by
  induction items generalizing state with
  | nil => rw [eachItem, eachItem, map_pure]
  | cons item rest ih =>
    rw [eachItem, eachItem]
    simp only [map_bind, ih, ← same, bind_map_left]

theorem forget_comprehension {τ : Type} (body : Scope → Eval τ) (clauses : List Clause)
    (state : Scope × List τ) :
    Prod.fst <$> recordComprehension call body clauses state
      = comprehend call (fun scope => body scope >>= fun _ => pure ()) clauses state.1 := by
  induction clauses generalizing state with
  | nil =>
    rw [recordComprehension, comprehend]
    simp only [map_bind, map_pure, bind_assoc, pure_bind]
  | cons clause rest ih =>
    obtain ⟨scope, answers⟩ := state
    cases clause with
    | for_ target iterable =>
      rw [recordComprehension, comprehend]
      simp only [map_bind]
      refine bind_congr fun value => bind_congr fun items => ?_
      refine map_eachItem (fun state item => ?_) items (scope, answers)
      simp only [map_bind, ih]
    | if_ test =>
      rw [recordComprehension, comprehend]
      simp only [map_bind]
      refine bind_congr fun value => bind_congr fun holds => ?_
      split
      · exact ih (scope, answers)
      · rw [map_pure]

/-- The record forgotten, a dict expression is evaluated. -/
theorem forget_dict (pos : Position) (entries : List (Expr × Expr)) :
    Prod.fst <$> recordDict call scope entries = evalExpr call scope (.dict pos entries) := by
  rw [recordDict, evalExpr, Eval.map_nested]
  have forgotten := @forget_entries call scope entries (.empty, [])
  simp only [map_bind, map_pure, bind_pure]
  rw [← forgotten, bind_map_left]

/-- The record forgotten, a dict comprehension is evaluated. -/
theorem forget_dictComp (pos : Position) (key value : Expr) (clauses : List Clause) :
    Prod.fst <$> recordDictComp call scope key value clauses
      = evalExpr call scope (.dictComp pos key value clauses) := by
  rw [recordDictComp, evalExpr, Eval.map_nested]
  congr 1
  simp only [map_bind, map_pure]
  refine bind_congr fun ref => bind_congr fun dict => ?_
  have forgotten := @forget_comprehension call _ (storeEntry call ref key value) clauses
    (scope.comprehension, [])
  simp only [storeEntry, bind_assoc, pure_bind, bind_pure_unit] at forgotten
  rw [← forgotten, bind_map_left]

end Forgetting

/-! ## The realm without the new dict -/

/-- A realm without one dict. -/
def Realm.without (R : Realm) (ref : DictRef) : Realm :=
  { R with dicts := fun other => R.dicts other ∧ other ≠ ref }

section Without

variable {R : Realm} {extent : Extent} {ref : DictRef}

/-- What is live does not refer to a dict that is still to come. -/
theorem Value.Belongs.without {v : Value} (belongs : v.Belongs R) (live : v.Live extent)
    (new : extent.dicts ≤ ref.index) : v.Belongs (R.without ref) := by
  induction belongs with
  | @intro v here _ ih =>
    refine .intro ?_ fun part member => ih part member (live.inside part member)
    cases v with
    | dict other =>
      refine ⟨here, ?_⟩
      rintro rfl
      exact Nat.not_lt.mpr new live.here
    | _ => exact here

theorem Bindings.Belong.without {bindings : Bindings Value} (belong : bindings.Belong R)
    (live : Bindings.Live extent bindings) (new : extent.dicts ≤ ref.index) :
    bindings.Belong (R.without ref) :=
  fun binding member => (belong binding member).without (live binding member) new

theorem Scope.Belongs.without {scope : Scope} (belongs : scope.Belongs R)
    (live : scope.Live extent) (new : extent.dicts ≤ ref.index) :
    scope.Belongs (R.without ref) where
  home := belongs.home
  module := belongs.module
  locals bindings own := (belongs.locals bindings own).without (live.locals bindings own) new
  captured bindings outer :=
    (belongs.captured bindings outer).without (live.captured bindings outer) new

/-- A sound heap with one more dict guards the realm without this dict. -/
theorem Realm.Guards.withoutNew {h : Heap} (guards : R.Guards h) (sound : h.Sound) :
    (R.without h.nextDict).Guards (h.addDict .empty) where
  newLists := guards.newLists
  newDicts other new := by
    rw [Heap.extent_addDict] at new
    refine ⟨guards.newDicts other (Nat.le_of_succ_le new), ?_⟩
    rintro rfl
    exact Nat.not_succ_le_self _ new
  newModules := guards.newModules
  fonts := ⟨guards.fonts, fun same => by
    have there := sound.fonts
    rw [same] at there
    exact Nat.lt_irrefl _ there⟩
  lists other inside v member :=
    (guards.lists other inside v member).without (sound.lists other v member) (Nat.le_refl _)
  dicts other inside := by
    rw [Heap.dict_addDict_empty]
    have belongs := guards.dicts other inside.1
    have live := sound.dicts other
    exact ⟨fun entry member =>
      ⟨(belongs.all entry member).1.without (live entry member).1 (Nat.le_refl _),
        (belongs.all entry member).2.without (live entry member).2 (Nat.le_refl _)⟩, belongs.keyed⟩
  modules other inside :=
    have belongs := guards.modules other inside
    have live := sound.modules other
    ⟨belongs.vars.without live.vars (Nat.le_refl _),
      belongs.loaded.without live.loaded (Nat.le_refl _),
      belongs.predeclared.without live.predeclared (Nat.le_refl _)⟩
  held := guards.held

end Without

/-! ## Building a dict -/

/-- A dict outside of a guarded realm has stored what was recorded, and nothing else. -/
structure Building (R : Realm) (ref : DictRef) (stored : List (Value × Value)) (m : Machine) :
    Prop where
  guards : R.Guards m.heap
  shows_ : ∃ map, OrderedMap.empty.storeAll (stored.map .ok) = (.ok (), map) ∧ m.HasMap ref map

/-- An action goes on building a dict, up to what it has recorded in the end, and something holds of
its result. -/
def Eval.Builds {α : Type} (R : Realm) (ref : DictRef) (stored : List (Value × Value))
    (act : Eval α) (record : α → List (Value × Value)) (holds : α → Prop) : Prop :=
  ∀ m, Building R ref stored m → ∀ value m', act m = .ok value m' →
    Building R ref (record value) m' ∧ holds value

namespace Eval.Builds

variable {α β : Type} {R : Realm} {ref : DictRef} {stored : List (Value × Value)} {act : Eval α}
  {record : α → List (Value × Value)} {holds : α → Prop}

theorem pure (record : α → List (Value × Value)) (value : α) (held : holds value) :
    Builds R ref (record value) (Pure.pure value) record holds := by
  intro m building value m' ran
  cases ran
  exact ⟨building, held⟩

theorem bind {next : α → Eval β} {record' : β → List (Value × Value)} {later : β → Prop}
    (first : Builds R ref stored act record holds)
    (rest : ∀ value, holds value → Builds R ref (record value) (next value) record' later) :
    Builds R ref stored (act >>= next) record' later := by
  intro m building value m' ran
  rw [bind_run] at ran
  split at ran
  · rename_i between m₁ ran₁
    obtain ⟨building₁, held⟩ := first m building between m₁ ran₁
    exact rest between held m₁ building₁ value m' ran
  · cases ran

/-- What is evaluated in the realm leaves the dict alone. -/
theorem aside {other : Eval α} (outside : ¬R.dicts ref)
    (upholds : Upholds R act other holds True) :
    Builds R ref stored act (fun _ => stored) holds := by
  intro m building value m' ran
  have upheld := (upholds m building.guards).2
  rw [ran] at upheld
  obtain ⟨aside, guards, held⟩ := upheld
  obtain ⟨map, stores, has⟩ := building.shows_
  refine ⟨⟨guards, map, stores, has.spared ⟨aside.keeps.extent, ?_⟩⟩, held⟩
  exact (aside.spares trivial).dicts ref outside

/-- What is stored is recorded. -/
theorem storeInDict (outside : ¬R.dicts ref) (key value : Value) :
    Builds R ref stored (Eval.storeInDict ref key value) (fun _ => stored ++ [(key, value)])
      fun _ => True := by
  intro m building _ m' ran
  obtain ⟨map, stores, has⟩ := building.shows_
  obtain ⟨cell, stored', has'⟩ := storeInDict_reflects has key value
  rw [ran] at stored'
  have guards : R.Guards (m.withDict ref cell).heap :=
    building.guards.modifyDict fun inside => absurd inside outside
  cases found : map.store key value with
  | error message =>
    rw [found] at stored'
    cases stored'
  | ok after =>
    rw [found] at stored' has'
    cases stored'
    refine ⟨⟨guards, after, ?_, has'⟩, trivial⟩
    rw [List.map_append, OrderedMap.storeAll_append, stores]
    show OrderedMap.storeAll [.ok (key, value)] map = _
    rw [OrderedMap.storeAll, found]
    rfl

/-- An entry of a comprehension is stored and recorded. -/
theorem storeEntry {call : Caller} (calls : Upholds.Calls R call call True)
    (outside : ¬R.dicts ref) {key value : Expr} (placedKey : key.LoadsOutside)
    (placedValue : value.LoadsOutside) {scope : Scope} (inside : scope.Belongs R) :
    Builds R ref stored (PixelApplet.storeEntry call ref key value scope)
      (fun entry => stored ++ [entry]) fun _ => True := by
  refine (aside outside (Upholds.evalExpr calls key placedKey inside)).bind fun key _ => ?_
  refine (aside outside (Upholds.evalExpr calls value placedValue inside)).bind fun value _ => ?_
  refine (storeInDict outside key value).bind fun _ _ => ?_
  exact pure (fun entry => stored ++ [entry]) _ trivial

theorem eachItem {σ : Type} {step : σ → Value → Eval σ} {record : σ → List (Value × Value)}
    {holds : σ → Prop} (outside : ¬R.dicts ref)
    (builds : ∀ state item, holds state → item.Belongs R →
      Builds R ref (record state) (step state item) record holds)
    {items : List Value} (state : σ) (belong : ∀ v ∈ items, v.Belongs R) (held : holds state) :
    Builds R ref (record state) (PixelApplet.eachItem step items state) record holds := by
  induction items generalizing state with
  | nil => exact pure record _ held
  | cons item rest ih =>
    obtain ⟨here, later⟩ := List.forall_mem_cons.mp belong
    have checks : Builds R ref (record state) Eval.checkCancelled _ _ :=
      aside outside Upholds.checkCancelled
    exact checks.bind fun _ _ => (builds state item held here).bind fun _ held => ih _ later held

/-- A comprehension whose body records what it stores goes on building the dict. -/
theorem comprehension {call : Caller} (calls : Upholds.Calls R call call True)
    (outside : ¬R.dicts ref) {body : Scope → Eval (Value × Value)}
    (builds : ∀ (scope : Scope) (stored : List (Value × Value)), scope.Belongs R →
      Builds R ref stored (body scope) (fun entry => stored ++ [entry]) fun _ => True)
    (clauses : List Clause) (placed : Clause.LoadsOutsideAll clauses)
    (state : Scope × List (Value × Value)) (inside : state.1.Belongs R) :
    Builds R ref state.2 (recordComprehension call body clauses state) Prod.snd
      fun state => state.1.Belongs R := by
  induction clauses generalizing state with
  | nil =>
    obtain ⟨scope, stored⟩ := state
    rw [recordComprehension]
    exact (builds scope stored inside).bind fun entry _ =>
      pure Prod.snd (scope, stored ++ [entry]) inside
  | cons clause rest ih =>
    obtain ⟨scope, stored⟩ := state
    cases clause with
    | for_ target iterable =>
      rw [recordComprehension]
      rw [Clause.LoadsOutsideAll] at placed
      refine (aside outside (Upholds.evalExpr calls iterable placed.2.1 inside)).bind
        fun value has => ?_
      refine (aside outside (Upholds.iterate has)).bind fun items belong => ?_
      refine eachItem outside (fun state item within belongs => ?_) (scope, stored) belong inside
      exact (aside outside (Upholds.assignTarget calls target placed.1 within belongs)).bind
        fun later bound => ih placed.2.2 (later, state.2) bound
    | if_ test =>
      rw [recordComprehension]
      rw [Clause.LoadsOutsideAll] at placed
      refine (aside outside (Upholds.evalExpr calls test placed.1 inside)).bind
        fun value has => ?_
      have reads : Upholds R (Eval.readHeap value.truth) _ (fun _ => True) True :=
        Upholds.readHeapWith fun _ _ => trivial
      refine (aside outside reads).bind fun holds _ => ?_
      split
      · exact ih placed.2 (scope, stored) inside
      · exact pure Prod.snd (scope, stored) inside

end Eval.Builds

/-! ## The dict in the end -/

section Results

variable {call : Caller} {scope : Scope} {m m' : Machine} {dict : Value}
  {stored : List (Value × Value)}

/-- The entries of a dict are those of the map that has stored what was recorded. -/
theorem recordEntries_shows (entries : List (Expr × Expr))
    {state last : DictCell × List (Value × Value)} (map : OrderedMap)
    (stores : OrderedMap.empty.storeAll (state.2.map .ok) = (.ok (), map))
    (shows_ : state.1.Shows map) (thawed : state.1.frozen = false)
    (ran : recordEntries call scope entries state m = .ok last m') :
    last.1.frozen = false ∧ ∃ map, OrderedMap.empty.storeAll (last.2.map .ok) = (.ok (), map)
      ∧ last.1.Shows map := by
  induction entries generalizing state map m with
  | nil =>
    cases ran
    exact ⟨thawed, map, stores, shows_⟩
  | cons entry rest ih =>
    obtain ⟨cell, before⟩ := state
    rw [recordEntries, Eval.bind_run] at ran
    split at ran
    · rename_i key m₁ _
      rw [Eval.bind_run] at ran
      split at ran
      · rename_i value m₂ _
        rw [Eval.bind_run, Eval.keyFor_run] at ran
        cases expected : key.expectHash with
        | error message =>
          rw [expected] at ran
          cases ran
        | ok hash =>
          rw [expected] at ran
          have hashes := Value.hashKey_of_expectHash expected
          refine ih _ ?_ (shows_.insert hashes value) ?_ ran
          · rw [List.map_append, OrderedMap.storeAll_append, stores]
            show OrderedMap.storeAll [.ok (key, value)] map = _
            rw [OrderedMap.storeAll, map.store_of_hashes value hashes]
            rfl
          · dsimp only
            rw [DictCell.insert]
            split <;> exact thawed
      · cases ran
    · cases ran

/-- What a nested action that ended did one level deeper. -/
theorem nested_ok {α : Type} {act : Eval α} {value : α} (ran : Eval.nested act m = .ok value m') :
    ∃ deeper last, act (m.atDepth deeper) = .ok value last
      ∧ m' = last.atDepth last.thread.depth.leave := by
  cases entered : m.thread.depth.enter? with
  | none =>
    rw [Eval.nested_refused entered] at ran
    cases ran
  | some deeper =>
    rw [Eval.nested_entered entered] at ran
    unfold Eval.followedBy at ran
    split at ran
    · rename_i last inner
      cases ran
      exact ⟨deeper, last, inner, rfl⟩
    · cases ran

/-- A dict expression makes a dict that has stored what was recorded. -/
theorem recordDict_shows {entries : List (Expr × Expr)}
    (ran : recordDict call scope entries m = .ok (dict, stored) m') :
    m'.HasStored dict stored := by
  obtain ⟨deeper, last, inner, rfl⟩ := nested_ok ran
  rw [Eval.bind_run] at inner
  split at inner
  · rename_i state m₁ recorded
    obtain ⟨thawed, map, stores, shows_⟩ := recordEntries_shows entries .empty rfl
      (DictCell.shows_empty _) rfl recorded
    cases inner
    have has := m₁.hasMap_addDict thawed shows_
    exact ⟨_, map, rfl, stores, has.inside, has.thawed, has.shows_⟩
  · cases inner

/-- A dict comprehension makes a dict that has stored what was recorded. -/
theorem recordDictComp_shows {R : Realm} {load : Loader} {key value : Expr} {clauses : List Clause}
    (sound : m.heap.Sound) (guards : R.Guards m.heap) (inside : scope.Belongs R)
    (live : scope.Live m.heap.extent) (placedKey : key.LoadsOutside)
    (placedValue : value.LoadsOutside) (placed : Clause.LoadsOutsideAll clauses)
    (ran : recordDictComp (callValue load) scope key value clauses m = .ok (dict, stored) m') :
    m'.HasStored dict stored := by
  obtain ⟨deeper, last, inner, rfl⟩ := nested_ok ran
  let ref := m.heap.nextDict
  have outside : ¬(R.without ref).dicts ref := fun here => here.2 rfl
  have calls : Eval.Upholds.Calls (R.without ref) (callValue load) (callValue load) True :=
    Eval.Upholds.callValue load
  have within : scope.Belongs (R.without ref) := inside.without live (Nat.le_refl _)
  have builds := Eval.Builds.comprehension calls outside
    (fun _ _ => Eval.Builds.storeEntry calls outside placedKey placedValue) clauses placed
    (scope.comprehension, []) within.comprehension
  have building : Building (R.without ref) ref [] (m.atDepth deeper).withNewDict :=
    ⟨guards.withoutNew sound, .empty, rfl, (m.atDepth deeper).hasMap_withNewDict⟩
  have recorded : (recordComprehension (callValue load) (storeEntry (callValue load) ref key value)
        clauses (scope.comprehension, []) >>= fun state => Pure.pure (Value.dict ref, state.2))
        (m.atDepth deeper).withNewDict
      = .ok (dict, stored) last := inner
  rw [Eval.bind_run] at recorded
  split at recorded
  · rename_i state m₁ ended
    cases recorded
    obtain ⟨⟨_, map, stores, has⟩, _⟩ := builds _ building state _ ended
    exact ⟨ref, map, rfl, stores, has.inside, has.thawed, has.shows_⟩
  · cases recorded

end Results

end PixelApplet
