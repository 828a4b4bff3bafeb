import PixelApplet.Proofs.Evaluation.DictExpressions
import PixelApplet.Proofs.Evaluation.FrozenData

/-!
# Lists and dicts have pure models

A list is a sequence and a dict is an ordered map: whatever operations are carried out on one that
is not frozen, and whatever happens to other objects in between, the answers and the contents are
those of the model.
-/

namespace PixelApplet

/-- Lists refine sequences and dicts refine ordered maps.  A dict that belongs to a guarded realm
shows a map, and has each hash key once, under the hash key of its key.  A dict made by `dict`, by a
dict expression or by a comprehension has stored what the arguments or the expression say, one entry
after the other. -/
theorem collections_refine_models :
    (∀ ref, Course.Refines (ListOperation.run ref) (Machine.SparesList ref) (Machine.HasItems ref)
      (ListOperation.model ref)
      fun moment answer => moment.answer = answer.mapError EvalError.ofMessage)
    ∧ (∀ ref, Course.Refines (DictOperation.run ref) (Machine.SparesDict ref) (Machine.HasMap ref)
      DictOperation.model fun moment => Made.Answers moment.after moment.answer)
    ∧ (∀ (R : Realm) (h : Heap), R.Guards h → ∀ ref, R.dicts ref →
      (h.dict ref).Keyed ∧ ∃ map, (h.dict ref).Shows map)
    ∧ (∀ (arguments : Arguments) (m : Machine),
      ∃ h, match OrderedMap.empty.storeTold (arguments.tellNew m.heap (Value.noPair · h)) with
        | (.ok (), map) => ∃ m', Universe.newDict arguments m = .ok (.dict m.heap.nextDict) m'
            ∧ m'.HasMap m.heap.nextDict map
        | (.error message, _) => ∃ m', Universe.newDict arguments m
            = .error (.error (.ofMessage message)) m')
    ∧ (∀ (call : Caller) (scope : Scope) (pos : Position) (entries : List (Expr × Expr)),
      evalExpr call scope (.dict pos entries) = Prod.fst <$> recordDict call scope entries
        ∧ ∀ m dict stored m', recordDict call scope entries m = .ok (dict, stored) m' →
          m'.HasStored dict stored)
    ∧ ∀ (load : Loader) (scope : Scope) (pos : Position) (key value : Expr)
      (clauses : List Clause),
      evalExpr (callValue load) scope (.dictComp pos key value clauses)
          = Prod.fst <$> recordDictComp (callValue load) scope key value clauses
        ∧ ∀ (R : Realm) (m : Machine), m.heap.Sound → R.Guards m.heap → scope.Belongs R →
          scope.Live m.heap.extent → (Expr.dictComp pos key value clauses).LoadsOutside →
          ∀ dict stored m',
            recordDictComp (callValue load) scope key value clauses m = .ok (dict, stored) m' →
              m'.HasStored dict stored := by
  refine ⟨ListOperation.refines, DictOperation.refines, fun R h guards ref inside => ?_,
    Universe.newDict_shows, fun call scope pos entries => ?_,
    fun load scope pos key value clauses => ?_⟩
  · have belongs := guards.dicts ref inside
    exact ⟨belongs.keyed, belongs.keyed.exists_shows⟩
  · exact ⟨(forget_dict pos entries).symm, fun m dict stored m' => recordDict_shows⟩
  · refine ⟨(forget_dictComp pos key value clauses).symm,
      fun R m sound guards inside live placed dict stored m' => ?_⟩
    rw [Expr.LoadsOutside] at placed
    exact recordDictComp_shows sound guards inside live placed.1 placed.2.1 placed.2.2

/-- A machine with a list, a dict without entries and the module of a file. -/
def modelsMachine : Machine :=
  { Machine.initial (.under []) with
    heap := ((Heap.initial.addList ⟨#[.int 1, .int 2], false⟩).addDict .empty).addModule
      (.ofFile "models.star" []) }

/-- The scope of the statements in that file. -/
def modelsScope : Scope :=
  ⟨⟨0⟩, "models.star", none, none⟩

/-- The realm of all cells. -/
def wholeRealm : Realm :=
  ⟨fun _ => True, fun _ => True, fun _ => True, fun _ => True, False⟩

theorem guards_initial : wholeRealm.Guards Heap.initial where
  newLists _ _ := trivial
  newDicts _ _ := trivial
  newModules _ _ := trivial
  fonts := trivial
  lists ref _ := by
    rw [Heap.list_initial]
    intro v member
    cases member
  dicts ref _ := by
    refine ⟨Heap.all_dict_initial Value.belongs_str ref, ?_⟩
    rw [Heap.initial, Heap.dict_addDict]
    split
    · have keyed := DictCell.keyed_ofBindings (Font.names.map fun font => (font, .str font))
      exact ⟨keyed.hashes, keyed.different⟩
    · have none_ : Heap.empty.dict ref = default := by
        simp [Heap.empty, Heap.dict]
      rw [none_]
      exact DictCell.keyed_empty
  modules ref _ := by
    rw [Heap.module_initial]
    refine ⟨?_, ?_, ?_⟩ <;> intro binding member <;> cases member
  held := False.elim

theorem guards_modelsMachine : wholeRealm.Guards modelsMachine.heap := by
  have listed : wholeRealm.Guards (Heap.initial.addList ⟨#[.int 1, .int 2], false⟩) := by
    refine guards_initial.addList fun v member => ?_
    rcases List.mem_cons.mp member with rfl | later
    · exact Value.belongs_int 1
    · rw [List.mem_singleton.mp later]
      exact Value.belongs_int 2
  exact (listed.addDict DictCell.belongs_empty).addModule ⟨nofun, nofun, nofun⟩ rfl

theorem sound_modelsMachine : modelsMachine.heap.Sound := by
  have listed : Heap.Develops Heap.initial (Heap.initial.addList ⟨#[.int 1, .int 2], false⟩) := by
    refine .step .refl none (.addList _ (fun v member => ?_) rfl)
    rcases List.mem_cons.mp member with rfl | later
    · exact .intro trivial nofun
    · rw [List.mem_singleton.mp later]
      exact .intro trivial nofun
  have both := listed.step none (.addDict _ DictCell.live_empty rfl)
  have opened := both.addModule (.ofFile "models.star" []) ⟨nofun, nofun, nofun⟩ rfl
  exact (opened.keeps_and_sound Heap.sound_initial).2

theorem modelsMachine_hasItems : modelsMachine.HasItems ⟨0⟩ [.int 1, .int 2] :=
  ⟨by decide, rfl, rfl⟩

theorem modelsMachine_hasMap : modelsMachine.HasMap ⟨1⟩ .empty :=
  ⟨by decide, rfl, DictCell.shows_empty _⟩

/-- The place of all expressions below. -/
def modelsPlace : Position :=
  ⟨1, 1, 0⟩

/-- The key of the comprehension `{k: [k] for k in [2, 1, 2]}`. -/
def modelsKey : Expr :=
  .name modelsPlace "k"

def modelsValue : Expr :=
  .list modelsPlace [modelsKey]

def modelsClauses : List Clause :=
  [.for_ modelsKey (.list modelsPlace (([2, 1, 2] : List Int64).map fun i =>
    .literal modelsPlace (.int i)))]

/-- Whether entries are stored under these ints. -/
def storedUnder (ints : List Int64) (stored : List (Value × Value)) : Bool :=
  stored.map (fun entry => match entry.1 with
    | .int i => some i
    | _ => none) == ints.map some

/-- Whether the comprehension stores three entries, under two keys. -/
def modelsComprehend : Bool :=
  match recordDictComp (callValue none) modelsScope modelsKey modelsValue modelsClauses
      modelsMachine with
  | .ok (_, stored) _ => storedUnder [2, 1, 2] stored
  | .error .. => false

theorem modelsMachine_comprehends : ∃ dict stored m',
    recordDictComp (callValue none) modelsScope modelsKey modelsValue modelsClauses modelsMachine
      = .ok (dict, stored) m' ∧ storedUnder [2, 1, 2] stored = true := by
  have comprehends : modelsComprehend = true := by
    decide +kernel
  unfold modelsComprehend at comprehends
  split at comprehends
  · rename_i dict stored m' ran
    exact ⟨dict, stored, m', ran, comprehends⟩
  · cases comprehends

/-- On that machine, elements are put into the list and taken out, entries are stored in the dict,
and a comprehension is evaluated. -/
theorem modelsMachine_refines : modelsMachine.heap.Sound ∧ wholeRealm.Guards modelsMachine.heap
    ∧ modelsMachine.HasItems ⟨0⟩ [.int 1, .int 2] ∧ modelsMachine.HasMap ⟨1⟩ .empty
    ∧ (∃ moments m',
      Course (ListOperation.run ⟨0⟩) (Machine.SparesList ⟨0⟩) modelsMachine moments m'
      ∧ moments.map Moment.operation
        = [.method .append ⟨[.int 3], []⟩, .method .pop ⟨[.int (-3)], []⟩]
      ∧ moments.map Moment.answer = [.ok .none, .ok (.int 1)]
      ∧ m'.HasItems ⟨0⟩ [.int 2, .int 3])
    ∧ (∃ moments m' map,
      Course (DictOperation.run ⟨1⟩) (Machine.SparesDict ⟨1⟩) modelsMachine moments m'
      ∧ moments.map Moment.operation
        = [.assign (.str "a") (.int 1), .assign (.str "b") (.int 2), .assign (.str "a") (.int 3)]
      ∧ m'.HasMap ⟨1⟩ map ∧ map.entries = [(.str "a", .int 3), (.str "b", .int 2)])
    ∧ ∃ dict stored m',
      recordDictComp (callValue none) modelsScope modelsKey modelsValue modelsClauses modelsMachine
        = .ok (dict, stored) m' ∧ storedUnder [2, 1, 2] stored = true
        ∧ m'.HasStored dict stored := by
  obtain ⟨lists, dicts, _, _, _, comprehensions⟩ := collections_refine_models
  refine ⟨sound_modelsMachine, guards_modelsMachine, modelsMachine_hasItems, modelsMachine_hasMap,
    ?_, ?_, ?_⟩
  · obtain ⟨moments, m', course, same⟩ := (lists ⟨0⟩).exists_course modelsMachine_hasItems
      [.method .append ⟨[.int 3], []⟩, .method .pop ⟨[.int (-3)], []⟩]
    obtain ⟨has, answers⟩ := (lists ⟨0⟩).replays modelsMachine_hasItems course
    refine ⟨moments, m', course, same, ?_⟩
    obtain ⟨first, _, rfl, append, same⟩ := List.map_eq_cons_iff.mp same
    obtain ⟨second, _, rfl, pop, same⟩ := List.map_eq_cons_iff.mp same
    cases List.map_eq_nil_iff.mp same
    have replayed : Course.replay (ListOperation.model ⟨0⟩) [first, second] [.int 1, .int 2]
        = ([.ok .none, .ok (.int 1)], [.int 2, .int 3]) := by
      simp only [Course.replay, append, pop]
      rfl
    rw [replayed] at has answers
    obtain ⟨one, rest⟩ := List.forall₂_cons.mp answers
    obtain ⟨two, _⟩ := List.forall₂_cons.mp rest
    exact ⟨by rw [List.map_cons, List.map_cons, one, two]; rfl, has⟩
  · obtain ⟨moments, m', course, same⟩ := (dicts ⟨1⟩).exists_course modelsMachine_hasMap
      [.assign (.str "a") (.int 1), .assign (.str "b") (.int 2), .assign (.str "a") (.int 3)]
    obtain ⟨has, _⟩ := (dicts ⟨1⟩).replays modelsMachine_hasMap course
    refine ⟨moments, m', _, course, same, has, ?_⟩
    obtain ⟨first, _, rfl, assigned, same⟩ := List.map_eq_cons_iff.mp same
    obtain ⟨second, _, rfl, assigned', same⟩ := List.map_eq_cons_iff.mp same
    obtain ⟨third, _, rfl, assigned'', same⟩ := List.map_eq_cons_iff.mp same
    cases List.map_eq_nil_iff.mp same
    simp only [Course.replay, assigned, assigned', assigned'']
    rfl
  · obtain ⟨dict, stored, m', ran, keys⟩ := modelsMachine_comprehends
    have live : modelsScope.Live modelsMachine.heap.extent := ⟨by decide, nofun, nofun⟩
    have placed : (Expr.dictComp modelsPlace modelsKey modelsValue modelsClauses).LoadsOutside := by
      simp [Expr.LoadsOutside, modelsKey, modelsValue, modelsClauses, Clause.LoadsOutsideAll,
        Expr.LoadsOutsideAll]
    have shown := (comprehensions none modelsScope modelsPlace modelsKey modelsValue
      modelsClauses).2 wholeRealm modelsMachine sound_modelsMachine guards_modelsMachine
      ⟨trivial, trivial, nofun, nofun⟩ live placed dict stored m' ran
    exact ⟨dict, stored, m', ran, keys, shown⟩

end PixelApplet
