import PixelApplet.Proofs.Library.Sequences
import PixelApplet.Proofs.Value.OrderedMaps

/-!
# Dicts answer as ordered maps

The pure model of a dict is an ordered map.  As with lists, what an operation is given is read
first, and then the operation is one on the map.  Storing several entries ends at the first one that
is refused; the ones before it stay.

An operation may make a new list, of the keys for instance.  The model says what its elements are.
-/

namespace PixelApplet

/-- The hash key of a key, or the refusal of the key. -/
def Value.expectHash (key : Value) : Except String HashKey :=
  key.keyFor.mapError OperatorFault.text

theorem Value.hashKey_of_expectHash {key : Value} {hash : HashKey}
    (expected : key.expectHash = .ok hash) : key.hashKey = .ok hash := by
  unfold expectHash keyFor at expected
  cases hashes : key.hashKey with
  | ok found =>
    rw [hashes] at expected
    cases expected
    rfl
  | error found =>
    rw [hashes] at expected
    cases expected

namespace OrderedMap

/-- Stores a value under a key. -/
def store (map : OrderedMap) (key value : Value) : Except String OrderedMap :=
  match hashes : key.hashKey with
  | .ok hash => .ok (map.set hash key value hashes)
  | .error found => .error s!"unhashable type: {found}"

theorem store_of_hashes {key : Value} {hash : HashKey} (map : OrderedMap) (value : Value)
    (hashes : key.hashKey = .ok hash) :
    map.store key value = .ok (map.set hash key value hashes) := by
  unfold store
  split
  · rename_i other found
    cases hashes.symm.trans found
    rfl
  · rename_i refused
    cases hashes.symm.trans refused

/-- Stores entries one after the other, up to the first that is refused. -/
def storeAll : List (Except String (Value × Value)) → OrderedMap → Except String Unit × OrderedMap
  | [], map => (.ok (), map)
  | .error message :: _, map => (.error message, map)
  | .ok (key, value) :: rest, map =>
    match map.store key value with
    | .ok map => storeAll rest map
    | .error message => (.error message, map)

theorem storeAll_append (first rest : List (Except String (Value × Value))) (map : OrderedMap) :
    map.storeAll (first ++ rest) = match map.storeAll first with
      | (.ok (), map) => map.storeAll rest
      | (.error message, map) => (.error message, map) := by
  induction first generalizing map with
  | nil => rfl
  | cons told first ih =>
    cases told with
    | error message => rfl
    | ok entry =>
      rw [List.cons_append, storeAll, storeAll]
      cases map.store entry.1 entry.2 with
      | ok map => exact ih map
      | error message => rfl

/-- Stores what there is to be stored, if that is known. -/
def storeTold (map : OrderedMap) :
    Except String (List (Except String (Value × Value))) → Except String Unit × OrderedMap
  | .ok told => map.storeAll told
  | .error message => (.error message, map)

end OrderedMap

/-- An operation on an ordered map: how a message shows a key that is missing is said with it. -/
inductive MapOperation where
  | clear
  | get (key default : Value)
  | items
  | keys
  | values
  | pop (key : Value) (default : Option Value) (shown : String)
  | setdefault (key value : Value)
  | update (told : List (Except String (Value × Value)))
  | assign (key value : Value)
  | element (key : Value) (shown : String)
  | contains (key : Value)
  | length

namespace MapOperation

/-- What is looked up under a key, with the map as it was. -/
def looking (key : Value) (map : OrderedMap) (answer : Option Value → Except String Made) :
    Except String Made × OrderedMap :=
  (key.expectHash.bind fun hash => answer (map.get? hash), map)

/-- What an operation answers, and the map after it. -/
def apply : MapOperation → OrderedMap → Except String Made × OrderedMap
  | clear, _ => (.ok (.value .none), .empty)
  | get key default, map => looking key map fun found => .ok (.value (found.getD default))
  | items, map => (.ok (.list (map.entries.map fun (key, value) => .tuple [key, value])), map)
  | keys, map => (.ok (.list (map.entries.map Prod.fst)), map)
  | values, map => (.ok (.list (map.entries.map Prod.snd)), map)
  | pop key default shown, map =>
    match key.expectHash with
    | .error message => (.error message, map)
    | .ok hash =>
      match map.get? hash, default with
      | some value, _ => (.ok (.value value), map.erase hash)
      | none, some default => (.ok (.value default), map)
      | none, none => (.error s!"pop: missing key {shown}", map)
  | setdefault key value, map =>
    match key.expectHash with
    | .error message => (.error message, map)
    | .ok hash =>
      match map.get? hash, map.store key value with
      | some stored, _ => (.ok (.value stored), map)
      | none, .ok map => (.ok (.value value), map)
      | none, .error message => (.error message, map)
  | update told, map =>
    let (outcome, map) := map.storeAll told
    (outcome.map fun _ => .value .none, map)
  | assign key value, map =>
    match map.store key value with
    | .ok map => (.ok (.value .none), map)
    | .error message => (.error message, map)
  | element key shown, map => looking key map fun
    | some value => .ok (.value value)
    | none => .error s!"key {shown} not in dict"
  | contains key, map => looking key map fun found => .ok (.value (.bool found.isSome))
  | length, map => (.ok (.value (.int (Int64.ofNat map.order.length))), map)

end MapOperation

/-- What an element of a sequence tells a dict to store, if it is a pair. -/
def Value.tells (h : Heap) (refusal : Value → String) (pair : Value) :
    Except String (Value × Value) :=
  match pair.sequence? h with
  | some [key, value] => .ok (key, value)
  | _ => .error (refusal pair)

/-- What a dict or a sequence of pairs tells a dict to store. -/
def Arguments.tellSource (h : Heap) (refusal : Value → String) :
    Option Value → Except String (List (Except String (Value × Value)))
  | none => .ok []
  | some (.dict other) => .ok ((h.dict other).pairs.map .ok)
  | some source =>
    ((source.iterate h).mapError OperatorFault.text).map fun pairs =>
      pairs.map (Value.tells h refusal)

/-- What the arguments tell a dict to store: a dict or a sequence of pairs, and names with their
values. -/
def Arguments.tell (h : Heap) (refusal : Value → String) (arguments : Arguments) :
    Except String (List (Except String (Value × Value))) :=
  (tellSource h refusal arguments.positional.head?).map fun told =>
    told ++ arguments.named.map fun entry => .ok (.str entry.1, entry.2)

/-- An operation on a dict: a method, an assignment, looking at an element, asking whether there is
one, or how many there are. -/
inductive DictOperation where
  | method (m : DictMethod) (arguments : Arguments)
  | assign (key value : Value)
  | element (key : Value)
  | contains (key : Value)
  | length

namespace DictOperation

/-- Carries an operation out. -/
def run (ref : DictRef) : DictOperation → Eval Value
  | method m arguments => DictMethods.run m ref arguments
  | assign key value => do
    Eval.assignIndex (.dict ref) key value
    return .none
  | element key => Eval.operate fun h => Value.index h (.dict ref) key
  | contains key => Eval.produce fun h => Value.binary h .in_ key (.dict ref)
  | length => Universe.length (.dict ref)

/-- The operation on ordered maps that is asked for, as the heap is. -/
def requested (h : Heap) : DictOperation → Except String MapOperation
  | method .clear arguments => do
    arguments.expectNone "clear"
    return .clear
  | method .get arguments => do
    let given ← arguments.expect "get" 1 2
    return .get (given.headD .none) (given.getD 1 .none)
  | method .items arguments => do
    arguments.expectNone "items"
    return .items
  | method .keys arguments => do
    arguments.expectNone "keys"
    return .keys
  | method .pop arguments => do
    let given ← arguments.expect "pop" 1 2
    return .pop (given.headD .none) given[1]? ((given.headD .none).repr h)
  | method .setdefault arguments => do
    let given ← arguments.expect "setdefault" 1 2
    return .setdefault (given.headD .none) (given.getD 1 .none)
  | method .update arguments => do
    if arguments.positional.length > 1 then
      throw "update: got more than one positional argument"
    return .update (← arguments.tell h fun _ =>
      "update: dictionary update sequence element is not a pair")
  | method .values arguments => do
    arguments.expectNone "values"
    return .values
  | assign key value => return .assign key value
  | element key => return .element key (key.repr h)
  | contains key => return .contains key
  | length => return .length

/-- What the model answers to an operation on a machine, and the map after it. -/
def model (m : Machine) (operation : DictOperation) (map : OrderedMap) :
    Except String Made × OrderedMap :=
  match operation.requested m.heap with
  | .ok asked => asked.apply map
  | .error message => (.error message, map)

end DictOperation

/-! ## Dicts of a machine -/

/-- A machine in which a dict is another. -/
def Machine.withDict (m : Machine) (ref : DictRef) (cell : DictCell) : Machine :=
  { m with heap := m.heap.modifyDict ref fun _ => cell }

/-- A dict that can be changed shows a map. -/
structure Machine.HasMap (ref : DictRef) (m : Machine) (map : OrderedMap) : Prop where
  inside : ref.index < m.heap.extent.dicts
  thawed : (m.heap.dict ref).frozen = false
  shows_ : (m.heap.dict ref).Shows map

/-- From one machine to another, a dict was left alone. -/
structure Machine.SparesDict (ref : DictRef) (m m' : Machine) : Prop where
  extent : m.heap.extent ≤ m'.heap.extent
  cell : m'.heap.dict ref = m.heap.dict ref

namespace Heap

/-- Changing a dict depends on its own cell only. -/
theorem modifyDict_congr {h : Heap} {ref : DictRef} {f g : DictCell → DictCell}
    (same : f (h.dict ref) = g (h.dict ref)) : h.modifyDict ref f = h.modifyDict ref g := by
  have dicts : h.dicts.modify ref.index f = h.dicts.modify ref.index g := by
    refine Array.ext (by simp) fun i _ inside => ?_
    rw [Array.getElem_modify, Array.getElem_modify]
    split
    · rename_i here
      have there : i < h.dicts.size := by simpa using inside
      have cell : h.dict ref = h.dicts[i] := by
        simp [dict, here, there]
      rw [← cell, same]
    · rfl
  rw [modifyDict, modifyDict, dicts]

theorem modifyDict_self {h : Heap} {ref : DictRef} {f : DictCell → DictCell}
    (same : f (h.dict ref) = h.dict ref) : h.modifyDict ref f = h := by
  have nothing : h.modifyDict ref f = h.modifyDict ref id := modifyDict_congr same
  have dicts : h.dicts.modify ref.index id = h.dicts :=
    Array.ext (by simp) fun i _ _ => by simp [Array.getElem_modify]
  rw [nothing, modifyDict, dicts]

theorem modifyDict_modifyDict (h : Heap) (ref : DictRef) (f g : DictCell → DictCell) :
    (h.modifyDict ref f).modifyDict ref g = h.modifyDict ref fun cell => g (f cell) := by
  have dicts : (h.dicts.modify ref.index f).modify ref.index g
      = h.dicts.modify ref.index fun cell => g (f cell) := by
    refine Array.ext (by simp) fun i _ _ => ?_
    simp only [Array.getElem_modify]
    split <;> rfl
  simp only [modifyDict, dicts]

end Heap

namespace Machine

variable {m : Machine} {ref : DictRef} {map : OrderedMap}

theorem withDict_self (m : Machine) (ref : DictRef) : m.withDict ref (m.heap.dict ref) = m := by
  unfold withDict
  rw [Heap.modifyDict_self rfl]

theorem withDict_withDict (m : Machine) (ref : DictRef) (cell other : DictCell) :
    (m.withDict ref cell).withDict ref other = m.withDict ref other := by
  unfold withDict
  rw [Heap.modifyDict_modifyDict]

/-- A dict that shows a map now does so after it was put in the place of another. -/
theorem HasMap.withDict {other : OrderedMap} (has : m.HasMap ref map) {cell : DictCell}
    (thawed : cell.frozen = false) (shows_ : cell.Shows other) :
    (m.withDict ref cell).HasMap ref other := by
  have here : (m.withDict ref cell).heap.dict ref = cell := by
    unfold Machine.withDict
    rw [Heap.dict_modifyDict, if_pos ⟨rfl, has.inside⟩]
  refine ⟨?_, ?_, ?_⟩
  · unfold Machine.withDict
    rw [Heap.extent_modifyDict]
    exact has.inside
  · rw [here]
    exact thawed
  · rw [here]
    exact shows_

theorem HasMap.addList (has : m.HasMap ref map) {cell : ListCell} :
    Machine.HasMap ref { m with heap := m.heap.addList cell } map :=
  ⟨has.inside, has.thawed, has.shows_⟩

theorem hasItems_addList (items : List Value) (m : Machine) :
    Machine.HasItems m.heap.nextList
      { m with heap := m.heap.addList ⟨items.toArray, false⟩ } items := by
  have here : (m.heap.addList ⟨items.toArray, false⟩).list m.heap.nextList
      = ⟨items.toArray, false⟩ := by
    rw [Heap.list_addList, if_pos rfl]
  refine ⟨?_, ?_, ?_⟩
  · rw [Heap.extent_addList]
    exact Nat.lt_succ_self _
  · rw [here]
  · rw [here]

theorem HasMap.spared {m' : Machine} (has : m.HasMap ref map) (spares : m.SparesDict ref m') :
    m'.HasMap ref map :=
  ⟨Nat.lt_of_lt_of_le has.inside spares.extent.dicts, spares.cell ▸ has.thawed,
    spares.cell ▸ has.shows_⟩

end Machine

namespace Eval

variable {α β : Type} {m : Machine} {ref : DictRef} {map : OrderedMap}

/-- An action answers as a model does, and changes nothing but one dict, to one that shows the map
of the model. -/
def Reflects (act : Eval α) (m : Machine) (ref : DictRef)
    (outcome : Except String α × OrderedMap) : Prop :=
  ∃ cell, act m = answering outcome.1 (m.withDict ref cell)
    ∧ (m.withDict ref cell).HasMap ref outcome.2

namespace Reflects

/-- What only looks leaves the map as it was. -/
theorem look {act : Eval α} (has : m.HasMap ref map) (answer : Except String α)
    (ran : act m = answering answer m) : Reflects act m ref (answer, map) := by
  refine ⟨m.heap.dict ref, ?_, ?_⟩
  · rw [m.withDict_self]
    exact ran
  · rw [m.withDict_self]
    exact has

/-- What is seen of the heap. -/
theorem see {f : Heap → α} {next : α → Eval β} {outcome : Except String β × OrderedMap}
    (reflects : Reflects (next (f m.heap)) m ref outcome) :
    Reflects (Eval.readHeap f >>= next) m ref outcome :=
  reflects

/-- A dict is changed as its map is. -/
theorem change (has : m.HasMap ref map) {f : DictCell → DictCell} (after : OrderedMap)
    (thawed : (f (m.heap.dict ref)).frozen = false) (shows_ : (f (m.heap.dict ref)).Shows after) :
    Reflects (Eval.changeDict ref f) m ref (.ok (), after) := by
  refine ⟨f (m.heap.dict ref), ?_, has.withDict thawed shows_⟩
  rw [changeDict_of_thawed has.thawed, Machine.withDict, Heap.modifyDict_congr]
  · rfl
  · rfl

/-- What is done after a dict was put in the place of another. -/
theorem followed {act : Eval α} {next : α → Eval β} {value : α} {cell : DictCell}
    {outcome : Except String β × OrderedMap} (ran : act m = .ok value (m.withDict ref cell))
    (rest : Reflects (next value) (m.withDict ref cell) ref outcome) :
    Reflects (act >>= next) m ref outcome := by
  obtain ⟨last, ran', has⟩ := rest
  rw [Machine.withDict_withDict] at ran' has
  exact ⟨last, (bind_ok ran).trans ran', has⟩

/-- One action after the other. -/
theorem andThen {act : Eval α} {next : α → Eval β} {value : α} {between : OrderedMap}
    {outcome : Except String β × OrderedMap} (first : Reflects act m ref (.ok value, between))
    (rest : ∀ m', m'.HasMap ref between → Reflects (next value) m' ref outcome) :
    Reflects (act >>= next) m ref outcome := by
  obtain ⟨cell, ran, has⟩ := first
  exact .followed ran (rest _ has)

/-- After a failure nothing is done. -/
theorem fails {act : Eval α} {next : α → Eval β} {message : String} {after : OrderedMap}
    (first : Reflects act m ref (.error message, after)) :
    Reflects (act >>= next) m ref (.error message, after) := by
  obtain ⟨cell, ran, has⟩ := first
  exact ⟨cell, bind_error ran, has⟩

/-- What is done with the answer. -/
theorem answers {act : Eval α} {outcome : Except String α × OrderedMap}
    (reflects : Reflects act m ref outcome) (f : α → β) :
    Reflects (act >>= fun value => Pure.pure (f value)) m ref (outcome.1.map f, outcome.2) := by
  obtain ⟨cell, ran, has⟩ := reflects
  refine ⟨cell, ?_, has⟩
  rw [bind_run, ran]
  cases outcome.1 <;> rfl

end Reflects

theorem keyFor_run (key : Value) : Eval.keyFor key m = answering key.expectHash m :=
  accept_run _ _ _

/-- Storing an entry is storing it in the map. -/
theorem storeInDict_reflects (has : m.HasMap ref map) (key value : Value) :
    Reflects (Eval.storeInDict ref key value) m ref (match map.store key value with
      | .ok map => (.ok (), map)
      | .error message => (.error message, map)) := by
  have hashing := keyFor_run (m := m) key
  unfold OrderedMap.store
  unfold Value.expectHash Value.keyFor at hashing
  split
  · rename_i stored
    split at stored
    · rename_i hash hashes
      cases stored
      rw [hashes] at hashing
      refine .andThen (.look has (.ok hash) hashing) fun m' has' => ?_
      refine .change has' _ ?_ (has'.shows_.insert hashes value)
      rw [DictCell.insert]
      split <;> exact has'.thawed
    · cases stored
  · rename_i refused
    split at refused
    · cases refused
    · rename_i found hashes
      cases refused
      rw [hashes] at hashing
      exact .fails (.look has _ hashing)

/-- Storing entries one after the other is storing them in the map. -/
theorem storeAll_reflects (has : m.HasMap ref map) (entries : List (Value × Value)) :
    Reflects (Universe.storeAll ref entries) m ref (map.storeAll (entries.map .ok)) := by
  induction entries generalizing m map with
  | nil => exact .look has _ rfl
  | cons entry rest ih =>
    obtain ⟨key, value⟩ := entry
    have stores := storeInDict_reflects has key value
    rw [List.map_cons, OrderedMap.storeAll]
    unfold Universe.storeAll
    split at stores
    · exact stores.andThen fun m' has' => ih has'
    · exact .fails stores

/-- Storing pairs one after the other is storing in the map what they tell.  How a message shows an
element that is no pair may depend on what the dict is by then. -/
theorem storePairs_reflects (has : m.HasMap ref map) (text : Value → Heap → String)
    (pairs : List Value) :
    ∃ cell, Reflects (Universe.storePairs ref (fun pair => Eval.readHeap (text pair)) pairs) m ref
      (map.storeAll (pairs.map
        (Value.tells m.heap fun pair => text pair (m.withDict ref cell).heap))) := by
  induction pairs generalizing m map with
  | nil => exact ⟨m.heap.dict ref, .look has _ rfl⟩
  | cons pair rest ih =>
    rw [Universe.storePairs]
    simp only [List.map_cons]
    by_cases two : ∃ key value, pair.sequence? m.heap = some [key, value]
    · obtain ⟨key, value, elements⟩ := two
      have told (shown : Value → String) : pair.tells m.heap shown = .ok (key, value) := by
        rw [Value.tells, elements]
      have stores := storeInDict_reflects has key value
      simp only [told, OrderedMap.storeAll]
      split at stores
      · obtain ⟨between, ran, has'⟩ := stores
        obtain ⟨cell, reflects⟩ := ih has'
        rw [Machine.withDict_withDict] at reflects
        refine ⟨cell, .see ?_⟩
        rw [elements]
        exact .followed ran reflects
      · refine ⟨m.heap.dict ref, .see ?_⟩
        rw [elements]
        exact .fails stores
    · have told (shown : Value → String) : pair.tells m.heap shown = .error (shown pair) := by
        unfold Value.tells
        split
        · rename_i elements
          exact absurd ⟨_, _, elements⟩ two
        · rfl
      simp only [told, OrderedMap.storeAll]
      refine ⟨m.heap.dict ref, .see ?_⟩
      rw [m.withDict_self]
      split
      · rename_i elements
        exact absurd ⟨_, _, elements⟩ two
      · exact .look has _ rfl

/-- Storing in two parts. -/
theorem Reflects.continued {act next : Eval Unit} {told more : List (Except String (Value × Value))}
    (first : Reflects act m ref (map.storeAll told))
    (rest : ∀ {m' : Machine} {map' : OrderedMap}, m'.HasMap ref map' →
      Reflects next m' ref (map'.storeAll more)) :
    Reflects (act >>= fun _ => next) m ref (map.storeAll (told ++ more)) := by
  rw [OrderedMap.storeAll_append]
  generalize map.storeAll told = outcome at first ⊢
  obtain ⟨_ | _, after⟩ := outcome
  · exact .fails first
  · exact .andThen first fun m' has => rest has

/-- Storing what the arguments say is storing it in the map. -/
theorem storeSources_reflects (has : m.HasMap ref map) (text : Value → Heap → String)
    (arguments : Arguments) :
    ∃ cell, Reflects
      (Universe.storeSources ref (fun pair => Eval.readHeap (text pair))
        arguments.positional.head? arguments.named) m ref
      (map.storeTold
        (arguments.tell m.heap fun pair => text pair (m.withDict ref cell).heap)) := by
  have names {m' : Machine} {map' : OrderedMap} (has' : m'.HasMap ref map') :=
    storeAll_reflects has' (arguments.named.map fun entry => (.str entry.1, entry.2))
  rw [List.map_map] at names
  have pairwise (source : Value) : ∃ cell, Reflects (do
        Universe.storePairs ref (fun pair => Eval.readHeap (text pair)) (← Eval.iterate source)
        Universe.storeAll ref (arguments.named.map fun entry => (.str entry.1, entry.2))) m ref
      (map.storeTold ((((source.iterate m.heap).mapError OperatorFault.text).map fun pairs =>
          pairs.map (Value.tells m.heap fun pair => text pair (m.withDict ref cell).heap)).map
        fun told => told ++ arguments.named.map fun entry => .ok (.str entry.1, entry.2))) := by
    have iterates := iterate_run (m := m) source
    cases listed : (source.iterate m.heap).mapError OperatorFault.text with
    | error message =>
      rw [listed] at iterates
      exact ⟨m.heap.dict ref, .fails (.look has _ iterates)⟩
    | ok pairs =>
      rw [listed] at iterates
      obtain ⟨cell, stores⟩ := storePairs_reflects has text pairs
      refine ⟨cell, ?_⟩
      have both := stores.continued names
      unfold Reflects at both ⊢
      rw [bind_run, iterates]
      exact both
  unfold Universe.storeSources Arguments.tell
  generalize arguments.positional.head? = source
  cases source with
  | none => exact ⟨m.heap.dict ref, names has⟩
  | some source =>
    cases source with
    | dict other =>
      exact ⟨m.heap.dict ref, .see (.continued (storeAll_reflects has _) names)⟩
    | _ => exact pairwise _

/-- Looking up a key is looking it up in the map. -/
theorem stored?_run (has : m.HasMap ref map) (key : Value) :
    DictMethods.stored? ref key m = answering (key.expectHash.map map.get?) m := by
  unfold DictMethods.stored?
  rw [bind_run, keyFor_run]
  cases key.expectHash with
  | error message => rfl
  | ok hash =>
    rw [Except.map, ← funext has.shows_.get?]
    rfl

/-- Taking out an entry is taking it out of the map. -/
theorem remove?_reflects (has : m.HasMap ref map) (key : Value) :
    Reflects (DictMethods.remove? ref key) m ref (match key.expectHash with
      | .ok hash => (.ok (map.get? hash), map.erase hash)
      | .error message => (.error message, map)) := by
  have looks := stored?_run has key
  have hashing := keyFor_run (m := m) key
  unfold DictMethods.remove?
  cases hashes : key.expectHash with
  | error message =>
    rw [hashes] at looks
    exact .fails (.look has _ looks)
  | ok hash =>
    rw [hashes] at looks hashing
    have found : Reflects (DictMethods.stored? ref key) m ref (.ok (map.get? hash), map) :=
      .look has _ looks
    refine found.andThen fun m' has' => ?_
    refine .andThen (.look has' (.ok hash) ?_) fun m'' has'' => ?_
    · rw [keyFor_run, hashes]
    · refine (Reflects.change has'' (map.erase hash) ?_ ?_).answers fun _ => map.get? hash
      · cases (m''.heap.dict ref).position? hash <;> exact has''.thawed
      · cases place : (m''.heap.dict ref).position? hash with
        | some i => exact has''.shows_.eraseAt place
        | none =>
          rw [has''.shows_.erase_of_missing place]
          exact has''.shows_

/-- Where there is nothing to take out, nothing is changed. -/
theorem remove?_of_missing (has : m.HasMap ref map) {key : Value} {hash : HashKey}
    (hashes : key.expectHash = .ok hash) (missing : map.get? hash = none) :
    DictMethods.remove? ref key m = answering (.ok none) m := by
  have looks := stored?_run has key
  have hashing := keyFor_run (m := m) key
  rw [hashes] at looks hashing
  rw [Except.map, missing] at looks
  have place : (m.heap.dict ref).position? hash = none :=
    Option.not_isSome_iff_eq_none.mp fun placed => by
      have stored := (map.get?_isSome hash).mpr ((has.shows_.position?_isSome hash).mp placed)
      rw [missing] at stored
      cases stored
  unfold DictMethods.remove?
  rw [bind_ok looks, bind_ok hashing, bind_run, changeDict_of_thawed has.thawed,
    Heap.modifyDict_self (by rw [place])]
  rfl

theorem newList_run (items : List Value) (m : Machine) :
    Eval.newList items m = answering (.ok (.list m.heap.nextList))
      { m with heap := m.heap.addList ⟨items.toArray, false⟩ } :=
  rfl

/-- What an operator makes is put into the heap, and its refusal is an error. -/
def conclude : Except String Made → Eval Value
  | .ok made => Eval.make made
  | .error message => Eval.fail message

end Eval

namespace DictOperation

open Eval

variable {m : Machine} {ref : DictRef} {map : OrderedMap}

/-- An action does to a dict what a model does to its map, and makes what the model makes. -/
def Follows (act : Eval Value) (m : Machine) (ref : DictRef)
    (outcome : Except String Made × OrderedMap) : Prop :=
  ∃ cell, act m = conclude outcome.1 (m.withDict ref cell)
    ∧ (m.withDict ref cell).HasMap ref outcome.2

/-- The outcome of what is asked for, or the refusal to ask. -/
def outcome (asked : Except String MapOperation) (map : OrderedMap) :
    Except String Made × OrderedMap :=
  match asked with
  | .ok operation => operation.apply map
  | .error message => (.error message, map)

namespace Follows

variable {α : Type}

/-- What is done after an action that only looks. -/
theorem given {act : Eval α} {next : α → Eval Value} {value : α}
    {outcome : Except String Made × OrderedMap} (ran : act m = answering (.ok value) m)
    (follows : Follows (next value) m ref outcome) : Follows (act >>= next) m ref outcome := by
  obtain ⟨cell, ran', has⟩ := follows
  exact ⟨cell, (bind_ok ran).trans ran', has⟩

/-- After a failure nothing is done. -/
theorem refused (has : m.HasMap ref map) {act : Eval α} {next : α → Eval Value} {message : String}
    (ran : act m = answering (.error message) m) :
    Follows (act >>= next) m ref (.error message, map) := by
  refine ⟨m.heap.dict ref, ?_, ?_⟩
  · rw [m.withDict_self]
    exact bind_error ran
  · rw [m.withDict_self]
    exact has

/-- What is refused beforehand is refused on both sides. -/
theorem bind (has : m.HasMap ref map) {act : Eval α} {received : Except String α}
    {next : α → Eval Value} {ask : α → Except String MapOperation}
    (ran : act m = answering received m)
    (follows : ∀ value, received = .ok value →
      Follows (next value) m ref (outcome (ask value) map)) :
    Follows (act >>= next) m ref (outcome (received >>= ask) map) := by
  cases received with
  | error message => exact refused has ran
  | ok value => exact given ran (follows value rfl)

/-- What makes no list. -/
theorem plain {act : Eval Value} {answer : Except String Value} {after : OrderedMap}
    (reflects : Reflects act m ref (answer, after)) :
    Follows act m ref (answer.map .value, after) := by
  obtain ⟨cell, ran, has⟩ := reflects
  refine ⟨cell, ?_, has⟩
  rw [ran]
  cases answer <;> rfl

/-- What only looks, and makes no list. -/
theorem plainly (has : m.HasMap ref map) {act : Eval Value} (answer : Except String Value)
    (ran : act m = answering answer m) : Follows act m ref (answer.map .value, map) :=
  plain (.look has answer ran)

/-- What looks a key up. -/
theorem looking (has : m.HasMap ref map) {act : Eval Value} {key : Value}
    (answer : Option Value → Except String Value)
    (ran : act m = answering (key.expectHash.bind fun hash => answer (map.get? hash)) m) :
    Follows act m ref (MapOperation.looking key map fun found => (answer found).map .value) := by
  have followed := plainly has _ ran
  unfold MapOperation.looking
  cases hashes : key.expectHash with
  | error message =>
    rw [hashes] at followed
    exact followed
  | ok hash =>
    rw [hashes] at followed
    exact followed

/-- What makes a list of what is seen in the dict. -/
theorem listing (has : m.HasMap ref map) {f : Heap → List Value} {items : List Value}
    (seen : f m.heap = items) :
    Follows (Eval.readHeap f >>= Eval.newList) m ref (.ok (.list items), map) := by
  refine ⟨m.heap.dict ref, ?_, ?_⟩
  · rw [m.withDict_self, ← seen]
    rfl
  · rw [m.withDict_self]
    exact has

end Follows

section Operations

variable (has : m.HasMap ref map) (arguments : Arguments)

include has

theorem clear_follows :
    Follows (run ref (method .clear arguments)) m ref (model m (method .clear arguments) map) := by
  refine Follows.bind has (receiveNothing_run arguments) fun _ _ => ?_
  refine .plain ((Reflects.change has _ ?_ ?_).answers fun _ => .none)
  · exact has.thawed
  · exact DictCell.shows_empty _

theorem get_follows :
    Follows (run ref (method .get arguments)) m ref (model m (method .get arguments) map) := by
  refine Follows.bind has (receiveBetween_run 1 2 arguments) fun given accepted => ?_
  obtain ⟨low, high⟩ := Arguments.length_of_expect accepted
  match given, low, high with
  | key :: rest, _, _ =>
    have looks : Follows (do
          return (← DictMethods.stored? ref key).getD (rest.headD .none)) m ref
        (MapOperation.apply (.get key (rest.headD .none)) map) := by
      refine .looking has (fun found => .ok (found.getD (rest.headD .none))) ?_
      rw [bind_run, stored?_run has]
      cases key.expectHash <;> rfl
    cases rest <;> exact looks

theorem items_follows :
    Follows (run ref (method .items arguments)) m ref (model m (method .items arguments) map) := by
  refine Follows.bind has (receiveNothing_run arguments) fun _ _ => ?_
  refine .listing has ?_
  rw [has.shows_.pairs]

theorem keys_follows :
    Follows (run ref (method .keys arguments)) m ref (model m (method .keys arguments) map) := by
  refine Follows.bind has (receiveNothing_run arguments) fun _ _ => ?_
  exact .listing has has.shows_.keys

theorem values_follows :
    Follows (run ref (method .values arguments)) m ref
      (model m (method .values arguments) map) := by
  refine Follows.bind has (receiveNothing_run arguments) fun _ _ => ?_
  exact .listing has has.shows_.values

/-- What is done with the value that was taken out, or without one. -/
theorem pop_from {key : Value} {next : Option Value → Eval Value} {default : Option Value}
    {shown : String} (kept : ∀ value, next (some value) = Pure.pure value)
    (missing : Follows (next none) m ref
      (default.elim (.error s!"pop: missing key {shown}") (.ok ∘ .value), map)) :
    Follows (DictMethods.remove? ref key >>= next) m ref
      (MapOperation.apply (.pop key default shown) map) := by
  have removes := remove?_reflects has key
  rw [MapOperation.apply]
  cases hashes : key.expectHash with
  | error message =>
    rw [hashes] at removes
    obtain ⟨cell, ran, has'⟩ := removes
    exact ⟨cell, bind_error ran, has'⟩
  | ok hash =>
    rw [hashes] at removes
    dsimp only at removes ⊢
    cases found : map.get? hash with
    | some value =>
      rw [found] at removes
      obtain ⟨cell, ran, has'⟩ := removes
      refine ⟨cell, (bind_ok ran).trans ?_, has'⟩
      rw [kept]
      rfl
    | none =>
      have followed := Follows.given (remove?_of_missing has hashes found) missing
      cases default <;> exact followed

theorem pop_follows :
    Follows (run ref (method .pop arguments)) m ref (model m (method .pop arguments) map) := by
  refine Follows.bind has (receiveBetween_run 1 2 arguments) fun given accepted => ?_
  obtain ⟨low, high⟩ := Arguments.length_of_expect accepted
  match given, low, high with
  | key :: rest, _, _ =>
    cases rest with
    | nil => exact pop_from has (fun _ => rfl) (.plainly has (.error _) rfl)
    | cons default _ => exact pop_from has (fun _ => rfl) (.plainly has (.ok default) rfl)

theorem setdefault_follows :
    Follows (run ref (method .setdefault arguments)) m ref
      (model m (method .setdefault arguments) map) := by
  refine Follows.bind has (receiveBetween_run 1 2 arguments) fun given accepted => ?_
  obtain ⟨low, high⟩ := Arguments.length_of_expect accepted
  match given, low, high with
  | key :: rest, _, _ =>
    have looks := stored?_run has key
    have stores := storeInDict_reflects has key (rest.headD .none)
    have follows : Follows (do
          match ← DictMethods.stored? ref key with
          | some value => return value
          | none =>
            let value := rest.headD .none
            Eval.storeInDict ref key value
            return value) m ref
        (MapOperation.apply (.setdefault key (rest.headD .none)) map) := by
      rw [MapOperation.apply]
      cases hashes : key.expectHash with
      | error message =>
        rw [hashes] at looks
        exact .refused has looks
      | ok hash =>
        rw [hashes] at looks
        refine .given looks ?_
        dsimp only
        cases map.get? hash with
        | some value => exact .plainly has (.ok value) rfl
        | none =>
          have followed := Follows.plain (stores.answers fun _ => rest.headD .none)
          cases stored : map.store key (rest.headD .none) with
          | ok after =>
            rw [stored] at followed
            exact followed
          | error message =>
            rw [stored] at followed
            exact followed
    cases rest <;> exact follows

theorem update_follows :
    Follows (run ref (method .update arguments)) m ref
      (model m (method .update arguments) map) := by
  obtain ⟨cell, stores⟩ := storeSources_reflects has
    (fun _ _ => "update: dictionary update sequence element is not a pair") arguments
  have followed := Follows.plain (stores.answers fun _ => .none)
  unfold run DictMethods.run model requested
  dsimp only
  by_cases many : arguments.positional.length > 1
  · rw [if_pos many, if_pos many]
    exact .refused has rfl
  · rw [if_neg many, if_neg many]
    generalize arguments.tell m.heap _ = told at followed ⊢
    cases told with
    | error message => exact followed
    | ok told =>
      have applied : (MapOperation.update told).apply map
          = (((map.storeAll told).1.map fun _ => .none).map .value, (map.storeAll told).2) := by
        rw [MapOperation.apply]
        dsimp only
        cases (map.storeAll told).1 <;> rfl
      show Follows _ m ref ((MapOperation.update told).apply map)
      rw [applied]
      exact followed

theorem assign_follows (key value : Value) :
    Follows (run ref (assign key value)) m ref (model m (assign key value) map) := by
  have followed := Follows.plain ((storeInDict_reflects has key value).answers fun _ => .none)
  show Follows _ m ref (MapOperation.apply (.assign key value) map)
  rw [MapOperation.apply]
  cases stored : map.store key value with
  | ok after =>
    rw [stored] at followed
    exact followed
  | error message =>
    rw [stored] at followed
    exact followed

theorem element_follows (key : Value) :
    Follows (run ref (element key)) m ref (model m (element key) map) := by
  let answer (found : Option Value) : Except String Value :=
    found.elim (.error s!"key {key.repr m.heap} not in dict") .ok
  have looks : run ref (element key) m
      = answering (key.expectHash.bind fun hash => answer (map.get? hash)) m := by
    refine (operate_run _ m).trans (congrArg (answering · m) ?_)
    unfold Value.index Value.expectHash
    cases key.keyFor with
    | error fault => rfl
    | ok hash =>
      show _ = answer (map.get? hash)
      rw [← has.shows_.get? hash]
      dsimp only [bind, Except.bind]
      cases (m.heap.dict ref).find? hash <;> rfl
  have asked : model m (element key) map
      = MapOperation.looking key map fun found => (answer found).map .value := by
    show MapOperation.apply (.element key (key.repr m.heap)) map = _
    rw [MapOperation.apply]
    congr 1
    funext found
    cases found <;> rfl
  rw [asked]
  exact Follows.looking has answer looks

theorem contains_follows (key : Value) :
    Follows (run ref (contains key)) m ref (model m (contains key) map) := by
  refine Follows.looking has (fun found => .ok (.bool found.isSome)) ?_
  show (Eval.operate (fun h => Value.binary h .in_ key (.dict ref)) >>= Eval.make) m = _
  have asks : Value.binary m.heap .in_ key (.dict ref)
      = ((key.keyFor >>= fun hash => Pure.pure ((m.heap.dict ref).position? hash).isSome)
        >>= fun found => Pure.pure (.value (.bool found))) := by
    cases key <;> rfl
  rw [bind_run, operate_run, asks, Value.expectHash]
  cases key.keyFor with
  | error fault => rfl
  | ok hash =>
    have found : ((m.heap.dict ref).position? hash).isSome = (map.get? hash).isSome := by
      rw [Bool.eq_iff_iff, has.shows_.position?_isSome, map.get?_isSome]
    show EStateM.Result.ok (Value.bool ((m.heap.dict ref).position? hash).isSome) m = _
    rw [found]
    rfl

theorem length_follows : Follows (run ref length) m ref (model m length map) := by
  have counted : run ref length m
      = answering (.ok (.int (Int64.ofNat map.order.length))) m := by
    rw [← has.shows_.size]
    rfl
  exact .plainly has _ counted

end Operations

/-- Every operation on a dict that is not frozen does to its map what is asked for. -/
theorem follows (has : m.HasMap ref map) (operation : DictOperation) :
    Follows (operation.run ref) m ref (operation.model m map) := by
  cases operation with
  | method method arguments =>
    cases method with
    | clear => exact clear_follows has arguments
    | get => exact get_follows has arguments
    | items => exact items_follows has arguments
    | keys => exact keys_follows has arguments
    | pop => exact pop_follows has arguments
    | setdefault => exact setdefault_follows has arguments
    | update => exact update_follows has arguments
    | values => exact values_follows has arguments
  | assign key value => exact assign_follows has key value
  | element key => exact element_follows has key
  | contains key => exact contains_follows has key
  | length => exact length_follows has

end DictOperation

/-- An answer is what a model answers: a new list has the elements that the model says. -/
def Made.Answers (m : Machine) (answer : Except EvalError Value) : Except String Made → Prop
  | .ok (.value v) => answer = .ok v
  | .ok (.list items) => ∃ ref, answer = .ok (.list ref) ∧ m.HasItems ref items
  | .error message => answer = .error (.ofMessage message)

namespace DictOperation

variable {m : Machine} {ref : DictRef} {map : OrderedMap}

/-- An operation leaves a dict that can be changed with the map of the model. -/
theorem attempt_has (has : m.HasMap ref map) (operation : DictOperation) :
    ∃ answer m', Eval.attempt (operation.run ref) m = .ok answer m'
      ∧ m'.HasMap ref (operation.model m map).2
      ∧ Made.Answers m' answer (operation.model m map).1 := by
  obtain ⟨cell, ran, has'⟩ := follows has operation
  generalize operation.model m map = outcome at *
  obtain ⟨answer, after⟩ := outcome
  cases answer with
  | error message =>
    exact ⟨_, _, Eval.attempt_of_answering (.error message) ran, has', rfl⟩
  | ok made =>
    cases made with
    | value v => exact ⟨_, _, Eval.attempt_of_answering (.ok v) ran, has', rfl⟩
    | list items =>
      have listed : operation.run ref m
          = Eval.answering (.ok (.list (m.withDict ref cell).heap.nextList)) _ :=
        ran.trans (Eval.newList_run items (m.withDict ref cell))
      exact ⟨_, _, Eval.attempt_of_answering _ listed, has'.addList, _, rfl,
        Machine.hasItems_addList items _⟩

/-- Operations on a dict that is not frozen answer as the pure model does, and leave the entries as
it says. -/
theorem refines (ref : DictRef) :
    Course.Refines (run ref) (Machine.SparesDict ref) (Machine.HasMap ref) model
      fun moment => Made.Answers moment.after moment.answer :=
  Course.refines (fun operation has => attempt_has has operation) fun has spares =>
    has.spared spares

end DictOperation

/-! ## New dicts -/

namespace Heap

variable {h : Heap}

theorem dict_nextDict : h.dict h.nextDict = DictCell.empty := by
  unfold dict nextDict
  rw [Array.getD_eq_getD_getElem?, Array.getElem?_eq_none (Nat.le_refl _)]
  rfl

/-- A new dict without entries is seen by nothing. -/
theorem dict_addDict_empty (ref : DictRef) : (h.addDict .empty).dict ref = h.dict ref := by
  rw [dict_addDict]
  split
  · rename_i new
    rw [new, dict_nextDict]
  · rfl

end Heap

theorem Arguments.tell_addDict (h : Heap) (refusal : Value → String) (arguments : Arguments) :
    arguments.tell (h.addDict .empty) refusal = arguments.tell h refusal := by
  have elements : Value.tells (h.addDict .empty) refusal = Value.tells h refusal := by
    funext pair
    unfold Value.tells
    cases pair <;> rfl
  have iterated (source : Value) : source.iterate (h.addDict .empty) = source.iterate h := by
    cases source with
    | dict ref => rw [Value.iterate, Heap.dict_addDict_empty, Value.iterate]
    | _ => rfl
  have told : tellSource (h.addDict .empty) refusal arguments.positional.head?
      = tellSource h refusal arguments.positional.head? := by
    unfold tellSource
    split
    · rfl
    · rw [Heap.dict_addDict_empty]
    · rw [iterated, elements]
  rw [tell, told, tell]

/-- A dict has stored some entries one after the other, and nothing else. -/
def Machine.HasStored (m : Machine) (dict : Value) (stored : List (Value × Value)) : Prop :=
  ∃ ref map, dict = .dict ref ∧ OrderedMap.empty.storeAll (stored.map .ok) = (.ok (), map)
    ∧ m.HasMap ref map

/-- The machine with a new dict that has no entries. -/
def Machine.withNewDict (m : Machine) : Machine :=
  { m with heap := m.heap.addDict .empty }

/-- A new dict shows the map of its entries. -/
theorem Machine.hasMap_addDict (m : Machine) {cell : DictCell} {map : OrderedMap}
    (thawed : cell.frozen = false) (shows_ : cell.Shows map) :
    Machine.HasMap m.heap.nextDict { m with heap := m.heap.addDict cell } map := by
  have here : (m.heap.addDict cell).dict m.heap.nextDict = cell := by
    rw [Heap.dict_addDict, if_pos rfl]
  refine ⟨?_, ?_, ?_⟩
  · rw [Heap.extent_addDict]
    exact Nat.lt_succ_self _
  · rw [here]
    exact thawed
  · rw [here]
    exact shows_

theorem Machine.hasMap_withNewDict (m : Machine) :
    m.withNewDict.HasMap m.heap.nextDict .empty :=
  m.hasMap_addDict rfl (DictCell.shows_empty _)

/-- What the arguments of `dict` tell a new dict to store. -/
def Arguments.tellNew (h : Heap) (refusal : Value → String) (arguments : Arguments) :
    Except String (List (Except String (Value × Value))) :=
  if arguments.positional.length > 1 then
    .error ((ArgumentFault.tooMany arguments.positional.length 1).text "dict")
  else arguments.tell h refusal

/-- How `dict` refuses an element that is no pair. -/
def Value.noPair (pair : Value) (h : Heap) : String :=
  s!"dict: element is not a pair: {pair.repr h}"

/-- A new dict shows the map of what the arguments tell, or is refused as storing that is.  A
message shows an element that is no pair as the heap is by then. -/
theorem Universe.newDict_shows (arguments : Arguments) (m : Machine) :
    ∃ h, match OrderedMap.empty.storeTold (arguments.tellNew m.heap (Value.noPair · h)) with
      | (.ok (), map) => ∃ m', Universe.newDict arguments m = .ok (.dict m.heap.nextDict) m'
          ∧ m'.HasMap m.heap.nextDict map
      | (.error message, _) => ∃ m', Universe.newDict arguments m
          = .error (.error (.ofMessage message)) m' := by
  by_cases many : arguments.positional.length > 1
  · have asked (refusal : Value → String) : arguments.tellNew m.heap refusal
        = .error ((ArgumentFault.tooMany arguments.positional.length 1).text "dict") := if_pos many
    refine ⟨m.heap, ?_⟩
    rw [asked]
    refine ⟨m, ?_⟩
    unfold Universe.newDict
    dsimp only
    rw [if_pos many]
    rfl
  · have asked (refusal : Value → String) :
        arguments.tellNew m.heap refusal = arguments.tell m.heap refusal := if_neg many
    obtain ⟨shown, cell, ran, has⟩ :=
      Eval.storeSources_reflects m.hasMap_withNewDict Value.noPair arguments
    have told : arguments.tell m.withNewDict.heap
          (Value.noPair · (m.withNewDict.withDict m.heap.nextDict shown).heap)
        = arguments.tell m.heap _ :=
      Arguments.tell_addDict m.heap _ arguments
    refine ⟨(m.withNewDict.withDict m.heap.nextDict shown).heap, ?_⟩
    rw [asked, ← told]
    have stored : Universe.newDict arguments m = (Universe.storeSources m.heap.nextDict
        (fun pair => Eval.readHeap pair.noPair) arguments.positional.head? arguments.named >>=
          fun _ => Pure.pure (.dict m.heap.nextDict)) m.withNewDict := by
      unfold Universe.newDict
      dsimp only
      rw [if_neg many]
      rfl
    rw [stored]
    generalize OrderedMap.empty.storeTold _ = outcome at ran has ⊢
    obtain ⟨answer, map⟩ := outcome
    cases answer with
    | ok _ => exact ⟨_, Eval.bind_ok ran, has⟩
    | error message => exact ⟨_, Eval.bind_error ran⟩

end PixelApplet
