import PixelApplet.Proofs.Library.Mappings

/-!
# Changes that fail

An operation on a list that fails has changed nothing, whether the list is frozen or not.  So has
one on a dict, with one exception: pairs are stored into a dict one after the other up to the first
that is refused, and the pairs before it stay.

An assignment that extends an element in place does two things, the second of which is putting the
element where it was.  That does not fail if the object still holds the element.
-/

namespace PixelApplet

namespace Eval

variable {α β : Type} {m : Machine}

/-- On a machine, an action that fails has changed nothing. -/
def Atomic (act : Eval α) (m : Machine) : Prop :=
  ∀ abort m', act m = .error abort m' → m' = m

namespace Atomic

variable {act : Eval α} {next : α → Eval β}

theorem of_after (same : act.after m = m) : Atomic act m := by
  intro abort m' failed
  rwa [after_error failed] at same

theorem of_answering {outcome : Except String α} (ran : act m = answering outcome m) :
    Atomic act m := by
  apply of_after
  cases outcome with
  | ok value => exact after_ok ran
  | error message => exact after_error ran

theorem followed (first : Atomic act m)
    (rest : ∀ value m', act m = .ok value m' →
      ∀ abort m'', next value m' = .error abort m'' → m'' = m) :
    Atomic (act >>= next) m := by
  intro abort m'' failed
  rw [bind_run] at failed
  cases ran : act m with
  | ok value m' =>
    rw [ran] at failed
    exact rest value m' ran abort m'' failed
  | error abort' m' =>
    rw [ran] at failed
    cases failed
    exact first abort m'' ran

/-- What is read or refused beforehand changes nothing. -/
theorem given {outcome : Except String α} (ran : act m = answering outcome m)
    (rest : ∀ value, Atomic (next value) m) : Atomic (act >>= next) m := by
  cases outcome with
  | ok value =>
    intro abort m' failed
    rw [bind_ok ran] at failed
    exact rest value abort m' failed
  | error message =>
    intro abort m' failed
    rw [bind_error ran] at failed
    cases failed
    rfl

theorem see {f : Heap → α} (rest : Atomic (next (f m.heap)) m) :
    Atomic (Eval.readHeap f >>= next) m :=
  rest

/-- An answer does not fail. -/
theorem answers (atomic : Atomic act m) (f : α → β) :
    Atomic (act >>= fun value => Pure.pure (f value)) m :=
  atomic.followed fun _ _ _ _ _ failed => nomatch failed

theorem checked {c : Prop} [Decidable c] {message : String} {next : Eval α}
    (atomic : Atomic next m) :
    Atomic (if c then (Eval.fail message : Eval PUnit) >>= fun _ => next else next) m := by
  split
  · exact .of_after rfl
  · exact atomic

theorem changeList (ref : ListRef) (f : Array Value → Array Value) :
    Atomic (Eval.changeList ref f) m := by
  intro abort m' failed
  cases frozen : (m.heap.list ref).frozen with
  | true =>
    rw [changeList_of_frozen frozen] at failed
    cases failed
    rfl
  | false =>
    rw [changeList_of_thawed frozen] at failed
    cases failed

theorem changeDict (ref : DictRef) (f : DictCell → DictCell) :
    Atomic (Eval.changeDict ref f) m := by
  intro abort m' failed
  cases frozen : (m.heap.dict ref).frozen with
  | true =>
    rw [changeDict_of_frozen frozen] at failed
    cases failed
    rfl
  | false =>
    rw [changeDict_of_thawed frozen] at failed
    cases failed

theorem storeInDict (ref : DictRef) (key value : Value) :
    Atomic (Eval.storeInDict ref key value) m :=
  .given (keyFor_run key) fun _ => .changeDict ref _

/-- What an operator makes is put into the heap without fail. -/
theorem produce (f : Heap → Value.Outcome Made) : Atomic (Eval.produce f) m := by
  apply given (operate_run f m)
  intro made abort m' failed
  cases made with
  | value v => cases failed
  | list items => cases failed

theorem assignIndex (object key value : Value) : Atomic (Eval.assignIndex object key value) m := by
  cases object with
  | list ref => exact .see (.given (accept_run _ _ _) fun _ => .changeList ref _)
  | dict ref => exact .storeInDict ref key value
  | _ => exact .of_after rfl

end Atomic

end Eval

open Eval

/-! ## Lists -/

namespace ListMethods

theorem pop_atomic (ref : ListRef) (given : List Value) (m : Machine) :
    Atomic (pop ref given) m := by
  apply Atomic.see
  cases given with
  | nil => exact .checked ((Atomic.changeList ref _).answers _)
  | cons value rest =>
    exact .given (intArgument_run value) fun _ => .checked ((Atomic.changeList ref _).answers _)

theorem run_atomic (method : ListMethod) (ref : ListRef) (arguments : Arguments) (m : Machine) :
    Atomic (run method ref arguments) m := by
  cases method with
  | append => exact .given (receiveOne_run arguments) fun _ => (Atomic.changeList ref _).answers _
  | clear =>
    exact .given (receiveNothing_run arguments) fun _ => (Atomic.changeList ref _).answers _
  | extend =>
    exact .given (receiveOne_run arguments) fun given =>
      .given (iterate_run given) fun _ => (Atomic.changeList ref _).answers _
  | index =>
    apply Atomic.given (receiveOne_run arguments)
    intro wanted
    apply Atomic.see
    cases (m.heap.list ref).items.findIdx? fun v => v.equal m.heap wanted with
    | some i => exact .of_after rfl
    | none => exact .of_after rfl
  | insert =>
    apply Atomic.given (receiveBetween_run 2 2 arguments)
    intro given
    split
    · exact .given (intArgument_run _) fun _ => (Atomic.changeList ref _).answers _
    · exact .of_after rfl
  | pop => exact .given (receiveBetween_run 0 1 arguments) fun given => pop_atomic ref given m
  | remove =>
    apply Atomic.given (receiveOne_run arguments)
    intro target
    apply Atomic.see
    cases (m.heap.list ref).items.findIdx? fun v => v.equal m.heap target with
    | some i => exact (Atomic.changeList ref _).answers _
    | none => exact .of_after rfl

end ListMethods

theorem ListOperation.run_atomic (ref : ListRef) (operation : ListOperation) (m : Machine) :
    Atomic (operation.run ref) m := by
  cases operation with
  | method method arguments => exact ListMethods.run_atomic method ref arguments m
  | assign index value => exact (Atomic.assignIndex (.list ref) index value).answers _
  | extend value =>
    exact .given (iterate_run value) fun _ => (Atomic.changeList ref _).answers _
  | element index => exact .of_answering (operate_run _ m)

/-! ## Dicts -/

namespace Eval

variable {α β : Type} {m : Machine} {ref : DictRef}

/-- Of two steps that change nothing, neither does. -/
theorem after_bind_of_same {act : Eval α} {next : α → Eval β} (same : act.after m = m)
    (rest : ∀ value, (next value).after m = m) : (act >>= next).after m = m := by
  cases ran : act m with
  | ok value m' =>
    rw [after_ok ran] at same
    subst same
    have goes : (act >>= next) m' = next value m' := bind_ok ran
    have last := rest value
    unfold after at *
    rw [goes]
    exact last
  | error abort m' =>
    rw [after_error ran] at same
    rw [after_error (bind_error ran), same]

theorem after_answering {act : Eval α} {outcome : Except String α}
    (ran : act m = answering outcome m) : act.after m = m := by
  cases outcome with
  | ok value => exact after_ok ran
  | error message => exact after_error ran

/-- Nothing is stored in a frozen dict. -/
theorem storeInDict_of_frozen (frozen : (m.heap.dict ref).frozen = true) (key value : Value) :
    ∃ message, Eval.storeInDict ref key value m = .error (.error (.ofMessage message)) m := by
  unfold Eval.storeInDict
  rw [bind_run, keyFor_run]
  cases key.expectHash with
  | error message => exact ⟨message, rfl⟩
  | ok hash => exact ⟨_, changeDict_of_frozen frozen _⟩

theorem storeAll_of_frozen (frozen : (m.heap.dict ref).frozen = true)
    (entries : List (Value × Value)) : (Universe.storeAll ref entries).after m = m := by
  cases entries with
  | nil => rfl
  | cons entry rest =>
    obtain ⟨message, failed⟩ := storeInDict_of_frozen frozen entry.1 entry.2
    exact after_error (bind_error failed)

theorem storePairs_of_frozen (frozen : (m.heap.dict ref).frozen = true) (text : String)
    (pairs : List Value) :
    (Universe.storePairs ref (fun _ => Pure.pure text) pairs).after m = m := by
  cases pairs with
  | nil => rfl
  | cons pair rest =>
    rw [Universe.storePairs]
    apply after_bind_of_same rfl
    intro elements
    split
    · obtain ⟨message, failed⟩ := storeInDict_of_frozen frozen _ _
      exact after_error (bind_error failed)
    · rfl

theorem storeSources_of_frozen (frozen : (m.heap.dict ref).frozen = true) (text : String)
    (source : Option Value) (named : List (String × Value)) :
    (Universe.storeSources ref (fun _ => Pure.pure text) source named).after m = m := by
  have pairwise (source : Value) (names : List (Value × Value)) : (do
        Universe.storePairs ref (fun _ => Pure.pure text) (← Eval.iterate source)
        Universe.storeAll ref names).after m = m := by
    apply after_bind_of_same (after_answering (iterate_run source))
    intro pairs
    apply after_bind_of_same (storePairs_of_frozen frozen text pairs)
    exact fun _ => storeAll_of_frozen frozen names
  cases source with
  | none => exact storeAll_of_frozen frozen _
  | some source =>
    cases source with
    | dict other =>
      apply after_bind_of_same rfl
      intro pairs
      apply after_bind_of_same (storeAll_of_frozen frozen pairs)
      exact fun _ => storeAll_of_frozen frozen _
    | _ => exact pairwise _ _

theorem storeInDict_of_hashed (thawed : (m.heap.dict ref).frozen = false) {key : Value}
    {hash : HashKey} (hashes : key.hashKey = .ok hash) (value : Value) :
    ∃ m', Eval.storeInDict ref key value m = .ok ⟨⟩ m' ∧ (m'.heap.dict ref).frozen = false := by
  have expected : key.expectHash = .ok hash := by
    rw [Value.expectHash, Value.keyFor, hashes]
    rfl
  have stored : Eval.storeInDict ref key value m = .ok ⟨⟩ _ :=
    (bind_of_ok (keyFor_run key) expected _).trans (changeDict_of_thawed thawed _)
  refine ⟨_, stored, ?_⟩
  rw [Heap.dict_modifyDict]
  split
  · rw [DictCell.insert]
    split <;> exact thawed
  · exact thawed

/-- Entries whose keys can be hashed are stored one and all. -/
theorem storeAll_of_hashed (thawed : (m.heap.dict ref).frozen = false)
    {entries : List (Value × Value)}
    (hashed : ∀ entry ∈ entries, ∃ hash, entry.1.hashKey = .ok hash) :
    ∃ m', Universe.storeAll ref entries m = .ok ⟨⟩ m' ∧ (m'.heap.dict ref).frozen = false := by
  induction entries generalizing m with
  | nil => exact ⟨m, rfl, thawed⟩
  | cons entry rest ih =>
    obtain ⟨hash, hashes⟩ := hashed entry List.mem_cons_self
    obtain ⟨between, stored, thawed⟩ := storeInDict_of_hashed thawed hashes entry.2
    obtain ⟨m', storedAll, thawed⟩ := ih thawed fun other member =>
      hashed other (List.mem_cons_of_mem entry member)
    exact ⟨m', (bind_ok stored).trans storedAll, thawed⟩

end Eval

namespace DictMethods

variable {m : Machine} {ref : DictRef}

theorem stored?_reads (key : Value) : stored? ref key m
    = answering (key.expectHash.map fun hash =>
        ((m.heap.dict ref).find? hash).map DictEntry.value) m := by
  unfold stored?
  rw [bind_run, keyFor_run]
  cases key.expectHash <;> rfl

theorem position?_of_find?_none {cell : DictCell} {hash : HashKey}
    (missing : cell.find? hash = none) : cell.position? hash = none := by
  rw [DictCell.find?, Array.find?_eq_none] at missing
  exact Array.findIdx?_eq_none_iff.mpr fun entry member =>
    Bool.eq_false_iff.mpr (missing entry member)

/-- Where there was nothing to take out, nothing is changed. -/
theorem remove?_of_none {key : Value} {m' : Machine} (ran : remove? ref key m = .ok none m') :
    m' = m := by
  unfold remove? at ran
  rw [bind_run, stored?_reads] at ran
  cases hashes : key.expectHash with
  | error message =>
    rw [hashes] at ran
    cases ran
  | ok hash =>
    have hashing : Eval.keyFor key m = .ok hash m := by
      rw [keyFor_run, hashes]
      rfl
    rw [hashes] at ran
    dsimp only [answering, Except.map] at ran
    rw [bind_ok hashing, bind_run] at ran
    cases frozen : (m.heap.dict ref).frozen with
    | true =>
      rw [changeDict_of_frozen frozen] at ran
      cases ran
    | false =>
      rw [changeDict_of_thawed frozen] at ran
      injection ran with missing changed
      have nowhere := position?_of_find?_none (Option.map_eq_none_iff.mp missing)
      rw [← changed, Heap.modifyDict_self]
      rw [nowhere]

theorem remove?_atomic (key : Value) : Atomic (remove? ref key) m := by
  apply Atomic.given (stored?_reads key)
  intro found
  apply Atomic.given (keyFor_run key)
  intro hash
  exact (Atomic.changeDict ref _).answers _

theorem newList_atomic (items : List Value) : Atomic (Eval.newList items) m :=
  fun _ _ failed => nomatch failed

/-- Storing what a dict and names say succeeds if the dict may be changed. -/
theorem storeSources_of_no_pairs (thawed : (m.heap.dict ref).frozen = false)
    {source : Option Value}
    (noPairs : ∀ v ∈ source, ∃ other, v = .dict other ∧ (m.heap.dict other).Keyed) (text : String)
    (named : List (String × Value)) :
    ∃ m', Universe.storeSources ref (fun _ => Pure.pure text) source named m = .ok ⟨⟩ m' := by
  have hashedNames (entry : Value × Value)
      (member : entry ∈ named.map fun entry => (Value.str entry.1, entry.2)) :
      ∃ hash, entry.1.hashKey = .ok hash := by
    obtain ⟨given, _, rfl⟩ := List.mem_map.mp member
    exact ⟨.str given.1, rfl⟩
  cases source with
  | none =>
    obtain ⟨m', stored, _⟩ := storeAll_of_hashed thawed hashedNames
    exact ⟨m', stored⟩
  | some source =>
    obtain ⟨other, rfl, keyed⟩ := noPairs source rfl
    have hashedPairs (entry : Value × Value) (member : entry ∈ (m.heap.dict other).pairs) :
        ∃ hash, entry.1.hashKey = .ok hash := by
      obtain ⟨stored, present, rfl⟩ := List.mem_map.mp member
      exact ⟨_, keyed.hashes _ (List.mem_map_of_mem present)⟩
    obtain ⟨between, copied, thawed⟩ := storeAll_of_hashed thawed hashedPairs
    obtain ⟨m', stored, _⟩ := storeAll_of_hashed thawed hashedNames
    exact ⟨m', (bind_ok copied).trans stored⟩

end DictMethods

namespace DictOperation

/-- An operation copies another dict into its own. -/
def Copies (other : DictRef) : DictOperation → Prop
  | method .update arguments => arguments.positional.head? = some (.dict other)
  | _ => False

/-- An operation stores pairs into its dict one after the other. -/
def StoresPairs : DictOperation → Prop
  | method .update arguments =>
    ∃ source ∈ arguments.positional.head?, ∀ other, source ≠ .dict other
  | _ => False

end DictOperation

namespace DictMethods

variable {m : Machine} {ref : DictRef}

theorem update_atomic (arguments : Arguments)
    (keyed : ∀ other, (DictOperation.method .update arguments).Copies other →
      (m.heap.dict other).Keyed)
    (whole : (m.heap.dict ref).frozen = true
      ∨ ¬(DictOperation.method .update arguments).StoresPairs) :
    Atomic (run .update ref arguments) m := by
  apply Atomic.checked
  apply Atomic.answers
  cases frozen : (m.heap.dict ref).frozen with
  | true => exact .of_after (storeSources_of_frozen frozen _ _ _)
  | false =>
    have noPairs : ∀ v ∈ arguments.positional.head?,
        ∃ other, v = .dict other ∧ (m.heap.dict other).Keyed := by
      -- a source that is no dict would be one of pairs
      intro v given
      by_contra noDict
      rcases whole with whole | whole
      · exact Bool.noConfusion (frozen.symm.trans whole)
      · apply whole
        apply Exists.intro v
        constructor
        · exact given
        · rintro other rfl
          exact noDict ⟨other, rfl, keyed other given⟩
    intro abort m' failed
    obtain ⟨m'', stored⟩ := storeSources_of_no_pairs frozen noPairs _ arguments.named
    cases stored.symm.trans failed

theorem run_atomic (method : DictMethod) (arguments : Arguments)
    (keyed : ∀ other, (DictOperation.method method arguments).Copies other →
      (m.heap.dict other).Keyed)
    (whole : (m.heap.dict ref).frozen = true
      ∨ ¬(DictOperation.method method arguments).StoresPairs) :
    Atomic (run method ref arguments) m := by
  cases method with
  | clear =>
    exact .given (receiveNothing_run arguments) fun _ => (Atomic.changeDict ref _).answers _
  | get =>
    apply Atomic.given (receiveBetween_run 1 2 arguments)
    intro given
    cases given with
    | nil => exact .of_after rfl
    | cons key rest => exact .given (stored?_reads key) fun _ => .of_after rfl
  | items => exact .given (receiveNothing_run arguments) fun _ => .see (newList_atomic _)
  | keys => exact .given (receiveNothing_run arguments) fun _ => .see (newList_atomic _)
  | values => exact .given (receiveNothing_run arguments) fun _ => .see (newList_atomic _)
  | pop =>
    apply Atomic.given (receiveBetween_run 1 2 arguments)
    intro given
    cases given with
    | nil => exact .of_after rfl
    | cons key rest =>
      apply (remove?_atomic key).followed
      intro found m' ran abort m'' failed
      cases found with
      | some value => cases failed
      | none =>
        rw [← remove?_of_none ran]
        cases rest with
        | nil =>
          cases failed
          rfl
        | cons default _ => cases failed
  | setdefault =>
    apply Atomic.given (receiveBetween_run 1 2 arguments)
    intro given
    cases given with
    | nil => exact .of_after rfl
    | cons key rest =>
      apply Atomic.given (stored?_reads key)
      intro found
      cases found with
      | some value => exact .of_after rfl
      | none => exact (Atomic.storeInDict ref key _).answers _
  | update => exact update_atomic arguments keyed whole

end DictMethods

/-- An operation on a dict that fails has changed nothing, if the dict is frozen or the operation
does not store pairs. -/
theorem DictOperation.run_atomic {m : Machine} {ref : DictRef} (operation : DictOperation)
    (keyed : ∀ other, operation.Copies other → (m.heap.dict other).Keyed)
    (whole : (m.heap.dict ref).frozen = true ∨ ¬operation.StoresPairs) :
    Atomic (operation.run ref) m := by
  cases operation with
  | method method arguments => exact DictMethods.run_atomic method arguments keyed whole
  | assign key value => exact (Atomic.assignIndex (.dict ref) key value).answers _
  | element key => exact .of_answering (operate_run _ m)
  | contains key => exact .produce _
  | length => exact .of_after rfl

/-! ## Pairs that stay -/

/-- What is stored before something is refused. -/
theorem OrderedMap.stored_before {told : List (Except String (Value × Value))}
    {map after : OrderedMap} {message : String}
    (refused : map.storeAll told = (.error message, after)) :
    ∃ (stored : List (Value × Value)) (rest : List (Except String (Value × Value))),
      told = stored.map .ok ++ rest
        ∧ map.storeAll (stored.map .ok) = (.ok (), after) := by
  induction told generalizing map with
  | nil => cases refused
  | cons first told ih =>
    cases first with
    | error fault =>
      cases refused
      exact ⟨[], .error message :: told, rfl, rfl⟩
    | ok entry =>
      rw [OrderedMap.storeAll] at refused
      cases stores : map.store entry.1 entry.2 with
      | error fault =>
        rw [stores] at refused
        cases refused
        exact ⟨[], .ok entry :: told, rfl, rfl⟩
      | ok between =>
        rw [stores] at refused
        obtain ⟨stored, rest, rfl, last⟩ := ih refused
        refine ⟨entry :: stored, rest, rfl, ?_⟩
        rw [List.map_cons, OrderedMap.storeAll, stores]
        exact last

namespace DictMethods

variable {m : Machine} {ref : DictRef} {map : OrderedMap}

/-- How storing refuses an element that is no pair. -/
def noPair : String :=
  "update: dictionary update sequence element is not a pair"

/-- What the arguments of `update` tell a dict to store. -/
def told (h : Heap) (arguments : Arguments) :
    Except String (List (Except String (Value × Value))) :=
  if arguments.positional.length > 1 then .error "update: got more than one positional argument"
  else arguments.tell h fun _ => noPair

theorem requested_update (h : Heap) (arguments : Arguments) :
    DictOperation.requested h (.method .update arguments)
      = (told h arguments).map MapOperation.update := by
  rw [DictOperation.requested, told]
  by_cases many : arguments.positional.length > 1
  · rw [if_pos many, if_pos many]
    rfl
  · rw [if_neg many, if_neg many]
    show (arguments.tell h (fun _ => noPair) >>= fun entries =>
      Pure.pure (MapOperation.update entries)) = _
    cases arguments.tell h (fun _ => noPair) <;> rfl

/-- Storing that fails has stored what it was told first, and has changed nothing else. -/
theorem update_keeps (has : m.HasMap ref map) (arguments : Arguments) {abort : Abort} {m' : Machine}
    (failed : run .update ref arguments m = .error abort m') :
    ∃ (stored : List (Value × Value)) (rest : List (Except String (Value × Value)))
      (after : OrderedMap),
      (told m.heap arguments = .ok (stored.map .ok ++ rest) ∨ stored = [])
      ∧ map.storeAll (stored.map .ok) = (.ok (), after)
      ∧ (∃ cell, m' = m.withDict ref cell) ∧ m'.HasMap ref after := by
  obtain ⟨cell, ran, has'⟩ := DictOperation.update_follows has arguments
  have failed' := ran.symm.trans failed
  rw [DictOperation.model, requested_update] at failed' has'
  cases asked : told m.heap arguments with
  | error message =>
    rw [asked] at failed' has'
    dsimp only [Except.map] at failed' has'
    cases failed'
    exact ⟨[], [], map, .inr rfl, rfl, ⟨cell, rfl⟩, has'⟩
  | ok entries =>
    rw [asked] at failed' has'
    dsimp only [Except.map, MapOperation.apply] at failed' has'
    rcases storing : map.storeAll entries with ⟨answer, after⟩
    rw [storing] at failed' has'
    cases answer with
    | ok _ => cases failed'
    | error message =>
      cases failed'
      obtain ⟨stored, rest, rfl, last⟩ := OrderedMap.stored_before storing
      exact ⟨stored, rest, after, .inl rfl, last, ⟨cell, rfl⟩, has'⟩

/-- A pair in front of an element that is none stays in the dict, although storing both fails. -/
theorem update_halfway (has : m.HasMap ref map) {key value other : Value} {hash : HashKey}
    (hashes : key.hashKey = .ok hash) (single : other.sequence? m.heap = none) :
    ∃ m', run .update ref (.ofList [.tuple [.tuple [key, value], other]]) m
        = .error (.error (.ofMessage noPair)) m'
      ∧ m'.HasMap ref (map.set hash key value hashes) := by
  obtain ⟨cell, ran, has'⟩ := DictOperation.update_follows has
    (.ofList [.tuple [.tuple [key, value], other]])
  have entries : told m.heap (.ofList [.tuple [.tuple [key, value], other]])
      = .ok [.ok (key, value), .error noPair] := by
    have refused : other.tells m.heap (fun _ => noPair) = .error noPair := by
      rw [Value.tells, single]
    show Except.ok ([.ok (key, value), other.tells m.heap fun _ => noPair] ++ []) = _
    rw [refused]
    rfl
  have asked : (DictOperation.method .update
      (.ofList [.tuple [.tuple [key, value], other]])).model m map
        = (.error noPair, map.set hash key value hashes) := by
    rw [DictOperation.model, requested_update, entries]
    simp only [Except.map, MapOperation.apply, OrderedMap.storeAll,
      OrderedMap.store_of_hashes map value hashes]
  rw [asked] at ran has'
  exact ⟨_, ran, has'⟩

end DictMethods

/-! ## Elements that are extended in place -/

/-- An index has a place if it is among those from minus the length up to the length. -/
theorem Value.exists_place_iff {kind : String} {length : Nat} {key : Value} :
    (∃ i, Value.place kind length key = .ok i)
      ↔ ∃ k, key = .int k ∧ -(length : Int) ≤ k.toInt ∧ k.toInt < length := by
  cases key with
  | int k =>
    rw [Value.place]
    generalize counted : (if k.toInt < 0 then k.toInt + (length : Int) else k.toInt) = at_
    split at counted <;> split <;> simp <;> omega
  | _ => exact ⟨nofun, nofun⟩

theorem Value.lt_of_place {kind : String} {length : Nat} {key : Value} {i : Nat}
    (placed : Value.place kind length key = .ok i) : i < length := by
  cases key with
  | int k =>
    rw [Value.place] at placed
    generalize (if k.toInt < 0 then k.toInt + (length : Int) else k.toInt) = at_ at placed
    split at placed
    · cases placed
    · cases placed
      omega
  | _ => cases placed

section Elements

variable {m m' : Machine} {ref : ListRef} {object key value updated : Value}

/-- Extending a list in place appends to it. -/
theorem augmented_list_run (ran : augmented .add (.list ref) value m = .ok updated m') :
    (m.heap.list ref).frozen = false ∧ ∃ more, m' = m.withItems ref
      ((m.heap.list ref).items.toList ++ more) := by
  have steps : augmented .add (.list ref) value m = _ := bind_run _ _ m
  rw [ran, iterate_run] at steps
  cases iterated : (value.iterate m.heap).mapError OperatorFault.text with
  | error message =>
    rw [iterated] at steps
    cases steps
  | ok more =>
    rw [iterated] at steps
    dsimp only [answering] at steps
    rw [bind_run] at steps
    cases frozen : (m.heap.list ref).frozen with
    | true =>
      rw [changeList_of_frozen frozen] at steps
      cases steps
    | false =>
      rw [changeList_run frozen] at steps
      cases steps
      refine ⟨rfl, more, ?_⟩
      rw [Array.toList_append]

/-- A list that holds one which may be changed may be changed. -/
theorem list_thawed_of_element (sound : m.heap.Sound) {outer : ListRef}
    (element : Value.list ref ∈ (m.heap.list outer).items.toList)
    (thawed : (m.heap.list ref).frozen = false) : (m.heap.list outer).frozen = false := by
  cases frozen : (m.heap.list outer).frozen with
  | false => rfl
  | true =>
    have pinned : (m.heap.list ref).frozen = true :=
      (sound.settledLists outer frozen _ element).here
    exact Bool.noConfusion (thawed.symm.trans pinned)

/-- A dict that holds a list which may be changed may be changed. -/
theorem dict_thawed_of_value (sound : m.heap.Sound) {outer : DictRef} {entry : DictEntry}
    (member : entry ∈ (m.heap.dict outer).entries.toList) (holds : entry.value = .list ref)
    (thawed : (m.heap.list ref).frozen = false) : (m.heap.dict outer).frozen = false := by
  cases frozen : (m.heap.dict outer).frozen with
  | false => rfl
  | true =>
    have settled := (sound.settledDicts outer frozen _ member).2
    rw [holds] at settled
    have pinned : (m.heap.list ref).frozen = true := settled.here
    exact Bool.noConfusion (thawed.symm.trans pinned)

theorem assignIndex_list_of_place {outer : ListRef} {i : Nat}
    (thawed : (m.heap.list outer).frozen = false)
    (placed : Value.place "list" (m.heap.list outer).items.size key = .ok i) :
    ∃ m', Eval.assignIndex (.list outer) key updated m = .ok ⟨⟩ m' := by
  have accepted : Eval.accept OperatorFault.text
      (Value.place "list" (m.heap.list outer).items.size key) m = .ok i m := by
    rw [placed]
    rfl
  exact ⟨_, (bind_ok rfl).trans ((bind_ok accepted).trans (changeList_run thawed _))⟩

/-- A list is assigned to an element of a list that held it before it was extended. -/
theorem assignIndex_list_extended (sound : m.heap.Sound) {outer : ListRef}
    (held : Value.index m.heap (.list outer) key = .ok (.list ref))
    (thawed : (m.heap.list ref).frozen = false) (more : List Value) :
    ∃ m', Eval.assignIndex (.list outer) key updated
      (m.withItems ref ((m.heap.list ref).items.toList ++ more)) = .ok ⟨⟩ m' := by
  cases placed : Value.place "list" (m.heap.list outer).items.size key with
  | error fault =>
    rw [Value.index, placed] at held
    cases held
  | ok i =>
    rw [Value.index, placed] at held
    have inside := Value.lt_of_place placed
    have element : Value.list ref ∈ (m.heap.list outer).items.toList := by
      have here : (m.heap.list outer).items.getD i .none = .list ref := Except.ok.inj held
      rw [Array.getD, dif_pos inside] at here
      rw [← here]
      exact Array.mem_toList_iff.mpr (Array.getElem_mem inside)
    have thawedOuter := list_thawed_of_element sound element thawed
    have changed : (m.heap.list outer).items.size
          ≤ ((m.withItems ref ((m.heap.list ref).items.toList ++ more)).heap.list outer).items.size
        ∧ ((m.withItems ref ((m.heap.list ref).items.toList ++ more)).heap.list outer).frozen
          = false := by
      rw [Machine.withItems, Heap.list_modifyList]
      split
      · rename_i here
        rw [here.1]
        simp [thawed]
      · exact ⟨Nat.le_refl _, thawedOuter⟩
    obtain ⟨k, rfl, low, high⟩ := Value.exists_place_iff.mp ⟨i, placed⟩
    obtain ⟨j, placed'⟩ : ∃ j, Value.place "list" ((m.withItems ref
        ((m.heap.list ref).items.toList ++ more)).heap.list outer).items.size (.int k) = .ok j :=
      Value.exists_place_iff.mpr ⟨k, rfl, by omega, by omega⟩
    exact assignIndex_list_of_place changed.2 placed'

/-- A list is assigned to an element of a dict that held it before it was extended. -/
theorem assignIndex_dict_extended (sound : m.heap.Sound) {outer : DictRef}
    (held : Value.index m.heap (.dict outer) key = .ok (.list ref))
    (thawed : (m.heap.list ref).frozen = false) (items : List Value) :
    ∃ m', Eval.assignIndex (.dict outer) key updated (m.withItems ref items) = .ok ⟨⟩ m' := by
  rw [Value.index] at held
  cases hashes : key.keyFor with
  | error fault =>
    rw [hashes] at held
    cases held
  | ok hash =>
    rw [hashes] at held
    have hashed : key.hashKey = .ok hash := Value.hashKey_of_expectHash (by
      rw [Value.expectHash, hashes]
      rfl)
    dsimp only [bind, Except.bind] at held
    cases found : (m.heap.dict outer).find? hash with
    | none =>
      rw [found] at held
      cases held
    | some entry =>
      rw [found] at held
      have member := Array.mem_toList_iff.mpr (Array.mem_of_find?_eq_some found)
      have thawedOuter := dict_thawed_of_value sound member (Except.ok.inj held) thawed
      obtain ⟨m', stored, _⟩ :=
        storeInDict_of_hashed (m := m.withItems ref items) thawedOuter hashed updated
      exact ⟨m', stored⟩

/-- What an operator makes is there already, or a new list. -/
theorem produce_adds {f : Heap → Value.Outcome Made}
    (produced : Eval.produce f m = .ok updated m') :
    m' = m ∨ ∃ cell, m' = { m with heap := m.heap.addList cell } := by
  rw [Eval.produce, bind_run, operate_run] at produced
  cases made : f m.heap with
  | error fault =>
    rw [made] at produced
    cases produced
  | ok made' =>
    rw [made] at produced
    cases made' with
    | value v =>
      cases produced
      exact .inl rfl
    | list items =>
      cases produced
      exact .inr ⟨_, rfl⟩

/-- An assignment by an operator to an element of a list or dict that fails has changed nothing, if
the element is still there; a new list may have been made. -/
theorem augmentedElement_unchanged (sound : m.heap.Sound) (op : BinaryOp) {current : Value}
    (assignable : (∃ outer, object = .list outer) ∨ ∃ outer, object = .dict outer)
    (held : Value.index m.heap object key = .ok current) {abort : Abort}
    (failed : (augmented op current value >>= fun updated => Eval.assignIndex object key updated) m
      = .error abort m') :
    m' = m ∨ ∃ cell, m' = { m with heap := m.heap.addList cell } := by
  by_cases extends_ : op = .add ∧ ∃ ref, current = .list ref
  · obtain ⟨rfl, ref, rfl⟩ := extends_
    left
    have atomic : Atomic (augmented .add (.list ref) value) m :=
      ListOperation.run_atomic ref (.extend value) m
    -- once the list is extended, it is assigned to where it was
    apply atomic.followed (fun updated between ran => ?_) abort m' failed
    intro abort after failed
    obtain ⟨thawed, more, rfl⟩ := augmented_list_run ran
    rcases assignable with ⟨outer, rfl⟩ | ⟨outer, rfl⟩
    · obtain ⟨last, assigned⟩ := assignIndex_list_extended sound held thawed more
      cases assigned.symm.trans failed
    · obtain ⟨last, assigned⟩ := assignIndex_dict_extended sound held thawed _
      cases assigned.symm.trans failed
  · have made : augmented op current value
        = Eval.produce fun h => Value.binary h op current value := by
      unfold augmented
      split
      · exact absurd ⟨rfl, _, rfl⟩ extends_
      · rfl
    rw [made, bind_run] at failed
    cases produced : Eval.produce (fun h => Value.binary h op current value) m with
    | error abort between =>
      rw [produced] at failed
      cases failed
      exact .inl (Atomic.produce _ _ _ produced)
    | ok updated between =>
      rw [produced] at failed
      rw [Atomic.assignIndex object key updated abort m' failed]
      exact produce_adds produced

end Elements

end PixelApplet
