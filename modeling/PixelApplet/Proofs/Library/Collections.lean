import PixelApplet.Library.CollectionMethods
import PixelApplet.Proofs.Library.Attributes

/-!
# Functions that every script sees, and methods of lists and dicts, are safe

They take values out of their arguments and out of cells, and put them into lists and dicts that are
new or not frozen.
-/

namespace PixelApplet.Eval.Safe

variable {E : Effect} {extent : Extent} {arguments : Arguments}

theorem yields {v : Value} (live : v.Live extent) : Yields E (Pure.pure v) extent :=
  pure fun _ grown => live.mono grown

section ListMethods

open PixelApplet.ListMethods

theorem intArgument {function : String} {value : Value} :
    Runs E (ListMethods.intArgument function value) extent := by
  unfold ListMethods.intArgument
  split
  · exact returns
  · exact fail _

theorem mem_insertedAt {items : Array Value} {place : Nat} {item v : Value}
    (member : v ∈ (insertedAt items place item).toList) : v = item ∨ v ∈ items.toList := by
  rcases List.mem_append.mp member with before | rest
  · exact .inr (List.mem_of_mem_take before)
  · rcases List.mem_cons.mp rest with rfl | after
    · exact .inl rfl
    · exact .inr (List.mem_of_mem_drop after)

theorem erased {ref : ListRef} {i : Nat} :
    Runs .data (Eval.changeList ref fun items => items.eraseIdxIfInBounds i) extent := by
  refine changeList fun larger items _ live v member => ?_
  rw [Array.toList_eraseIdxIfInBounds] at member
  exact live v (List.mem_of_mem_eraseIdx member)

theorem listPop (ref : ListRef) (given : List Value) :
    Yields .data (ListMethods.pop ref given) extent := by
  refine readingHeap fun h sound inside => ?_
  have rest (position : Int) : Yields .data (do
      let length : Int := (h.list ref).items.size
      let place := if position < 0 then position + length else position
      if place < 0 ∨ place ≥ length then
        Eval.fail s!"pop: index {position} out of range: length {length}"
      Eval.changeList ref fun items => items.eraseIdxIfInBounds place.toNat
      return (h.list ref).items.getD place.toNat .none) h.extent :=
    guarded (erased.bind fun _ _ grown _ => yields ((sound.getD ref _).mono grown))
  split
  · exact rest _
  · exact andThen intArgument fun position => rest position

theorem listMethod (m : ListMethod) (ref : ListRef) (live : arguments.Live extent) :
    Yields .data (ListMethods.run m ref arguments) extent := by
  unfold ListMethods.run
  split
  · refine bind (receiveOne live) fun item larger _ liveItem => ?_
    refine andThen (changeList fun _ items grown liveItems v member => ?_) fun _ =>
      yields Value.live_none
    rw [Array.toList_push, List.mem_append, List.mem_singleton] at member
    rcases member with old | rfl
    · exact liveItems v old
    · exact liveItem.mono grown
  · exact andThen receiveNothing fun _ =>
      andThen (changeList fun _ _ _ _ => nofun) fun _ => yields Value.live_none
  · refine bind (receiveOne live) fun given larger _ liveGiven => ?_
    refine bind (iterate liveGiven) fun more largest _ liveMore => ?_
    refine andThen (changeList fun _ items grown liveItems v member => ?_) fun _ =>
      yields Value.live_none
    rw [Array.toList_append, List.mem_append] at member
    rcases member with old | new
    · exact liveItems v old
    · exact (liveMore v new).mono grown
  · refine andThen receivesOne fun wanted => andThen readsHeap fun found => ?_
    split
    · exact yields (Value.live_int _)
    · exact andThen readsHeap fun _ => fail _
  · refine bind (receiveBetween live) fun given larger _ liveGiven => ?_
    split
    · rename_i position item
      refine andThen intArgument fun place => ?_
      refine andThen (changeList fun _ items grown liveItems v member => ?_) fun _ =>
        yields Value.live_none
      rcases mem_insertedAt member with rfl | old
      · exact (liveGiven v (.tail _ (.head _))).mono grown
      · exact liveItems v old
    · exact yields Value.live_none
  · exact andThen receivesBetween fun given => listPop ref given
  · refine andThen receivesOne fun target => andThen readsHeap fun found => ?_
    split
    · exact andThen erased fun _ => yields Value.live_none
    · exact andThen readsHeap fun _ => fail _

end ListMethods

section Storing

/-- Keys and values of all pairs are live. -/
def PairsLive (extent : Extent) (pairs : List (Value × Value)) : Prop :=
  ∀ pair ∈ pairs, pair.1.Live extent ∧ pair.2.Live extent

variable {ref : DictRef}

theorem storeAll {pairs : List (Value × Value)} (live : PairsLive extent pairs) :
    Runs .data (Universe.storeAll ref pairs) extent := by
  induction pairs with
  | nil => exact returns
  | cons pair rest ih =>
    have here := live pair (.head _)
    exact andThen (storeInDict here.1 here.2) fun _ => ih fun other member =>
      live other (.tail _ member)

theorem storePairs {refusal : Value → Eval String}
    (refuses : ∀ pair extent, Runs .data (refusal pair) extent) {pairs : List Value}
    (live : ∀ v ∈ pairs, v.Live extent) :
    Runs .data (Universe.storePairs ref refusal pairs) extent := by
  induction pairs generalizing extent with
  | nil => exact returns
  | cons pair rest ih =>
    refine readingHeap fun h sound inside => ?_
    have liveRest : ∀ v ∈ rest, v.Live h.extent :=
      fun v member => (live v (.tail _ member)).mono inside
    split
    · rename_i key value found
      have liveItems := Value.live_sequence sound ((live pair (.head _)).mono inside) found
      exact andThen (storeInDict (liveItems key (.head _)) (liveItems value (.tail _ (.head _))))
        fun _ => ih liveRest
    · exact andThen (refuses pair _) fun _ => fail _

theorem storeSources {refusal : Value → Eval String}
    (refuses : ∀ pair extent, Runs .data (refusal pair) extent) {source : Option Value}
    {named : List (String × Value)} (liveSource : Slot.Live extent source)
    (liveNamed : Bindings.Live extent named) :
    Runs .data (Universe.storeSources ref refusal source named) extent := by
  have storesNamed {larger : Extent} (grown : extent ≤ larger) :
      Runs .data (Universe.storeAll ref (named.map fun entry => (.str entry.1, entry.2)))
        larger := by
    refine storeAll fun pair member => ?_
    obtain ⟨entry, present, rfl⟩ := List.mem_map.mp member
    exact ⟨Value.live_str _, (liveNamed entry present).mono grown⟩
  unfold Universe.storeSources
  split
  · exact storesNamed (Extent.le_refl _)
  · refine readingHeap fun h sound inside => ?_
    exact andThen (storeAll (sound.dicts _).pairs) fun _ => storesNamed inside
  · rename_i pairs _
    refine bind (iterate (liveSource pairs rfl)) fun items larger grown liveItems => ?_
    exact andThen (storePairs refuses liveItems) fun _ => storesNamed grown

end Storing

theorem live_head? (live : arguments.Live extent) :
    Slot.Live extent arguments.positional.head? :=
  fun v first => live.positional v (List.mem_of_head? first)

section DictMethods

theorem stored? {ref : DictRef} {key : Value} : MayYield E (DictMethods.stored? ref key) extent :=
  andThen keyFor fun hash => readHeap fun h sound _ v found => by
    obtain ⟨entry, present, rfl⟩ := Option.map_eq_some_iff.mp found
    exact (sound.dicts ref).find? present

theorem remove? {ref : DictRef} {key : Value} :
    MayYield .data (DictMethods.remove? ref key) extent := by
  refine bind stored? fun found larger _ liveFound => ?_
  refine andThen keyFor fun hash => andThen (changeDict (fun cell => ?_) fun _ cell _ live => ?_)
    fun _ => pure fun _ grown v there => (liveFound v there).mono grown
  · split <;> rfl
  · split
    · exact live.eraseAt
    · exact live

theorem dictMethod (m : DictMethod) (ref : DictRef) (live : arguments.Live extent) :
    Yields .data (DictMethods.run m ref arguments) extent := by
  unfold DictMethods.run
  split
  · exact andThen receiveNothing fun _ =>
      andThen (changeDict (fun _ => rfl) fun _ _ _ _ => nofun) fun _ => yields Value.live_none
  · refine bind (receiveBetween live) fun given larger _ liveGiven => ?_
    split
    · rename_i key rest
      refine bind stored? fun found _ grown liveFound => ?_
      cases found with
      | some v => exact yields (liveFound v rfl)
      | none =>
        exact yields ((Value.headD_live fun v member => liveGiven v (.tail _ member)).mono grown)
    · exact yields Value.live_none
  · refine andThen receiveNothing fun _ => readingHeap fun h sound _ => newList fun v member => ?_
    obtain ⟨pair, present, rfl⟩ := List.mem_map.mp member
    have livePair := (sound.dicts ref).pairs pair present
    refine Value.live_tuple.mpr fun item inside => ?_
    rcases List.mem_cons.mp inside with rfl | second
    · exact livePair.1
    · rw [List.mem_singleton.mp second]
      exact livePair.2
  · exact andThen receiveNothing fun _ => readingHeap fun h sound _ =>
      newList (sound.dicts ref).keys
  · refine bind (receiveBetween live) fun given larger _ liveGiven => ?_
    split
    · rename_i key rest
      refine bind remove? fun found _ grown liveFound => ?_
      split
      · exact yields (liveFound _ rfl)
      · exact yields ((liveGiven _ (.tail _ (.head _))).mono grown)
      · exact andThen readsHeap fun _ => fail _
    · exact yields Value.live_none
  · refine bind (receiveBetween live) fun given larger _ liveGiven => ?_
    split
    · rename_i key rest
      refine bind stored? fun found _ grown liveFound => ?_
      cases found with
      | some v => exact yields (liveFound v rfl)
      | none =>
        have liveValue : (rest.headD .none).Live _ :=
          (Value.headD_live fun v member => liveGiven v (.tail _ member)).mono grown
        exact (storeInDict ((liveGiven key (.head _)).mono grown) liveValue).bind
          fun _ _ grown' _ => yields (liveValue.mono grown')
    · exact yields Value.live_none
  · refine guarded (andThen ?_ fun _ => yields Value.live_none)
    exact storeSources (fun _ _ => returns) (live_head? live) live.named
  · exact andThen receiveNothing fun _ => readingHeap fun h sound _ =>
      newList (sound.dicts ref).values

end DictMethods

section Universal

/-- A way of calling values that is safe for live values. -/
def CallsSafely (call : Value → Arguments → Eval Value) : Prop :=
  ∀ {callee : Value} {arguments : Arguments} {extent : Extent}, callee.Live extent →
    arguments.Live extent → Yields .data (call callee arguments) extent

/-- The pieces of a message behind the choice of what stands between them. -/
theorem joinedBy {function : String} (separator : String) : Runs E (do
    match arguments.named.find? fun entry => entry.1 ≠ "sep" with
    | some (name, _) => Eval.fail ((ArgumentFault.unexpectedKeyword name).text function)
    | none =>
      Eval.readHeap fun h => separator.intercalate (arguments.positional.map (Value.text h)))
    extent := by
  split
  · exact fail _
  · exact readsHeap

theorem joined {function : String} : Runs E (Universe.joined function arguments) extent := by
  unfold Universe.joined
  dsimp only
  split
  · exact joinedBy _
  · exact joinedBy _
  · exact andThen (fail _) fun _ => joinedBy _

theorem length (value : Value) : Yields E (Universe.length value) extent := by
  unfold Universe.length
  split
  · exact yields (Value.live_int _)
  · exact readHeap fun _ _ _ => Value.live_int _
  · exact yields (Value.live_int _)
  · exact readHeap fun _ _ _ => Value.live_int _
  · exact fail _

theorem toInt : Yields E (Universe.toInt arguments) extent := by
  refine andThen receives fun r => andThen (int? r _) fun base => ?_
  split
  · exact yields (Value.live_int _)
  · split
    · exact yields (Value.live_int _)
    · exact fail _
  · split
    · exact fail _
    split
    · exact yields (Value.live_int _)
    · exact yields (Value.live_int _)
    · split
      · exact fail _
      · exact yields (Value.live_int _)
    · exact fail _

theorem toFloat : Yields E (Universe.toFloat arguments) extent := by
  refine andThen receivesBetween fun given => ?_
  split
  · exact yields (Value.live_float _)
  · exact yields (Value.live_float _)
  · exact yields (Value.live_float _)
  · exact yields (Value.live_float _)
  · split
    · exact yields (Value.live_float _)
    · exact fail _
  · exact fail _

theorem optionalItems {given : List Value} (live : ∀ v ∈ given, v.Live extent) :
    YieldsAll E (Universe.optionalItems given) extent := by
  cases given with
  | nil => exact pure fun _ _ => List.forall_mem_nil _
  | cons v _ => exact iterate (live v (.head _))

theorem universalDict (live : arguments.Live extent) :
    Yields .data (Universe.newDict arguments) extent := by
  unfold Universe.newDict
  dsimp only
  refine guarded (andThen readsHeap fun ref => ?_)
  refine bind (newDict DictCell.live_empty rfl) fun dict larger grown liveDict => ?_
  refine bind (storeSources (fun _ _ => readsHeap) (live_head? (live.mono grown))
    (live.named.mono grown)) fun _ _ grown' _ => yields (liveDict.mono grown')

theorem live_rangeItems (start stop step : Int) :
    ∀ v ∈ Universe.rangeItems start stop step, v.Live extent := by
  intro v member
  obtain ⟨k, _, rfl⟩ := List.mem_map.mp member
  exact Value.live_int _

theorem range : Yields .data (Universe.range arguments) extent := by
  refine andThen receivesBetween fun given => ?_
  refine andThen (mapM (fun _ _ => trivial) fun v _ => ?_).runs fun ints => ?_
  · split
    · exact returns
    · exact fail _
  · exact guarded (guarded (newList (live_rangeItems _ _ _)))

theorem newStruct (live : arguments.Live extent) :
    Yields E (Universe.newStruct arguments) extent := by
  unfold Universe.newStruct
  exact guarded (yields (Value.live_struct.mpr (live.named.insertAll Bindings.live_nil)))

theorem live_numbered (start : Int) {items : List Value} (live : ∀ v ∈ items, v.Live extent) :
    ∀ v ∈ Universe.numbered start items, v.Live extent := by
  induction items generalizing start with
  | nil => exact nofun
  | cons item rest ih =>
    intro v member
    rcases List.mem_cons.mp member with rfl | later
    · refine Value.live_tuple.mpr fun part inside => ?_
      rcases List.mem_cons.mp inside with rfl | second
      · exact Value.live_int _
      · rw [List.mem_singleton.mp second]
        exact live item (.head _)
    · exact ih _ (fun other present => live other (.tail _ present)) v later

theorem enumerate (live : arguments.Live extent) :
    Yields .data (Universe.enumerate arguments) extent := by
  refine bind (receive live) fun r larger _ liveReceived => andThen (int? r _) fun start => ?_
  exact bind (iterate (liveReceived.value _)) fun items _ _ liveItems =>
    newList (live_numbered _ liveItems)

theorem live_rows (count : Nat) {columns : List (List Value)}
    (live : ∀ column ∈ columns, ∀ v ∈ column, v.Live extent) :
    ∀ v ∈ Universe.rows count columns, v.Live extent := by
  induction count generalizing columns with
  | zero => exact nofun
  | succ count ih =>
    intro v member
    rcases List.mem_cons.mp member with rfl | later
    · refine Value.live_tuple.mpr fun part inside => ?_
      obtain ⟨column, present, rfl⟩ := List.mem_map.mp inside
      exact Value.headD_live (live column present)
    · refine ih (fun tail present => ?_) v later
      obtain ⟨column, inside, rfl⟩ := List.mem_map.mp present
      exact fun v below => live column inside v (List.mem_of_mem_tail below)

theorem zip (live : arguments.Live extent) : Yields .data (Universe.zip arguments) extent := by
  refine bind (accept fun given made larger grown => (live.mono grown).positionalOnly made)
    fun given larger _ liveGiven => ?_
  refine bind (mapM (fun grown live v member => (live v member).mono grown)
    fun v member => iterate (liveGiven v member)) fun columns _ _ liveColumns => ?_
  exact newList (live_rows _ liveColumns)

theorem absolute (value : Value) : Yields E (Universe.absolute value) extent := by
  unfold Universe.absolute
  split
  · split
    · exact yields (Value.live_int _)
    · exact fail _
  · exact yields (Value.live_float _)
  · exact fail _

theorem attributeName {function : String} {value : Value} :
    Runs E (Universe.attributeName function value) extent := by
  unfold Universe.attributeName
  split
  · exact returns
  · exact fail _

theorem hasAttribute (live : arguments.Live extent) :
    Yields .data (Universe.hasAttribute arguments) extent := by
  refine bind (receiveBetween live) fun given larger _ liveGiven => ?_
  split
  · refine andThen attributeName fun name => ?_
    exact andThen (attribute? (liveGiven _ (.head _)) name).runs fun _ =>
      yields (Value.live_bool _)
  · exact yields Value.live_none

theorem getAttribute (live : arguments.Live extent) :
    Yields .data (Universe.getAttribute arguments) extent := by
  refine bind (receiveBetween live) fun given larger _ liveGiven => ?_
  split
  · refine andThen attributeName fun name => ?_
    refine bind (attribute? (liveGiven _ (.head _)) name) fun found _ grown liveFound => ?_
    split
    · exact yields (liveFound _ rfl)
    · exact fail _
    · exact yields ((liveGiven _ (.tail _ (.tail _ (.head _)))).mono grown)
  · exact yields Value.live_none

variable {call : Value → Arguments → Eval Value}

theorem keyed (calls : CallsSafely call) {key : Slot} (liveKey : key.Live extent)
    {items : List Value} (live : ∀ v ∈ items, v.Live extent) :
    Safe .data (Universe.keyed call key items) extent fun extent entries =>
      ∀ entry ∈ entries, entry.item.Live extent := by
  induction items generalizing extent with
  | nil => exact pure fun _ _ => nofun
  | cons item rest ih =>
    have going {larger : Extent} (grown : extent ≤ larger) (k : Value) :
        Safe .data (do return ⟨k, item⟩ :: (← Universe.keyed call key rest)) larger
          fun extent entries => ∀ entry ∈ entries, (Sorting.Keyed.item entry).Live extent := by
      refine bind (ih (fun v passed => (liveKey v passed).mono grown)
        fun v member => (live v (.tail _ member)).mono grown)
        fun entries largest grown' liveEntries => pure fun _ grown'' entry member => ?_
      rcases List.mem_cons.mp member with rfl | later
      · exact (live item (.head _)).mono
          (Extent.le_trans grown (Extent.le_trans grown' grown''))
      · exact (liveEntries entry later).mono grown''
    unfold Universe.keyed
    split
    · exact going (Extent.le_refl _) _
    · exact going (Extent.le_refl _) _
    · refine (calls (liveKey _ rfl) (Arguments.live_ofList fun v member => ?_)).bind
        fun k _ grown _ => going grown k
      rw [List.mem_singleton.mp member]
      exact live item (.head _)

theorem sorted (calls : CallsSafely call) (live : arguments.Live extent) :
    Yields .data (Universe.sorted call arguments) extent := by
  refine bind (receive live) fun r larger _ liveReceived => ?_
  refine bind (iterate (liveReceived.value _)) fun items _ grown liveItems => ?_
  refine andThen readsHeap fun backwards => ?_
  refine bind (keyed calls (fun v passed => (liveReceived.slot _ v passed).mono grown) liveItems)
    fun entries largest _ liveEntries => readingHeap fun h _ inside => ?_
  have orders : Safe .data (Eval.accept Value.Incomparable.text (Sorting.sort h entries)) h.extent
      fun extent ordered => ∀ entry ∈ ordered, (Sorting.Keyed.item entry).Live extent :=
    accept fun ordered made _ grown' entry member =>
      (liveEntries entry (Sorting.mem_of_mem_sort made member)).mono
        (Extent.le_trans inside grown')
  refine bind orders fun ordered _ _ liveOrdered => newList fun v member => ?_
  have back : v ∈ ordered.map Sorting.Keyed.item := by
    split at member
    · exact List.mem_reverse.mp member
    · exact member
  obtain ⟨entry, present, rfl⟩ := List.mem_map.mp back
  exact liveOrdered entry present

/-- The choice among the elements that were given. -/
theorem extremeOf (calls : CallsSafely call) {function : String} {wanted : Ordering}
    {items : List Value} {larger : Extent} (live : arguments.Live extent) (grown : extent ≤ larger)
    (liveItems : ∀ v ∈ items, v.Live larger) : Yields .data (do
      let entries ← Universe.keyed call (arguments.named.lookup "key") items
      let found ← Eval.accept Value.Incomparable.text
        (← Eval.readHeap fun h => Sorting.extreme h wanted entries)
      match found with
      | some item => return item
      | none => Eval.fail s!"{function}: empty sequence") larger := by
  refine bind (keyed calls (fun v passed => (live.named.lookup passed).mono grown) liveItems)
    fun entries largest _ liveEntries => readingHeap fun h _ inside => ?_
  have finds : MayYield .data
      (Eval.accept Value.Incomparable.text (Sorting.extreme h wanted entries)) h.extent := by
    refine accept ?_
    rintro _ made _ grown' v rfl
    obtain ⟨entry, present, rfl⟩ := Sorting.mem_of_extreme made
    exact (liveEntries entry present).mono (Extent.le_trans inside grown')
  refine bind finds fun found _ _ liveFound => ?_
  split
  · exact yields (liveFound _ rfl)
  · exact fail _

/-- The choice among the arguments, or among the elements of the only one. -/
theorem extremeAmong (calls : CallsSafely call) {function : String} {wanted : Ordering}
    (live : arguments.Live extent) : Yields .data (do
      let items ← match arguments.positional with
        | [] => Eval.fail s!"{function}: need at least one argument"
        | [single] => Eval.iterate single
        | many => Pure.pure many
      let entries ← Universe.keyed call (arguments.named.lookup "key") items
      let found ← Eval.accept Value.Incomparable.text
        (← Eval.readHeap fun h => Sorting.extreme h wanted entries)
      match found with
      | some item => return item
      | none => Eval.fail s!"{function}: empty sequence") extent := by
  have livePositional := live.positional
  split
  · have refuses : YieldsAll .data (Eval.fail s!"{function}: need at least one argument")
        extent := fail _
    exact bind refuses fun _ _ grown liveItems => extremeOf calls live grown liveItems
  · rename_i single same
    rw [same] at livePositional
    exact bind (iterate (livePositional single (.head _))) fun _ _ grown liveItems =>
      extremeOf calls live grown liveItems
  · exact extremeOf calls live (Extent.le_refl _) livePositional

theorem extreme (calls : CallsSafely call) {function : String} {wanted : Ordering}
    (live : arguments.Live extent) :
    Yields .data (Universe.extreme call function wanted arguments) extent := by
  unfold Universe.extreme
  dsimp only
  split
  · exact andThen (fail _) fun _ => extremeAmong calls live
  · exact extremeAmong calls live

theorem universal (calls : CallsSafely call) (f : Universal) (live : arguments.Live extent) :
    Yields .data (Universe.run call f arguments) extent := by
  cases f with
  | abs => exact andThen receivesOne fun _ => absolute _
  | all =>
    exact andThen receivesOne fun _ => andThen operates fun _ =>
      readHeap fun _ _ _ => Value.live_bool _
  | any =>
    exact andThen receivesOne fun _ => andThen operates fun _ =>
      readHeap fun _ _ _ => Value.live_bool _
  | bool => exact andThen receivesBetween fun _ => readHeap fun _ _ _ => Value.live_bool _
  | dict => exact universalDict live
  | dir =>
    refine andThen receivesOne fun object => newList fun v member => ?_
    obtain ⟨name, _, rfl⟩ := List.mem_map.mp member
    exact Value.live_str name
  | enumerate => exact enumerate live
  | fail => exact andThen joined fun _ => fail _
  | float => exact toFloat
  | getattr => exact getAttribute live
  | hasattr => exact hasAttribute live
  | int => exact toInt
  | len => exact andThen receivesOne fun _ => length _
  | list =>
    exact bind (receiveBetween live) fun _ _ _ liveGiven =>
      bind (optionalItems liveGiven) fun _ _ _ liveItems => newList liveItems
  | max => exact extreme calls live
  | min => exact extreme calls live
  | print => exact andThen joined fun _ => andThen (print _) fun _ => yields Value.live_none
  | range => exact range
  | repr => exact andThen receivesOne fun _ => readHeap fun _ _ _ => Value.live_str _
  | reversed =>
    exact bind (receiveOne live) fun _ _ _ liveGiven =>
      bind (iterate liveGiven) fun _ _ _ liveItems => newList fun v member =>
        liveItems v (List.mem_reverse.mp member)
  | sorted => exact sorted calls live
  | str => exact andThen receivesOne fun _ => readHeap fun _ _ _ => Value.live_str _
  | struct => exact newStruct live
  | tuple =>
    exact bind (receiveBetween live) fun _ _ _ liveGiven =>
      bind (optionalItems liveGiven) fun _ _ _ liveItems => yields (Value.live_tuple.mpr liveItems)
  | type => exact andThen receivesOne fun _ => yields (Value.live_str _)
  | zip => exact zip live

end Universal

end PixelApplet.Eval.Safe
