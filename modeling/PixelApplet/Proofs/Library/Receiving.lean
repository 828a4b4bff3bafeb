import PixelApplet.Library.Received
import PixelApplet.Proofs.Evaluation.Routine
import PixelApplet.Proofs.Evaluation.Safety
import PixelApplet.Proofs.Value.Passing
import PixelApplet.Proofs.Value.Results

/-!
# Receiving and making values safely

The actions that builtin functions are made of: reading arguments, and adding or changing lists and
dicts.
-/

namespace PixelApplet

theorem Made.Live.mono {extent larger : Extent} {made : Made} (live : made.Live extent)
    (grown : extent ≤ larger) : made.Live larger := by
  cases made with
  | value v => exact Value.Live.mono live grown
  | list items => exact fun v member => (live v member).mono grown

/-- All that was received is live. -/
def Received.Live (extent : Extent) (r : Received) : Prop :=
  ∀ entry ∈ r.slots, Slot.Live extent entry.2

namespace Received.Live

variable {extent : Extent} {r : Received}

theorem mono {larger : Extent} (live : r.Live extent) (grown : extent ≤ larger) : r.Live larger :=
  fun entry member v passed => (live entry member v passed).mono grown

theorem slot (live : r.Live extent) (parameter : String) :
    Slot.Live extent (r.slot parameter) := by
  unfold Received.slot
  cases found : r.slots.lookup parameter with
  | none => exact Slot.live_none
  | some passed => exact live _ (Bindings.mem_of_lookup found)

theorem value (live : r.Live extent) (parameter : String) : (r.value parameter).Live extent :=
  (live.slot parameter).getD

end Received.Live

namespace Eval.Safe

variable {α : Type} {E : Effect} {extent : Extent}

/-- A step that makes one change of the heap. -/
theorem change {act : Eval α} {property : Extent → α → Prop}
    (steps : ∀ m : Machine, m.heap.Sound → extent ≤ m.heap.extent →
      ∃ value h', act m = .ok value { m with heap := h' } ∧ Heap.Step none m.heap h'
        ∧ property h'.extent value) :
    Safe .data act extent property := by
  intro m sound inside
  obtain ⟨value, h', ran, step, holds⟩ := steps m sound inside
  rw [ran]
  exact ⟨⟨.single step, rfl, rfl, rfl⟩, sound.step step, step.keeps.extent, holds⟩

theorem newIdentity : Runs .data Eval.newIdentity extent :=
  change fun _ _ _ => ⟨_, _, rfl, .identity _, trivial⟩

theorem newList {items : List Value} (live : ∀ v ∈ items, v.Live extent) :
    Yields .data (Eval.newList items) extent := by
  refine change fun m _ inside => ⟨_, _, rfl, .addList _ (fun v member => ?_) rfl, ?_⟩
  · exact (live v (by simpa using member)).mono inside
  · rw [Value.live_list, Heap.extent_addList]
    exact Nat.lt_succ_self _

theorem newDict {cell : DictCell} (live : cell.Live extent) (thawed : cell.frozen = false) :
    Yields .data (Eval.newDict cell) extent := by
  refine change fun m _ inside => ⟨_, _, rfl, .addDict _ (live.mono inside) thawed, ?_⟩
  rw [Value.live_dict, Heap.extent_addDict]
  exact Nat.lt_succ_self _

theorem newNative {native : Native Value} (live : ∀ v ∈ native.values, v.Live extent) :
    Yields .data (Eval.newNative native) extent :=
  newIdentity.bind fun _ _ grown _ => pure fun _ grown' =>
    Value.live_native.mpr fun v member => (live v member).mono (Extent.le_trans grown grown')

/-- The answer of an operator has a property if it has it whatever the heap is. -/
theorem operate {f : Heap → Value.Outcome α} {property : Extent → α → Prop}
    (holds : ∀ h : Heap, h.Sound → extent ≤ h.extent → ∀ a, f h = .ok a →
      ∀ larger, h.extent ≤ larger → property larger a) :
    Safe E (Eval.operate f) extent property :=
  readingHeap fun h sound inside => accept fun a made => holds h sound inside a made

theorem operates {f : Heap → Value.Outcome α} : Runs E (Eval.operate f) extent :=
  operate fun _ _ _ _ _ _ _ => trivial

theorem make {made : Made} (live : made.Live extent) : Yields .data (Eval.make made) extent := by
  cases made with
  | value v => exact pure fun _ grown => Value.Live.mono live grown
  | list items => exact newList live

theorem produce {f : Heap → Value.Outcome Made}
    (live : ∀ h : Heap, h.Sound → extent ≤ h.extent → Value.Outcome.Live h.extent (f h)) :
    Yields .data (Eval.produce f) extent :=
  bind (operate fun h sound inside made ok _ grown =>
      Made.Live.mono (live h sound inside made ok) grown)
    fun _ _ _ liveMade => make liveMade

theorem iterate {value : Value} (live : value.Live extent) :
    YieldsAll E (Eval.iterate value) extent :=
  operate fun _ sound inside _ made _ grown v member =>
    (Value.live_iterate sound (live.mono inside) made v member).mono grown

/-- A list may be changed into one whose elements are live where those of the list were. -/
theorem changeList {ref : ListRef} {f : Array Value → Array Value}
    (live : ∀ larger items, extent ≤ larger → (∀ v ∈ items.toList, v.Live larger) →
      ∀ v ∈ (f items).toList, v.Live larger) :
    Runs .data (Eval.changeList ref f) extent := by
  intro m sound inside
  cases frozen : (m.heap.list ref).frozen with
  | true =>
    rw [changeList_of_frozen frozen]
    exact ⟨Effect.data.stops (Effect.data.refl m), sound⟩
  | false =>
    have step : Heap.Step none m.heap _ :=
      .changeList ref f frozen (live _ _ inside (sound.items ref))
    rw [changeList_of_thawed frozen]
    exact ⟨⟨.single step, rfl, rfl, rfl⟩, sound.step step, step.keeps.extent, trivial⟩

/-- A dict may be changed into one whose entries are live where those of the dict were. -/
theorem changeDict {ref : DictRef} {f : DictCell → DictCell}
    (stays : ∀ cell, (f cell).frozen = cell.frozen)
    (live : ∀ larger cell, extent ≤ larger → DictCell.Live larger cell → (f cell).Live larger) :
    Runs .data (Eval.changeDict ref f) extent := by
  intro m sound inside
  cases frozen : (m.heap.dict ref).frozen with
  | true =>
    rw [changeDict_of_frozen frozen]
    exact ⟨Effect.data.stops (Effect.data.refl m), sound⟩
  | false =>
    have step : Heap.Step none m.heap _ :=
      .changeDict ref f frozen ((stays _).trans frozen) (live _ _ inside (sound.dicts ref))
    rw [changeDict_of_thawed frozen]
    exact ⟨⟨.single step, rfl, rfl, rfl⟩, sound.step step, step.keeps.extent, trivial⟩

theorem keyFor {value : Value} : Runs E (Eval.keyFor value) extent :=
  accepts

theorem storeInDict {ref : DictRef} {key value : Value} (liveKey : key.Live extent)
    (liveValue : value.Live extent) : Runs .data (Eval.storeInDict ref key value) extent :=
  andThen keyFor fun _ => changeDict (fun _ => DictCell.frozen_insert _ _ _) fun _ _ grown live =>
    live.insert (liveKey.mono grown) (liveValue.mono grown)

theorem assignIndex {object key value : Value} (liveKey : key.Live extent)
    (liveValue : value.Live extent) :
    Runs .data (Eval.assignIndex object key value) extent := by
  unfold Eval.assignIndex
  split
  · refine andThen readsHeap fun length => andThen accepts fun i => ?_
    refine changeList fun larger items grown live v member => ?_
    rw [Array.toList_setIfInBounds] at member
    rcases List.mem_or_eq_of_mem_set member with old | rfl
    · exact live v old
    · exact liveValue.mono grown
  · exact storeInDict liveKey liveValue
  · exact fail _

section Receiving

variable {function : String} {arguments : Arguments}

theorem receive {parameters : List Parameter} (live : arguments.Live extent) :
    Safe E (PixelApplet.receive function parameters arguments) extent fun extent r =>
      r.Live extent := by
  refine bind (accept fun slots made larger grown => (live.mono grown).unpack made)
    fun slots larger _ slotsLive => pure fun _ grown => ?_
  intro entry member v passed
  exact (slotsLive entry.2 (List.of_mem_zip member).2 v passed).mono grown

theorem receives {parameters : List Parameter} :
    Runs E (PixelApplet.receive function parameters arguments) extent :=
  andThen accepts fun _ => returns

theorem receiveBetween {low high : Nat} (live : arguments.Live extent) :
    YieldsAll E (PixelApplet.receiveBetween function low high arguments) extent :=
  accept fun _ made _ grown => (live.mono grown).positionalBetween made

theorem receivesBetween {low high : Nat} :
    Runs E (PixelApplet.receiveBetween function low high arguments) extent :=
  accepts

theorem receiveOne (live : arguments.Live extent) :
    Yields E (PixelApplet.receiveOne function arguments) extent :=
  bind (receiveBetween live) fun _ _ _ liveGiven => pure fun _ grown =>
    (Value.headD_live liveGiven).mono grown

theorem receivesOne : Runs E (PixelApplet.receiveOne function arguments) extent :=
  andThen receivesBetween fun _ => returns

theorem receiveNothing : Runs E (PixelApplet.receiveNothing function arguments) extent :=
  andThen receivesBetween fun _ => returns

variable (r : Received) (parameter : String)

theorem text? : Runs E (r.text? parameter) extent :=
  accepts

theorem text : Runs E (r.text parameter) extent :=
  andThen (text? r parameter) fun _ => returns

theorem int? : Runs E (r.int? parameter) extent :=
  accepts

theorem bool? : Runs E (r.bool? parameter) extent :=
  accepts

variable {r}

theorem items (live : r.Live extent) : YieldsAll E (r.items parameter) extent := by
  unfold Received.items
  split
  · exact pure fun _ _ => nofun
  · exact pure fun _ _ => nofun
  · rename_i v _ passed
    refine readingHeap fun h sound inside => ?_
    split
    · rename_i found
      have liveItems := Value.live_sequence sound
        ((live.slot parameter v passed).mono inside) found
      exact pure fun _ grown v member => (liveItems v member).mono grown
    · exact fail _

end Receiving

end Eval.Safe

end PixelApplet
