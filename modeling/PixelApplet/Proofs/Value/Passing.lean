import PixelApplet.Proofs.Value.Sound
import PixelApplet.Value.Arguments

/-!
# Passing arguments

Matching the arguments of a call with parameters hands values on, and adds none of its own but the
defaults of a function.  So what is said of all arguments, and of what a function keeps, is said of
all that its parameters are bound to.
-/

namespace PixelApplet

/-- All arguments of a call are live. -/
structure Arguments.Live (extent : Extent) (arguments : Arguments) : Prop where
  positional : ∀ v ∈ arguments.positional, v.Live extent
  named : Bindings.Live extent arguments.named

/-- Whatever was passed for a parameter is live. -/
def Slot.Live (extent : Extent) (slot : Slot) : Prop :=
  ∀ v, slot = some v → v.Live extent

/-- What a parameter is bound to consists of live values. -/
def Bound.Live (extent : Extent) : Bound → Prop
  | .value v => v.Live extent
  | .remaining named => Bindings.Live extent named

/-- All arguments of a call have a property. -/
structure Arguments.All (property : Value → Prop) (arguments : Arguments) : Prop where
  positional : ∀ v ∈ arguments.positional, property v
  named : ∀ entry ∈ arguments.named, property entry.2

/-- Whatever was passed for a parameter has a property. -/
def Slot.All (property : Value → Prop) (slot : Slot) : Prop :=
  ∀ v, slot = some v → property v

/-- What a parameter is bound to consists of values with a property. -/
def Bound.All (property : Value → Prop) : Bound → Prop
  | .value v => property v
  | .remaining named => ∀ entry ∈ named, property entry.2

section All

variable {property : Value → Prop}

theorem Slot.all_none : Slot.All property none :=
  nofun

theorem Slot.all_some {v : Value} (holds : property v) : Slot.All property (some v) := by
  rintro _ ⟨⟩
  exact holds

theorem Slot.All.getD {slot : Slot} (all : slot.All property) (holds : property .none) :
    property (slot.getD .none) := by
  cases slot with
  | none => exact holds
  | some v => exact all v rfl

end All

theorem Slot.live_none {extent : Extent} : Slot.Live extent none :=
  nofun

theorem Slot.live_some {extent : Extent} {v : Value} (live : v.Live extent) :
    Slot.Live extent (some v) :=
  Slot.all_some live

theorem Slot.Live.getD {extent : Extent} {slot : Slot} (live : slot.Live extent) :
    (slot.getD .none).Live extent :=
  Slot.All.getD live Value.live_none

namespace Arguments

section All

variable {property : Value → Prop} {arguments : Arguments}

theorem all_empty : Arguments.empty.All property :=
  ⟨nofun, nofun⟩

theorem all_ofList {values : List Value} (all : ∀ v ∈ values, property v) :
    (Arguments.ofList values).All property :=
  ⟨all, nofun⟩

theorem all_positionalSlots (parameters : List Parameter) {values : List Value}
    (all : ∀ v ∈ values, property v) :
    ∀ slot ∈ positionalSlots parameters values, slot.All property := by
  induction parameters generalizing values with
  | nil =>
    rw [positionalSlots]
    exact nofun
  | cons parameter parameters ih =>
    intro slot member
    cases values with
    | nil =>
      rcases List.mem_cons.mp member with rfl | later
      · exact Slot.all_none
      · exact @ih [] nofun slot later
    | cons value values =>
      rcases List.mem_cons.mp member with rfl | later
      · exact Slot.all_some (all value (.head _))
      · exact ih (fun v present => all v (.tail _ present)) slot later

theorem all_fillNamed {name : String} {value : Value} {parameters : List Parameter}
    {slots filled : List Slot} (holds : property value)
    (all : ∀ slot ∈ slots, slot.All property)
    (made : fillNamed name value parameters slots = .ok filled) :
    ∀ slot ∈ filled, slot.All property := by
  induction parameters generalizing slots filled with
  | nil => cases made
  | cons parameter parameters ih =>
    cases slots with
    | nil => cases made
    | cons slot slots =>
      have allRest : ∀ s ∈ slots, s.All property := fun s present => all s (.tail _ present)
      unfold fillNamed at made
      split at made
      · split at made
        · cases made
        · cases made
          rintro other (_ | ⟨_, later⟩)
          · exact Slot.all_some holds
          · exact allRest other later
      · split at made
        · rename_i fills
          cases made
          rintro other (_ | ⟨_, later⟩)
          · exact all slot (.head _)
          · exact ih allRest fills other later
        · cases made

theorem all_fillAllNamed {parameters : List Parameter} {named : List (String × Value)}
    {slots filled : List Slot} (allNamed : ∀ entry ∈ named, property entry.2)
    (all : ∀ slot ∈ slots, slot.All property)
    (made : fillAllNamed parameters named slots = .ok filled) :
    ∀ slot ∈ filled, slot.All property := by
  induction named generalizing slots with
  | nil =>
    cases made
    exact all
  | cons entry named ih =>
    rw [fillAllNamed] at made
    split at made
    · rename_i fills
      exact ih (fun other present => allNamed other (.tail _ present))
        (all_fillNamed (allNamed entry (.head _)) all fills) made
    · cases made

theorem All.unpack {parameters : List Parameter} {slots : List Slot}
    (all : arguments.All property) (made : arguments.unpack parameters = .ok slots) :
    ∀ slot ∈ slots, slot.All property := by
  unfold Arguments.unpack at made
  split at made
  · cases made
  · split at made
    · cases made
    · rename_i fills
      split at made
      · cases made
      · cases made
        exact all_fillAllNamed all.named (all_positionalSlots _ all.positional) fills

theorem All.positionalBetween {low high : Nat} {values : List Value}
    (all : arguments.All property) (made : arguments.positionalBetween low high = .ok values) :
    ∀ v ∈ values, property v := by
  unfold Arguments.positionalBetween at made
  split at made
  · cases made
  · dsimp only at made
    split at made
    · cases made
    · cases made
      exact all.positional

theorem All.positionalOnly {values : List Value} (all : arguments.All property)
    (made : arguments.positionalOnly = .ok values) : ∀ v ∈ values, property v := by
  unfold Arguments.positionalOnly at made
  split at made
  · cases made
  · cases made
    exact all.positional

end All

section Live

variable {extent : Extent} {arguments : Arguments}

theorem live_empty : Arguments.empty.Live extent :=
  ⟨nofun, Bindings.live_nil⟩

theorem live_ofList {values : List Value} (live : ∀ v ∈ values, v.Live extent) :
    (Arguments.ofList values).Live extent :=
  ⟨live, Bindings.live_nil⟩

theorem Live.mono {larger : Extent} (live : arguments.Live extent) (grown : extent ≤ larger) :
    arguments.Live larger :=
  ⟨fun v member => (live.positional v member).mono grown, live.named.mono grown⟩

theorem Live.all (live : arguments.Live extent) : arguments.All (Value.Live extent) :=
  ⟨live.positional, live.named⟩

theorem Live.unpack {parameters : List Parameter} {slots : List Slot}
    (live : arguments.Live extent) (made : arguments.unpack parameters = .ok slots) :
    ∀ slot ∈ slots, slot.Live extent :=
  live.all.unpack made

theorem Live.positionalBetween {low high : Nat} {values : List Value}
    (live : arguments.Live extent) (made : arguments.positionalBetween low high = .ok values) :
    ∀ v ∈ values, v.Live extent :=
  live.all.positionalBetween made

theorem Live.positionalOnly {values : List Value} (live : arguments.Live extent)
    (made : arguments.positionalOnly = .ok values) : ∀ v ∈ values, v.Live extent :=
  live.all.positionalOnly made

end Live

end Arguments

namespace Binding

variable {property : Value → Prop}

theorem all_positionalSlots (params : List Param) {values : List Value}
    (all : ∀ v ∈ values, property v) :
    (∀ slot ∈ (positionalSlots params values).1, slot.All property)
      ∧ ∀ v ∈ (positionalSlots params values).2, property v := by
  have allNone (params : List Param) :
      ∀ slot ∈ (none : Slot) :: params.map fun _ => (none : Slot), Slot.All property slot := by
    intro slot member
    rcases List.mem_cons.mp member with rfl | later
    · exact Slot.all_none
    · obtain ⟨_, _, rfl⟩ := List.mem_map.mp later
      exact Slot.all_none
  induction params generalizing values with
  | nil =>
    rw [positionalSlots]
    exact ⟨nofun, all⟩
  | cons param params ih =>
    unfold positionalSlots
    split
    · cases values with
      | nil => exact ⟨allNone params, nofun⟩
      | cons value values =>
        have rest := ih fun v present => all v (.tail _ present)
        refine ⟨?_, rest.2⟩
        rintro slot (_ | ⟨_, later⟩)
        · exact Slot.all_some (all value (.head _))
        · exact rest.1 slot later
    · exact ⟨allNone params, all⟩

theorem all_fillNamed {function name : String} {value : Value} {params : List Param}
    {slots filled : List Slot} (holds : property value)
    (all : ∀ slot ∈ slots, slot.All property)
    (made : fillNamed function name value params slots = .ok (some filled)) :
    ∀ slot ∈ filled, slot.All property := by
  induction params generalizing slots filled with
  | nil => cases made
  | cons param params ih =>
    cases slots with
    | nil => cases made
    | cons slot slots =>
      have allRest : ∀ s ∈ slots, s.All property := fun s present => all s (.tail _ present)
      unfold fillNamed at made
      split at made
      · split at made
        · cases made
        · cases made
          rintro other (_ | ⟨_, later⟩)
          · exact Slot.all_some holds
          · exact allRest other later
      · split at made
        · rename_i outcome fills
          cases outcome with
          | none => cases made
          | some filled =>
            cases made
            rintro other (_ | ⟨_, later⟩)
            · exact all slot (.head _)
            · exact ih allRest fills other later
        · cases made

theorem all_fillAllNamed {function : String} {collects : Bool} {params : List Param}
    {named left : List (String × Value)} {slots filled : List Slot}
    (allNamed : ∀ entry ∈ named, property entry.2) (all : ∀ slot ∈ slots, slot.All property)
    (made : fillAllNamed function collects params named slots = .ok (filled, left)) :
    (∀ slot ∈ filled, slot.All property) ∧ ∀ entry ∈ left, property entry.2 := by
  induction named generalizing slots filled left with
  | nil =>
    cases made
    exact ⟨all, nofun⟩
  | cons entry named ih =>
    have allRest : ∀ entry ∈ named, property entry.2 :=
      fun other present => allNamed other (.tail _ present)
    rw [fillAllNamed] at made
    split at made
    · cases made
    · rename_i fills
      exact ih allRest (all_fillNamed (allNamed entry (.head _)) all fills) made
    · split at made
      · split at made
        · rename_i fills
          cases made
          have rest := ih allRest all fills
          refine ⟨rest.1, ?_⟩
          rintro other (_ | ⟨_, later⟩)
          · exact allNamed _ (.head _)
          · exact rest.2 other later
        · cases made
      · cases made

/-- What is said of the arguments that are left is said of the parameter that takes them. -/
theorem all_collected {left : Option (List (String × Value))} (nothing : property .none)
    (allLeft : ∀ named, left = some named → ∀ entry ∈ named, property entry.2) :
    (collected left).All property := by
  cases left with
  | none => exact nothing
  | some named => exact allLeft named rfl

theorem all_bindSlots {function : String} {extra : List Value}
    {left : Option (List (String × Value))}
    {params : List Param} {slots : List Slot} {defaults : List (Option Value)}
    {bound : List (String × Bound)} (nothing : property .none) (empty : property (.tuple []))
    (holdsExtra : property (.tuple extra))
    (allLeft : ∀ named, left = some named → ∀ entry ∈ named, property entry.2)
    (all : ∀ slot ∈ slots, slot.All property)
    (allDefaults : ∀ slot ∈ defaults, Slot.All property slot)
    (made : bindSlots function extra left params slots defaults = .ok bound) :
    ∀ entry ∈ bound, entry.2.All property := by
  induction params generalizing extra left slots defaults bound with
  | nil =>
    unfold bindSlots at made
    cases made
    exact nofun
  | cons param params ih =>
    cases slots with
    | nil =>
      unfold bindSlots at made
      cases made
      exact nofun
    | cons slot slots =>
      cases defaults with
      | nil =>
        unfold bindSlots at made
        cases made
        exact nofun
      | cons default defaults =>
        have bindsRest {extra : List Value} {left : Option (List (String × Value))} (first : Bound)
            (holdsExtra : property (.tuple extra))
            (allLeft : ∀ named, left = some named → ∀ entry ∈ named, property entry.2)
            (holdsFirst : first.All property)
            (mapped : (bindSlots function extra left params slots defaults).map
              ((param.name, first) :: ·) = .ok bound) : ∀ entry ∈ bound, entry.2.All property := by
          cases rest : bindSlots function extra left params slots defaults with
          | error fault =>
            rw [rest] at mapped
            cases mapped
          | ok others =>
            rw [rest] at mapped
            cases mapped
            rintro entry (_ | ⟨_, later⟩)
            · exact holdsFirst
            · exact ih holdsExtra allLeft (fun s present => all s (.tail _ present))
                (fun s present => allDefaults s (.tail _ present)) rest entry later
        unfold bindSlots at made
        split at made
        · exact bindsRest (.value _) holdsExtra allLeft (all _ (.head _) _ rfl) made
        · split at made
          · cases made
          · exact bindsRest (.value _) holdsExtra allLeft
              ((allDefaults default (.head _)).getD nothing) made
          · exact bindsRest (.value _) empty allLeft holdsExtra made
          · exact bindsRest _ holdsExtra (fun _ absent => by cases absent) (all_collected nothing allLeft)
              made

end Binding

/-- What is said of the values that a function keeps, and of its arguments, is said of what its
parameters are bound to. -/
theorem Function.all_bind {property : Value → Prop} {f : Function Value} {arguments : Arguments}
    {bound : List (String × Bound)} (nothing : property .none)
    (tuples : ∀ items, (∀ v ∈ items, property v) → property (.tuple items))
    (kept : ∀ v ∈ f.values, property v) (all : arguments.All property)
    (made : f.bind arguments = .ok bound) :
    ∀ entry ∈ bound, entry.2.All property := by
  have slots := Binding.all_positionalSlots f.decl.params all.positional
  unfold Function.bind at made
  dsimp only at made
  split at made
  · cases made
  · split at made
    · cases made
    · rename_i fills
      have filled := Binding.all_fillAllNamed all.named slots.1 fills
      refine Binding.all_bindSlots nothing (tuples [] nofun) (tuples _ slots.2)
        (fun named same => Option.some.inj same ▸ filled.2) filled.1 (fun slot member => ?_) made
      rintro v rfl
      exact kept v (List.mem_append_left _ (List.mem_filterMap.mpr ⟨_, member, rfl⟩))

/-- The values that a function keeps are live, and so is what its parameters are bound to. -/
theorem Function.live_bind {extent : Extent} {f : Function Value} {arguments : Arguments}
    {bound : List (String × Bound)} (liveFunction : ∀ v ∈ f.values, v.Live extent)
    (live : arguments.Live extent) (made : f.bind arguments = .ok bound) :
    ∀ entry ∈ bound, entry.2.Live extent := by
  intro entry member
  have all := Function.all_bind Value.live_none (fun _ => Value.live_tuple.mpr) liveFunction
    live.all made entry member
  revert all
  cases entry.2 <;> exact id

end PixelApplet
