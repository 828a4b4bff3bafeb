import PixelApplet.Machine.State
import PixelApplet.Proofs.Script.Placement
import PixelApplet.Value.Heap

/-!
# Live values and sound heaps

A value refers to lists, dicts and modules by number, directly or through the values that it is made
of.  It is live in a heap of some extent if all the numbers are in use there; as cells are never
removed, it stays live.

In a sound heap no cell holds a dangling reference, and what is frozen refers to nothing that can
still change.  The second part is about data: elements, keys, values and fields, but not what a
function keeps.
-/

/-! ## Values without dangling references -/

namespace PixelApplet

/-- How many lists, dicts and modules there are. -/
structure Extent where
  lists : Nat
  dicts : Nat
  modules : Nat

namespace Extent

/-- There are no fewer cells of each kind. -/
structure Within (a b : Extent) : Prop where
  lists : a.lists ≤ b.lists
  dicts : a.dicts ≤ b.dicts
  modules : a.modules ≤ b.modules

instance : LE Extent :=
  ⟨Within⟩

theorem le_refl (a : Extent) : a ≤ a :=
  ⟨Nat.le_refl _, Nat.le_refl _, Nat.le_refl _⟩

theorem le_trans {a b c : Extent} (first : a ≤ b) (second : b ≤ c) : a ≤ c :=
  ⟨Nat.le_trans first.lists second.lists, Nat.le_trans first.dicts second.dicts,
    Nat.le_trans first.modules second.modules⟩

end Extent

/-- How many cells a heap has. -/
def Heap.extent (h : Heap) : Extent :=
  ⟨h.lists.size, h.dicts.size, h.modules.size⟩

/-- The values that a function keeps. -/
def Function.values {V : Type} (f : Function V) : List V :=
  f.defaults.filterMap id ++ (f.captured.getD []).map Prod.snd

/-- The values in a host value. -/
def Native.values {V : Type} : Native V → List V
  | schema _ fields handlers => fields ++ handlers
  | field _ _ backing => (backing.map Prod.fst).toList
  | handler function _ => [function]
  | message _ fields => fields.map Prod.snd
  | widget _ | root _ | option _ | file _ _ => []

namespace Value

/-- The values that a value is made of; what lies behind references is not among them. -/
def parts : Value → List Value
  | tuple items => items
  | function _ f => f.values
  | builtin _ b => b.receiver.toList
  | struct fields => fields.map Prod.snd
  | module _ _ members => members.map Prod.snd
  | native _ n => n.values
  | none | bool _ | int _ | float _ | str _ | list _ | dict _ => []

/-- The values that a value is made of as a piece of data. -/
def dataParts : Value → List Value
  | tuple items => items
  | struct fields => fields.map Prod.snd
  | _ => []

/-- A value and all values it is made of have a property. -/
inductive Throughout (parts : Value → List Value) (property : Value → Prop) : Value → Prop where
  | intro {v : Value} (here : property v)
      (inside : ∀ part ∈ parts v, Throughout parts property part) : Throughout parts property v

namespace Throughout

variable {parts : Value → List Value} {property : Value → Prop} {v : Value}

theorem here (holds : Throughout parts property v) : property v := by
  cases holds with
  | intro here _ => exact here

theorem inside (holds : Throughout parts property v) :
    ∀ part ∈ parts v, Throughout parts property part := by
  cases holds with
  | intro _ inside => exact inside

theorem mono {weaker : Value → Prop} (implies : ∀ v, property v → weaker v)
    (holds : Throughout parts property v) : Throughout parts weaker v := by
  induction holds with
  | intro here _ ih => exact .intro (implies _ here) ih

end Throughout

/-- The references of a value itself are in use, and no load statement stands in its function. -/
def within (extent : Extent) : Value → Prop
  | list ref => ref.index < extent.lists
  | dict ref => ref.index < extent.dicts
  | function _ f => f.home.index < extent.modules ∧ f.decl.LoadsOutside
  | _ => True

/-- All references in a value are in use. -/
def Live (extent : Extent) : Value → Prop :=
  Throughout parts (within extent)

section Live

variable {extent : Extent}

theorem within_mono {larger : Extent} (grown : extent ≤ larger) (v : Value)
    (holds : v.within extent) : v.within larger := by
  cases v with
  | list ref => exact Nat.lt_of_lt_of_le holds grown.lists
  | dict ref => exact Nat.lt_of_lt_of_le holds grown.dicts
  | function identity f => exact ⟨Nat.lt_of_lt_of_le holds.1 grown.modules, holds.2⟩
  | _ => trivial

theorem Live.mono {larger : Extent} {v : Value} (live : v.Live extent) (grown : extent ≤ larger) :
    v.Live larger :=
  Throughout.mono (within_mono grown) live

/-- A value that is made of no others and refers to nothing is live. -/
theorem live_of_plain {v : Value} (here : v.within extent) (none_ : v.parts = []) :
    v.Live extent :=
  .intro here (by rw [none_]; exact fun _ member => nomatch member)

@[simp] theorem live_none : Live extent none := live_of_plain trivial rfl

@[simp] theorem live_bool (b : Bool) : Live extent (bool b) := live_of_plain trivial rfl

@[simp] theorem live_int (i : Int64) : Live extent (int i) := live_of_plain trivial rfl

@[simp] theorem live_float (x : Float) : Live extent (float x) := live_of_plain trivial rfl

@[simp] theorem live_str (s : String) : Live extent (str s) := live_of_plain trivial rfl

@[simp] theorem live_list {ref : ListRef} : Live extent (list ref) ↔ ref.index < extent.lists :=
  ⟨fun live => live.here, fun here => live_of_plain here rfl⟩

@[simp] theorem live_dict {ref : DictRef} : Live extent (dict ref) ↔ ref.index < extent.dicts :=
  ⟨fun live => live.here, fun here => live_of_plain here rfl⟩

@[simp] theorem live_tuple {items : List Value} :
    Live extent (tuple items) ↔ ∀ v ∈ items, Live extent v :=
  ⟨fun live => live.inside, fun inside => .intro trivial inside⟩

@[simp] theorem live_function {identity : Identity} {f : Function Value} :
    Live extent (function identity f) ↔
      f.home.index < extent.modules ∧ f.decl.LoadsOutside ∧ ∀ v ∈ f.values, Live extent v :=
  ⟨fun live => ⟨live.here.1, live.here.2, live.inside⟩,
    fun ⟨home, placed, inside⟩ => .intro ⟨home, placed⟩ inside⟩

@[simp] theorem live_builtin {identity : Identity} {b : Builtin Value} :
    Live extent (builtin identity b) ↔ ∀ v, b.receiver = some v → Live extent v :=
  ⟨fun live v receives => live.inside v (Option.mem_toList.mpr receives),
    fun inside => .intro trivial fun v member => inside v (Option.mem_toList.mp member)⟩

@[simp] theorem live_struct {fields : List (String × Value)} :
    Live extent (struct fields) ↔ ∀ field ∈ fields, Live extent field.2 :=
  ⟨fun live field member => live.inside _ (List.mem_map_of_mem member),
    fun inside => .intro trivial fun v member => by
      obtain ⟨field, present, rfl⟩ := List.mem_map.mp member
      exact inside field present⟩

@[simp] theorem live_module {identity : Identity} {name : String}
    {members : List (String × Value)} :
    Live extent (module identity name members) ↔ ∀ entry ∈ members, Live extent entry.2 :=
  ⟨fun live entry member => live.inside _ (List.mem_map_of_mem member),
    fun inside => .intro trivial fun v member => by
      obtain ⟨entry, present, rfl⟩ := List.mem_map.mp member
      exact inside entry present⟩

@[simp] theorem live_native {identity : Identity} {n : Native Value} :
    Live extent (native identity n) ↔ ∀ v ∈ n.values, Live extent v :=
  ⟨fun live => live.inside, fun inside => .intro trivial inside⟩

end Live

end Value

/-- All bound values are live. -/
def Bindings.Live (extent : Extent) (bindings : Bindings Value) : Prop :=
  ∀ binding ∈ bindings, binding.2.Live extent

namespace Bindings

variable {extent : Extent} {bindings : Bindings Value}

theorem live_nil : Bindings.Live extent [] :=
  fun _ member => nomatch member

theorem Live.mono {larger : Extent} (live : bindings.Live extent) (grown : extent ≤ larger) :
    bindings.Live larger :=
  fun binding member => (live binding member).mono grown

theorem mem_of_lookup {α : Type} {name : String} {bindings : List (String × α)} {value : α}
    (found : bindings.lookup name = some value) : (name, value) ∈ bindings := by
  induction bindings with
  | nil => cases found
  | cons binding bindings ih =>
    obtain ⟨key, other⟩ := binding
    rw [List.lookup_cons] at found
    split at found
    · rename_i same
      cases found
      rw [eq_of_beq same]
      exact .head _
    · exact .tail _ (ih found)

/-- If each name is bound once, every binding is found. -/
theorem lookup_of_mem {α : Type} {bindings : List (String × α)}
    (distinct : (bindings.map Prod.fst).Nodup) {binding : String × α} (member : binding ∈ bindings) :
    bindings.lookup binding.1 = some binding.2 := by
  induction bindings with
  | nil => cases member
  | cons first rest ih =>
    obtain ⟨fresh, distinctRest⟩ := List.nodup_cons.mp distinct
    rcases List.mem_cons.mp member with rfl | later
    · rw [List.lookup_cons, beq_self_eq_true]
    · have different : binding.1 ≠ first.1 := fun same => fresh (same ▸ List.mem_map_of_mem later)
      rw [List.lookup_cons, beq_eq_false_iff_ne.mpr different]
      exact ih distinctRest later

theorem mem_names_insert {α : Type} {name other : String} {value : α} {bindings : Bindings α} :
    other ∈ (bindings.insert name value).map Prod.fst
      ↔ other = name ∨ other ∈ bindings.map Prod.fst := by
  induction bindings with
  | nil => simp [insert]
  | cons first rest ih =>
    rw [insert]
    split
    · rename_i same
      simp [← same]
    · rw [List.map_cons, List.mem_cons, ih, List.map_cons, List.mem_cons]
      exact or_left_comm

/-- A name is bound once. -/
theorem nodup_insert {α : Type} {name : String} {value : α} {bindings : Bindings α}
    (distinct : (bindings.map Prod.fst).Nodup) :
    ((bindings.insert name value).map Prod.fst).Nodup := by
  induction bindings with
  | nil => simp [insert]
  | cons first rest ih =>
    obtain ⟨fresh, distinctRest⟩ := List.nodup_cons.mp distinct
    rw [insert]
    split
    · exact List.nodup_cons.mpr ⟨fresh, distinctRest⟩
    · rename_i different
      refine List.nodup_cons.mpr ⟨fun member => ?_, ih distinctRest⟩
      rcases mem_names_insert.mp member with same | old
      · exact different same
      · exact fresh old

theorem nodup_insertAll {α : Type} {more bindings : Bindings α}
    (distinct : (bindings.map Prod.fst).Nodup) :
    ((Bindings.insertAll more bindings).map Prod.fst).Nodup := by
  rw [Bindings.insertAll]
  induction more generalizing bindings with
  | nil => exact distinct
  | cons binding more ih => exact ih (nodup_insert distinct)

theorem Live.lookup {name : String} {value : Value} (live : bindings.Live extent)
    (found : bindings.lookup name = some value) : value.Live extent :=
  live _ (mem_of_lookup found)

theorem get?_cons {α : Type} (name : String) (first : String × α) (rest : Bindings α) :
    get? name (first :: rest) = if name = first.1 then some first.2 else rest.get? name := by
  rw [get?, List.lookup_cons]
  by_cases same : name = first.1
  · rw [beq_iff_eq.mpr same, if_pos same]
  · rw [beq_eq_false_iff_ne.mpr same, if_neg same]
    rfl

theorem get?_insert_self {α : Type} (name : String) (value : α) (bindings : Bindings α) :
    (bindings.insert name value).get? name = some value := by
  induction bindings with
  | nil => rw [insert, get?_cons, if_pos rfl]
  | cons first rest ih =>
    rw [insert]
    split
    · rename_i same
      rw [get?_cons, if_pos same.symm]
    · rename_i different
      rw [get?_cons, if_neg (Ne.symm different), ih]

theorem get?_insert_of_ne {α : Type} {name other : String} (value : α)
    (bindings : Bindings α) (different : other ≠ name) :
    (bindings.insert name value).get? other = bindings.get? other := by
  induction bindings with
  | nil => rw [insert, get?_cons, if_neg different]
  | cons first rest ih =>
    rw [insert]
    split
    · rename_i same
      rw [get?_cons, get?_cons, same, if_neg different, if_neg different]
    · rw [get?_cons, get?_cons, ih]

theorem mem_insert {α : Type} {name : String} {value : α} {bindings : Bindings α}
    {binding : String × α} (member : binding ∈ bindings.insert name value) :
    binding = (name, value) ∨ binding ∈ bindings := by
  induction bindings with
  | nil =>
    rw [insert, List.mem_singleton] at member
    exact .inl member
  | cons first rest ih =>
    rw [insert] at member
    split at member
    · rename_i same
      rcases List.mem_cons.mp member with here | later
      · exact .inl (by rw [here, same])
      · exact .inr (.tail _ later)
    · rcases List.mem_cons.mp member with here | later
      · exact .inr (by rw [here]; exact .head _)
      · exact (ih later).imp id (.tail _)

theorem Live.insert {name : String} {value : Value} (live : bindings.Live extent)
    (liveValue : value.Live extent) : (bindings.insert name value).Live extent := by
  intro binding member
  rcases mem_insert member with rfl | old
  · exact liveValue
  · exact live binding old

theorem Live.insertAll {more : Bindings Value} (liveMore : more.Live extent)
    (live : bindings.Live extent) : (Bindings.insertAll more bindings).Live extent := by
  rw [Bindings.insertAll]
  induction more generalizing bindings with
  | nil => exact live
  | cons binding more ih =>
    rw [List.foldl_cons]
    exact ih (fun other member => liveMore other (.tail _ member))
      (live.insert (liveMore binding (.head _)))

end Bindings

/-! ## Sound heaps -/

/-- All elements of a list are live. -/
def ListCell.Live (extent : Extent) (cell : ListCell) : Prop :=
  ∀ v ∈ cell.items.toList, v.Live extent

/-- All keys and values of a dict are live. -/
def DictCell.Live (extent : Extent) (cell : DictCell) : Prop :=
  ∀ entry ∈ cell.entries.toList, entry.key.Live extent ∧ entry.value.Live extent

/-- All values of a module are live. -/
structure ModuleCell.Live (extent : Extent) (cell : ModuleCell) : Prop where
  vars : cell.vars.Live extent
  loaded : cell.loaded.Live extent
  predeclared : cell.predeclared.Live extent

theorem ListCell.Live.mono {extent larger : Extent} {cell : ListCell} (live : cell.Live extent)
    (grown : extent ≤ larger) : cell.Live larger :=
  fun v member => (live v member).mono grown

theorem DictCell.Live.mono {extent larger : Extent} {cell : DictCell} (live : cell.Live extent)
    (grown : extent ≤ larger) : cell.Live larger :=
  fun entry member => ⟨(live entry member).1.mono grown, (live entry member).2.mono grown⟩

theorem ModuleCell.Live.mono {extent larger : Extent} {cell : ModuleCell} (live : cell.Live extent)
    (grown : extent ≤ larger) : cell.Live larger :=
  ⟨live.vars.mono grown, live.loaded.mono grown, live.predeclared.mono grown⟩

/-- The cell that a value itself refers to is frozen. -/
def Value.pinned (h : Heap) : Value → Prop
  | .list ref => (h.list ref).frozen = true
  | .dict ref => (h.dict ref).frozen = true
  | _ => True

/-- All cells that a value refers to as a piece of data are frozen. -/
def Value.Settled (h : Heap) : Value → Prop :=
  Value.Throughout Value.dataParts (Value.pinned h)

namespace Heap

/-- Nothing dangles, what is frozen refers to frozen cells only, and the dict of the fonts is there.
-/
structure Sound (h : Heap) : Prop where
  fonts : fonts.index < h.extent.dicts
  lists : ∀ ref, (h.list ref).Live h.extent
  dicts : ∀ ref, (h.dict ref).Live h.extent
  modules : ∀ ref, (h.module ref).Live h.extent
  settledLists : ∀ ref, (h.list ref).frozen = true →
    ∀ v ∈ (h.list ref).items.toList, v.Settled h
  settledDicts : ∀ ref, (h.dict ref).frozen = true →
    ∀ entry ∈ (h.dict ref).entries.toList, entry.key.Settled h ∧ entry.value.Settled h
  settledModules : ∀ ref, (h.module ref).frozen = true →
    ∀ binding ∈ (h.module ref).vars, binding.2.Settled h

/-- What is frozen in one heap is there and the same in another. -/
structure Keeps (h h' : Heap) : Prop where
  extent : h.extent ≤ h'.extent
  lists : ∀ ref, (h.list ref).frozen = true → h'.list ref = h.list ref
  dicts : ∀ ref, (h.dict ref).frozen = true → h'.dict ref = h.dict ref
  modules : ∀ ref, (h.module ref).frozen = true →
    (h'.module ref).frozen = true ∧ (h'.module ref).vars = (h.module ref).vars

namespace Keeps

theorem refl (h : Heap) : h.Keeps h :=
  ⟨Extent.le_refl _, fun _ _ => rfl, fun _ _ => rfl, fun _ frozen => ⟨frozen, rfl⟩⟩

theorem trans {a b c : Heap} (first : a.Keeps b) (second : b.Keeps c) : a.Keeps c where
  extent := Extent.le_trans first.extent second.extent
  lists ref frozen := by
    have same := first.lists ref frozen
    rw [second.lists ref (by rw [same]; exact frozen), same]
  dicts ref frozen := by
    have same := first.dicts ref frozen
    rw [second.dicts ref (by rw [same]; exact frozen), same]
  modules ref frozen := by
    have same := first.modules ref frozen
    have same' := second.modules ref same.1
    exact ⟨same'.1, same'.2.trans same.2⟩

/-- What is settled stays settled. -/
theorem settled {h h' : Heap} (keeps : h.Keeps h') {v : Value} (settled : v.Settled h) :
    v.Settled h' := by
  refine Value.Throughout.mono (fun v pinned => ?_) settled
  cases v with
  | list ref => exact (congrArg ListCell.frozen (keeps.lists ref pinned)).trans pinned
  | dict ref => exact (congrArg DictCell.frozen (keeps.dicts ref pinned)).trans pinned
  | _ => trivial

end Keeps

section Cells

variable (h : Heap)

theorem list_modifyList (ref other : ListRef) (f : ListCell → ListCell) :
    (h.modifyList ref f).list other
      = if other = ref ∧ ref.index < h.lists.size then f (h.list ref) else h.list other := by
  obtain ⟨i⟩ := ref
  obtain ⟨j⟩ := other
  simp only [modifyList, list, Array.getD_eq_getD_getElem?, Array.getElem?_modify,
    ListRef.mk.injEq]
  by_cases same : j = i
  · subst same
    by_cases inside : j < h.lists.size
    · simp [inside]
    · simp [inside]
  · simp [same, Ne.symm same]

theorem dict_modifyDict (ref other : DictRef) (f : DictCell → DictCell) :
    (h.modifyDict ref f).dict other
      = if other = ref ∧ ref.index < h.dicts.size then f (h.dict ref) else h.dict other := by
  obtain ⟨i⟩ := ref
  obtain ⟨j⟩ := other
  simp only [modifyDict, dict, Array.getD_eq_getD_getElem?, Array.getElem?_modify,
    DictRef.mk.injEq]
  by_cases same : j = i
  · subst same
    by_cases inside : j < h.dicts.size
    · simp [inside]
    · simp [inside]
  · simp [same, Ne.symm same]

theorem module_modifyModule (ref other : ModuleRef) (f : ModuleCell → ModuleCell) :
    (h.modifyModule ref f).module other
      = if other = ref ∧ ref.index < h.modules.size then f (h.module ref)
        else h.module other := by
  obtain ⟨i⟩ := ref
  obtain ⟨j⟩ := other
  simp only [modifyModule, module, Array.getD_eq_getD_getElem?, Array.getElem?_modify,
    ModuleRef.mk.injEq]
  by_cases same : j = i
  · subst same
    by_cases inside : j < h.modules.size
    · simp [inside]
    · simp [inside]
  · simp [same, Ne.symm same]

theorem list_addList (cell : ListCell) (ref : ListRef) :
    (h.addList cell).list ref = if ref = h.nextList then cell else h.list ref := by
  obtain ⟨i⟩ := ref
  simp only [addList, list, nextList, Array.getD_eq_getD_getElem?, Array.getElem?_push,
    ListRef.mk.injEq]
  split <;> rfl

theorem dict_addDict (cell : DictCell) (ref : DictRef) :
    (h.addDict cell).dict ref = if ref = h.nextDict then cell else h.dict ref := by
  obtain ⟨i⟩ := ref
  simp only [addDict, dict, nextDict, Array.getD_eq_getD_getElem?, Array.getElem?_push,
    DictRef.mk.injEq]
  split <;> rfl

theorem module_addModule (cell : ModuleCell) (ref : ModuleRef) :
    (h.addModule cell).module ref = if ref = h.nextModule then cell else h.module ref := by
  obtain ⟨i⟩ := ref
  simp only [addModule, module, nextModule, Array.getD_eq_getD_getElem?, Array.getElem?_push,
    ModuleRef.mk.injEq]
  split <;> rfl

@[simp] theorem extent_modifyList (ref : ListRef) (f : ListCell → ListCell) :
    (h.modifyList ref f).extent = h.extent := by
  simp [extent, modifyList]

@[simp] theorem extent_modifyDict (ref : DictRef) (f : DictCell → DictCell) :
    (h.modifyDict ref f).extent = h.extent := by
  simp [extent, modifyDict]

@[simp] theorem extent_modifyModule (ref : ModuleRef) (f : ModuleCell → ModuleCell) :
    (h.modifyModule ref f).extent = h.extent := by
  simp [extent, modifyModule]

@[simp] theorem extent_addList (cell : ListCell) :
    (h.addList cell).extent = { h.extent with lists := h.extent.lists + 1 } := by
  simp [extent, addList]

@[simp] theorem extent_addDict (cell : DictCell) :
    (h.addDict cell).extent = { h.extent with dicts := h.extent.dicts + 1 } := by
  simp [extent, addDict]

@[simp] theorem extent_addModule (cell : ModuleCell) :
    (h.addModule cell).extent = { h.extent with modules := h.extent.modules + 1 } := by
  simp [extent, addModule]

/-- Beyond the last list there is nothing, and so nothing frozen. -/
theorem list_nextList_thawed : (h.list h.nextList).frozen = false := by
  simp only [list, nextList, Array.getD_eq_getD_getElem?]
  rw [Array.getElem?_eq_none (Nat.le_refl _)]
  rfl

theorem dict_nextDict_thawed : (h.dict h.nextDict).frozen = false := by
  simp only [dict, nextDict, Array.getD_eq_getD_getElem?]
  rw [Array.getElem?_eq_none (Nat.le_refl _)]
  rfl

theorem module_nextModule_thawed : (h.module h.nextModule).frozen = false := by
  simp only [module, nextModule, Array.getD_eq_getD_getElem?]
  rw [Array.getElem?_eq_none (Nat.le_refl _)]
  rfl

end Cells

end Heap

end PixelApplet
