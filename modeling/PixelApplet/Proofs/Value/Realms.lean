import PixelApplet.Proofs.Value.Freezing
import PixelApplet.Proofs.Value.Results

/-!
# Realms

A realm is a part of the heap: some lists, dicts and modules, and among the modules those whose
functions belong to it.  A value belongs to a realm if nothing that it is made of refers to anything
outside, and if it is made as the program makes its values: a struct has each name once, a function
has no load statement in it, and a field of a schema names the function behind it.

A heap guards a realm if what its cells hold belongs to it, too.  Cells that are still to come are
part of every guarded realm, so what a program allocates belongs to it without further notice.
-/

namespace PixelApplet

/-- A part of the heap. -/
structure Realm where
  lists : ListRef → Prop
  dicts : DictRef → Prop
  /-- The modules whose variables are read. -/
  modules : ModuleRef → Prop
  /-- The modules whose functions belong to the realm. -/
  homes : ModuleRef → Prop
  /-- Whether all of these modules are held. -/
  standing : Prop

/-- The kind of results that a type of fields implies for the handler behind a field. -/
def HandlerKind.ofFieldType? (type : String) : Option HandlerKind :=
  if type = "locationbased" ∨ type = "typeahead" then some .options
  else if type = "generated" then some .schema
  else if type = "oauth2" then some .string
  else none

/-- A field names the function behind it, if there is one, and its results are of the kind that the
type of the field implies. -/
def Native.WellMade : Native Value → Prop
  | field _ f backing =>
    f.handler = backing.map (fun behind => behind.1.callableName)
      ∧ backing.map Prod.snd = HandlerKind.ofFieldType? f.kind
  | _ => True

namespace Value

variable {R : Realm}

/-- What a value itself refers to belongs to a realm, and the value is made as the program makes its
values. -/
def admitted (R : Realm) : Value → Prop
  | list ref => R.lists ref
  | dict ref => R.dicts ref
  | function _ f => R.homes f.home ∧ R.modules f.home ∧ f.decl.LoadsOutside
  | struct fields => (fields.map Prod.fst).Nodup
  | native _ n => n.WellMade
  | _ => True

/-- All that a value is made of belongs to a realm. -/
def Belongs (R : Realm) : Value → Prop :=
  Throughout parts (admitted R)

/-- A value that is made of no others. -/
theorem belongs_of_plain {v : Value} (here : v.admitted R) (none_ : v.parts = []) : v.Belongs R :=
  .intro here (by rw [none_]; exact fun _ member => nomatch member)

@[simp, grind .] theorem belongs_none : Belongs R none := belongs_of_plain trivial rfl

@[simp, grind .] theorem belongs_bool (b : Bool) : Belongs R (bool b) := belongs_of_plain trivial rfl

@[simp, grind .] theorem belongs_int (i : Int64) : Belongs R (int i) := belongs_of_plain trivial rfl

@[simp, grind .] theorem belongs_float (x : Float) : Belongs R (float x) :=
  belongs_of_plain trivial rfl

@[simp, grind .] theorem belongs_str (s : String) : Belongs R (str s) :=
  belongs_of_plain trivial rfl

@[simp, grind =] theorem belongs_list {ref : ListRef} : Belongs R (list ref) ↔ R.lists ref :=
  ⟨fun belongs => belongs.here, fun here => belongs_of_plain here rfl⟩

@[simp, grind =] theorem belongs_dict {ref : DictRef} : Belongs R (dict ref) ↔ R.dicts ref :=
  ⟨fun belongs => belongs.here, fun here => belongs_of_plain here rfl⟩

@[simp, grind =] theorem belongs_tuple {items : List Value} :
    Belongs R (tuple items) ↔ ∀ v ∈ items, Belongs R v :=
  ⟨fun belongs => belongs.inside, fun inside => .intro trivial inside⟩

@[simp] theorem belongs_function {identity : Identity} {f : Function Value} :
    Belongs R (function identity f) ↔
      (R.homes f.home ∧ R.modules f.home ∧ f.decl.LoadsOutside) ∧ ∀ v ∈ f.values, Belongs R v :=
  ⟨fun belongs => ⟨belongs.here, belongs.inside⟩, fun ⟨here, inside⟩ => .intro here inside⟩

@[simp, grind =] theorem belongs_builtin {identity : Identity} {b : Builtin Value} :
    Belongs R (builtin identity b) ↔ ∀ v, b.receiver = some v → Belongs R v :=
  ⟨fun belongs v receives => belongs.inside v (Option.mem_toList.mpr receives),
    fun inside => .intro trivial fun v member => inside v (Option.mem_toList.mp member)⟩

@[simp, grind =] theorem belongs_struct {fields : List (String × Value)} :
    Belongs R (struct fields) ↔
      (fields.map Prod.fst).Nodup ∧ ∀ field ∈ fields, Belongs R field.2 :=
  ⟨fun belongs => ⟨belongs.here, fun _ member => belongs.inside _ (List.mem_map_of_mem member)⟩,
    fun ⟨here, inside⟩ => .intro here fun v member => by
      obtain ⟨field, present, rfl⟩ := List.mem_map.mp member
      exact inside field present⟩

@[simp, grind =] theorem belongs_module {identity : Identity} {name : String}
    {members : List (String × Value)} :
    Belongs R (module identity name members) ↔ ∀ entry ∈ members, Belongs R entry.2 :=
  ⟨fun belongs entry member => belongs.inside _ (List.mem_map_of_mem member),
    fun inside => .intro trivial fun v member => by
      obtain ⟨entry, present, rfl⟩ := List.mem_map.mp member
      exact inside entry present⟩

@[simp, grind =] theorem belongs_native {identity : Identity} {n : Native Value} :
    Belongs R (native identity n) ↔ n.WellMade ∧ ∀ v ∈ n.values, Belongs R v :=
  ⟨fun belongs => ⟨belongs.here, belongs.inside⟩, fun ⟨here, inside⟩ => .intro here inside⟩

end Value

/-! ## Cells -/

/-- All bound values belong to a realm. -/
def Bindings.Belong (R : Realm) (bindings : Bindings Value) : Prop :=
  ∀ binding ∈ bindings, binding.2.Belongs R

namespace Bindings

variable {R : Realm} {bindings : Bindings Value}

theorem Belong.lookup {name : String} {value : Value} (belong : bindings.Belong R)
    (found : bindings.lookup name = some value) : value.Belongs R :=
  belong _ (mem_of_lookup found)

theorem Belong.insert {name : String} {value : Value} (belong : bindings.Belong R)
    (belongs : value.Belongs R) : (bindings.insert name value).Belong R := by
  intro binding member
  rcases mem_insert member with rfl | old
  · exact belongs
  · exact belong binding old

/-- Binding names one after the other keeps what is said of all bound values. -/
theorem Belong.insertAll {more : Bindings Value} (belongMore : more.Belong R)
    (belong : bindings.Belong R) : (Bindings.insertAll more bindings).Belong R := by
  rw [Bindings.insertAll]
  induction more generalizing bindings with
  | nil => exact belong
  | cons binding more ih =>
    rw [List.foldl_cons]
    exact ih (fun other member => belongMore other (.tail _ member))
      (belong.insert (belongMore binding (.head _)))

end Bindings

namespace HashKey

mutual

theorem same_refl : (key : HashKey) → key.same key = true
  | none => rfl
  | bool b => by simp [same]
  | int i => by simp [same]
  | float bits => by simp [same]
  | str text => by simp [same]
  | tuple items => by
    rw [same]
    exact sameAll_refl items
  | object identity => by simp [same]

theorem sameAll_refl : (keys : List HashKey) → sameAll keys keys = true
  | [] => rfl
  | key :: rest => by rw [sameAll, same_refl key, sameAll_refl rest, Bool.and_true]

end

end HashKey

namespace DictCell

variable {R : Realm} {cell : DictCell}

/-- The keys of a dict with what they are found by. -/
def marks (cell : DictCell) : List (Value × HashKey) :=
  cell.entries.toList.map fun entry => (entry.key, entry.hash)

/-- The entries of a dict are found by their keys, and no two are found by the same. -/
structure Keyed (cell : DictCell) : Prop where
  hashes : ∀ mark ∈ cell.marks, mark.1.hashKey = .ok mark.2
  different : cell.marks.Pairwise fun a b => a.2.same b.2 = false

theorem keyed_empty : DictCell.empty.Keyed :=
  ⟨nofun, List.Pairwise.nil⟩

/-- The keys of a dict are different. -/
theorem Keyed.nodup (keyed : cell.Keyed) : cell.keys.Nodup := by
  have keys : cell.keys = cell.marks.map Prod.fst := by
    rw [DictCell.keys, marks, List.map_map]
    rfl
  rw [keys]
  refine List.pairwise_map.mpr (keyed.different.imp_of_mem fun {a b} first second apart same => ?_)
  have hashes := keyed.hashes a first
  rw [same, keyed.hashes b second] at hashes
  rw [Except.ok.inj hashes, HashKey.same_refl] at apart
  cases apart

/-- Storing under a known key leaves the keys as they are. -/
theorem marks_insert_of_known {hash : HashKey} (key value : Value) {i : Nat}
    (known : cell.position? hash = some i) : (cell.insert hash key value).marks = cell.marks := by
  rw [insert, known]
  dsimp only [marks]
  rw [Array.toList_modify]
  refine List.ext_getElem? fun j => ?_
  rw [List.getElem?_map, List.getElem?_map, List.getElem?_modify, Option.map_eq_map,
    Option.map_map]
  congr 1
  funext entry
  dsimp only [Function.comp]
  split <;> rfl

theorem marks_insert_of_new {hash : HashKey} (key value : Value)
    (new : cell.position? hash = none) :
    (cell.insert hash key value).marks = cell.marks ++ [(key, hash)] := by
  rw [insert, new]
  simp [marks]

theorem Keyed.insert {hash : HashKey} {key value : Value} (keyed : cell.Keyed)
    (found : key.hashKey = .ok hash) : (cell.insert hash key value).Keyed := by
  cases place : cell.position? hash with
  | some i =>
    have same := marks_insert_of_known key value place
    exact ⟨same ▸ keyed.hashes, same ▸ keyed.different⟩
  | none =>
    have longer := marks_insert_of_new key value place
    rw [position?, Array.findIdx?_eq_none_iff] at place
    constructor
    · intro mark member
      rw [longer, List.mem_append, List.mem_singleton] at member
      rcases member with old | rfl
      · exact keyed.hashes mark old
      · exact found
    · rw [longer]
      refine List.pairwise_append.mpr ⟨keyed.different, List.pairwise_singleton _ _, ?_⟩
      intro mark member other same
      obtain ⟨entry, present, rfl⟩ := List.mem_map.mp member
      rw [List.mem_singleton.mp same]
      exact place entry (Array.mem_toList_iff.mp present)

theorem Keyed.eraseAt (keyed : cell.Keyed) (i : Nat) : (cell.eraseAt i).Keyed := by
  have fewer : (cell.eraseAt i).marks.Sublist cell.marks := by
    refine List.Sublist.map _ ?_
    simp only [DictCell.eraseAt, Array.toList_eraseIdxIfInBounds]
    exact List.eraseIdx_sublist ..
  exact ⟨fun mark member => keyed.hashes mark (fewer.subset member),
    keyed.different.sublist fewer⟩

theorem keyed_ofBindings (bindings : Bindings Value) : (DictCell.ofBindings bindings).Keyed := by
  rw [DictCell.ofBindings]
  suffices every : ∀ cell : DictCell, cell.Keyed → (bindings.foldl (fun cell binding =>
      cell.insert (.str binding.1) (.str binding.1) binding.2) cell).Keyed from every _ keyed_empty
  induction bindings with
  | nil => exact fun _ keyed => keyed
  | cons binding bindings ih => exact fun cell keyed => ih _ (keyed.insert rfl)

/-- Keys and values of a dict belong to a realm, and each key is there once. -/
structure Belongs (R : Realm) (cell : DictCell) : Prop where
  all : cell.All (Value.Belongs R)
  keyed : cell.Keyed

theorem belongs_empty : DictCell.empty.Belongs R :=
  ⟨all_empty, keyed_empty⟩

theorem Belongs.insert {hash : HashKey} {key value : Value} (belongs : cell.Belongs R)
    (found : key.hashKey = .ok hash) (belongsKey : key.Belongs R) (belongsValue : value.Belongs R) :
    (cell.insert hash key value).Belongs R :=
  ⟨belongs.all.insert belongsKey belongsValue, belongs.keyed.insert found⟩

theorem Belongs.eraseAt (belongs : cell.Belongs R) (i : Nat) : (cell.eraseAt i).Belongs R :=
  ⟨belongs.all.eraseAt i, belongs.keyed.eraseAt i⟩

theorem belongs_ofBindings {bindings : Bindings Value} (belong : bindings.Belong R) :
    (DictCell.ofBindings bindings).Belongs R :=
  ⟨(all_ofBindings Value.belongs_str belong).1, keyed_ofBindings bindings⟩

end DictCell

/-- All values of a module belong to a realm. -/
structure ModuleCell.Belongs (R : Realm) (cell : ModuleCell) : Prop where
  vars : cell.vars.Belong R
  loaded : cell.loaded.Belong R
  predeclared : cell.predeclared.Belong R

namespace Realm

/-- Lists and dicts outside of a realm are the same in two heaps. -/
structure Spares (R : Realm) (h h' : Heap) : Prop where
  lists : ∀ ref, ¬R.lists ref → h'.list ref = h.list ref
  dicts : ∀ ref, ¬R.dicts ref → h'.dict ref = h.dict ref

namespace Spares

variable {R : Realm} {h : Heap}

theorem refl (R : Realm) (h : Heap) : R.Spares h h :=
  ⟨fun _ _ => rfl, fun _ _ => rfl⟩

theorem trans {a b c : Heap} (first : R.Spares a b) (second : R.Spares b c) : R.Spares a c where
  lists ref outside := (second.lists ref outside).trans (first.lists ref outside)
  dicts ref outside := (second.dicts ref outside).trans (first.dicts ref outside)

theorem addList {cell : ListCell} (inside : R.lists h.nextList) : R.Spares h (h.addList cell) where
  lists ref outside := by
    rw [Heap.list_addList, if_neg]
    rintro rfl
    exact outside inside
  dicts _ _ := rfl

theorem addDict {cell : DictCell} (inside : R.dicts h.nextDict) : R.Spares h (h.addDict cell) where
  lists _ _ := rfl
  dicts ref outside := by
    rw [Heap.dict_addDict, if_neg]
    rintro rfl
    exact outside inside

theorem modifyList {ref : ListRef} {f : ListCell → ListCell} (inside : R.lists ref) :
    R.Spares h (h.modifyList ref f) where
  lists other outside := by
    rw [Heap.list_modifyList, if_neg]
    rintro ⟨rfl, _⟩
    exact outside inside
  dicts _ _ := rfl

theorem modifyDict {ref : DictRef} {f : DictCell → DictCell} (inside : R.dicts ref) :
    R.Spares h (h.modifyDict ref f) where
  lists _ _ := rfl
  dicts other outside := by
    rw [Heap.dict_modifyDict, if_neg]
    rintro ⟨rfl, _⟩
    exact outside inside

theorem modifyModule {ref : ModuleRef} {f : ModuleCell → ModuleCell} :
    R.Spares h (h.modifyModule ref f) :=
  ⟨fun _ _ => rfl, fun _ _ => rfl⟩

end Spares

/-- What the cells of a realm hold belongs to it, and so does every cell that is still to come. -/
structure Guards (R : Realm) (h : Heap) : Prop where
  newLists : ∀ ref : ListRef, h.extent.lists ≤ ref.index → R.lists ref
  newDicts : ∀ ref : DictRef, h.extent.dicts ≤ ref.index → R.dicts ref
  newModules : ∀ ref : ModuleRef, h.extent.modules ≤ ref.index → R.modules ref
  fonts : R.dicts Heap.fonts
  lists : ∀ ref, R.lists ref → ∀ v ∈ (h.list ref).items.toList, v.Belongs R
  dicts : ∀ ref, R.dicts ref → (h.dict ref).Belongs R
  modules : ∀ ref, R.modules ref → (h.module ref).Belongs R
  held : R.standing → ∀ ref, R.homes ref → (h.module ref).held = true

namespace Guards

variable {R : Realm} {h : Heap}

theorem addList {cell : ListCell} (guards : R.Guards h)
    (belong : ∀ v ∈ cell.items.toList, v.Belongs R) : R.Guards (h.addList cell) where
  newLists ref new := guards.newLists ref (by simp at new; omega)
  newDicts := guards.newDicts
  newModules := guards.newModules
  fonts := guards.fonts
  lists ref inside := by
    rw [Heap.list_addList]
    split
    · exact belong
    · exact guards.lists ref inside
  dicts := guards.dicts
  modules := guards.modules
  held := guards.held

theorem addDict {cell : DictCell} (guards : R.Guards h) (belongs : cell.Belongs R) :
    R.Guards (h.addDict cell) where
  newLists := guards.newLists
  newDicts ref new := guards.newDicts ref (by simp at new; omega)
  newModules := guards.newModules
  fonts := guards.fonts
  lists := guards.lists
  dicts ref inside := by
    rw [Heap.dict_addDict]
    split
    · exact belongs
    · exact guards.dicts ref inside
  modules := guards.modules
  held := guards.held

theorem addModule {cell : ModuleCell} (guards : R.Guards h) (belongs : cell.Belongs R)
    (held : cell.held = true) : R.Guards (h.addModule cell) where
  newLists := guards.newLists
  newDicts := guards.newDicts
  newModules ref new := guards.newModules ref (by simp at new; omega)
  fonts := guards.fonts
  lists := guards.lists
  dicts := guards.dicts
  modules ref inside := by
    rw [Heap.module_addModule]
    split
    · exact belongs
    · exact guards.modules ref inside
  held standing ref home := by
    rw [Heap.module_addModule]
    split
    · exact held
    · exact guards.held standing ref home

/-- A list of the realm may be changed into one whose elements belong to the realm. -/
theorem modifyList {ref : ListRef} {f : ListCell → ListCell} (guards : R.Guards h)
    (belong : R.lists ref → ∀ v ∈ (f (h.list ref)).items.toList, v.Belongs R) :
    R.Guards (h.modifyList ref f) where
  newLists := by simpa using guards.newLists
  newDicts := guards.newDicts
  newModules := guards.newModules
  fonts := guards.fonts
  lists other inside := by
    rw [Heap.list_modifyList]
    split
    · rename_i same
      exact belong (same.1 ▸ inside)
    · exact guards.lists other inside
  dicts := guards.dicts
  modules := guards.modules
  held := guards.held

theorem modifyDict {ref : DictRef} {f : DictCell → DictCell} (guards : R.Guards h)
    (belongs : R.dicts ref → (f (h.dict ref)).Belongs R) : R.Guards (h.modifyDict ref f) where
  newLists := guards.newLists
  newDicts := by simpa using guards.newDicts
  newModules := guards.newModules
  fonts := guards.fonts
  lists := guards.lists
  dicts other inside := by
    rw [Heap.dict_modifyDict]
    split
    · rename_i same
      exact belongs (same.1 ▸ inside)
    · exact guards.dicts other inside
  modules := guards.modules
  held := guards.held

theorem modifyModule {ref : ModuleRef} {f : ModuleCell → ModuleCell} (guards : R.Guards h)
    (belongs : R.modules ref → (f (h.module ref)).Belongs R)
    (held : ∀ cell, (f cell).held = cell.held) : R.Guards (h.modifyModule ref f) where
  newLists := guards.newLists
  newDicts := guards.newDicts
  newModules := by simpa using guards.newModules
  fonts := guards.fonts
  lists := guards.lists
  dicts := guards.dicts
  modules other inside := by
    rw [Heap.module_modifyModule]
    split
    · rename_i same
      exact belongs (same.1 ▸ inside)
    · exact guards.modules other inside
  held standing other home := by
    rw [Heap.module_modifyModule]
    split
    · rename_i same
      rw [held]
      exact guards.held standing ref (same.1 ▸ home)
    · exact guards.held standing other home

/-- Freezing more cells changes nothing that is held. -/
theorem marks {h' : Heap} (guards : R.Guards h) (marks : h.Marks h') : R.Guards h' where
  newLists := marks.extent ▸ guards.newLists
  newDicts := marks.extent ▸ guards.newDicts
  newModules := marks.extent ▸ guards.newModules
  fonts := guards.fonts
  lists ref inside := by
    rw [marks.items ref]
    exact guards.lists ref inside
  dicts ref inside := by
    have belongs := guards.dicts ref inside
    have entries := marks.entries ref
    refine ⟨?_, ?_⟩
    · rw [DictCell.All, entries]
      exact belongs.all
    · have same : (h'.dict ref).marks = (h.dict ref).marks := by
        rw [DictCell.marks, entries]
        rfl
      exact ⟨same ▸ belongs.keyed.hashes, same ▸ belongs.keyed.different⟩
  modules ref inside := by
    rw [marks.module ref]
    exact guards.modules ref inside
  held standing ref home := by
    rw [marks.module ref]
    exact guards.held standing ref home

theorem freezeModule (guards : R.Guards h) (ref : ModuleRef) : R.Guards (h.freezeModule ref) := by
  unfold Heap.freezeModule
  split
  · exact guards
  · have frozen : R.Guards (h.modifyModule ref fun cell => { cell with frozen := true }) :=
      guards.modifyModule (fun inside =>
        let belongs := guards.modules ref inside
        ⟨belongs.vars, belongs.loaded, belongs.predeclared⟩) fun _ => rfl
    exact frozen.marks (Heap.marks_freezeAll _ _)

/-- Belonging to a guarded realm is handed on from values to what they hold. -/
theorem spreads (guards : R.Guards h) : h.Spreads (Value.Belongs R) where
  none := Value.belongs_none
  bool := Value.belongs_bool
  int := Value.belongs_int
  float := Value.belongs_float
  str := Value.belongs_str
  tuple _ := Value.belongs_tuple
  list ref belongs := guards.lists ref (Value.belongs_list.mp belongs)
  dict ref belongs := (guards.dicts ref (Value.belongs_dict.mp belongs)).all

end Guards

end Realm

end PixelApplet
