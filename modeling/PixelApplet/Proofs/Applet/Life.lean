import PixelApplet.Proofs.Applet.Watching
import PixelApplet.Proofs.Evaluation.FrozenData
import PixelApplet.Proofs.Json.ValueRoundTrip
import PixelApplet.Proofs.Schema.HandlerTables
import PixelApplet.Proofs.Value.Equality

/-!
# The life of an applet

An applet lives from when it was loaded, for as long as its host keeps it.  The host invokes it with
values that it has: values that came out of the applet before, what they are made of and refer to,
and data.  In between anything may happen that leaves alone what is reached from such values; in
particular, modules of other files may be dropped, for instance those of files that failed to load.

All that time the values that the host has belong to a realm whose functions are those of the files
of the applet.
-/

namespace PixelApplet

/-- A value that refers to nothing and is made of nothing. -/
def Value.IsData : Value → Prop
  | none | bool _ | int _ | float _ | str _ => True
  | _ => False

/-- A module binds a value to some name. -/
def ModuleCell.Binds (cell : ModuleCell) (v : Value) : Prop :=
  ∃ name, (name, v) ∈ cell.vars ∨ (name, v) ∈ cell.loaded ∨ (name, v) ∈ cell.predeclared

theorem ModuleCell.Belongs.binds {R : Realm} {cell : ModuleCell} {v : Value}
    (belongs : cell.Belongs R) (binds : cell.Binds v) : v.Belongs R := by
  obtain ⟨name, var | loaded | predeclared⟩ := binds
  · exact belongs.vars _ var
  · exact belongs.loaded _ loaded
  · exact belongs.predeclared _ predeclared

/-- What somebody has on a heap who is given some values. -/
inductive Heap.Gives (h : Heap) (given : Value → Prop) : Value → Prop where
  | given {v : Value} : given v → h.Gives given v
  | part {v part : Value} : h.Gives given v → part ∈ v.parts → h.Gives given part
  | item {ref : ListRef} {v : Value} :
    h.Gives given (.list ref) → v ∈ (h.list ref).items.toList → h.Gives given v
  | key {ref : DictRef} {entry : DictEntry} :
    h.Gives given (.dict ref) → entry ∈ (h.dict ref).entries.toList → h.Gives given entry.key
  | value {ref : DictRef} {entry : DictEntry} :
    h.Gives given (.dict ref) → entry ∈ (h.dict ref).entries.toList → h.Gives given entry.value
  /-- A function sees the variables of its module. -/
  | global {identity : Identity} {f : Function Value} {v : Value} :
    h.Gives given (.function identity f) → (h.module f.home).Binds v → h.Gives given v
  | data {v : Value} : v.IsData → h.Gives given v
  | tuple {items : List Value} : (∀ v ∈ items, h.Gives given v) → h.Gives given (.tuple items)

namespace Applet

variable {applet : Applet} {known : Value → Prop} {m m' : Machine}

/-- The host is given the entry point, the handlers of the schema and the variables of all files,
what the library hands out, and what it got to know. -/
inductive Given (applet : Applet) (known : Value → Prop) (m : Machine) : Value → Prop where
  | entryPoint : applet.Given known m applet.entryPoint
  | handler {loaded : LoadedSchema} {name : String} {handler : SchemaHandler} :
    applet.schema = some loaded → loaded.schema.handlers.get? name = some handler →
      applet.Given known m handler.function
  | global {file : String} {ref : ModuleRef} {v : Value} :
    (file, ref) ∈ applet.modules → (m.heap.module ref).Binds v → applet.Given known m v
  | fonts : applet.Given known m (.dict Heap.fonts)
  | known {v : Value} : known v → applet.Given known m v

/-- The host has a value. -/
def Has (applet : Applet) (known : Value → Prop) (m : Machine) : Value → Prop :=
  m.heap.Gives (applet.Given known m)

/-- What is reached from the values that the host has is left alone. -/
structure Untouched (applet : Applet) (known : Value → Prop) (m m' : Machine) : Prop where
  lists : ∀ ref, applet.Has known m (.list ref) → m'.heap.list ref = m.heap.list ref
  dicts : ∀ ref, applet.Has known m (.dict ref) → m'.heap.dict ref = m.heap.dict ref
  modules : ∀ file ref, (file, ref) ∈ applet.modules → m'.heap.module ref = m.heap.module ref

/-- The machines on which an applet lives, and the values that its host got to know by then. -/
inductive Life (applet : Applet) : Machine → (Value → Prop) → Prop where
  | loaded {m m' : Machine} {source : FileSource} :
    m.heap.dict Heap.fonts = Heap.initial.dict Heap.fonts →
      Applet.load applet.context source m = .ok (.ok applet) m' →
        applet.Life m' fun _ => False
  | called {m m' : Machine} {known : Value → Prop} {callable : Value} {arguments : List Value}
      {token : TokenRef} {outcome : Except AppletFault Value} :
    applet.Life m known → applet.Has known m callable →
      (∀ v ∈ arguments, applet.Has known m v) →
        applet.call callable arguments token m = .ok outcome m' →
          applet.Life m' fun v => known v ∨ outcome = .ok v
  | run {m m' : Machine} {known : Value → Prop} {config : List (String × String)}
      {token : TokenRef} {outcome : Except AppletFault (List RenderRoot)} :
    applet.Life m known → applet.run config token m = .ok outcome m' → applet.Life m' known
  | asked {m m' : Machine} {known : Value → Prop} {name parameter : String} {token : TokenRef}
      {outcome : Except AppletFault String} :
    applet.Life m known → applet.callHandler name parameter token m = .ok outcome m' →
      applet.Life m' known
  | tested {m m' : Machine} {known : Value → Prop} {results : List TestResult} :
    applet.Life m known → applet.runTests m = .ok results m' → applet.Life m' known
  /-- The host makes a list or a dict of values that it has. -/
  | listed {m m' : Machine} {known : Value → Prop} {items : List Value} {list : Value} :
    applet.Life m known → (∀ v ∈ items, applet.Has known m v) →
      Eval.newList items m = .ok list m' → applet.Life m' fun v => known v ∨ v = list
  | tabled {m m' : Machine} {known : Value → Prop} {bindings : Bindings Value} {dict : Value} :
    applet.Life m known → (∀ binding ∈ bindings, applet.Has known m binding.2) →
      Eval.newDict (.ofBindings bindings) m = .ok dict m' →
        applet.Life m' fun v => known v ∨ v = dict
  | elsewhere {m m' : Machine} {known : Value → Prop} :
    applet.Life m known → applet.Untouched known m m' → applet.Life m' known

/-! ## The realm of an applet -/

/-- The schema was decoded from a value, against what its file exports; the module of the file is
frozen, so the file exports the same for good. -/
def SchemaStands (applet : Applet) (h : Heap) (loaded : LoadedSchema) : Prop :=
  ∃ ref value, (loaded.file, ref) ∈ applet.modules ∧ (h.module ref).frozen = true
    ∧ Schema.ofValue (h.module ref).vars value = .ok loaded.schema
    ∧ loaded.schema.Unambiguous (h.module ref).vars value

theorem SchemaStands.later {h h' : Heap} {loaded : LoadedSchema}
    (stands : applet.SchemaStands h loaded) (keeps : h.Keeps h') :
    applet.SchemaStands h' loaded := by
  obtain ⟨ref, value, member, frozen, closed⟩ := stands
  obtain ⟨frozen', vars⟩ := keeps.modules ref frozen
  exact ⟨ref, value, member, frozen', vars ▸ closed⟩

/-- All that the host has belongs to a realm whose modules are held, and whose functions are those
of the files of the applet. -/
structure Settled (applet : Applet) (known : Value → Prop) (R : Realm) (m : Machine) : Prop where
  standing : R.standing
  homes : ∀ ref, R.homes ref ↔ ∃ file, (file, ref) ∈ applet.modules
  guards : R.Guards m.heap
  modules : ∀ file ref, (file, ref) ∈ applet.modules → R.modules ref
  entryPoint : applet.entryPoint.Belongs R
  handlers : ∀ loaded, applet.schema = some loaded → ∀ name handler,
    loaded.schema.handlers.get? name = some handler → handler.function.Belongs R
  schema : ∀ loaded, applet.schema = some loaded → applet.SchemaStands m.heap loaded
  known : ∀ v, known v → v.Belongs R

theorem Settled.belongs {R : Realm} (settled : applet.Settled known R m) {v : Value}
    (has : applet.Has known m v) : v.Belongs R := by
  have guards := settled.guards
  induction has with
  | given is =>
    cases is with
    | entryPoint => exact settled.entryPoint
    | handler loaded found => exact settled.handlers _ loaded _ _ found
    | global member binds => exact (guards.modules _ (settled.modules _ _ member)).binds binds
    | fonts => exact Value.belongs_dict.mpr guards.fonts
    | known knows => exact settled.known _ knows
  | part _ member ih => exact ih.inside _ member
  | item _ member ih => exact guards.lists _ (Value.belongs_list.mp ih) _ member
  | key _ member ih => exact ((guards.dicts _ (Value.belongs_dict.mp ih)).all _ member).1
  | value _ member ih => exact ((guards.dicts _ (Value.belongs_dict.mp ih)).all _ member).2
  | global _ binds ih =>
    exact (guards.modules _ (Value.belongs_function.mp ih).1.2.1).binds binds
  | @data v plain =>
    cases v with
    | none | bool | int | float | str => exact Value.belongs_of_plain trivial rfl
    | _ => exact plain.elim
  | tuple _ ih => exact Value.belongs_tuple.mpr ih

/-! ### When an applet was loaded -/

/-- The cells that are still to come, and the dict of the fonts. -/
def freshRealm (h : Heap) : Realm where
  lists ref := h.extent.lists ≤ ref.index
  dicts ref := ref = Heap.fonts ∨ h.extent.dicts ≤ ref.index
  modules ref := h.extent.modules ≤ ref.index
  homes _ := False
  standing := True

theorem belongs_initialFonts (R : Realm) : (Heap.initial.dict Heap.fonts).Belongs R := by
  have entries : Bindings.Belong R (Font.names.map fun font => (font, .str font)) := by
    intro binding member
    obtain ⟨font, _, rfl⟩ := List.mem_map.mp member
    exact Value.belongs_str font
  have belongs := DictCell.belongs_ofBindings entries
  exact ⟨belongs.all, belongs.keyed.hashes, belongs.keyed.different⟩

section Fresh

variable {R : Realm} {h : Heap}

theorem belong_newList {ref : ListRef} (new : h.extent.lists ≤ ref.index) :
    ∀ v ∈ (h.list ref).items.toList, v.Belongs R := by
  have empty : h.list ref = default := by
    rw [Heap.list, Array.getD_eq_getD_getElem?, Array.getElem?_eq_none new]
    rfl
  rw [empty]
  exact List.forall_mem_nil _

theorem belongs_newDict {ref : DictRef} (new : h.extent.dicts ≤ ref.index) :
    (h.dict ref).Belongs R := by
  have empty : h.dict ref = .empty := by
    rw [Heap.dict, Array.getD_eq_getD_getElem?, Array.getElem?_eq_none new]
    rfl
  rw [empty]
  exact DictCell.belongs_empty

theorem belongs_newModule {ref : ModuleRef} (new : h.extent.modules ≤ ref.index) :
    (h.module ref).Belongs R := by
  have empty : h.module ref = default := by
    rw [Heap.module, Array.getD_eq_getD_getElem?, Array.getElem?_eq_none new]
    rfl
  rw [empty]
  exact ⟨List.forall_mem_nil _, List.forall_mem_nil _, List.forall_mem_nil _⟩

end Fresh

/-- Before an applet is loaded, nothing belongs to its realm but what is still to come. -/
theorem guards_freshRealm {h : Heap} (fonts : h.dict Heap.fonts = Heap.initial.dict Heap.fonts) :
    (freshRealm h).Guards h where
  newLists _ new := new
  newDicts _ := .inr
  newModules _ new := new
  fonts := .inl rfl
  lists _ new := belong_newList new
  dicts ref inside := by
    rcases inside with rfl | new
    · rw [fonts]
      exact belongs_initialFonts _
    · exact belongs_newDict new
  modules _ new := belongs_newModule new
  held _ _ := False.elim

/-- The schema that an applet was loaded with was decoded from what a script made. -/
theorem loaded_watches {source : FileSource} (upstanding : applet.context.Upstanding)
    (fonts : m.heap.dict Heap.fonts = Heap.initial.dict Heap.fonts)
    (ran : Applet.load applet.context source m = .ok (.ok applet) m') :
    ∃ loading, (freshRealm m.heap).Watches { m' with loading := loading }
      ∧ loading.modules = applet.modules ∧ loading.schema = applet.schema
      ∧ loading.entry = some (applet.entryFile, applet.entryPoint) := by
  obtain ⟨loaded, file, main, loads, entry, same⟩ := load_ok_iff.mp ran
  have watches := Eval.Follows.loadAll upstanding (guards_freshRealm fonts) loads
  refine ⟨loaded, watches, (congrArg Applet.modules same).symm, (congrArg Applet.schema same).symm,
    ?_⟩
  rw [entry, congrArg Applet.entryFile same, congrArg Applet.entryPoint same]

/-- The host has nothing yet but what it is given with the applet. -/
theorem settled_of_load {source : FileSource} (upstanding : applet.context.Upstanding)
    (fonts : m.heap.dict Heap.fonts = Heap.initial.dict Heap.fonts)
    (ran : Applet.load applet.context source m = .ok (.ok applet) m') :
    ∃ R, applet.Settled (fun _ => False) R m' := by
  obtain ⟨loading, watches, modules, schema, entry⟩ := loaded_watches upstanding fonts ran
  refine ⟨(freshRealm m.heap).including loading, trivial, fun ref => ?_, watches.guards,
    fun file ref member => ?_, watches.entry _ _ entry, fun loaded given name handler found => ?_,
    fun loaded given => ?_, fun _ => False.elim⟩
  · rw [← modules]
    exact or_iff_right fun none_ => none_
  · exact watches.modules (file, ref) (modules ▸ member)
  · obtain ⟨ref, value, _, _, belongs, decoded⟩ := watches.schema loaded (schema.trans given)
    exact Schema.handler_belongs belongs decoded found
  · obtain ⟨ref, value, member, frozen, belongs, decoded⟩ :=
      watches.schema loaded (schema.trans given)
    exact ⟨ref, value, modules ▸ member, frozen, decoded,
      Schema.unambiguous_of_belongs belongs decoded⟩

/-! ### While an applet lives -/

section Keeping

open Eval Upholds Realm

variable {R : Realm} (upstanding : applet.context.Upstanding)

include upstanding

theorem upholds_call {callable : Value} {arguments : List Value} {token : TokenRef}
    (belongs : callable.Belongs R) (belong : ∀ v ∈ arguments, v.Belongs R) :
    Keeps R (applet.call callable arguments token) :=
  Upholds.invoke upstanding belongs (Arguments.all_ofList belong)

theorem upholds_run {config : List (String × String)} {token : TokenRef}
    (belongs : applet.entryPoint.Belongs R) :
    Upholds R (applet.run config token) (applet.run config token) fun _ => True := by
  have texts : Bindings.Belong R
      ((sortedConfig config).map fun entry => (entry.1, Value.str entry.2)) := by
    intro binding member
    obtain ⟨entry, _, rfl⟩ := List.mem_map.mp member
    exact Value.belongs_str _
  unfold run
  split
  · refine (newDict (DictCell.belongs_ofBindings texts)).bind fun dict has => ?_
    refine (upholds_call upstanding belongs (List.forall_mem_singleton.mpr has)).bind
      fun outcome _ => ?_
    cases outcome with
    | error fault => exact pure trivial
    | ok value => exact readHeapWith fun _ _ => trivial
  · refine (upholds_call upstanding belongs (List.forall_mem_nil _)).bind fun outcome _ => ?_
    cases outcome with
    | error fault => exact pure trivial
    | ok value => exact readHeapWith fun _ _ => trivial

omit upstanding in
theorem upholds_handlerResult {file name : String} {handler : SchemaHandler} {value : Value} :
    Upholds R (applet.handlerResult file name handler value)
      (applet.handlerResult file name handler value) fun _ => True := by
  unfold handlerResult
  split
  · exact readingHeap fun _ _ => pure trivial
  · refine readingHeap fun _ _ => ?_
    split
    · exact pure trivial
    · exact pure trivial
  · split
    · exact pure trivial
    · exact pure trivial

theorem upholds_callHandler {name parameter : String} {token : TokenRef}
    (belong : ∀ loaded, applet.schema = some loaded → ∀ name handler,
      loaded.schema.handlers.get? name = some handler → handler.function.Belongs R) :
    Upholds R (applet.callHandler name parameter token)
      (applet.callHandler name parameter token) fun _ => True := by
  unfold callHandler
  split
  · exact pure trivial
  · rename_i loaded given
    split
    · exact pure trivial
    · rename_i handler found
      refine (upholds_call upstanding (belong loaded given name handler found)
        (List.forall_mem_singleton.mpr (Value.belongs_str parameter))).bind fun outcome _ => ?_
      cases outcome with
      | error fault => exact pure trivial
      | ok value => exact upholds_handlerResult

theorem upholds_runTests
    (belong : ∀ h, R.Guards h → ∀ test ∈ applet.tests h, test.2.2.Belongs R) :
    Upholds R applet.runTests applet.runTests fun _ => True := by
  refine readingHeap fun h guards => (mapM fun test member => ?_).runs
  refine newToken.bind fun token _ => ?_
  refine (invokeWith upstanding (changeThread _) (belong h guards test member)
    Arguments.all_empty).bindWith fun outcome _ => ?_
  obtain ⟨outcome, failures⟩ := outcome
  cases outcome with
  | ok value => exact pure trivial
  | error fault => exact pure trivial

end Keeping

theorem belongs_of_mem_tests {R : Realm} {h : Heap} (guards : R.Guards h)
    (modules : ∀ file ref, (file, ref) ∈ applet.modules → R.modules ref) :
    ∀ test ∈ applet.tests h, test.2.2.Belongs R := by
  intro test member
  obtain ⟨⟨file, ref⟩, loaded, member⟩ := List.mem_flatMap.mp member
  obtain ⟨⟨name, v⟩, exported, rfl⟩ := List.mem_map.mp member
  have cell := guards.modules ref (modules file ref (List.mem_mergeSort.mp loaded))
  exact cell.vars _ (List.mem_filter.mp (List.mem_mergeSort.mp exported)).1

/-- The realm of what the host had before something happened elsewhere. -/
def remainingRealm (applet : Applet) (known : Value → Prop) (m m' : Machine) : Realm where
  lists ref := applet.Has known m (.list ref) ∨ m'.heap.extent.lists ≤ ref.index
  dicts ref := applet.Has known m (.dict ref) ∨ m'.heap.extent.dicts ≤ ref.index
  modules ref := (∃ file, (file, ref) ∈ applet.modules) ∨ m'.heap.extent.modules ≤ ref.index
  homes ref := ∃ file, (file, ref) ∈ applet.modules
  standing := True

/-- What the host has belongs to the realm of what it has. -/
theorem Settled.remains {R : Realm} (settled : applet.Settled known R m) {v : Value}
    (has : applet.Has known m v) : v.Belongs (applet.remainingRealm known m m') := by
  have belongs := settled.belongs has
  unfold Value.Belongs at belongs
  induction belongs with
  | @intro v admitted _ ih =>
    refine .intro ?_ fun part member => ih part member (.part has member)
    cases v with
    | list ref => exact .inl has
    | dict ref => exact .inl has
    | function identity f =>
      have home := (settled.homes _).mp admitted.1
      exact ⟨home, .inl home, admitted.2.2⟩
    | struct fields => exact admitted
    | native identity n => exact admitted
    | _ => trivial

/-- What the host has stays settled when something happens elsewhere. -/
theorem Settled.elsewhere {R : Realm} (settled : applet.Settled known R m)
    (untouched : applet.Untouched known m m') :
    applet.Settled known (applet.remainingRealm known m m') m' where
  standing := trivial
  homes _ := Iff.rfl
  guards :=
    { newLists := fun _ => .inr
      newDicts := fun _ => .inr
      newModules := fun _ => .inr
      fonts := .inl (.given .fonts)
      lists := fun ref inside => by
        rcases inside with has | new
        · rw [untouched.lists ref has]
          exact fun v member => settled.remains (.item has member)
        · exact belong_newList new
      dicts := fun ref inside => by
        rcases inside with has | new
        · rw [untouched.dicts ref has]
          have cell := settled.guards.dicts ref (Value.belongs_dict.mp (settled.belongs has))
          exact ⟨fun entry member => ⟨settled.remains (.key has member),
            settled.remains (.value has member)⟩, cell.keyed⟩
        · exact belongs_newDict new
      modules := fun ref inside => by
        rcases inside with ⟨file, loaded⟩ | new
        · rw [untouched.modules file ref loaded]
          have has {v : Value} (binds : (m.heap.module ref).Binds v) :
              v.Belongs (applet.remainingRealm known m m') :=
            settled.remains (.given (.global loaded binds))
          exact ⟨fun binding member => has ⟨binding.1, .inl member⟩,
            fun binding member => has ⟨binding.1, .inr (.inl member)⟩,
            fun binding member => has ⟨binding.1, .inr (.inr member)⟩⟩
        · exact belongs_newModule new
      held := fun _ ref ⟨file, loaded⟩ => by
        rw [untouched.modules file ref loaded]
        exact settled.guards.held settled.standing ref ((settled.homes ref).mpr ⟨file, loaded⟩) }
  modules file _ loaded := .inl ⟨file, loaded⟩
  entryPoint := settled.remains (.given .entryPoint)
  handlers _ given _ _ found := settled.remains (.given (.handler given found))
  schema loaded given := by
    obtain ⟨ref, value, member, closed⟩ := settled.schema loaded given
    exact ⟨ref, value, member, (untouched.modules _ ref member).symm ▸ closed⟩
  known _ knows := settled.remains (.given (.known knows))

/-- An action that upholds the realm keeps what the host has settled. -/
theorem Settled.act {α : Type} {R : Realm} {act : Eval α} {holds : α → Prop} {value : α}
    (settled : applet.Settled known R m) (upholds : Eval.Upholds R act act holds)
    (ran : act m = .ok value m') : applet.Settled known R m' ∧ holds value := by
  have outcome := (upholds m settled.guards).2
  rw [ran] at outcome
  obtain ⟨aside, guards, held⟩ := outcome
  exact ⟨⟨settled.standing, settled.homes, guards, settled.modules, settled.entryPoint,
    settled.handlers, fun loaded given => (settled.schema loaded given).later aside.keeps,
    settled.known⟩, held⟩

/-- The host gets to know more values of the realm. -/
theorem Settled.learn {R : Realm} {more : Value → Prop} (settled : applet.Settled known R m)
    (belong : ∀ v, more v → v.Belongs R) : applet.Settled (fun v => known v ∨ more v) R m :=
  ⟨settled.standing, settled.homes, settled.guards, settled.modules, settled.entryPoint,
    settled.handlers, settled.schema, fun v knows => knows.elim (settled.known v) (belong v)⟩

/-- For as long as an applet lives, all that the host has is settled. -/
theorem Life.settled (upstanding : applet.context.Upstanding) (life : applet.Life m known) :
    ∃ R, applet.Settled known R m := by
  induction life with
  | loaded fonts ran => exact settled_of_load upstanding fonts ran
  | called _ has given ran ih =>
    obtain ⟨R, settled⟩ := ih
    obtain ⟨later, belongs⟩ := settled.act (upholds_call upstanding (settled.belongs has)
      fun v member => settled.belongs (given v member)) ran
    exact ⟨R, later.learn belongs⟩
  | run _ ran ih =>
    obtain ⟨R, settled⟩ := ih
    exact ⟨R, (settled.act (upholds_run upstanding settled.entryPoint) ran).1⟩
  | asked _ ran ih =>
    obtain ⟨R, settled⟩ := ih
    exact ⟨R, (settled.act (upholds_callHandler upstanding settled.handlers) ran).1⟩
  | tested _ ran ih =>
    obtain ⟨R, settled⟩ := ih
    have upholds := upholds_runTests upstanding fun h guards =>
      belongs_of_mem_tests guards settled.modules
    exact ⟨R, (settled.act upholds ran).1⟩
  | listed _ given ran ih =>
    obtain ⟨R, settled⟩ := ih
    obtain ⟨later, belongs⟩ := settled.act
      (Eval.Upholds.newList fun v member => settled.belongs (given v member)) ran
    exact ⟨R, later.learn fun v same => same ▸ belongs⟩
  | tabled _ given ran ih =>
    obtain ⟨R, settled⟩ := ih
    have entries := DictCell.belongs_ofBindings fun binding member =>
      settled.belongs (given binding member)
    obtain ⟨later, belongs⟩ := settled.act (Eval.Upholds.newDict entries) ran
    exact ⟨R, later.learn fun v same => same ▸ belongs⟩
  | elsewhere _ untouched ih =>
    obtain ⟨R, settled⟩ := ih
    exact ⟨_, settled.elsewhere untouched⟩

/-- In all that the host has, the keys of dicts and the names in structs are different, as they are
for values that survive their documents. -/
theorem Life.keyed (upstanding : applet.context.Upstanding) (life : applet.Life m known) {v : Value}
    (has : applet.Has known m v) : m.heap.Keyed v := by
  obtain ⟨R, settled⟩ := life.settled upstanding
  exact settled.guards.keyed (settled.belongs has)

/-- All that the host has is orderly, unless it has floats or circles in it: its equality is an
equivalence, and agrees with its keys and its order. -/
theorem Life.orderly (upstanding : applet.context.Upstanding) (life : applet.Life m known)
    {v : Value} (has : applet.Has known m v) (straight : m.heap.Straight v)
    (floatFree : ∀ x, ¬m.heap.Reaches v (.float x)) : m.heap.Orderly v := by
  obtain ⟨R, settled⟩ := life.settled upstanding
  have belongs {w : Value} (reaches : m.heap.Reaches v w) : w.Belongs R :=
    settled.guards.belongs_of_reaches (settled.belongs has) reaches
  exact ⟨straight, floatFree,
    fun ref reaches => (settled.guards.dicts ref (Value.belongs_dict.mp (belongs reaches))).keyed,
    fun fields reaches => (Value.belongs_struct.mp (belongs reaches)).1⟩

end Applet

end PixelApplet
