import PixelApplet.Proofs.Value.Changes
import PixelApplet.Value.Heap

/-!
# Freezing and executing files

Freezing goes through a structure and marks each cell before what the cell holds, so on the way a
marked cell may refer to cells that are not marked yet.  What holds at every moment is that the
cells marked by a finished visit refer to marked cells only.  The visit cannot run out of depth:
each step into a cell leaves one cell less to be marked.

Executing a file adds its module, lets it take names from other modules, and in the end freezes it.
Together with the changes that statements make, this is all that happens to a heap.
-/

/-! ## Freezing reaches everything -/

namespace PixelApplet.Heap

/-- One heap is another with more cells frozen and nothing else changed. -/
structure Marks (h h' : Heap) : Prop where
  extent : h'.extent = h.extent
  items : ∀ ref, (h'.list ref).items = (h.list ref).items
  entries : ∀ ref, (h'.dict ref).entries = (h.dict ref).entries
  modules : h'.modules = h.modules
  frozenLists : ∀ ref, (h.list ref).frozen = true → (h'.list ref).frozen = true
  frozenDicts : ∀ ref, (h.dict ref).frozen = true → (h'.dict ref).frozen = true

namespace Marks

theorem refl (h : Heap) : h.Marks h :=
  ⟨rfl, fun _ => rfl, fun _ => rfl, rfl, fun _ => id, fun _ => id⟩

theorem trans {a b c : Heap} (first : a.Marks b) (second : b.Marks c) : a.Marks c where
  extent := second.extent.trans first.extent
  items ref := (second.items ref).trans (first.items ref)
  entries ref := (second.entries ref).trans (first.entries ref)
  modules := second.modules.trans first.modules
  frozenLists ref frozen := second.frozenLists ref (first.frozenLists ref frozen)
  frozenDicts ref frozen := second.frozenDicts ref (first.frozenDicts ref frozen)

theorem module {h h' : Heap} (marks : h.Marks h') (ref : ModuleRef) :
    h'.module ref = h.module ref := by
  rw [Heap.module, Heap.module, marks.modules]

theorem keeps {h h' : Heap} (marks : h.Marks h') : h.Keeps h' where
  extent := marks.extent ▸ Extent.le_refl _
  lists ref frozen := by
    have frozen' := marks.frozenLists ref frozen
    have items := marks.items ref
    cases same : h.list ref
    cases same' : h'.list ref
    simp_all
  dicts ref frozen := by
    have frozen' := marks.frozenDicts ref frozen
    have entries := marks.entries ref
    cases same : h.dict ref
    cases same' : h'.dict ref
    simp_all
  modules ref frozen := by
    rw [marks.module ref]
    exact ⟨frozen, rfl⟩

end Marks

/-- What a visit of values leaves: the values are settled, and so is what the newly frozen cells
hold. -/
structure Settles (values : List Value) (h h' : Heap) : Prop where
  marks : h.Marks h'
  values : ∀ v ∈ values, v.Settled h'
  lists : ∀ ref, (h.list ref).frozen = false → (h'.list ref).frozen = true →
    ∀ v ∈ (h'.list ref).items.toList, v.Settled h'
  dicts : ∀ ref, (h.dict ref).frozen = false → (h'.dict ref).frozen = true →
    ∀ entry ∈ (h'.dict ref).entries.toList, entry.key.Settled h' ∧ entry.value.Settled h'

namespace Settles

theorem nil (h : Heap) : Settles [] h h where
  marks := Marks.refl h
  values _ member := nomatch member
  lists _ thawed frozen := Bool.noConfusion (thawed.symm.trans frozen)
  dicts _ thawed frozen := Bool.noConfusion (thawed.symm.trans frozen)

theorem append {first second : List Value} {a b c : Heap} (left : Settles first a b)
    (right : Settles second b c) : Settles (first ++ second) a c where
  marks := left.marks.trans right.marks
  values v member := by
    rcases List.mem_append.mp member with early | late
    · exact right.marks.keeps.settled (left.values v early)
    · exact right.values v late
  lists ref thawed frozen v member := by
    cases between : (b.list ref).frozen with
    | true =>
      rw [right.marks.items ref] at member
      exact right.marks.keeps.settled (left.lists ref thawed between v member)
    | false => exact right.lists ref between frozen v member
  dicts ref thawed frozen entry member := by
    cases between : (b.dict ref).frozen with
    | true =>
      rw [right.marks.entries ref] at member
      have settled := left.dicts ref thawed between entry member
      exact ⟨right.marks.keeps.settled settled.1, right.marks.keeps.settled settled.2⟩
    | false => exact right.dicts ref between frozen entry member

/-- Values that are made of visited values, and refer to nothing themselves, are settled. -/
theorem whole {v : Value} {h h' : Heap} (settles : Settles v.dataParts h h')
    (here : v.pinned h') : Settles [v] h h' where
  marks := settles.marks
  values w member := by
    rw [List.mem_singleton.mp member]
    exact .intro here settles.values
  lists := settles.lists
  dicts := settles.dicts

end Settles

/-- The number of lists and dicts that are not frozen. -/
def thawedCount (h : Heap) : Nat :=
  ((List.range h.lists.size).countP fun i => !(h.list ⟨i⟩).frozen)
    + (List.range h.dicts.size).countP fun i => !(h.dict ⟨i⟩).frozen

/-- Fewer items have a property if all that have it have another, and one has only the other. -/
theorem countP_lt_countP {α : Type} {strong weak : α → Bool} {items : List α} {x : α}
    (implies : ∀ x ∈ items, strong x = true → weak x = true) (member : x ∈ items)
    (holds : weak x = true) (fails : strong x = false) :
    items.countP strong < items.countP weak := by
  induction items with
  | nil => cases member
  | cons first rest ih =>
    have later : ∀ x ∈ rest, strong x = true → weak x = true :=
      fun x inRest => implies x (.tail _ inRest)
    rw [List.countP_cons, List.countP_cons]
    cases member with
    | head =>
      rw [holds, fails]
      have := List.countP_mono_left later
      simp only [Bool.false_eq_true, if_false, if_true]
      omega
    | tail _ inRest =>
      have here : (if strong first = true then 1 else 0)
          ≤ if weak first = true then 1 else 0 := by
        split
        · rename_i isStrong
          exact Nat.le_of_eq (if_pos (implies first (.head _) isStrong)).symm
        · exact Nat.zero_le _
      exact Nat.add_lt_add_of_lt_of_le (ih later inRest) here

theorem Marks.thawedCount_le {h h' : Heap} (marks : h.Marks h') :
    h'.thawedCount ≤ h.thawedCount := by
  have lists : h'.lists.size = h.lists.size := congrArg Extent.lists marks.extent
  have dicts : h'.dicts.size = h.dicts.size := congrArg Extent.dicts marks.extent
  rw [thawedCount, thawedCount, lists, dicts]
  refine Nat.add_le_add (List.countP_mono_left fun i _ thawed => ?_)
    (List.countP_mono_left fun i _ thawed => ?_)
  · cases frozen : (h.list ⟨i⟩).frozen with
    | true => rw [marks.frozenLists ⟨i⟩ frozen] at thawed; exact thawed
    | false => rfl
  · cases frozen : (h.dict ⟨i⟩).frozen with
    | true => rw [marks.frozenDicts ⟨i⟩ frozen] at thawed; exact thawed
    | false => rfl

/-- Freezes one list. -/
abbrev markList (h : Heap) (ref : ListRef) : Heap :=
  h.modifyList ref fun cell => { cell with frozen := true }

/-- Freezes one dict. -/
abbrev markDict (h : Heap) (ref : DictRef) : Heap :=
  h.modifyDict ref fun cell => { cell with frozen := true }

theorem marks_markList (h : Heap) (ref : ListRef) : h.Marks (h.markList ref) where
  extent := extent_modifyList h ref _
  items other := by
    rw [list_modifyList]
    split
    · rename_i same
      rw [same.1]
    · rfl
  entries _ := rfl
  modules := rfl
  frozenLists other frozen := by
    rw [list_modifyList]
    split
    · rfl
    · exact frozen
  frozenDicts _ := id

theorem marks_markDict (h : Heap) (ref : DictRef) : h.Marks (h.markDict ref) where
  extent := extent_modifyDict h ref _
  items _ := rfl
  entries other := by
    rw [dict_modifyDict]
    split
    · rename_i same
      rw [same.1]
    · rfl
  modules := rfl
  frozenLists _ := id
  frozenDicts other frozen := by
    rw [dict_modifyDict]
    split
    · rfl
    · exact frozen

theorem markList_frozen {h : Heap} {ref : ListRef} (inside : ref.index < h.lists.size) :
    ((h.markList ref).list ref).frozen = true := by
  rw [list_modifyList, if_pos ⟨rfl, inside⟩]

theorem markDict_frozen {h : Heap} {ref : DictRef} (inside : ref.index < h.dicts.size) :
    ((h.markDict ref).dict ref).frozen = true := by
  rw [dict_modifyDict, if_pos ⟨rfl, inside⟩]

theorem thawedCount_markList {h : Heap} {ref : ListRef} (inside : ref.index < h.lists.size)
    (thawed : (h.list ref).frozen = false) : (h.markList ref).thawedCount < h.thawedCount := by
  have size : (h.markList ref).lists.size = h.lists.size :=
    congrArg Extent.lists (extent_modifyList h ref _)
  have marks := marks_markList h ref
  rw [thawedCount, thawedCount, size]
  refine Nat.add_lt_add_of_lt_of_le (countP_lt_countP (fun i _ stays => ?_)
    (List.mem_range.mpr inside) ?_ ?_) (Nat.le_refl _)
  · cases frozen : (h.list ⟨i⟩).frozen with
    | true => rw [marks.frozenLists ⟨i⟩ frozen] at stays; exact stays
    | false => rfl
  · rw [thawed]
    rfl
  · rw [markList_frozen inside]
    rfl

theorem thawedCount_markDict {h : Heap} {ref : DictRef} (inside : ref.index < h.dicts.size)
    (thawed : (h.dict ref).frozen = false) : (h.markDict ref).thawedCount < h.thawedCount := by
  have size : (h.markDict ref).dicts.size = h.dicts.size :=
    congrArg Extent.dicts (extent_modifyDict h ref _)
  have marks := marks_markDict h ref
  rw [thawedCount, thawedCount, size]
  refine Nat.add_lt_add_of_le_of_lt (Nat.le_refl _) (countP_lt_countP (fun i _ stays => ?_)
    (List.mem_range.mpr inside) ?_ ?_)
  · cases frozen : (h.dict ⟨i⟩).frozen with
    | true => rw [marks.frozenDicts ⟨i⟩ frozen] at stays; exact stays
    | false => rfl
  · rw [thawed]
    rfl
  · rw [markDict_frozen inside]
    rfl

theorem thawedCount_le_cellCount (h : Heap) : h.thawedCount ≤ h.cellCount := by
  rw [thawedCount, cellCount]
  refine Nat.add_le_add ?_ ?_
  · exact Nat.le_trans List.countP_le_length (Nat.le_of_eq List.length_range)
  · exact Nat.le_trans List.countP_le_length (Nat.le_of_eq List.length_range)

/-- No list or dict holds a dangling reference. -/
structure CellsLive (h : Heap) : Prop where
  lists : ∀ ref, (h.list ref).Live h.extent
  dicts : ∀ ref, (h.dict ref).Live h.extent

theorem Marks.cellsLive {h h' : Heap} (marks : h.Marks h') (live : h.CellsLive) :
    h'.CellsLive where
  lists ref := by
    intro v member
    rw [marks.items ref] at member
    rw [marks.extent]
    exact live.lists ref v member
  dicts ref := by
    intro entry member
    rw [marks.entries ref] at member
    rw [marks.extent]
    exact live.dicts ref entry member

/-- A visit that settles live values, as long as no more than so many cells are to be marked. -/
def SettlesTo (depth : Nat) (visit : List Value → Heap → Heap) : Prop :=
  ∀ values h, h.CellsLive → (∀ v ∈ values, v.Live h.extent) → h.thawedCount < depth →
    Settles values h (visit values h)

section Visit

variable {depth : Nat} {visit : List Value → Heap → Heap}

/-- The visit of a list that was not frozen before. -/
theorem Settles.list {h : Heap} {ref : ListRef} (settlesTo : SettlesTo depth visit)
    (live : h.CellsLive) (inside : ref.index < h.lists.size) (thawed : (h.list ref).frozen = false)
    (deep : h.thawedCount ≤ depth) :
    Settles [.list ref] h (visit (h.list ref).items.toList (h.markList ref)) := by
  have marks := marks_markList h ref
  have count := thawedCount_markList inside thawed
  have settles := settlesTo (h.list ref).items.toList (h.markList ref) (marks.cellsLive live)
    (by rw [marks.extent]; exact live.lists ref) (by omega)
  refine ⟨marks.trans settles.marks, fun v member => ?_, fun other wasThawed frozen v member => ?_,
    fun other wasThawed frozen entry member => ?_⟩
  · rw [List.mem_singleton.mp member]
    exact .intro (settles.marks.frozenLists ref (markList_frozen inside))
      fun _ none_ => nomatch none_
  · by_cases same : other = ref
    · subst same
      rw [settles.marks.items, marks.items] at member
      exact settles.values v member
    · refine settles.lists other ?_ frozen v member
      rw [list_modifyList, if_neg fun both => same both.1]
      exact wasThawed
  · exact settles.dicts other wasThawed frozen entry member

/-- The visit of a dict that was not frozen before. -/
theorem Settles.dict {h : Heap} {ref : DictRef} (settlesTo : SettlesTo depth visit)
    (live : h.CellsLive) (inside : ref.index < h.dicts.size) (thawed : (h.dict ref).frozen = false)
    (deep : h.thawedCount ≤ depth) :
    Settles [.dict ref] h (visit
      ((h.dict ref).entries.toList.flatMap fun entry => [entry.key, entry.value])
      (h.markDict ref)) := by
  have marks := marks_markDict h ref
  have count := thawedCount_markDict inside thawed
  have liveHeld : ∀ v ∈ (h.dict ref).entries.toList.flatMap fun entry => [entry.key, entry.value],
      v.Live h.extent := by
    intro v member
    obtain ⟨entry, present, either⟩ := List.mem_flatMap.mp member
    have both := live.dicts ref entry present
    rcases List.mem_cons.mp either with rfl | last
    · exact both.1
    · rw [List.mem_singleton.mp last]
      exact both.2
  have settles := settlesTo _ (h.markDict ref) (marks.cellsLive live)
    (by rw [marks.extent]; exact liveHeld) (by omega)
  refine ⟨marks.trans settles.marks, fun v member => ?_, fun other wasThawed frozen v member => ?_,
    fun other wasThawed frozen entry member => ?_⟩
  · rw [List.mem_singleton.mp member]
    exact .intro (settles.marks.frozenDicts ref (markDict_frozen inside))
      fun _ none_ => nomatch none_
  · exact settles.lists other wasThawed frozen v member
  · by_cases same : other = ref
    · subst same
      rw [settles.marks.entries, marks.entries] at member
      have inHeld : ∀ v ∈ [entry.key, entry.value], v.Settled _ := fun v either =>
        settles.values v (List.mem_flatMap.mpr ⟨entry, member, either⟩)
      exact ⟨inHeld _ (.head _), inHeld _ (.tail _ (.head _))⟩
    · refine settles.dicts other ?_ frozen entry member
      rw [dict_modifyDict, if_neg fun both => same both.1]
      exact wasThawed

/-- A frozen cell, or a value without data parts, needs no visit. -/
theorem Settles.single {v : Value} {h : Heap} (here : v.pinned h) (none_ : v.dataParts = []) :
    Settles [v] h h :=
  Settles.whole (by rw [none_]; exact Settles.nil h) here

mutual

theorem freezeWith_settles (settlesTo : SettlesTo depth visit) (v : Value) (h : Heap)
    (cells : h.CellsLive) (live : v.Live h.extent) (deep : h.thawedCount ≤ depth) :
    Settles [v] h (freezeWith visit v h) := by
  match v with
  | .list ref =>
    rw [freezeWith]
    split
    · rename_i frozen
      exact Settles.single frozen rfl
    · rename_i thawed
      exact Settles.list settlesTo cells (Value.live_list.mp live) (Bool.eq_false_iff.mpr thawed)
        deep
  | .dict ref =>
    rw [freezeWith]
    split
    · rename_i frozen
      exact Settles.single frozen rfl
    · rename_i thawed
      exact Settles.dict settlesTo cells (Value.live_dict.mp live) (Bool.eq_false_iff.mpr thawed)
        deep
  | .tuple items =>
    rw [freezeWith]
    exact Settles.whole
      (freezeAllWith_settles settlesTo items h cells (Value.live_tuple.mp live) deep) trivial
  | .struct fields =>
    rw [freezeWith]
    exact Settles.whole
      (freezeFieldsWith_settles settlesTo fields h cells (Value.live_struct.mp live) deep) trivial
  | .none | .bool _ | .int _ | .float _ | .str _ | .function _ _ | .builtin _ _ | .module _ _ _
  | .native _ _ => exact Settles.single trivial rfl

theorem freezeAllWith_settles (settlesTo : SettlesTo depth visit) (items : List Value) (h : Heap)
    (cells : h.CellsLive) (live : ∀ v ∈ items, v.Live h.extent) (deep : h.thawedCount ≤ depth) :
    Settles items h (freezeAllWith visit items h) := by
  match items with
  | [] => exact Settles.nil h
  | item :: rest =>
    have first := freezeWith_settles settlesTo item h cells (live item (.head _)) deep
    have others := freezeAllWith_settles settlesTo rest (freezeWith visit item h)
      (first.marks.cellsLive cells)
      (by rw [first.marks.extent]; exact fun v member => live v (.tail _ member))
      (Nat.le_trans first.marks.thawedCount_le deep)
    rw [freezeAllWith]
    exact first.append others

theorem freezeFieldsWith_settles (settlesTo : SettlesTo depth visit)
    (fields : List (String × Value)) (h : Heap) (cells : h.CellsLive)
    (live : ∀ field ∈ fields, field.2.Live h.extent) (deep : h.thawedCount ≤ depth) :
    Settles (fields.map Prod.snd) h (freezeFieldsWith visit fields h) := by
  match fields with
  | [] => exact Settles.nil h
  | (name, item) :: rest =>
    have first := freezeWith_settles settlesTo item h cells (live (name, item) (.head _)) deep
    have others := freezeFieldsWith_settles settlesTo rest (freezeWith visit item h)
      (first.marks.cellsLive cells)
      (by rw [first.marks.extent]; exact fun v member => live v (.tail _ member))
      (Nat.le_trans first.marks.thawedCount_le deep)
    rw [freezeFieldsWith]
    exact first.append others

end

end Visit

theorem freezeTo_settles (depth : Nat) : SettlesTo depth (freezeTo depth) := by
  induction depth with
  | zero => exact fun values h _ _ deep => absurd deep (Nat.not_lt_zero _)
  | succ depth ih =>
    intro values h cells live deep
    exact freezeAllWith_settles ih values h cells live (Nat.le_of_lt_succ deep)

theorem freezeAll_settles {h : Heap} {values : List Value} (cells : h.CellsLive)
    (live : ∀ v ∈ values, v.Live h.extent) : Settles values h (freezeAll values h) :=
  freezeTo_settles _ values h cells live (Nat.lt_succ_of_le (thawedCount_le_cellCount h))

/-! ## Freezing only marks

This holds of all values, also of those that are not live. -/

/-- A visit that changes nothing but marks. -/
def OnlyMarks (visit : List Value → Heap → Heap) : Prop :=
  ∀ values h, Marks h (visit values h)

section Marking

variable {visit : List Value → Heap → Heap}

mutual

theorem marks_freezeWith (marks : OnlyMarks visit) (v : Value) (h : Heap) :
    h.Marks (freezeWith visit v h) := by
  match v with
  | .list ref =>
    rw [freezeWith]
    split
    · exact .refl h
    · exact (marks_markList h ref).trans (marks _ _)
  | .dict ref =>
    rw [freezeWith]
    split
    · exact .refl h
    · exact (marks_markDict h ref).trans (marks _ _)
  | .tuple items =>
    rw [freezeWith]
    exact marks_freezeAllWith marks items h
  | .struct fields =>
    rw [freezeWith]
    exact marks_freezeFieldsWith marks fields h
  | .none | .bool _ | .int _ | .float _ | .str _ | .function _ _ | .builtin _ _ | .module _ _ _
  | .native _ _ => exact .refl h

theorem marks_freezeAllWith (marks : OnlyMarks visit) (items : List Value) (h : Heap) :
    h.Marks (freezeAllWith visit items h) := by
  match items with
  | [] => exact .refl h
  | item :: rest =>
    rw [freezeAllWith]
    exact (marks_freezeWith marks item h).trans (marks_freezeAllWith marks rest _)

theorem marks_freezeFieldsWith (marks : OnlyMarks visit) (fields : List (String × Value))
    (h : Heap) : h.Marks (freezeFieldsWith visit fields h) := by
  match fields with
  | [] => exact .refl h
  | (_, item) :: rest =>
    rw [freezeFieldsWith]
    exact (marks_freezeWith marks item h).trans (marks_freezeFieldsWith marks rest _)

end

end Marking

theorem marks_freezeTo (depth : Nat) : OnlyMarks (freezeTo depth) := by
  induction depth with
  | zero => exact fun _ h => .refl h
  | succ depth ih => exact marks_freezeAllWith ih

theorem marks_freezeAll (values : List Value) (h : Heap) : h.Marks (freezeAll values h) :=
  marks_freezeTo _ values h

/-! ## What executing files does to a heap -/

/-- Changes that execute files: those of programs, and those of modules as a whole. -/
inductive Develops (h : Heap) : Heap → Prop where
  | refl : Develops h h
  | step {middle last : Heap} (before : Develops h middle) (home : Option ModuleRef)
    (step : Step home middle last) : Develops h last
  | addModule {middle : Heap} (before : Develops h middle) (cell : ModuleCell)
    (live : cell.Live middle.extent) (thawed : cell.frozen = false) :
    Develops h (middle.addModule cell)
  | takeName {middle : Heap} (before : Develops h middle) (ref : ModuleRef) (name : String)
    (value : Value) (live : value.Live middle.extent) :
    Develops h
      (middle.modifyModule ref fun cell => { cell with loaded := cell.loaded.insert name value })
  | freeze {middle : Heap} (before : Develops h middle) (ref : ModuleRef) :
    Develops h (freezeModule ref middle)

theorem Develops.trans {a b c : Heap} (first : Develops a b) (second : Develops b c) :
    Develops a c := by
  induction second with
  | refl => exact first
  | step _ home step ih => exact .step ih home step
  | addModule _ cell live thawed ih => exact .addModule ih cell live thawed
  | takeName _ ref name value live ih => exact .takeName ih ref name value live
  | freeze _ ref ih => exact .freeze ih ref

theorem Evolves.develops {home : Option ModuleRef} {h h' : Heap} (evolves : Evolves home h h') :
    Develops h h' := by
  induction evolves with
  | refl => exact .refl
  | tail _ step ih => exact .step ih home step

/-- What freezing a module does to a sound heap. -/
structure FreezesModule (ref : ModuleRef) (h h' : Heap) : Prop where
  keeps : h.Keeps h'
  sound : h'.Sound
  others : ∀ other, other ≠ ref → h'.module other = h.module other
  vars : (h'.module ref).vars = (h.module ref).vars
  frozen : ref.index < h.modules.size → (h'.module ref).frozen = true

theorem module_live_of_settles {h h' : Heap} {values : List Value} (settles : Settles values h h')
    {ref : ModuleRef} (live : (h.module ref).Live h.extent) : (h'.module ref).Live h'.extent := by
  rw [settles.marks.module, settles.marks.extent]
  exact live

/-- A heap in which a module is marked as frozen, but its variables are not visited yet. -/
def markModule (ref : ModuleRef) (h : Heap) : Heap :=
  h.modifyModule ref fun cell => { cell with frozen := true }

section Marked

variable {h : Heap} {ref : ModuleRef}

theorem extent_markModule : (h.markModule ref).extent = h.extent :=
  extent_modifyModule h ref _

theorem vars_markModule (other : ModuleRef) :
    ((h.markModule ref).module other).vars = (h.module other).vars := by
  rw [markModule, module_modifyModule]
  split
  · rename_i same
    rw [same.1]
  · rfl

theorem module_markModule_other {other : ModuleRef} (different : other ≠ ref) :
    (h.markModule ref).module other = h.module other := by
  rw [markModule, module_modifyModule, if_neg fun both => different both.1]

theorem keeps_markModule : h.Keeps (h.markModule ref) :=
  keeps_modifyModule fun _ => ⟨rfl, rfl⟩

theorem live_markModule (sound : h.Sound) (other : ModuleRef) :
    ((h.markModule ref).module other).Live (h.markModule ref).extent := by
  rw [extent_markModule, markModule, module_modifyModule]
  split
  · have live := sound.modules ref
    exact ⟨live.vars, live.loaded, live.predeclared⟩
  · exact sound.modules other

/-- Visiting the variables of a marked module settles them. -/
theorem markModule_settles (sound : h.Sound) (ref : ModuleRef) :
    Settles ((h.module ref).vars.map Prod.snd) (h.markModule ref)
      (freezeAll ((h.module ref).vars.map Prod.snd) (h.markModule ref)) := by
  refine freezeAll_settles ⟨fun other => ?_, fun other => ?_⟩ fun v member => ?_
  · rw [extent_markModule]
    exact sound.lists other
  · rw [extent_markModule]
    exact sound.dicts other
  · obtain ⟨binding, present, rfl⟩ := List.mem_map.mp member
    rw [extent_markModule]
    exact (sound.modules ref).vars binding present

/-- The heap with a marked module is not sound, but it is when the variables of the module are
settled. -/
theorem sound_of_marked {h' : Heap} (sound : h.Sound)
    (settles : Settles ((h.module ref).vars.map Prod.snd) (h.markModule ref) h') : h'.Sound := by
  have keeps : h.Keeps h' := keeps_markModule.trans settles.marks.keeps
  refine ⟨Nat.lt_of_lt_of_le sound.fonts keeps.extent.dicts, fun other => ?_, fun other => ?_,
    fun other => module_live_of_settles settles (live_markModule sound other),
    fun other frozen v member => ?_, fun other frozen entry member => ?_,
    fun other frozen binding member => ?_⟩
  · intro v member
    rw [settles.marks.items] at member
    exact (sound.lists other v member).mono keeps.extent
  · intro entry member
    rw [settles.marks.entries] at member
    exact DictCell.Live.mono (sound.dicts other) keeps.extent entry member
  · cases before : (h.list other).frozen with
    | true =>
      rw [keeps.lists other before] at member
      exact keeps.settled (sound.settledLists other before v member)
    | false => exact settles.lists other before frozen v member
  · cases before : (h.dict other).frozen with
    | true =>
      rw [keeps.dicts other before] at member
      have settled := sound.settledDicts other before entry member
      exact ⟨keeps.settled settled.1, keeps.settled settled.2⟩
    | false => exact settles.dicts other before frozen entry member
  · rw [settles.marks.module] at frozen member
    by_cases same : other = ref
    · subst same
      rw [vars_markModule] at member
      exact settles.values binding.2 (List.mem_map_of_mem member)
    · rw [module_markModule_other same] at frozen member
      exact keeps.settled (sound.settledModules other frozen binding member)

end Marked

theorem freezeModule_freezes {h : Heap} (ref : ModuleRef) (sound : h.Sound) :
    FreezesModule ref h (freezeModule ref h) := by
  rw [freezeModule]
  split
  · rename_i frozen
    exact ⟨Keeps.refl h, sound, fun _ _ => rfl, rfl, fun _ => frozen⟩
  · have settles := markModule_settles sound ref
    refine ⟨keeps_markModule.trans settles.marks.keeps, sound_of_marked sound settles,
      fun other different => ?_, ?_, fun inside => ?_⟩
    · exact (settles.marks.module other).trans (module_markModule_other different)
    · exact (congrArg ModuleCell.vars (settles.marks.module ref)).trans (vars_markModule ref)
    · refine (congrArg ModuleCell.frozen (settles.marks.module ref)).trans ?_
      rw [markModule, module_modifyModule, if_pos ⟨rfl, inside⟩]

/-- Executing files keeps what is frozen, and leaves a sound heap sound. -/
theorem Develops.keeps_and_sound {h h' : Heap} (develops : Develops h h') (sound : h.Sound) :
    h.Keeps h' ∧ h'.Sound := by
  induction develops with
  | refl => exact ⟨Keeps.refl h, sound⟩
  | step _ home step ih => exact ⟨ih.1.trans step.keeps, ih.2.step step⟩
  | @addModule middle _ cell live thawed ih =>
    have keeps := keeps_addModule middle cell
    refine ⟨ih.1.trans keeps, ih.2.update keeps (fun _ => .inl rfl) (fun _ => .inl rfl)
      fun ref => ?_⟩
    rw [module_addModule]
    split
    · exact ⟨live.mono keeps.extent, fun frozen => Bool.noConfusion (thawed.symm.trans frozen)⟩
    · exact ⟨(ih.2.modules ref).mono keeps.extent, fun frozen => ⟨frozen, rfl⟩⟩
  | @takeName middle _ ref name value live ih =>
    have keeps : middle.Keeps (middle.modifyModule ref fun cell =>
        { cell with loaded := cell.loaded.insert name value }) :=
      keeps_modifyModule fun frozen => ⟨frozen, rfl⟩
    refine ⟨ih.1.trans keeps, ih.2.update keeps (fun _ => .inl rfl) (fun _ => .inl rfl)
      fun other => ?_⟩
    rw [module_modifyModule]
    split
    · rename_i same
      have old := ih.2.modules ref
      rw [same.1]
      exact ⟨⟨old.vars.mono keeps.extent, (old.loaded.insert live).mono keeps.extent,
        old.predeclared.mono keeps.extent⟩, fun frozen => ⟨frozen, rfl⟩⟩
    · exact ⟨(ih.2.modules other).mono keeps.extent, fun frozen => ⟨frozen, rfl⟩⟩
  | freeze _ ref ih =>
    have freezes := freezeModule_freezes ref ih.2
    exact ⟨ih.1.trans freezes.keeps, freezes.sound⟩

/-! ## Modules of files -/

/-- The module of a file is there and frozen, and it binds each name once. -/
structure Published (h : Heap) (ref : ModuleRef) : Prop where
  present : ref.index < h.extent.modules
  frozen : (h.module ref).frozen = true
  distinct : ((h.module ref).vars.map Prod.fst).Nodup

theorem Published.keeps {h h' : Heap} {ref : ModuleRef} (published : h.Published ref)
    (keeps : h.Keeps h') : h'.Published ref := by
  obtain ⟨frozen, vars⟩ := keeps.modules ref published.frozen
  exact ⟨Nat.lt_of_lt_of_le published.present keeps.extent.modules, frozen,
    vars ▸ published.distinct⟩

/-- A module that binds each name once does so after it was frozen. -/
theorem published_freezeModule {h : Heap} {ref : ModuleRef} (sound : h.Sound)
    (present : ref.index < h.extent.modules)
    (distinct : ((h.module ref).vars.map Prod.fst).Nodup) : (h.freezeModule ref).Published ref := by
  have freezes := freezeModule_freezes ref sound
  exact ⟨Nat.lt_of_lt_of_le present freezes.keeps.extent.modules, freezes.frozen present,
    freezes.vars ▸ distinct⟩

/-- A module that is there binds each name once, whatever files are executed. -/
theorem Develops.nodup_vars {h h' : Heap} (develops : Develops h h') (sound : h.Sound)
    {ref : ModuleRef} (present : ref.index < h.extent.modules)
    (distinct : ((h.module ref).vars.map Prod.fst).Nodup) :
    ((h'.module ref).vars.map Prod.fst).Nodup := by
  induction develops with
  | refl => exact distinct
  | step _ home step ih =>
    cases step with
    | bind other _ name value =>
      rw [module_modifyModule]
      split
      · rename_i same
        exact same.1 ▸ Bindings.nodup_insert ih
      · exact ih
    | _ => exact ih
  | @addModule middle before cell _ _ ih =>
    have there := Nat.lt_of_lt_of_le present (before.keeps_and_sound sound).1.extent.modules
    rw [module_addModule, if_neg]
    · exact ih
    · rintro rfl
      exact Nat.lt_irrefl _ there
  | takeName _ other name value _ ih =>
    rw [module_modifyModule]
    split
    · rename_i same
      exact same.1 ▸ ih
    · exact ih
  | @freeze middle before other ih =>
    have freezes := freezeModule_freezes other (before.keeps_and_sound sound).2
    by_cases same : ref = other
    · rw [same] at ih ⊢
      rw [freezes.vars]
      exact ih
    · rw [freezes.others ref same]
      exact ih

end PixelApplet.Heap
