import PixelApplet.Proofs.Value.Sound

/-!
# What programs do to a heap

Expressions and statements change a heap in few ways: they add lists and dicts, change those that
are not frozen, and bind variables of the module whose file is being executed.  Whatever is done in
these ways keeps what is frozen, and leaves a sound heap sound.
-/

namespace PixelApplet.Heap

/-- One change of a heap.  Variables are bound in one module at most, the one of the file that is
being executed. -/
inductive Step (home : Option ModuleRef) (h : Heap) : Heap → Prop where
  | identity (n : Nat) : Step home h { h with nextIdentity := n }
  | addList (cell : ListCell) (live : cell.Live h.extent) (thawed : cell.frozen = false) :
    Step home h (h.addList cell)
  | addDict (cell : DictCell) (live : cell.Live h.extent) (thawed : cell.frozen = false) :
    Step home h (h.addDict cell)
  | changeList (ref : ListRef) (f : Array Value → Array Value)
    (thawed : (h.list ref).frozen = false)
    (live : ∀ v ∈ (f (h.list ref).items).toList, v.Live h.extent) :
    Step home h (h.modifyList ref fun cell => { cell with items := f cell.items })
  | changeDict (ref : DictRef) (f : DictCell → DictCell) (thawed : (h.dict ref).frozen = false)
    (stays : (f (h.dict ref)).frozen = false) (live : (f (h.dict ref)).Live h.extent) :
    Step home h (h.modifyDict ref f)
  | bind (ref : ModuleRef) (own : home = some ref) (name : String) (value : Value)
    (thawed : (h.module ref).frozen = false) (live : value.Live h.extent) :
    Step home h
      (h.modifyModule ref fun cell => { cell with vars := cell.vars.insert name value })

/-- Changes one after the other. -/
inductive Evolves (home : Option ModuleRef) (h : Heap) : Heap → Prop where
  | refl : Evolves home h h
  | tail {middle last : Heap} (before : Evolves home h middle) (step : Step home middle last) :
    Evolves home h last

theorem Evolves.trans {home : Option ModuleRef} {a b c : Heap} (first : Evolves home a b)
    (second : Evolves home b c) : Evolves home a c := by
  induction second with
  | refl => exact first
  | tail _ step ih => exact .tail ih step

theorem Evolves.single {home : Option ModuleRef} {h h' : Heap} (step : Step home h h') :
    Evolves home h h' :=
  .tail .refl step

/-- Where no variable of a module is bound, it does not matter which module is executed. -/
theorem Step.widen {home : Option ModuleRef} {h h' : Heap} (step : Step none h h') :
    Step home h h' := by
  cases step with
  | identity n => exact .identity n
  | addList cell live thawed => exact .addList cell live thawed
  | addDict cell live thawed => exact .addDict cell live thawed
  | changeList ref f thawed live => exact .changeList ref f thawed live
  | changeDict ref f thawed stays live => exact .changeDict ref f thawed stays live
  | bind ref own => cases own

theorem Evolves.widen {home : Option ModuleRef} {h h' : Heap} (evolves : Evolves none h h') :
    Evolves home h h' := by
  induction evolves with
  | refl => exact .refl
  | tail _ step ih => exact .tail ih step.widen

theorem extent_addList_le (h : Heap) (cell : ListCell) : h.extent ≤ (h.addList cell).extent := by
  rw [extent_addList]
  exact ⟨Nat.le_succ _, Nat.le_refl _, Nat.le_refl _⟩

theorem extent_addDict_le (h : Heap) (cell : DictCell) : h.extent ≤ (h.addDict cell).extent := by
  rw [extent_addDict]
  exact ⟨Nat.le_refl _, Nat.le_succ _, Nat.le_refl _⟩

theorem extent_addModule_le (h : Heap) (cell : ModuleCell) :
    h.extent ≤ (h.addModule cell).extent := by
  rw [extent_addModule]
  exact ⟨Nat.le_refl _, Nat.le_refl _, Nat.le_succ _⟩

theorem keeps_modifyList {h : Heap} {ref : ListRef} (f : ListCell → ListCell)
    (thawed : (h.list ref).frozen = false) : h.Keeps (h.modifyList ref f) where
  extent := by rw [extent_modifyList]; exact Extent.le_refl _
  lists other frozen := by
    rw [list_modifyList, if_neg]
    rintro ⟨rfl, _⟩
    rw [thawed] at frozen
    exact Bool.noConfusion frozen
  dicts _ _ := rfl
  modules _ frozen := ⟨frozen, rfl⟩

theorem keeps_modifyDict {h : Heap} {ref : DictRef} (f : DictCell → DictCell)
    (thawed : (h.dict ref).frozen = false) : h.Keeps (h.modifyDict ref f) where
  extent := by rw [extent_modifyDict]; exact Extent.le_refl _
  lists _ _ := rfl
  dicts other frozen := by
    rw [dict_modifyDict, if_neg]
    rintro ⟨rfl, _⟩
    rw [thawed] at frozen
    exact Bool.noConfusion frozen
  modules _ frozen := ⟨frozen, rfl⟩

theorem keeps_addList (h : Heap) (cell : ListCell) : h.Keeps (h.addList cell) where
  extent := extent_addList_le h cell
  lists ref frozen := by
    rw [list_addList, if_neg]
    rintro rfl
    rw [list_nextList_thawed] at frozen
    exact Bool.noConfusion frozen
  dicts _ _ := rfl
  modules _ frozen := ⟨frozen, rfl⟩

theorem keeps_addDict (h : Heap) (cell : DictCell) : h.Keeps (h.addDict cell) where
  extent := extent_addDict_le h cell
  lists _ _ := rfl
  dicts ref frozen := by
    rw [dict_addDict, if_neg]
    rintro rfl
    rw [dict_nextDict_thawed] at frozen
    exact Bool.noConfusion frozen
  modules _ frozen := ⟨frozen, rfl⟩

theorem keeps_addModule (h : Heap) (cell : ModuleCell) : h.Keeps (h.addModule cell) where
  extent := extent_addModule_le h cell
  lists _ _ := rfl
  dicts _ _ := rfl
  modules ref frozen := by
    rw [module_addModule, if_neg]
    · exact ⟨frozen, rfl⟩
    · rintro rfl
      rw [module_nextModule_thawed] at frozen
      exact Bool.noConfusion frozen

theorem keeps_modifyModule {h : Heap} {ref : ModuleRef} {f : ModuleCell → ModuleCell}
    (keeps : (h.module ref).frozen = true →
      (f (h.module ref)).frozen = true ∧ (f (h.module ref)).vars = (h.module ref).vars) :
    h.Keeps (h.modifyModule ref f) where
  extent := by rw [extent_modifyModule]; exact Extent.le_refl _
  lists _ _ := rfl
  dicts _ _ := rfl
  modules other frozen := by
    rw [module_modifyModule]
    split
    · rename_i same
      rw [same.1] at frozen ⊢
      exact keeps frozen
    · exact ⟨frozen, rfl⟩

theorem Step.keeps {home : Option ModuleRef} {h h' : Heap} (step : Step home h h') :
    h.Keeps h' := by
  cases step with
  | identity n =>
    exact ⟨Extent.le_refl _, fun _ _ => rfl, fun _ _ => rfl, fun _ frozen => ⟨frozen, rfl⟩⟩
  | addList cell => exact keeps_addList h cell
  | addDict cell => exact keeps_addDict h cell
  | changeList ref f thawed => exact keeps_modifyList _ thawed
  | changeDict ref f thawed => exact keeps_modifyDict f thawed
  | bind ref own name value thawed =>
    refine keeps_modifyModule fun frozen => ?_
    rw [thawed] at frozen
    exact Bool.noConfusion frozen

theorem Evolves.keeps {home : Option ModuleRef} {h h' : Heap} (evolves : Evolves home h h') :
    h.Keeps h' := by
  induction evolves with
  | refl => exact Keeps.refl h
  | tail _ step ih => exact ih.trans step.keeps

/-- A heap is sound if its frozen cells are old ones and its new contents do not dangle. -/
theorem Sound.update {h h' : Heap} (sound : h.Sound) (keeps : h.Keeps h')
    (lists : ∀ ref, h'.list ref = h.list ref
      ∨ (h'.list ref).frozen = false ∧ (h'.list ref).Live h'.extent)
    (dicts : ∀ ref, h'.dict ref = h.dict ref
      ∨ (h'.dict ref).frozen = false ∧ (h'.dict ref).Live h'.extent)
    (modules : ∀ ref, (h'.module ref).Live h'.extent ∧ ((h'.module ref).frozen = true →
      (h.module ref).frozen = true ∧ (h'.module ref).vars = (h.module ref).vars)) :
    h'.Sound where
  fonts := Nat.lt_of_lt_of_le sound.fonts keeps.extent.dicts
  lists ref := by
    rcases lists ref with same | ⟨_, live⟩
    · rw [same]
      exact (sound.lists ref).mono keeps.extent
    · exact live
  dicts ref := by
    rcases dicts ref with same | ⟨_, live⟩
    · rw [same]
      exact (sound.dicts ref).mono keeps.extent
    · exact live
  modules ref := (modules ref).1
  settledLists ref frozen v member := by
    rcases lists ref with same | ⟨thawed, _⟩
    · rw [same] at frozen member
      exact keeps.settled (sound.settledLists ref frozen v member)
    · rw [thawed] at frozen
      exact Bool.noConfusion frozen
  settledDicts ref frozen entry member := by
    rcases dicts ref with same | ⟨thawed, _⟩
    · rw [same] at frozen member
      have settled := sound.settledDicts ref frozen entry member
      exact ⟨keeps.settled settled.1, keeps.settled settled.2⟩
    · rw [thawed] at frozen
      exact Bool.noConfusion frozen
  settledModules ref frozen binding member := by
    obtain ⟨_, old⟩ := modules ref
    obtain ⟨wasFrozen, same⟩ := old frozen
    rw [same] at member
    exact keeps.settled (sound.settledModules ref wasFrozen binding member)

/-- Modules that nothing was done to stay as they are while cells are added. -/
theorem Sound.sameModules {h h' : Heap} (sound : h.Sound) (keeps : h.Keeps h')
    (same : ∀ ref, h'.module ref = h.module ref) (ref : ModuleRef) :
    (h'.module ref).Live h'.extent ∧ ((h'.module ref).frozen = true →
      (h.module ref).frozen = true ∧ (h'.module ref).vars = (h.module ref).vars) := by
  rw [same]
  exact ⟨(sound.modules ref).mono keeps.extent, fun frozen => ⟨frozen, rfl⟩⟩

theorem Sound.step {home : Option ModuleRef} {h h' : Heap} (sound : h.Sound)
    (step : Step home h h') : h'.Sound := by
  have keeps := step.keeps
  cases step with
  | identity n =>
    exact sound.update keeps (fun _ => .inl rfl) (fun _ => .inl rfl)
      (sound.sameModules keeps fun _ => rfl)
  | addList cell live thawed =>
    refine sound.update keeps (fun ref => ?_) (fun _ => .inl rfl)
      (sound.sameModules keeps fun _ => rfl)
    rw [list_addList]
    split
    · exact .inr ⟨thawed, live.mono keeps.extent⟩
    · exact .inl rfl
  | addDict cell live thawed =>
    refine sound.update keeps (fun _ => .inl rfl) (fun ref => ?_)
      (sound.sameModules keeps fun _ => rfl)
    rw [dict_addDict]
    split
    · exact .inr ⟨thawed, live.mono keeps.extent⟩
    · exact .inl rfl
  | changeList ref f thawed live =>
    refine sound.update keeps (fun other => ?_) (fun _ => .inl rfl)
      (sound.sameModules keeps fun _ => rfl)
    rw [list_modifyList]
    split
    · exact .inr ⟨thawed, fun v member => (live v member).mono keeps.extent⟩
    · exact .inl rfl
  | changeDict ref f thawed stays live =>
    refine sound.update keeps (fun _ => .inl rfl) (fun other => ?_)
      (sound.sameModules keeps fun _ => rfl)
    rw [dict_modifyDict]
    split
    · exact .inr ⟨stays, live.mono keeps.extent⟩
    · exact .inl rfl
  | bind ref own name value thawed live =>
    refine sound.update keeps (fun _ => .inl rfl) (fun _ => .inl rfl) fun other => ?_
    rw [module_modifyModule]
    split
    · have old := sound.modules ref
      refine ⟨⟨(old.vars.insert live).mono keeps.extent, old.loaded.mono keeps.extent,
        old.predeclared.mono keeps.extent⟩, fun frozen => ?_⟩
      exact Bool.noConfusion (thawed.symm.trans frozen)
    · exact ⟨(sound.modules other).mono keeps.extent, fun frozen => ⟨frozen, rfl⟩⟩

theorem Sound.evolves {home : Option ModuleRef} {h h' : Heap} (sound : h.Sound)
    (evolves : Evolves home h h') : h'.Sound := by
  induction evolves with
  | refl => exact sound
  | tail _ step ih => exact ih.step step

end PixelApplet.Heap
