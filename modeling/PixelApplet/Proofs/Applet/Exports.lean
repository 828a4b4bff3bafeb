import PixelApplet.Applet.Load
import PixelApplet.Proofs.Value.Sound

/-!
# What loaded scripts export

The entry point and the schema come from the exported functions of two names.  The modules of loaded
scripts are frozen, so what they export does not change while further files are loaded.
-/

namespace PixelApplet

/-- What is recorded of the functions that loaded scripts export. -/
structure Exports (h : Heap) (modules : List (String × ModuleRef)) (entry : Option (String × Value))
    (schema : Option LoadedSchema) : Prop where
  frozen : ∀ file ∈ modules, isScript file.1 = true → (h.module file.2).frozen = true
  entry : ∀ path main, entry = some (path, main) ↔ ∃ ref, (path, ref) ∈ modules
    ∧ isScript path = true ∧ h.exportedFunction? ref entryPointName = some main
  schema : ∀ path ref, (path, ref) ∈ modules → isScript path = true →
    (h.exportedFunction? ref schemaFunctionName).isSome = true →
      ∃ loaded, schema = some loaded ∧ loaded.file = path

/-- How recording the entry point of a script goes, if it succeeds. -/
def RecordsEntry (h : Heap) (path : String) (ref : ModuleRef)
    (before after : Option (String × Value)) : Prop :=
  match h.exportedFunction? ref entryPointName with
  | none => after = before
  | some main => before = none ∧ after = some (path, main)

/-- How recording the schema of a script goes, if it succeeds. -/
def RecordsSchema (h : Heap) (path : String) (ref : ModuleRef)
    (before after : Option LoadedSchema) : Prop :=
  match h.exportedFunction? ref schemaFunctionName with
  | none => after = before
  | some _ => before = none ∧ ∃ loaded, after = some loaded ∧ loaded.file = path

/-- What a frozen module exports stays. -/
theorem Heap.Keeps.exportedFunction? {h h' : Heap} (keeps : h.Keeps h') {ref : ModuleRef}
    (frozen : (h.module ref).frozen = true) (name : String) :
    h'.exportedFunction? ref name = h.exportedFunction? ref name := by
  rw [Heap.exportedFunction?, Heap.exportedFunction?, (keeps.modules ref frozen).2]

namespace Exports

variable {h : Heap} {modules : List (String × ModuleRef)} {entry : Option (String × Value)}
  {schema : Option LoadedSchema}

theorem initial (h : Heap) : Exports h [] none none where
  frozen _ member := by simp at member
  entry _ _ := by simp
  schema _ _ member := by simp at member

theorem keeps {h' : Heap} (exports : Exports h modules entry schema) (keeps : h.Keeps h') :
    Exports h' modules entry schema where
  frozen file member script := (keeps.modules _ (exports.frozen file member script)).1
  entry path main := by
    rw [exports.entry]
    constructor
    · rintro ⟨ref, member, script, found⟩
      refine ⟨ref, member, script, ?_⟩
      rw [keeps.exportedFunction? (exports.frozen _ member script)]
      exact found
    · rintro ⟨ref, member, script, found⟩
      rw [keeps.exportedFunction? (exports.frozen _ member script)] at found
      exact ⟨ref, member, script, found⟩
  schema path ref member script found := by
    rw [keeps.exportedFunction? (exports.frozen _ member script)] at found
    exact exports.schema path ref member script found

/-- The modules of a path after one was added to the end. -/
theorem exists_added {path other : String} {ref : ModuleRef} {p : ModuleRef → Prop} :
    (∃ r, (other, r) ∈ modules ++ [(path, ref)] ∧ p r)
      ↔ (∃ r, (other, r) ∈ modules ∧ p r) ∨ other = path ∧ p ref := by
  constructor
  · rintro ⟨r, member, holds⟩
    rcases List.mem_append.mp member with before | here
    · exact .inl ⟨r, before, holds⟩
    · cases List.mem_singleton.mp here
      exact .inr ⟨rfl, holds⟩
  · rintro (⟨r, before, holds⟩ | ⟨rfl, holds⟩)
    · exact ⟨r, List.mem_append_left _ before, holds⟩
    · exact ⟨ref, List.mem_append_right _ (List.mem_singleton_self _), holds⟩

/-- A script is added whose functions were recorded. -/
theorem addScript {path : String} {ref : ModuleRef} {entry' : Option (String × Value)}
    {schema' : Option LoadedSchema} (exports : Exports h modules entry schema)
    (script : isScript path = true) (frozen : (h.module ref).frozen = true)
    (recordsEntry : RecordsEntry h path ref entry entry')
    (recordsSchema : RecordsSchema h path ref schema schema') :
    Exports h (modules ++ [(path, ref)]) entry' schema' where
  frozen file member script' := by
    rcases List.mem_append.mp member with before | here
    · exact exports.frozen file before script'
    · rw [List.mem_singleton.mp here]
      exact frozen
  entry other main := by
    unfold RecordsEntry at recordsEntry
    rw [exists_added, ← exports.entry]
    cases found : h.exportedFunction? ref entryPointName with
    | none =>
      simp only [found] at recordsEntry
      rw [recordsEntry]
      simp
    | some function =>
      simp only [found] at recordsEntry
      obtain ⟨nothing, rfl⟩ := recordsEntry
      rw [nothing]
      constructor
      · rintro ⟨⟩
        exact .inr ⟨rfl, script, rfl⟩
      · rintro (⟨⟨⟩⟩ | ⟨rfl, _, ⟨⟩⟩)
        rfl
  schema other r member script' found' := by
    unfold RecordsSchema at recordsSchema
    cases found : h.exportedFunction? ref schemaFunctionName with
    | none =>
      simp only [found] at recordsSchema
      rw [recordsSchema]
      rcases List.mem_append.mp member with before | here
      · exact exports.schema other r before script' found'
      · cases List.mem_singleton.mp here
        rw [found] at found'
        cases found'
    | some function =>
      simp only [found] at recordsSchema
      obtain ⟨nothing, loaded, rfl, file⟩ := recordsSchema
      rcases List.mem_append.mp member with before | here
      · obtain ⟨old, recorded, _⟩ := exports.schema other r before script' found'
        rw [nothing] at recorded
        cases recorded
      · cases List.mem_singleton.mp here
        exact ⟨loaded, rfl, file⟩

/-- A file that is no script exports no functions. -/
theorem addFile {path : String} {ref : ModuleRef} (exports : Exports h modules entry schema)
    (noScript : isScript path = false) : Exports h (modules ++ [(path, ref)]) entry schema where
  frozen file member script := by
    rcases List.mem_append.mp member with before | here
    · exact exports.frozen file before script
    · rw [List.mem_singleton.mp here, noScript] at script
      cases script
  entry other main := by
    rw [exists_added, ← exports.entry]
    refine (or_iff_left ?_).symm
    rintro ⟨rfl, script, _⟩
    rw [noScript] at script
    cases script
  schema other r member script found := by
    rcases List.mem_append.mp member with before | here
    · exact exports.schema other r before script found
    · cases List.mem_singleton.mp here
      rw [noScript] at script
      cases script

end Exports

end PixelApplet
