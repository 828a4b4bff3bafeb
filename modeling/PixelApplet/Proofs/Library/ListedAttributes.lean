import PixelApplet.Library.Universe
import PixelApplet.Proofs.Evaluation.Posture
import PixelApplet.Proofs.Value.Sound
import Mathlib.Data.List.Basic

/-!
# The names that a value lists

The names that `dir` lists are those that `hasattr` affirms, and behind each of them `getattr` finds
a value.  Two kinds of host values are exceptions: a handler lists nothing, although it shows its
function and its type, and a field lists a handler even if it has none.
-/

namespace PixelApplet

/-- The names on which the list of a host value and its attributes disagree. -/
def Native.misstated : Native Value → List String
  | .handler .. => ["handler", "type"]
  | .field _ _ none => ["handler"]
  | _ => []

/-- The names on which the list of a value and its attributes disagree. -/
def Value.misstated : Value → List String
  | .native _ n => n.misstated
  | _ => []

theorem Value.isSome_method? (v : Value) (name : String) :
    (v.method? name).isSome = true ↔ name ∈ v.methodNames := by
  cases v <;> simp [method?, methodNames]

namespace Eval

/-- An action that gives a result from every machine. -/
def Answers {α : Type} (act : Eval α) (property : α → Prop) : Prop :=
  ∀ m, ∃ value m', act m = .ok value m' ∧ property value

namespace Answers

variable {α β : Type} {property : α → Prop}

theorem pure {value : α} (holds : property value) : Answers (Pure.pure value) property :=
  fun m => ⟨value, m, rfl, holds⟩

theorem bind {act : Eval α} {next : α → Eval β} {after : β → Prop} (answers : Answers act property)
    (answersNext : ∀ value, property value → Answers (next value) after) :
    Answers (act >>= next) after := by
  intro m
  obtain ⟨value, m', ran, holds⟩ := answers m
  rw [bind_ok ran]
  exact answersNext value holds m'

theorem newIdentity : Answers Eval.newIdentity fun _ => True :=
  fun _ => ⟨_, _, rfl, trivial⟩

theorem newList (items : List Value) : Answers (Eval.newList items) fun _ => True :=
  fun _ => ⟨_, _, rfl, trivial⟩

theorem newDict (cell : DictCell) : Answers (Eval.newDict cell) fun _ => True :=
  fun _ => ⟨_, _, rfl, trivial⟩

theorem newNative (native : Native Value) : Answers (Eval.newNative native) fun _ => True :=
  newIdentity.bind fun _ _ => pure trivial

mutual

theorem toValue : (document : Json) → Answers document.toValue fun _ => True
  | .null | .bool _ | .int _ | .float _ | .string _ => by
    rw [Json.toValue]
    exact pure trivial
  | .array items => by
    rw [Json.toValue]
    exact (toValues items).bind fun values _ => newList values
  | .object fields => by
    rw [Json.toValue]
    exact (toBindings fields).bind fun _ _ => newDict _

theorem toValues : (documents : List Json) → Answers (Json.toValues documents) fun _ => True
  | [] => by
    rw [Json.toValues]
    exact pure trivial
  | document :: rest => by
    rw [Json.toValues]
    exact (toValue document).bind fun _ _ => (toValues rest).bind fun _ _ => pure trivial

theorem toBindings : (fields : List (String × Json)) →
    Answers (Json.toBindings fields) fun _ => True
  | [] => by
    rw [Json.toBindings]
    exact pure trivial
  | (_, document) :: rest => by
    rw [Json.toBindings]
    exact (toValue document).bind fun _ _ => (toBindings rest).bind fun _ _ => pure trivial

end

/-- The attribute is there exactly if it is expected. -/
abbrev Finds (act : Eval (Option Value)) (expected : Prop) : Prop :=
  Answers act fun found => found.isSome = true ↔ expected

section Finds

variable {act other : Eval (Option Value)} {name word : String} {expected expected' : Prop}

theorem looksUp {found : Option Value} (holds : found.isSome = true ↔ expected) :
    Finds (Pure.pure found) expected :=
  pure holds

theorem shows {act : Eval Value} (answers : Answers act fun _ => True) :
    Finds (act >>= fun value => Pure.pure (some value)) True :=
  answers.bind fun _ _ => pure (iff_of_true rfl trivial)

theorem has (value : Value) : Finds (Pure.pure (some value)) True :=
  looksUp (iff_of_true rfl trivial)

theorem lacks : Finds (Pure.pure none) False :=
  looksUp (iff_of_false nofun id)

theorem congr (finds : Finds act expected) (same : expected ↔ expected') : Finds act expected' := by
  rwa [← propext same]

/-- One name of several that are tried in turn. -/
theorem orElse (here : Finds act expected) (there : Finds other expected') :
    Finds (if name = word then act else other)
      (name = word ∧ expected ∨ name ≠ word ∧ expected') := by
  split
  · rename_i same
    exact here.congr (by simp [same])
  · rename_i different
    exact there.congr (by simp [different])

end Finds

/-- What a host value shows behind a dot is what it lists, but for the names that it misstates. -/
theorem nativeAttribute? (n : Native Value) (name : String) :
    Finds (n.attribute? name) (name ∈ n.attributeNames ↔ name ∉ n.misstated) := by
  unfold Native.attribute?
  cases n with
  | widget w =>
    have listed : (w.fields.lookup name).isSome = true ↔ name ∈ w.fields.map Prod.fst := by simp
    simp only [Native.attributeNames, Native.misstated, ← listed]
    split <;> rename_i found <;> rw [found]
    · exact (shows (toValue _)).congr (by simp)
    · exact lacks.congr (by simp)
  | root r =>
    refine ((has _).orElse <| (has _).orElse <| (has _).orElse <| (shows (newNative _)).orElse
      lacks).congr ?_
    simp only [Native.attributeNames, Native.misstated]
    grind
  | schema version fields handlers =>
    refine ((has _).orElse <| (shows (newList _)).orElse <|
      (shows (newList _)).orElse lacks).congr ?_
    simp only [Native.attributeNames, Native.misstated]
    grind
  | field maker f backing =>
    refine ((has _).orElse <| (has _).orElse <| (has _).orElse <| (has _).orElse <|
      (has _).orElse <| (looksUp (Iff.refl _)).orElse lacks).congr ?_
    cases backing <;> simp only [Native.attributeNames, Native.misstated] <;> grind
  | option o =>
    refine ((has _).orElse <| (has _).orElse lacks).congr ?_
    simp only [Native.attributeNames, Native.misstated]
    grind
  | handler function kind =>
    refine ((has _).orElse <| (has _).orElse lacks).congr ?_
    simp only [Native.attributeNames, Native.misstated]
    grind
  | file path source =>
    have made : Answers
        (Eval.newNative (.file path source) >>= fun file => Eval.newIdentity >>= fun identity =>
          Pure.pure (some (.builtin identity ⟨"readall", some file, .readFile path source⟩)))
        fun found : Option Value => found.isSome = true ↔ True :=
      (newNative _).bind fun file _ => newIdentity.bind fun identity _ => has _
    refine ((has _).orElse <| made.orElse lacks).congr ?_
    simp only [Native.attributeNames, Native.misstated]
    grind
  | message typeName fields =>
    exact looksUp (by simp [Native.attributeNames, Native.misstated])

/-- What a value shows behind a dot is what it lists, apart from the names that it misstates. -/
theorem attribute? (object : Value) (name : String) :
    Finds (object.attribute? name) (name ∈ object.attributeNames ↔ name ∉ object.misstated) := by
  unfold Value.attribute? Value.attributeNames
  rw [List.mem_mergeSort]
  split
  · exact looksUp (by simp [Value.misstated])
  · exact looksUp (by simp [Value.misstated])
  · exact nativeAttribute? _ name
  · rename_i notStruct notModule notNative
    have stated : object.misstated = [] := by
      cases object <;> first | rfl | exact (notNative _ _ rfl).elim
    have method := object.isSome_method? name
    split <;> rename_i found <;> rw [found] at method
    · refine newIdentity.bind fun _ _ => (has _).congr ?_
      simpa [stated] using method
    · exact lacks.congr (by simpa [stated] using method)

end Answers

end Eval

namespace Universe

variable {call : Value → Arguments → Eval Value} {v : Value} {name : String} {m : Machine}

theorem run_dir (call : Value → Arguments → Eval Value) (v : Value) (m : Machine) :
    ∃ ref m', run call .dir (.ofList [v]) m = .ok (.list ref) m'
      ∧ (m'.heap.list ref).items.toList = v.attributeNames.map .str := by
  refine ⟨m.heap.nextList, _, rfl, ?_⟩
  change ((m.heap.addList _).list m.heap.nextList).items.toList = _
  rw [Heap.list_addList, if_pos rfl]
  rfl

theorem run_hasattr {found : Option Value} {m' : Machine}
    (looked : v.attribute? name m = .ok found m') :
    run call .hasattr (.ofList [v, .str name]) m = .ok (.bool found.isSome) m' := by
  change (v.attribute? name >>= fun found => pure (Value.bool found.isSome)) m = _
  rw [Eval.bind_ok looked]
  rfl

theorem run_getattr {found : Value} {m' : Machine}
    (looked : v.attribute? name m = .ok (some found) m') :
    run call .getattr (.ofList [v, .str name]) m = .ok found m' := by
  change (v.attribute? name >>= _) m = _
  rw [Eval.bind_ok looked]
  rfl

end Universe

/-- For every value and every name, `hasattr` gives an answer, which is that `dir` lists the name,
unless the value misstates it; and if `hasattr` affirms the name, `getattr` finds something behind
it. -/
theorem Universe.listed_iff_affirmed (call : Value → Arguments → Eval Value) (v : Value)
    (name : String) (m : Machine) :
    ∃ ref listed affirmed answered,
      run call .dir (.ofList [v]) m = .ok (.list ref) listed
      ∧ run call .hasattr (.ofList [v, .str name]) m = .ok (.bool affirmed) answered
      ∧ ((.str name ∈ (listed.heap.list ref).items.toList ↔ affirmed = true) ↔ name ∉ v.misstated)
      ∧ (affirmed = true → ∃ value found,
          run call .getattr (.ofList [v, .str name]) m = .ok value found) := by
  obtain ⟨ref, listed, ran, items⟩ := run_dir call v m
  obtain ⟨found, answered, looked, shown⟩ := Eval.Answers.attribute? v name m
  refine ⟨ref, listed, found.isSome, answered, ran, run_hasattr looked, ?_, fun affirmed => ?_⟩
  · rw [items, List.mem_map_of_injective fun _ _ => Value.str.inj, shown]
    grind
  · obtain ⟨value, rfl⟩ := Option.isSome_iff_exists.mp affirmed
    exact ⟨value, answered, run_getattr looked⟩

end PixelApplet
