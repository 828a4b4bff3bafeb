import PixelApplet.Library.Attributes
import PixelApplet.Proofs.Library.Receiving

/-!
# Attributes and documents as safe values

What stands behind a dot of a live value is live, and documents become live values.
-/

namespace PixelApplet.Eval.Safe

variable {E : Effect} {extent : Extent}

mutual

theorem toValue : (document : Json) → ∀ {extent : Extent}, Yields .data document.toValue extent
  | .null, _ => by
    rw [Json.toValue]
    exact pure fun _ _ => Value.live_none
  | .bool b, _ => by
    rw [Json.toValue]
    exact pure fun _ _ => Value.live_bool b
  | .int n, _ => by
    rw [Json.toValue, Json.wordOrFloat]
    split
    · exact pure fun _ _ => Value.live_int _
    · exact pure fun _ _ => Value.live_float _
  | .float x, _ => by
    rw [Json.toValue]
    exact pure fun _ _ => Value.live_float x
  | .string s, _ => by
    rw [Json.toValue]
    exact pure fun _ _ => Value.live_str s
  | .array items, _ => by
    rw [Json.toValue]
    exact bind (toValues items) fun _ _ _ live => newList live
  | .object fields, _ => by
    rw [Json.toValue]
    refine bind (toBindings fields) fun bindings larger _ live => ?_
    exact newDict (DictCell.live_ofBindings live).1 (DictCell.live_ofBindings live).2

theorem toValues : (documents : List Json) → ∀ {extent : Extent},
    YieldsAll .data (Json.toValues documents) extent
  | [], _ => by
    rw [Json.toValues]
    exact pure fun _ _ => nofun
  | document :: rest, _ => by
    rw [Json.toValues]
    refine bind (toValue document) fun value larger _ live => ?_
    refine bind (toValues rest) fun values largest grown' liveRest => ?_
    refine pure fun _ grown v member => ?_
    rcases List.mem_cons.mp member with rfl | later
    · exact live.mono (Extent.le_trans grown' grown)
    · exact (liveRest v later).mono grown

theorem toBindings : (fields : List (String × Json)) → ∀ {extent : Extent},
    Safe .data (Json.toBindings fields) extent fun extent bindings => Bindings.Live extent bindings
  | [], _ => by
    rw [Json.toBindings]
    exact pure fun _ _ => Bindings.live_nil
  | (name, document) :: rest, _ => by
    rw [Json.toBindings]
    refine bind (toValue document) fun value larger _ live => ?_
    refine bind (toBindings rest) fun values largest grown' liveRest => ?_
    refine pure fun _ grown binding member => ?_
    rcases List.mem_cons.mp member with rfl | later
    · exact live.mono (Extent.le_trans grown' grown)
    · exact (liveRest binding later).mono grown

end

/-- An action that may give a live value. -/
abbrev MayYield (E : Effect) (act : Eval (Option Value)) (extent : Extent) : Prop :=
  Safe E act extent Slot.Live

theorem noValue : MayYield E (Pure.pure none) extent :=
  pure fun _ _ => Slot.live_none

theorem someValue {v : Value} (live : v.Live extent) : MayYield E (Pure.pure (some v)) extent :=
  pure fun _ grown => Slot.live_some (live.mono grown)

theorem someOf {act : Eval Value} (yields : Yields E act extent) :
    MayYield E (act >>= fun v => Pure.pure (some v)) extent :=
  bind yields fun _ _ _ live => someValue live

theorem lookedUp {bindings : Bindings Value} (live : bindings.Live extent) (name : String) :
    MayYield E (Pure.pure (bindings.lookup name)) extent :=
  pure fun _ grown _ found => (live.lookup found).mono grown

theorem newBuiltin {b : Builtin Value} (live : ∀ v, b.receiver = some v → v.Live extent) :
    Yields .data (Eval.newIdentity >>= fun identity => Pure.pure (Value.builtin identity b))
      extent :=
  newIdentity.bind fun _ _ grown _ => pure fun _ grown' =>
    Value.live_builtin.mpr fun v receives =>
      (live v receives).mono (Extent.le_trans grown grown')

theorem nativeAttribute? {native : Native Value} (name : String)
    (live : ∀ v ∈ native.values, v.Live extent) :
    MayYield .data (native.attribute? name) extent := by
  unfold Native.attribute?
  split
  · split
    · exact someOf (toValue _)
    · exact noValue
  · split
    · exact someValue (Value.live_int _)
    split
    · exact someValue (Value.live_int _)
    split
    · exact someValue (Value.live_bool _)
    split
    · exact someOf (newNative nofun)
    · exact noValue
  · rename_i version fields handlers
    split
    · exact someValue (Value.live_str _)
    split
    · exact someOf (newList fun v member => live v (List.mem_append_left _ member))
    split
    · exact someOf (newList fun v member => live v (List.mem_append_right _ member))
    · exact noValue
  · rename_i maker f backing
    iterate 4
      split
      · exact someValue (Value.live_str _)
    split
    · refine someValue ?_
      cases f.default with
      | none => exact Value.live_none
      | some text => exact Value.live_str text
    split
    · exact pure fun _ grown v backs => (live v (Option.mem_toList.mpr backs)).mono grown
    · exact noValue
  · iterate 2
      split
      · exact someValue (Value.live_str _)
    exact noValue
  · split
    · exact someValue (live _ (.head _))
    split
    · exact someValue (Value.live_int _)
    · exact noValue
  · split
    · exact someValue (Value.live_str _)
    split
    · refine bind (newNative nofun) fun file larger _ liveFile => ?_
      refine newIdentity.bind fun identity largest grown _ => someValue ?_
      refine Value.live_builtin.mpr ?_
      rintro _ ⟨⟩
      exact liveFile.mono grown
    · exact noValue
  · rename_i fields
    exact lookedUp (fun field member => live _ (List.mem_map_of_mem member)) name

theorem attribute? {object : Value} (live : object.Live extent) (name : String) :
    MayYield .data (object.attribute? name) extent := by
  unfold Value.attribute?
  split
  · exact lookedUp (Value.live_struct.mp live) name
  · exact lookedUp (Value.live_module.mp live) name
  · exact nativeAttribute? name (Value.live_native.mp live)
  · split
    · refine newIdentity.bind fun identity larger grown _ => someValue ?_
      refine Value.live_builtin.mpr ?_
      rintro _ ⟨⟩
      exact live.mono grown
    · exact noValue

theorem member {object : Value} (live : object.Live extent) (name : String) :
    Yields .data (object.member name) extent := by
  refine bind (attribute? live name) fun found larger _ liveFound => ?_
  cases found with
  | none => exact fail _
  | some v => exact pure fun _ grown => (liveFound v rfl).mono grown

end PixelApplet.Eval.Safe
