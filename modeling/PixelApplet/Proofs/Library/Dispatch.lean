import PixelApplet.Library.Dispatch
import PixelApplet.Proofs.Library.PlainFunctions

/-!
# All builtin functions are safe

Messages, schemas and assertions keep values that they were given; a builtin function as a whole is
safe if calling back is.
-/

namespace PixelApplet.Eval.Safe

variable {E : Effect} {extent : Extent} {arguments : Arguments}

section Messages

theorem unset (field : Descriptor.Field) : Yields .data (Messages.unset field) extent := by
  unfold Messages.unset
  split
  · exact newList (List.forall_mem_nil _)
  · split
    · exact yieldsText _
    · exact yieldsText _
    · exact yieldsBool _
    · exact yieldsInt _
    · exact yieldsFloat _
    · exact newDict DictCell.live_empty rfl
    · exact yieldsNone

theorem unsetAll (fields : List Descriptor.Field) {values : Bindings Value}
    (live : values.Live extent) :
    Safe .data (Messages.unsetAll fields values) extent
      fun extent values => values.Live extent := by
  induction fields generalizing extent values with
  | nil => exact pure fun _ grown => live.mono grown
  | cons field rest ih =>
    refine bind (unset field) fun value larger grown liveValue => ?_
    exact ih ((live.mono grown).insert liveValue)

theorem fieldValue? {field : Descriptor.Field} {value : Value} (live : value.Live extent) :
    MayYield .data (Messages.fieldValue? field value) extent := by
  unfold Messages.fieldValue?
  split
  · refine readingHeap fun h sound inside => ?_
    split
    · rename_i found
      split
      · exact someOf (newList (Value.live_sequence sound (live.mono inside) found))
      · exact noValue
    · exact noValue
  · split
    · exact noValue
    · split
      · refine someValue ?_
        cases value.asFloat? with
        | none => exact live
        | some x => exact Value.live_float x
      · exact someValue live

/-- Setting a field to what it takes of a value, before other fields are set. -/
theorem settingField {field : Descriptor.Field} {value : Value} {values : Bindings Value}
    {refusal : String} {next : Bindings Value → Eval (Bindings Value)} {name : String}
    (live : value.Live extent) (liveValues : values.Live extent)
    (safeNext : ∀ {larger : Extent} {values : Bindings Value}, extent ≤ larger →
      values.Live larger →
      Safe .data (next values) larger fun extent values => values.Live extent) :
    Safe .data (do
      match ← Messages.fieldValue? field value with
      | some value => next (values.insert name value)
      | none => Eval.fail refusal) extent fun extent values => values.Live extent := by
  refine bind (fieldValue? live) fun found larger grown liveFound => ?_
  split
  · exact safeNext grown ((liveValues.mono grown).insert (liveFound _ rfl))
  · exact fail _

theorem setFields {typeName : String} {fields : List Descriptor.Field}
    (chosen : List (String × String)) {named : List (String × Value)} {values : Bindings Value}
    (liveNamed : Bindings.Live extent named) (live : values.Live extent) :
    Safe .data (Messages.setFields typeName fields chosen named values) extent
      fun extent values => values.Live extent := by
  induction named generalizing chosen extent values with
  | nil => exact pure fun _ grown => live.mono grown
  | cons entry rest ih =>
    obtain ⟨name, value⟩ := entry
    have liveValue : value.Live extent := liveNamed _ (.head _)
    have others (chosen : List (String × String)) {larger : Extent} {values : Bindings Value}
        (grown : extent ≤ larger) (live : values.Live larger) :
        Safe .data (Messages.setFields typeName fields chosen rest values) larger
          fun extent values => values.Live extent :=
      ih chosen (fun other member => (liveNamed other (.tail _ member)).mono grown) live
    unfold Messages.setFields
    split
    · exact fail _
    · dsimp only
      split
      · exact settingField liveValue live (others _)
      · split
        · exact andThen (fail _) fun _ => settingField liveValue live (others _)
        · exact settingField liveValue live (others _)

theorem buildMessage {typeName : String} {fields : List Descriptor.Field}
    (live : arguments.Live extent) :
    Yields .data (Messages.build typeName fields arguments) extent := by
  unfold Messages.build
  refine guarded (bind (unsetAll fields Bindings.live_nil) fun unset larger grown liveUnset => ?_)
  refine bind (setFields [] (live.named.mono grown) liveUnset) fun values _ _ liveValues => ?_
  refine newNative fun v member => ?_
  obtain ⟨field, present, rfl⟩ := List.mem_map.mp member
  exact liveValues field present

theorem protoFunction (f : ProtoFunction) :
    Yields .data (Messages.run f arguments) extent := by
  cases f with
  | registerFiles =>
    refine andThen accepts fun names => ?_
    have registers (m : Machine) : Yields .data (do
        let registry ← Eval.accept Descriptor.Fault.text
          (Messages.register m.disk names m.registry)
        modifyGet fun m => ((), { m with registry := registry })
        return .none) extent :=
      andThen accepts fun registry =>
        andThen (modify fun _ => ⟨rfl, rfl, rfl, rfl⟩) fun _ => yieldsNone
    exact reading fun m _ inside => (registers m).larger inside
  | hasMessage =>
    exact andThen receives fun r => andThen (text r _) fun _ =>
      read fun _ _ _ => Value.live_bool _
  | new =>
    exact andThen receives fun r => andThen (text r _) fun _ => andThen reads fun _ =>
      andThen accepts fun _ => newBuiltin nofun

end Messages

section Schemas

variable {function : String}

theorem handlerFunction {slot : Slot} (live : slot.Live extent) :
    Yields E (Schemas.handlerFunction function slot) extent := by
  unfold Schemas.handlerFunction
  split
  · exact yields (live _ rfl)
  · exact fail _
  · exact fail _

theorem receiveField {kind : String} {more : List Parameter} (live : arguments.Live extent) :
    Safe E (Schemas.receiveField function kind more arguments) extent fun extent received =>
      received.2.Live extent := by
  refine bind (receive live) fun r larger _ liveReceived => ?_
  exact andThen (text r _) fun _ => andThen (text r _) fun _ => andThen (text r _) fun _ =>
    andThen (text r _) fun _ => guarded (pure fun _ grown => liveReceived.mono grown)

theorem receivesField {kind : String} {more : List Parameter} :
    Runs E (Schemas.receiveField function kind more arguments) extent :=
  andThen receives fun r => andThen (text r _) fun _ => andThen (text r _) fun _ =>
    andThen (text r _) fun _ => andThen (text r _) fun _ => guarded returns

/-- A field without a handler. -/
theorem wrapPlain {maker : String} {field : SchemaField} :
    Yields .data (Schemas.wrap maker field none) extent :=
  newNative nofun

/-- A field with a handler. -/
theorem wrapHandler {maker : String} {field : SchemaField} {handler : Value} {kind : HandlerKind}
    (live : handler.Live extent) :
    Yields .data (Schemas.wrap maker field (some (handler, kind))) extent := by
  refine newNative fun v member => ?_
  rw [List.mem_singleton.mp member]
  exact live

theorem newHandlerField {kind : String} {returned : HandlerKind} (live : arguments.Live extent) :
    Yields .data (Schemas.newHandlerField function kind returned arguments) extent :=
  bind (receiveField live) fun _ _ _ liveReceived =>
    bind (handlerFunction (liveReceived.slot _)) fun _ _ _ liveHandler => wrapHandler liveHandler

theorem choices (index : Nat) (options : List Value) :
    Runs E (Schemas.choices index options) extent := by
  induction options generalizing index with
  | nil => exact returns
  | cons option rest ih =>
    unfold Schemas.choices
    split
    · exact returns
    · rename_i same
      cases same
      exact andThen (ih _) fun _ => returns
    · exact fail _

theorem newDropdown : Yields .data (Schemas.newDropdown arguments) extent :=
  andThen receivesField fun received => andThen (text received.2 _) fun _ =>
    andThen (itemsRun received.2) fun _ => andThen (choices _ _) fun _ =>
      guarded (guarded wrapPlain)

theorem palette (colors : List Value) : Runs E (Schemas.palette colors) extent := by
  induction colors with
  | nil => exact returns
  | cons color rest ih =>
    unfold Schemas.palette
    split
    · exact returns
    · rename_i same
      cases same
      exact andThen ih fun _ => returns
    · exact fail _

theorem newColor : Yields .data (Schemas.newColor arguments) extent := by
  refine andThen receivesField fun received => andThen (text received.2 _) fun _ =>
    andThen (itemsRun received.2) fun _ => andThen (palette _) fun _ => ?_
  split
  · exact fail _
  · exact wrapPlain

theorem newGenerated (live : arguments.Live extent) :
    Yields .data (Schemas.newGenerated arguments) extent := by
  refine bind (receive live) fun r _ _ liveReceived => ?_
  refine bind (handlerFunction (liveReceived.slot _)) fun handler _ _ liveHandler => ?_
  exact andThen (text r _) fun _ => andThen (text? r _) fun _ => wrapHandler liveHandler

theorem newAccount (live : arguments.Live extent) :
    Yields .data (Schemas.newAccount arguments) extent := by
  refine bind (receiveField live) fun received _ _ liveReceived => ?_
  refine bind (handlerFunction (liveReceived.slot _)) fun handler _ _ liveHandler => ?_
  exact andThen (text? received.2 _) fun _ => andThen (text? received.2 _) fun _ =>
    andThen (itemsRun received.2) fun _ => andThen readsHeap fun _ => wrapHandler liveHandler

theorem newSchema (live : arguments.Live extent) :
    Yields .data (Schemas.newSchema arguments) extent := by
  refine bind (receive live) fun r larger _ liveReceived => andThen (text r _) fun version => ?_
  refine bind (items _ liveReceived) fun fields _ grown liveFields => ?_
  refine bind (items _ (liveReceived.mono grown)) fun handlers _ grown' liveHandlers => ?_
  refine newNative fun v member => ?_
  rcases List.mem_append.mp member with first | second
  · exact (liveFields v first).mono grown'
  · exact liveHandlers v second

theorem newHandler (live : arguments.Live extent) :
    Yields .data (Schemas.newHandler arguments) extent := by
  refine bind (receive live) fun r _ _ liveReceived => ?_
  refine bind (handlerFunction (liveReceived.slot _)) fun handler _ _ liveHandler => ?_
  refine andThen (int? r _) fun _ => andThen requires fun _ => newNative fun v member => ?_
  rw [List.mem_singleton.mp member]
  exact liveHandler

theorem schemaFunction (f : SchemaFunction) (live : arguments.Live extent) :
    Yields .data (Schemas.run f arguments) extent := by
  cases f with
  | schema => exact newSchema live
  | text =>
    exact andThen receivesField fun received => andThen (text received.2 _) fun _ => wrapPlain
  | toggle =>
    exact andThen receivesField fun received => andThen (bool? received.2 _) fun _ => wrapPlain
  | dropdown => exact newDropdown
  | option =>
    exact andThen receives fun r => andThen (text r _) fun _ => andThen (text r _) fun _ =>
      newNative nofun
  | color => exact newColor
  | location => exact andThen receivesField fun _ => wrapPlain
  | locationBased => exact newHandlerField live
  | typeahead => exact newHandlerField live
  | generated => exact newGenerated live
  | oauth2 => exact newAccount live
  | handler => exact newHandler live

end Schemas

section Assertions

theorem report (message : String) : Yields E (Assertions.report message) extent := by
  refine andThen reads fun thread => ?_
  split
  · exact andThen (changeThread _) fun _ => yieldsNone
  · exact fail _

theorem reportWith (custom : Slot) (message : String) :
    Yields E (Assertions.reportWith custom message) extent := by
  unfold Assertions.reportWith
  split
  · exact report _
  · exact report _
  · exact andThen readsHeap fun _ => report _

theorem compareTwo {function first second between : String} {holds : Value → Value → Eval Bool}
    (runs : ∀ a b extent, Runs E (holds a b) extent) :
    Yields E (Assertions.compareTwo function first second between arguments holds) extent := by
  refine andThen receives fun r => andThen (runs _ _ _) fun held => ?_
  split
  · exact yieldsNone
  · exact andThen readsHeap fun _ => reportWith _ _

theorem fails {call : Value → Arguments → Eval Value} (calls : CallsSafely call)
    (live : arguments.Live extent) : Yields .data (Assertions.fails call arguments) extent := by
  refine bind (receive live) fun r larger _ liveReceived => ?_
  split
  · refine andThen matcher fun found => ?_
    have calm : Runs .data (Eval.attempt (call (r.value "f") .empty)) larger :=
      (attempt id (fun becomes => Machine.Becomes.extent becomes)
        (calls (liveReceived.value _) Arguments.live_empty)).runs
    refine andThen calm fun outcome => ?_
    split
    · exact report _
    · split
      · exact yieldsText _
      · exact report _
  · exact fail _

theorem assertFunction {call : Value → Arguments → Eval Value} (calls : CallsSafely call)
    (f : AssertFunction) (live : arguments.Live extent) :
    Yields .data (Assertions.run call f arguments) extent := by
  unfold Assertions.run
  split
  · exact compareTwo fun _ _ _ => readsHeap
  · exact compareTwo fun _ _ _ => readsHeap
  · exact compareTwo fun _ _ _ => andThen readsHeap fun _ => andThen accepts fun _ => returns
  · exact compareTwo fun _ _ _ => operates
  · refine andThen receives fun r => andThen readsHeap fun holds => ?_
    split
    · exact yieldsNone
    · exact andThen readsHeap fun _ => reportWith _ _
  · exact fails calls live

end Assertions

theorem alike_cancelToken (m : Machine) (ref : TokenRef) (reason : String) :
    m.Alike (m.cancelToken ref reason) := by
  rw [Machine.cancelToken]
  generalize (m.token ref).cancel reason = cancelled
  obtain ⟨token, told⟩ := cancelled
  have telling (told : List CellRef) (m' : Machine) (alike : m.Alike m') :
      m.Alike (told.foldl (fun m cell => m.cancelCell cell reason) m') := by
    induction told generalizing m' with
    | nil => exact alike
    | cons cell told ih =>
      exact ih _ ⟨alike.heap, alike.loading, alike.disk, alike.clock⟩
  exact telling told _ ⟨rfl, rfl, rfl, rfl⟩

theorem hostFunction (f : HostFunction) : Yields E (f.run arguments) extent := by
  cases f with
  | cancel =>
    refine andThen receivesOne fun _ => andThen readsHeap fun reason => ?_
    refine andThen (modify fun m => ?_) fun _ => yieldsNone
    split
    · exact alike_cancelToken _ _ _
    · exact ⟨rfl, rfl, rfl, rfl⟩
  | panic => exact andThen receivesOne fun _ => andThen readsHeap fun _ => throw _

/-- Builtin functions are safe for live arguments. -/
theorem builtin {call : Value → Arguments → Eval Value} (calls : CallsSafely call)
    (b : Builtin Value) (live : arguments.Live extent) :
    Yields .data (b.run call arguments) extent := by
  unfold Builtin.run
  split
  · exact universal calls _ live
  · split
    · exact stringMethod _ _
    · exact yieldsNone
  · split
    · exact listMethod _ _ live
    · exact yieldsNone
  · split
    · exact dictMethod _ _ live
    · exact yieldsNone
  · exact renderFunction _
  · exact schemaFunction _ live
  · exact assertFunction calls _ live
  · exact cacheFunction _
  · exact decrypt
  · exact jsonFunction _
  · exact base64Function _
  · exact protoFunction _
  · exact buildMessage live
  · exact mathFunction _
  · exact randomFunction _
  · exact patternFunction _
  · exact readAll
  · exact hostFunction _

end PixelApplet.Eval.Safe
