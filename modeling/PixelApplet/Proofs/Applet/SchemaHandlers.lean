import PixelApplet.Proofs.Applet.Life
import PixelApplet.Proofs.Applet.Returning

/-!
# The handlers of a schema

A field is made with a function and names it; the schema is decoded later, from whatever values a
script put together and against whatever its file exports by then.  Still the table of a decoded
schema has an entry for every handler that a field names, of the kind that the type of the field
implies, and every entry is the function that is exported under its name.  A handler is asked for by
name, so exactly the names in the table are answered.
-/

namespace PixelApplet

/-- The text of a handler's result, read as a kind of results: choices, a schema that is decoded
against what a file exports, or the text itself. -/
def HandlerKind.textOf (kind : HandlerKind) (h : Heap) (exported : Bindings Value)
    (function result : Value) : Except AppletFault String :=
  match kind, result with
  | .options, result => ((SchemaOption.documentOf h result).map Json.compact).mapError .schema
  | .schema, result =>
    ((Schema.ofValue exported result).map fun schema => schema.toJson.compact).mapError .schema
  | .string, .str text => .ok text
  | .string, _ => .error (.handlerReturn function.callableName)

namespace Applet

variable {applet : Applet} {known : Value → Prop} {m : Machine}

/-- What happens when a handler is asked for: exactly the names in the table are answered, each by
calling the function of the entry and reading the result as its kind. -/
structure Dispatches (applet : Applet) (loaded : LoadedSchema) : Prop where
  unknown : ∀ name parameter token m, loaded.schema.handlers.get? name = none →
    applet.callHandler name parameter token m = .ok (.error (.noHandler name)) m
  known : ∃ ref, (loaded.file, ref) ∈ applet.modules ∧ ∀ name handler,
    loaded.schema.handlers.get? name = some handler → ∀ parameter token m,
      ∃ outcome m', applet.call handler.function [.str parameter] token m = .ok outcome m'
        ∧ applet.callHandler name parameter token m = .ok (match outcome with
          | .error fault => .error (.handlerCall name fault)
          | .ok result =>
            handler.kind.textOf m'.heap (m'.heap.module ref).vars handler.function result) m'

theorem lookup_of_mem {α : Type} {name : String} {value : α} {bindings : List (String × α)}
    (member : (name, value) ∈ bindings) : ∃ found, bindings.lookup name = some found := by
  cases search : bindings.lookup name with
  | some found => exact ⟨found, rfl⟩
  | none =>
    have absent := List.lookup_eq_none_iff.mp search _ member
    simp at absent

/-- The result of a handler is read as its kind, against what the file of the schema exports. -/
theorem handlerResult_eq {file name : String} {ref : ModuleRef} {handler : SchemaHandler}
    {result : Value} (found : applet.modules.lookup file = some ref) :
    applet.handlerResult file name handler result m
      = .ok (handler.kind.textOf m.heap (m.heap.module ref).vars handler.function result) m := by
  unfold handlerResult HandlerKind.textOf
  cases handler.kind with
  | options => rfl
  | schema =>
    have exports : applet.exported? file m = .ok (some (m.heap.module ref).vars) m := by
      show EStateM.Result.ok ((applet.modules.lookup file).map _) m = _
      rw [found]
      rfl
    exact Eval.bind_ok exports
  | string => cases result <;> rfl

theorem dispatches_of_schema {loaded : LoadedSchema} (given : applet.schema = some loaded)
    {ref : ModuleRef} (member : (loaded.file, ref) ∈ applet.modules) :
    applet.Dispatches loaded := by
  obtain ⟨ref, found⟩ := lookup_of_mem member
  constructor
  · intro name parameter token m absent
    unfold callHandler
    rw [given]
    dsimp only
    rw [absent]
    rfl
  · refine ⟨ref, Bindings.mem_of_lookup found, fun name handler there parameter token m => ?_⟩
    obtain ⟨outcome, m', called⟩ :=
      applet.context.invoke_returns handler.function (.ofList [.str parameter]) token m
    refine ⟨outcome, m', called, ?_⟩
    unfold callHandler
    rw [given]
    dsimp only
    rw [there]
    refine (Eval.bind_ok called).trans ?_
    cases outcome with
    | error fault => rfl
    | ok result => exact handlerResult_eq found

/-- Every schema that is decoded while an applet lives has a closed and unambiguous table of
handlers; the schema that the applet was loaded with has one against what its file exports, and the
handlers are dispatched by it; and values whose handlers are not exported under their own names, or
of which two declarations of a name disagree, are not decoded. -/
theorem handler_tables_are_closed (upstanding : applet.context.Upstanding)
    (life : applet.Life m known) :
    (∀ value exported schema, applet.Has known m value →
      Schema.ofValue exported value = .ok schema → schema.Unambiguous exported value)
    ∧ (∀ loaded, applet.schema = some loaded →
      applet.SchemaStands m.heap loaded ∧ applet.Dispatches loaded)
    ∧ ∀ value exported, ((∃ declaration ∈ Schema.declarations value, Schema.sameFunction
          declaration.1 (exported.get? declaration.1.callableName) = false)
        ∨ ∃ first ∈ Schema.declarations value, ∃ second ∈ Schema.declarations value,
          first.1.callableName = second.1.callableName ∧ first.2 ≠ second.2) →
      ∃ fault, Schema.ofValue exported value = .error fault := by
  obtain ⟨R, settled⟩ := life.settled upstanding
  refine ⟨fun value exported schema has decoded => ?_, fun loaded given => ?_,
    fun value exported conflict => Schema.refuses_of_conflict conflict⟩
  · exact Schema.unambiguous_of_belongs (settled.belongs has) decoded
  · obtain ⟨ref, value, member, closed⟩ := settled.schema loaded given
    exact ⟨⟨ref, value, member, closed⟩, dispatches_of_schema given member⟩

/-- An applet with a field that is generated and a handler of its own. -/
def describedFiles : MemoryFiles :=
  let main := "load(\"schema.star\", s = \"schema\")\ndef main():\n    return []\n"
    ++ "def more(x):\n    return x\ndef name(x):\n    return x\ndef get_schema():\n"
    ++ "    return s.Schema(\"1\", [s.Generated(\"q\", \"q\", more)],"
    ++ " [s.Handler(name, s.HandlerType.String)])\n"
  MemoryFiles.empty.insert "main.star" main.toUTF8

/-- Whether loading gave an applet whose schema has two handlers. -/
def isDescribed : EStateM.Result Abort Machine (Except AppletFault Applet) → Bool
  | .ok (.ok applet) _ =>
    match applet.schema with
    | some loaded => loaded.schema.handlers.map (fun entry => (entry.1, entry.2.kind))
        == [("more", .schema), ("name", .string)]
    | none => false
  | _ => false

theorem exists_of_isDescribed {ending : EStateM.Result Abort Machine (Except AppletFault Applet)}
    (described : isDescribed ending = true) : ∃ applet m loaded,
      ending = .ok (.ok applet) m ∧ applet.schema = some loaded
        ∧ loaded.schema.handlers.map (fun entry => (entry.1, entry.2.kind))
          = [("more", .schema), ("name", .string)] := by
  unfold isDescribed at described
  split at described
  · rename_i applet m
    split at described
    · rename_i loaded given
      exact ⟨applet, m, loaded, rfl, given, eq_of_beq described⟩
    · cases described
  · cases described

theorem describedFiles_load : ∃ applet m loaded,
    load ⟨"app", .none⟩ (.memory describedFiles) (.initial (.under [])) = .ok (.ok applet) m
      ∧ applet.schema = some loaded
      ∧ loaded.schema.handlers.map (fun entry => (entry.1, entry.2.kind))
        = [("more", .schema), ("name", .string)] :=
  exists_of_isDescribed (by decide +kernel)

theorem describedHandlers_are_closed : Context.Upstanding ⟨"app", .none⟩
    ∧ ∃ (applet : Applet) (m : Machine) (loaded : LoadedSchema),
      applet.Life m (fun _ => False) ∧ applet.schema = some loaded
        ∧ loaded.schema.handlers.map (fun entry => (entry.1, entry.2.kind))
          = [("more", .schema), ("name", .string)]
        ∧ applet.SchemaStands m.heap loaded ∧ applet.Dispatches loaded := by
  have upstanding := Context.upstanding_of_none "app"
  obtain ⟨applet, m, loaded, ran, given, entries⟩ := describedFiles_load
  have context : applet.context = ⟨"app", .none⟩ := context_of_load ran
  rw [← context] at ran upstanding
  have life : applet.Life m fun _ => False := .loaded rfl ran
  obtain ⟨_, stands, _⟩ := handler_tables_are_closed upstanding life
  exact ⟨Context.upstanding_of_none "app", applet, m, loaded, life, given, entries,
    stands loaded given⟩

end Applet

end PixelApplet
