import PixelApplet.Schema.Field
import PixelApplet.Value.Heap

/-!
# Schema documents

A schema as an applet hands it out: its fields, and a table of handlers.  A handler is a function
that the file of the schema exports under its own name, and all declarations of it agree on what it
returns.
-/

namespace PixelApplet

/-- A handler: the function, and what its results are read as. -/
structure SchemaHandler where
  function : Value
  kind : HandlerKind

/-- A schema. -/
structure Schema where
  version : String
  fields : List SchemaField
  handlers : Bindings SchemaHandler

namespace Schema

/-- The version that schemas must have. -/
def currentVersion : String :=
  "1"

/-- Whether two values are the same script function. -/
def sameFunction : Value → Option Value → Bool
  | .function a _, some (.function b _) => a = b
  | _, _ => false

/-- Adds a handler, which must be exported under its name. -/
def addHandler (exported : Bindings Value) (function : Value) (kind : HandlerKind)
    (handlers : Bindings SchemaHandler) : Except SchemaFault (Bindings SchemaHandler) :=
  let name := function.callableName
  if sameFunction function (exported.get? name) then
    match handlers.get? name with
    | some existing =>
      if existing.kind = kind then .ok handlers else .error (.conflictingHandler name)
    | none => .ok (handlers.insert name ⟨function, kind⟩)
  else .error (.handlerNotExported name)

/-- Adds fields to a schema, counted from an index. -/
def addFields (exported : Bindings Value) :
    (index : Nat) → List Value → Schema → Except SchemaFault Schema
  | _, [], schema => .ok schema
  | index, .native _ (.field _ field backing) :: rest, schema => do
    if schema.fields.any fun other => other.id = field.id then .error (.duplicateField field.id)
    else
      let handlers ← match backing with
        | some (function, kind) => addHandler exported function kind schema.handlers
        | none => .ok schema.handlers
      addFields exported (index + 1) rest
        { schema with fields := schema.fields ++ [field], handlers := handlers }
  | index, other :: _, _ => .error (.notField index other.typeName)

/-- Adds handlers to a schema, counted from an index. -/
def addHandlers (exported : Bindings Value) :
    (index : Nat) → List Value → Schema → Except SchemaFault Schema
  | _, [], schema => .ok schema
  | index, .native _ (.handler function kind) :: rest, schema => do
    let handlers ← addHandler exported function kind schema.handlers
    addHandlers exported (index + 1) rest { schema with handlers := handlers }
  | index, other :: _, _ => .error (.notHandler index other.typeName)

/-- The schema that a value describes, given what its file exports. -/
def ofValue (exported : Bindings Value) : Value → Except SchemaFault Schema
  | .native _ (.schema version fields handlers) => do
    if version ≠ currentVersion then .error (.version version)
    else
      let schema ← addFields exported 0 fields ⟨version, [], []⟩
      addHandlers exported 0 handlers schema
  | other => .error (.notSchema other.typeName)

/-- A schema as a document; handlers are not part of it. -/
def toJson (schema : Schema) : Json :=
  .object [("version", .string schema.version),
    ("schema", .array (schema.fields.map SchemaField.toJson))]

end Schema

namespace SchemaOption

/-- The choices in a list of values. -/
def ofValues : List Value → Except SchemaFault (List SchemaOption)
  | [] => .ok []
  | .native _ (.option choice) :: rest => do
    return choice :: (← ofValues rest)
  | other :: _ => .error (.notOptions s!"list containing {other.typeName}")

/-- The document of the choices that a handler returns. -/
def documentOf (h : Heap) (value : Value) : Except SchemaFault Json :=
  match value.sequence? h with
  | some items => (ofValues items).map fun choices => .array (choices.map toJson)
  | none => .error (.notOptions value.typeName)

end SchemaOption

end PixelApplet
