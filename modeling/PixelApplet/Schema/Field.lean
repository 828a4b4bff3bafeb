import PixelApplet.Json.Basic
import PixelApplet.Text.Quoted

/-!
# Configuration fields

The fields of a configuration schema as they are handed to a user interface, the kinds of results
that handlers return, and why a value that a script returns is not a schema, or not a list of
choices.
-/

namespace PixelApplet

/-- What the result of a handler is read as. -/
inductive HandlerKind where
  | options
  | schema
  | string
  deriving DecidableEq

namespace HandlerKind

/-- The number by which scripts name a kind. -/
def number : HandlerKind → Int64
  | options => 0
  | schema => 1
  | string => 2

/-- The kind with a given number. -/
def ofNumber? (n : Int64) : Option HandlerKind :=
  [options, schema, string].find? (·.number = n)

/-- The name of a kind. -/
def name : HandlerKind → String
  | options => "Options"
  | schema => "Schema"
  | string => "String"

end HandlerKind

/-- One choice of a dropdown. -/
structure SchemaOption where
  display : String
  value : String
  deriving DecidableEq

/-- A choice as a document; the displayed text is given twice. -/
def SchemaOption.toJson (choice : SchemaOption) : Json :=
  .object [("display", .string choice.display), ("text", .string choice.display),
    ("value", .string choice.value)]

/-- A field of a schema. -/
structure SchemaField where
  kind : String
  id : String
  name : String
  description : String
  icon : String
  default : Option String
  options : List SchemaOption
  palette : List String
  source : Option String
  handler : Option String
  clientId : Option String
  authorizationEndpoint : Option String
  scopes : List String
  deriving DecidableEq

namespace SchemaField

/-- A field with nothing but its kind and its texts. -/
def plain (kind id name description icon : String) : SchemaField :=
  ⟨kind, id, name, description, icon, none, [], [], none, none, none, none, []⟩

/-- A text that is left out when it is empty. -/
def nonEmpty (name text : String) : List (String × Json) :=
  if text.isEmpty then [] else [(name, .string text)]

/-- A text that is left out when it is missing. -/
def present (name : String) : Option String → List (String × Json)
  | some text => [(name, .string text)]
  | none => []

/-- A list that is left out when it is empty. -/
def nonEmptyList (name : String) (items : List Json) : List (String × Json) :=
  if items.isEmpty then [] else [(name, .array items)]

/-- A field as a document. -/
def toJson (field : SchemaField) : Json :=
  .object (("type", .string field.kind) :: ("id", .string field.id)
    :: (nonEmpty "name" field.name ++ nonEmpty "description" field.description
      ++ nonEmpty "icon" field.icon ++ present "default" field.default
      ++ nonEmptyList "options" (field.options.map SchemaOption.toJson)
      ++ nonEmptyList "palette" (field.palette.map .string) ++ present "source" field.source
      ++ present "handler" field.handler ++ present "client_id" field.clientId
      ++ present "authorization_endpoint" field.authorizationEndpoint
      ++ nonEmptyList "scopes" (field.scopes.map .string)))

end SchemaField

end PixelApplet

/-! ## Faults of schemas -/

namespace PixelApplet

/-- Why a schema is refused. -/
inductive SchemaFault where
  | notSchema (found : String)
  | version (found : String)
  | notField (index : Nat) (found : String)
  | notHandler (index : Nat) (found : String)
  | duplicateField (id : String)
  | handlerNotExported (name : String)
  | conflictingHandler (name : String)
  | notOptions (found : String)
  deriving DecidableEq

/-- The wording of a refusal. -/
def SchemaFault.text : SchemaFault → String
  | notSchema found => s!"expected schema.Schema, got {found}"
  | version found => s!"unsupported schema version {Text.quote found}, want \"1\""
  | notField index found => s!"schema: element {index} of fields: got {found}, want schema field"
  | notHandler index found =>
    s!"schema: element {index} of handlers: got {found}, want schema.Handler"
  | duplicateField id => s!"schema: duplicate field id {Text.quote id}"
  | handlerNotExported name =>
    s!"schema: handler {name} is not a top-level function of the schema file"
  | conflictingHandler name => s!"schema: handler {name} declared with conflicting return types"
  | notOptions found => s!"expected a list of schema.Option, got {found}"

end PixelApplet
