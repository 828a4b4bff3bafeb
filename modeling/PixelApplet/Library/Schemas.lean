import PixelApplet.Library.Received
import PixelApplet.Render.Widget

/-!
# Constructors of configuration schemas
-/

namespace PixelApplet.Schemas

/-- The function that is passed as a handler. -/
def handlerFunction (function : String) : Slot → Eval Value
  | some (.function identity f) => pure (.function identity f)
  | some other =>
    Eval.fail ((ArgumentFault.wrongType "handler" other.typeName "function").text function)
  | none => Eval.fail ((ArgumentFault.missing "handler").text function)

/-- The arguments of a field: its plain part, and all of them for the rest. -/
def receiveField (function kind : String) (more : List Parameter) (arguments : Arguments) :
    Eval (SchemaField × Received) := do
  let r ← receive function
    (.needed "id" :: .needed "name" :: .needed "desc" :: .needed "icon" :: more) arguments
  let id ← r.text "id"
  let name ← r.text "name"
  let description ← r.text "desc"
  let icon ← r.text "icon"
  if id.isEmpty then Eval.fail s!"{function}: id must not be empty"
  return (.plain kind id name description icon, r)

/-- Puts a finished field into a value. -/
def wrap (maker : String) (field : SchemaField) (handler : Option (Value × HandlerKind)) :
    Eval Value :=
  Eval.newNative (.field maker field handler)

/-- A field whose choices or further fields a handler supplies. -/
def newHandlerField (function kind : String) (returns : HandlerKind) (arguments : Arguments) :
    Eval Value := do
  let (field, r) ← receiveField function kind [.needed "handler"] arguments
  let handler ← handlerFunction function (r.slot "handler")
  wrap function { field with handler := some handler.callableName } (some (handler, returns))

/-- The choices of a dropdown, counted from an index. -/
def choices : (index : Nat) → List Value → Eval (List SchemaOption)
  | _, [] => pure []
  | index, .native _ (.option choice) :: rest => do
    return choice :: (← choices (index + 1) rest)
  | index, other :: _ =>
    Eval.fail s!"Dropdown: options[{index}]: got {other.typeName}, want schema.Option"

/-- A field with fixed choices. -/
def newDropdown (arguments : Arguments) : Eval Value := do
  let (field, r) ←
    receiveField "Dropdown" "dropdown" [.needed "default", .needed "options"] arguments
  let default ← r.text "default"
  let options ← choices 0 (← r.items "options")
  if options.isEmpty then Eval.fail "Dropdown: options must not be empty"
  if ¬ options.any fun choice => choice.value = default then
    Eval.fail s!"Dropdown: default value {Text.quote default} is not one of the options"
  wrap "Dropdown" { field with options := options, default := some default } none

/-- The texts among the colors of a palette. -/
def palette : List Value → Eval (List String)
  | [] => pure []
  | .str color :: rest => do
    return color :: (← palette rest)
  | other :: _ => Eval.fail s!"Color: palette: got {other.typeName}, want string"

/-- A field for a color. -/
def newColor (arguments : Arguments) : Eval Value := do
  let (field, r) ← receiveField "Color" "color" [.needed "default", .optional "palette"] arguments
  let default ← r.text "default"
  let colors ← palette (← r.items "palette")
  match (default :: colors).find? fun color => !Color.isValid color with
  | some bad => Eval.fail s!"Color: invalid color {Text.quote bad}"
  | none => wrap "Color" { field with palette := colors, default := some default } none

/-- A field that a handler generates. -/
def newGenerated (arguments : Arguments) : Eval Value := do
  let r ← receive "Generated" [.needed "id", .needed "source", .needed "handler"] arguments
  let handler ← handlerFunction "Generated" (r.slot "handler")
  let id ← r.text "id"
  let source ← r.text? "source"
  wrap "Generated"
    { SchemaField.plain "generated" id "" "" "" with
      source := source
      handler := some handler.callableName }
    (some (handler, .schema))

/-- A field for an account elsewhere. -/
def newAccount (arguments : Arguments) : Eval Value := do
  let (field, r) ← receiveField "OAuth2" "oauth2"
    [.needed "handler", .needed "client_id", .needed "authorization_endpoint", .optional "scopes"]
    arguments
  let handler ← handlerFunction "OAuth2" (r.slot "handler")
  let clientId ← r.text? "client_id"
  let endpoint ← r.text? "authorization_endpoint"
  let scopes ← r.items "scopes"
  let scopes ← Eval.readHeap fun h => scopes.map (Value.text h)
  wrap "OAuth2"
    { field with
      handler := some handler.callableName
      clientId := clientId
      authorizationEndpoint := endpoint
      scopes := scopes }
    (some (handler, .string))

/-- A schema document. -/
def newSchema (arguments : Arguments) : Eval Value := do
  let r ← receive "Schema" [.needed "version", .optional "fields", .optional "handlers"] arguments
  let version ← r.text "version"
  let fields ← r.items "fields"
  Eval.newNative (.schema version fields (← r.items "handlers"))

/-- A handler with the kind of its results. -/
def newHandler (arguments : Arguments) : Eval Value := do
  let r ← receive "Handler" [.needed "handler", .needed "type"] arguments
  let handler ← handlerFunction "Handler" (r.slot "handler")
  let kind ← Eval.require "Handler: type must be a schema.HandlerType"
    ((← r.int? "type").bind HandlerKind.ofNumber?)
  Eval.newNative (.handler handler kind)

/-- What a constructor makes of its arguments. -/
def run (f : SchemaFunction) (arguments : Arguments) : Eval Value := do
  match f with
  | .schema => newSchema arguments
  | .text => do
    let (field, r) ← receiveField "Text" "text" [.optional "default"] arguments
    wrap "Text" { field with default := some (← r.text "default") } none
  | .toggle => do
    let (field, r) ← receiveField "Toggle" "onoff" [.optional "default"] arguments
    let on := (← r.bool? "default").getD false
    wrap "Toggle" { field with default := some (if on then "true" else "false") } none
  | .dropdown => newDropdown arguments
  | .option => do
    let r ← receive "Option" [.needed "display", .needed "value"] arguments
    let display ← r.text "display"
    Eval.newNative (.option ⟨display, ← r.text "value"⟩)
  | .color => newColor arguments
  | .location => do
    let (field, _) ← receiveField "Location" "location" [] arguments
    wrap "Location" field none
  | .locationBased => newHandlerField "LocationBased" "locationbased" .options arguments
  | .typeahead => newHandlerField "Typeahead" "typeahead" .options arguments
  | .generated => newGenerated arguments
  | .oauth2 => newAccount arguments
  | .handler => newHandler arguments

end PixelApplet.Schemas
