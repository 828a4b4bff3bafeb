import PixelApplet.Library.Numbers
import PixelApplet.Render.Widget

/-!
# Modules

The modules that scripts can load, each under its name: a module binds one name to the collection of
its members.
-/

namespace PixelApplet

/-- A module that scripts can load. -/
structure LibraryModule where
  /-- The name in load statements. -/
  path : String
  /-- The name it binds. -/
  name : String
  members : List (String × Value)

namespace LibraryModule

/-- A module all of whose members are functions, perhaps followed by constants. -/
def make (path name : String) (functions : List (String × Action))
    (constants : List (String × Value)) : LibraryModule :=
  ⟨path, name,
    functions.map (fun (function, action) =>
      (function, .builtin (.fixed (name ++ "." ++ function)) ⟨function, none, action⟩))
      ++ constants⟩

/-- The kinds of handlers, by their names. -/
def handlerKinds : List (String × Value) :=
  [HandlerKind.options, .schema, .string].map fun kind => (kind.name, .int kind.number)

/-- All modules. -/
def all : List LibraryModule :=
  [make "render.star" "render"
      [("Root", .render .root), ("Box", .render .box), ("Text", .render .text),
        ("Row", .render .row), ("Column", .render .column), ("Stack", .render .stack),
        ("Padding", .render .padding), ("Marquee", .render .marquee)]
      [("fonts", .dict Heap.fonts)],
    make "schema.star" "schema"
      [("Schema", .schema .schema), ("Text", .schema .text), ("Toggle", .schema .toggle),
        ("Dropdown", .schema .dropdown), ("Option", .schema .option), ("Color", .schema .color),
        ("Location", .schema .location), ("LocationBased", .schema .locationBased),
        ("Typeahead", .schema .typeahead), ("Generated", .schema .generated),
        ("OAuth2", .schema .oauth2), ("Handler", .schema .handler)]
      [("HandlerType", .struct handlerKinds)],
    make "assert.star" "assert"
      [("eq", .assert .eq), ("ne", .assert .ne), ("true", .assert .true_), ("lt", .assert .lt),
        ("contains", .assert .contains), ("fails", .assert .fails)] [],
    make "cache.star" "cache" [("set", .cache .set), ("get", .cache .get)] [],
    make "secret.star" "secret" [("decrypt", .decrypt)] [],
    make "encoding/json.star" "json"
      [("encode", .json .encode), ("decode", .json .decode), ("indent", .json .indent)] [],
    make "encoding/base64.star" "base64"
      [("encode", .base64 .encode), ("decode", .base64 .decode)] [],
    make "encoding/proto.star" "proto"
      [("register_files", .proto .registerFiles), ("has_message", .proto .hasMessage),
        ("new", .proto .new)] [],
    make "math.star" "math"
      [("ceil", .math .ceil), ("floor", .math .floor), ("round", .math .round),
        ("fabs", .math .fabs), ("exp", .math .exp), ("sin", .math .sin), ("cos", .math .cos),
        ("tan", .math .tan), ("atan", .math .atan), ("degrees", .math .degrees),
        ("radians", .math .radians), ("pow", .math .pow), ("log", .math .log),
        ("sqrt", .math .sqrt)]
      [("pi", .float Mathematics.pi), ("e", .float Mathematics.euler),
        ("tau", .float Mathematics.tau), ("inf", .float Mathematics.infinity)],
    make "random.star" "random" [("number", .random .number), ("seed", .random .seed)] [],
    make "re.star" "re"
      [("findall", .pattern .findall), ("match", .pattern .match_), ("sub", .pattern .sub),
        ("split", .pattern .split)] []]

/-- What a module binds. -/
def bindings (module : LibraryModule) : Bindings Value :=
  [(module.name, .module (.fixed module.name) module.name module.members)]

/-- What the module with a name in load statements binds. -/
def bindings? (path : String) : Option (Bindings Value) :=
  (all.find? fun module => module.path = path).map bindings

end LibraryModule

end PixelApplet
