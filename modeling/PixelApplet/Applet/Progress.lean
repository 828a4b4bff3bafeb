import PixelApplet.Schema.Document

/-!
# The progress of loading

What loading an applet has produced so far.
-/

namespace PixelApplet

/-- The schema of an applet and the file whose function made it. -/
structure LoadedSchema where
  file : String
  schema : Schema

/-- What happens while files are loaded. -/
inductive LoadStep where
  /-- The top level of a script begins to run. -/
  | began (path : String)
  /-- The top level of a script runs a load statement. -/
  | loads (path module : String)
  /-- The top level of a script ran to its end. -/
  | finished (path : String)
  deriving DecidableEq

/-- What was loaded. -/
structure LoadProgress where
  /-- All paths that were opened, in ascending order. -/
  paths : List String
  /-- The modules of the loaded files. -/
  modules : List (String × ModuleRef)
  /-- The entry point and its file. -/
  entry : Option (String × Value)
  schema : Option LoadedSchema
  /-- What happened, in order. -/
  history : List LoadStep
  deriving Inhabited

namespace LoadProgress

/-- Nothing was loaded. -/
def empty : LoadProgress :=
  ⟨[], [], none, none, []⟩

/-- A path among others in ascending order, once. -/
def insertPath (path : String) : List String → List String
  | [] => [path]
  | other :: rest =>
    if path < other then path :: other :: rest
    else if path = other then other :: rest
    else other :: insertPath path rest

/-- Notes that a path was opened. -/
def open_ (progress : LoadProgress) (path : String) : LoadProgress :=
  { progress with paths := insertPath path progress.paths }

/-- Notes that something happened. -/
def after (progress : LoadProgress) (step : LoadStep) : LoadProgress :=
  { progress with history := progress.history ++ [step] }

/-- Notes the module of a file. -/
def addModule (progress : LoadProgress) (path : String) (ref : ModuleRef) : LoadProgress :=
  { progress with modules := progress.modules ++ [(path, ref)] }

/-- The module of a file. -/
def module? (progress : LoadProgress) (path : String) : Option ModuleRef :=
  progress.modules.lookup path

end LoadProgress

end PixelApplet
