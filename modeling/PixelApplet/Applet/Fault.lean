import PixelApplet.Schema.Field
import PixelApplet.Text.Search

/-!
# Faults of applets

Why loading an applet or invoking one of its functions fails.
-/

namespace PixelApplet

/-- Why an applet cannot be loaded or an invocation fails. -/
inductive AppletFault where
  | readRootDirectory (reason : String)
  | read (path reason : String)
  | circularDependency (chain : List String)
  | execution (path message : String)
  | multipleEntryPoints (new old : String)
  | multipleSchemaFunctions (new old : String)
  | noEntryPoint (id : String)
  | invalidModule (name : String)
  | schemaCall (id message : String)
  | schemaParse (id : String) (fault : SchemaFault)
  | loadPanic (id message : String)
  | callPanic (id message : String)
  /-- A script failed; the text is the traceback. -/
  | evaluation (traceback : String)
  /-- A call failed before any statement ran. -/
  | call (name position message : String)
  | noHandler (name : String)
  | handlerCall (name : String) (fault : AppletFault)
  | handlerReturn (name : String)
  | schema (fault : SchemaFault)
  | returnShape (found : String) (index : Option Nat)

namespace AppletFault

/-- The wording of a fault. -/
def text : AppletFault → String
  | readRootDirectory reason => s!"reading root directory: {reason}"
  | read path reason => s!"reading {path}: {reason}"
  | circularDependency chain =>
    "circular dependency detected: " ++ " -> ".intercalate chain
  | execution path message => s!"executing {path}: {message}"
  | multipleEntryPoints new old => s!"multiple files with a main() function:\n- {new}\n- {old}"
  | multipleSchemaFunctions new old =>
    s!"multiple files with a get_schema() function:\n- {new}\n- {old}"
  | noEntryPoint id => s!"no main() function found in {id}"
  | invalidModule name => s!"invalid module: {name}"
  | schemaCall id message => s!"calling schema function for {id}: {message}"
  | schemaParse id fault => s!"parsing schema for {id}: {fault.text}"
  | loadPanic id message => s!"panic while executing {id}: {message}"
  | callPanic id message => s!"panic while running {id}: {message}"
  | evaluation traceback => traceback
  | call name position message => s!"in {name} at {position}: {message}"
  | noHandler name => s!"no exported handler named '{name}'"
  | handlerCall name fault => s!"calling schema handler {name}: {fault.text}"
  | handlerReturn name => s!"expected {name} to return a string or string-like value"
  | schema fault => fault.text
  | returnShape found index =>
    s!"expected app implementation to return Root(s) but found: {found}"
      ++ (match index with
        | some i => s!" (at index {i})"
        | none => "")

/-- Whether a fault reports that the invocation was cancelled. -/
def isCancellation : AppletFault → Bool
  | evaluation message | call _ _ message => Text.contains message "computation cancelled"
  | handlerCall _ fault => fault.isCancellation
  | _ => false

end AppletFault

end PixelApplet
