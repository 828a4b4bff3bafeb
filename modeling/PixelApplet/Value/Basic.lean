import PixelApplet.Render.Widget
import PixelApplet.Schema.Field
import PixelApplet.Script.Tree
import PixelApplet.Value.Action

/-!
# Values

The values of scripts.  Lists and dicts can change and are shared, so a value only refers to them;
their contents live in the heap, as do the variables of modules.  All other values are immutable
data. Functions, builtins, modules and host values are the same only if they are the same object,
which their identity decides.
-/

namespace PixelApplet

/-- A reference to a list in the heap. -/
structure ListRef where
  index : Nat
  deriving DecidableEq

/-- A reference to a dict in the heap. -/
structure DictRef where
  index : Nat
  deriving DecidableEq

/-- A reference to the variables of a module in the heap. -/
structure ModuleRef where
  index : Nat
  deriving DecidableEq

/-- Names with what they are bound to, in the order in which they were first bound. -/
abbrev Bindings (α : Type) := List (String × α)

/-- Which object a value is. -/
inductive Identity where
  /-- An object that exists once for all scripts. -/
  | fixed (name : String)
  /-- An object made while a script ran. -/
  | fresh (number : Nat)
  deriving DecidableEq

/-- A function written in a script, together with what it saw when it was defined. -/
structure Function (V : Type) where
  decl : FunctionDecl
  /-- The module that defines it. -/
  home : ModuleRef
  /-- A default for each parameter that has one. -/
  defaults : List (Option V)
  /-- The variables of the enclosing functions, for a function defined inside another. -/
  captured : Option (List (String × V))
  /-- The file that defines it. -/
  file : String

/-- A function that is not written in a script. -/
structure Builtin (V : Type) where
  name : String
  /-- The value a method belongs to. -/
  receiver : Option V
  action : Action

/-- A value of the host. -/
inductive Native (V : Type) where
  | widget (widget : Widget)
  | root (root : RenderRoot)
  | schema (version : String) (fields handlers : List V)
  | field (maker : String) (field : SchemaField) (handler : Option (V × HandlerKind))
  | option (choice : SchemaOption)
  | handler (function : V) (kind : HandlerKind)
  | file (path : String) (source : FileSource)
  | message (typeName : String) (fields : List (String × V))

/-- A value of a script. -/
inductive Value where
  | none
  | bool (value : Bool)
  | int (value : Int64)
  | float (value : Float)
  | str (text : String)
  | list (ref : ListRef)
  | tuple (items : List Value)
  | dict (ref : DictRef)
  | function (identity : Identity) (function : Function Value)
  | builtin (identity : Identity) (builtin : Builtin Value)
  | struct (fields : List (String × Value))
  | module (identity : Identity) (name : String) (members : List (String × Value))
  | native (identity : Identity) (native : Native Value)

instance : Inhabited Value :=
  ⟨.none⟩

namespace Bindings

variable {α : Type}

/-- What a name is bound to. -/
def get? (name : String) (bindings : Bindings α) : Option α :=
  bindings.lookup name

/-- Binds a name: a new name goes to the end, a known name keeps its place. -/
def insert (name : String) (value : α) : Bindings α → Bindings α
  | [] => [(name, value)]
  | (n, v) :: rest => if n = name then (n, value) :: rest else (n, v) :: insert name value rest

/-- Binds several names one after the other. -/
def insertAll (more : Bindings α) (bindings : Bindings α) : Bindings α :=
  more.foldl (fun all binding => insert binding.1 binding.2 all) bindings

/-- The names in order. -/
def names (bindings : Bindings α) : List String :=
  bindings.map Prod.fst

end Bindings

namespace Native

variable {V : Type}

/-- The name of the type of a host value. -/
def typeName : Native V → String
  | widget w => "render." ++ w.kind
  | root _ => "render.Root"
  | schema .. => "schema.Schema"
  | field maker _ _ => "schema." ++ maker
  | option _ => "schema.Option"
  | handler .. => "schema.Handler"
  | file .. => "File"
  | message name _ => name

end Native

namespace Value

/-- The name of a value's type. -/
def typeName : Value → String
  | none => "NoneType"
  | bool _ => "bool"
  | int _ => "int"
  | float _ => "float"
  | str _ => "string"
  | list _ => "list"
  | tuple _ => "tuple"
  | dict _ => "dict"
  | function .. => "function"
  | builtin .. => "builtin_function_or_method"
  | struct _ => "struct"
  | module .. => "module"
  | native _ n => n.typeName

/-- Whether a value is `None`. -/
def isNone : Value → Bool
  | none => true
  | _ => false

/-- The text of a string. -/
def asString? : Value → Option String
  | str s => some s
  | _ => Option.none

/-- The word of an int. -/
def asInt? : Value → Option Int64
  | int i => some i
  | _ => Option.none

/-- The double nearest to a number. -/
def asFloat? : Value → Option Float
  | int i => some i.toFloat
  | float x => some x
  | _ => Option.none

/-- Whether a value is a function written in a script. -/
def isFunction : Value → Bool
  | function .. => true
  | _ => false

/-- The name of a callable value; of any other value its type. -/
def callableName : Value → String
  | function _ f => f.decl.name
  | builtin _ b => b.name
  | other => other.typeName

end Value

end PixelApplet
