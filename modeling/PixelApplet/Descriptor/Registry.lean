import PixelApplet.Descriptor.Basic

/-!
# The registry of message descriptors

Which files are registered, and which file declares a name.  Files are registered together or not at
all: a name that another file declares already is a conflict, and then nothing changes.
-/

namespace PixelApplet.Descriptor

/-- A name with the file that declares it and what it declares. -/
structure Symbol where
  name : String
  owner : String
  declaration : Declaration
  deriving DecidableEq

/-- The registered files and the names they declare. -/
structure Registry where
  paths : List String
  symbols : List Symbol
  deriving DecidableEq, Inhabited

namespace Registry

/-- The registry without files. -/
def empty : Registry :=
  ⟨[], []⟩

/-- What a name means. -/
def find? (r : Registry) (name : String) : Option Symbol :=
  r.symbols.find? fun symbol => symbol.name = name

/-- Adds a declaration; the last declaration of a name counts. -/
def declare (r : Registry) (symbol : Symbol) : Registry :=
  { r with symbols := symbol :: r.symbols.filter fun other => other.name ≠ symbol.name }

/-- Adds the names of a file, unless another file declares one of them. -/
def declareAll (path : String) : List (String × Declaration) → Registry → Except Fault Registry
  | [], r => .ok r
  | (name, declaration) :: rest, r =>
    match r.find? name with
    | some other =>
      if other.owner = path then declareAll path rest (r.declare ⟨name, path, declaration⟩)
      else .error (.conflict name)
    | none => declareAll path rest (r.declare ⟨name, path, declaration⟩)

/-- Registers a file, unless it is known by its path. -/
def registerFile (file : File) (r : Registry) : Except Fault Registry :=
  if r.paths.contains file.path then .ok r
  else
    match declareAll file.path file.declarations r with
    | .error fault => .error fault
    | .ok declared => .ok { declared with paths := declared.paths ++ [file.path] }

/-- Registers files, all or none. -/
def registerAll : List File → Registry → Except Fault Registry
  | [], r => .ok r
  | file :: rest, r =>
    match registerFile file r with
    | .error fault => .error fault
    | .ok r => registerAll rest r

/-- The fields of a message. -/
def messageFields (r : Registry) (name : String) : Except Fault (List Field) :=
  match r.find? name with
  | some ⟨_, _, .message fields⟩ => .ok fields
  | _ => .error (.unknownMessage name)

/-- Whether a name is that of a message. -/
def hasMessage (r : Registry) (name : String) : Bool :=
  match r.messageFields name with
  | .ok _ => true
  | .error _ => false

end Registry

end PixelApplet.Descriptor
