import PixelApplet.Descriptor.Reader
import PixelApplet.Library.Received
import PixelApplet.Text.Utf8

/-!
# Messages for scripts

Description files are read from the disk and registered together or not at all; messages are then
built by their names.
-/

namespace PixelApplet.Messages

/-- The paths among arguments, counted from an index. -/
def paths : (index : Nat) → List Value → Except Descriptor.Fault (List String)
  | _, [] => .ok []
  | index, .str path :: rest => do
    return path :: (← paths (index + 1) rest)
  | index, _ :: _ => .error (.nonTextArgument index)

/-- The wording of a failure to read a description file. -/
def reason (fault : FileFault) : String :=
  if fault.meansAbsent then "no such file or directory" else fault.text

/-- The declarations of a file on the disk. -/
def readFile (disk : Disk) (path : String) : Except Descriptor.Fault Descriptor.File :=
  match disk.read path with
  | .error fault => .error (.unreadable path (reason fault))
  | .ok contents =>
    match Text.decodeStrict? contents with
    | none => .error (.unreadable path "stream did not contain valid UTF-8")
    | some text => Descriptor.File.parse path text

/-- The declarations of files on the disk, each path once. -/
def readFiles (disk : Disk) : List String → Except Descriptor.Fault (List Descriptor.File)
  | [] => .ok []
  | path :: rest => do
    let file ← readFile disk path
    return file :: (← readFiles disk rest)

/-- Reads and registers files. -/
def register (disk : Disk) (names : List String) (registry : Descriptor.Registry) :
    Except Descriptor.Fault Descriptor.Registry := do
  let files ← readFiles disk names.eraseDups
  registry.registerAll files

/-- The value of a field that is not set. -/
def unset (field : Descriptor.Field) : Eval Value := do
  if field.repeated then Eval.newList []
  else
    match field.kind with
    | .string | .bytes => return .str ""
    | .bool => return .bool false
    | .int => return .int 0
    | .float => return .float 0.0
    | .map => Eval.newDict .empty
    | .named => return .none

/-- The values of fields that are not set; the first field of a name keeps its place. -/
def unsetAll : List Descriptor.Field → Bindings Value → Eval (Bindings Value)
  | [], values => pure values
  | field :: rest, values => do
    unsetAll rest (values.insert field.name (← unset field))

/-- Whether a field of a kind takes a value. -/
def accepts (kind : Descriptor.FieldKind) (value : Value) : Bool :=
  match kind, value with
  | .string, .str _ | .bytes, .str _ | .bool, .bool _ | .int, .int _ | .float, .int _
  | .float, .float _ | .map, .dict _ | .named, _ => true
  | _, _ => false

/-- The value of a field that is set, if the field takes it. -/
def fieldValue? (field : Descriptor.Field) (value : Value) : Eval (Option Value) := do
  if field.repeated then
    match ← Eval.readHeap value.sequence? with
    | some items =>
      if items.all (accepts field.kind) then return some (← Eval.newList items) else return none
    | none => return none
  else if !(value.isNone || accepts field.kind value) then return none
  else if field.kind = .float then return some ((value.asFloat?.map Value.float).getD value)
  else return some value

/-- Sets fields one after the other; `chosen` says which alternatives were set. -/
def setFields (typeName : String) (fields : List Descriptor.Field) :
    (chosen : List (String × String)) → List (String × Value) → Bindings Value →
      Eval (Bindings Value)
  | _, [], values => pure values
  | chosen, (name, value) :: rest, values => do
    match fields.find? fun field => field.name = name with
    | none => Eval.fail s!"{typeName} has no field {Text.quote name}"
    | some field => do
      let chosen ← match field.oneof with
        | none => pure chosen
        | some oneof =>
          match chosen.lookup oneof with
          | some other =>
            Eval.fail s!"{typeName}: fields {other} and {name} of oneof {oneof} are both set"
          | none => pure ((oneof, name) :: chosen)
      match ← fieldValue? field value with
      | some value => setFields typeName fields chosen rest (values.insert name value)
      | none =>
        let wanted := (if field.repeated then "repeated " else "") ++ field.typeName
        Eval.fail s!"{typeName}.{name}: got {value.typeName}, want {wanted}"

/-- A message with some fields set. -/
def build (typeName : String) (fields : List Descriptor.Field) (arguments : Arguments) :
    Eval Value := do
  if ¬ arguments.positional.isEmpty then
    Eval.fail s!"{typeName}: unexpected positional arguments"
  let values ← unsetAll fields []
  Eval.newNative (.message typeName (← setFields typeName fields [] arguments.named values))

/-- What a function does with its arguments. -/
def run (f : ProtoFunction) (arguments : Arguments) : Eval Value := do
  match f with
  | .registerFiles => do
    let names ← Eval.accept Descriptor.Fault.text (paths 0 arguments.positional)
    let m ← get
    let registry ← Eval.accept Descriptor.Fault.text (register m.disk names m.registry)
    modify fun m => { m with registry := registry }
    return .none
  | .hasMessage => do
    let r ← receive "has_message" [.needed "name"] arguments
    let name ← r.text "name"
    Eval.read fun m => .bool (m.registry.hasMessage name)
  | .new => do
    let r ← receive "new" [.needed "name"] arguments
    let name ← r.text "name"
    let fields ← Eval.accept Descriptor.Fault.text
      (← Eval.read fun m => m.registry.messageFields name)
    return .builtin (← Eval.newIdentity) ⟨name, none, .buildMessage name fields⟩

end PixelApplet.Messages
