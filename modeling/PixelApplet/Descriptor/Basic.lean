import PixelApplet.Text.Quoted

/-!
# Message descriptors

The declarations of a protocol description file: messages with typed, numbered fields, enumerations
and services; and why a description file is refused, or a message cannot be found.
-/

/-! ## Faults -/

namespace PixelApplet.Descriptor

/-- What is wrong with the text of a description file. -/
inductive SyntaxFault where
  | unterminatedComment
  | unterminatedString
  | unexpectedCharacter (c : Char)
  /-- The file ends too early. -/
  | unexpectedEnd (expected : Option String)
  /-- A token that is written as shown stands in the wrong place. -/
  | unexpected (token : String) (expected : Option String)
  deriving DecidableEq

/-- What was expected, behind a comma. -/
def expecting : Option String → String
  | some what => s!", expecting {what}"
  | none => ""

/-- The wording of a syntax fault. -/
def SyntaxFault.text : SyntaxFault → String
  | unterminatedComment => "unterminated comment"
  | unterminatedString => "unterminated string"
  | unexpectedCharacter c => s!"unexpected character {Text.quoteSingle c}"
  | unexpectedEnd expected => "unexpected end of file" ++ expecting expected
  | unexpected token expected => s!"unexpected {token}" ++ expecting expected

/-- Why working with descriptors fails. -/
inductive Fault where
  | nonTextArgument (index : Nat)
  | unreadable (path reason : String)
  | badSyntax (path : String) (line column : Nat) (fault : SyntaxFault)
  | conflict (name : String)
  | unknownMessage (name : String)
  deriving DecidableEq

/-- The wording of a fault. -/
def Fault.text : Fault → String
  | nonTextArgument index => s!"non-string type for arg {index}"
  | unreadable path reason => s!"open {path}: {reason}"
  | badSyntax path line column fault =>
    s!"parsing proto files: {path}:{line}:{column}: syntax error: {fault.text}"
  | conflict name => s!"symbol {Text.quote name} already defined"
  | unknownMessage name => s!"message {name} not found"

end PixelApplet.Descriptor

/-! ## Declarations -/

namespace PixelApplet.Descriptor

/-- The kinds of field values. -/
inductive FieldKind where
  | string
  | bytes
  | bool
  | int
  | float
  /-- A dict. -/
  | map
  /-- A message or an enumeration, kept by name. -/
  | named
  deriving DecidableEq

/-- The kind that a type name stands for. -/
def FieldKind.ofTypeName (name : String) : FieldKind :=
  if name = "string" then .string
  else if name = "bytes" then .bytes
  else if name = "bool" then .bool
  else if ["int32", "int64", "uint32", "uint64", "sint32", "sint64", "fixed32", "fixed64",
    "sfixed32", "sfixed64"].contains name then .int
  else if name = "float" ∨ name = "double" then .float
  else .named

/-- A field of a message. -/
structure Field where
  name : String
  typeName : String
  kind : FieldKind
  number : Int64
  repeated : Bool
  oneof : Option String
  deriving DecidableEq

/-- A method of a service. -/
structure Method where
  name : String
  input : String
  clientStreaming : Bool
  output : String
  serverStreaming : Bool
  deriving DecidableEq

/-- What a name declares. -/
inductive Declaration where
  | message (fields : List Field)
  | enum (values : List (String × Int64))
  | service (methods : List Method)
  deriving DecidableEq

/-- The declarations of one file under their full names, in the order of the text. -/
structure File where
  path : String
  package : String
  declarations : List (String × Declaration)
  deriving DecidableEq

end PixelApplet.Descriptor
