import PixelApplet.Descriptor.Basic
import PixelApplet.Files.Source

/-!
# What builtin functions do

Functions that are not written in a script are named here, sorted by where scripts find them.  A
builtin value carries one of these names, so values stay plain data.
-/

namespace PixelApplet

/-- Functions that every script sees. -/
inductive Universal where
  | abs | all | any | bool | dict | dir | enumerate | fail | float | getattr | hasattr | int | len
  | list | max | min | print | range | repr | reversed | sorted | str | struct | tuple | type | zip
  deriving DecidableEq

/-- Methods of strings. -/
inductive StringMethod where
  | capitalize | count | endswith | find | format | index | isalnum | isalpha | isdigit | islower
  | isspace | isupper | join | lower | lstrip | removeStart | removeEnd | replace | rfind | rsplit
  | rstrip | split | splitlines | startswith | strip | title | upper
  deriving DecidableEq

/-- Methods of lists. -/
inductive ListMethod where
  | append | clear | extend | index | insert | pop | remove
  deriving DecidableEq

/-- Methods of dicts. -/
inductive DictMethod where
  | clear | get | items | keys | pop | setdefault | update | values
  deriving DecidableEq

/-- Constructors of widgets. -/
inductive RenderFunction where
  | root | box | text | row | column | stack | padding | marquee
  deriving DecidableEq

/-- Constructors of schema documents. -/
inductive SchemaFunction where
  | schema | text | toggle | dropdown | option | color | location | locationBased | typeahead
  | generated | oauth2 | handler
  deriving DecidableEq

/-- Assertions. -/
inductive AssertFunction where
  | eq | ne | true_ | lt | contains | fails
  deriving DecidableEq

/-- Access to the cache. -/
inductive CacheFunction where
  | set | get
  deriving DecidableEq

/-- Conversions from and to JSON. -/
inductive JsonFunction where
  | encode | decode | indent
  deriving DecidableEq

/-- Conversions from and to base 64. -/
inductive Base64Function where
  | encode | decode
  deriving DecidableEq

/-- Access to message descriptors. -/
inductive ProtoFunction where
  | registerFiles | hasMessage | new
  deriving DecidableEq

/-- Functions on numbers. -/
inductive MathFunction where
  | ceil | floor | round | fabs | exp | sin | cos | tan | atan | degrees | radians | pow | log
  | sqrt
  deriving DecidableEq

/-- Random numbers. -/
inductive RandomFunction where
  | number | seed
  deriving DecidableEq

/-- Regular expressions. -/
inductive PatternFunction where
  | findall | match_ | sub | split
  deriving DecidableEq

/-- Functions by which a host takes part in a run. -/
inductive HostFunction where
  /-- Cancels the token of the running invocation. -/
  | cancel
  /-- Fails in the host. -/
  | panic
  deriving DecidableEq

/-- What a builtin function does. -/
inductive Action where
  | universal (f : Universal)
  | stringMethod (m : StringMethod)
  | listMethod (m : ListMethod)
  | dictMethod (m : DictMethod)
  | render (f : RenderFunction)
  | schema (f : SchemaFunction)
  | assert (f : AssertFunction)
  | cache (f : CacheFunction)
  /-- Opens a sealed text. -/
  | decrypt
  | json (f : JsonFunction)
  | base64 (f : Base64Function)
  | proto (f : ProtoFunction)
  /-- Builds a message of a type from its fields. -/
  | buildMessage (typeName : String) (fields : List Descriptor.Field)
  | math (f : MathFunction)
  | random (f : RandomFunction)
  | pattern (f : PatternFunction)
  /-- Reads a file of the applet. -/
  | readFile (path : String) (source : FileSource)
  | host (f : HostFunction)

namespace Universal

/-- The name under which scripts see a function. -/
def name : Universal → String
  | abs => "abs"
  | all => "all"
  | any => "any"
  | bool => "bool"
  | dict => "dict"
  | dir => "dir"
  | enumerate => "enumerate"
  | fail => "fail"
  | float => "float"
  | getattr => "getattr"
  | hasattr => "hasattr"
  | int => "int"
  | len => "len"
  | list => "list"
  | max => "max"
  | min => "min"
  | print => "print"
  | range => "range"
  | repr => "repr"
  | reversed => "reversed"
  | sorted => "sorted"
  | str => "str"
  | struct => "struct"
  | tuple => "tuple"
  | type => "type"
  | zip => "zip"

/-- All functions of the universe. -/
def members : List Universal :=
  [abs, all, any, bool, dict, dir, enumerate, fail, float, getattr, hasattr, int, len, list, max,
    min, print, range, repr, reversed, sorted, str, struct, tuple, type, zip]

end Universal

namespace StringMethod

/-- The name of a method. -/
def name : StringMethod → String
  | capitalize => "capitalize"
  | count => "count"
  | endswith => "endswith"
  | find => "find"
  | format => "format"
  | index => "index"
  | isalnum => "isalnum"
  | isalpha => "isalpha"
  | isdigit => "isdigit"
  | islower => "islower"
  | isspace => "isspace"
  | isupper => "isupper"
  | join => "join"
  | lower => "lower"
  | lstrip => "lstrip"
  | removeStart => "removeprefix"
  | removeEnd => "removesuffix"
  | replace => "replace"
  | rfind => "rfind"
  | rsplit => "rsplit"
  | rstrip => "rstrip"
  | split => "split"
  | splitlines => "splitlines"
  | startswith => "startswith"
  | strip => "strip"
  | title => "title"
  | upper => "upper"

/-- All methods of strings, in the order of their names. -/
def members : List StringMethod :=
  [capitalize, count, endswith, find, format, index, isalnum, isalpha, isdigit, islower, isspace,
    isupper, join, lower, lstrip, removeStart, removeEnd, replace, rfind, rsplit, rstrip, split,
    splitlines, startswith, strip, title, upper]

end StringMethod

namespace ListMethod

/-- The name of a method. -/
def name : ListMethod → String
  | append => "append"
  | clear => "clear"
  | extend => "extend"
  | index => "index"
  | insert => "insert"
  | pop => "pop"
  | remove => "remove"

/-- All methods of lists, in the order of their names. -/
def members : List ListMethod :=
  [append, clear, extend, index, insert, pop, remove]

end ListMethod

namespace DictMethod

/-- The name of a method. -/
def name : DictMethod → String
  | clear => "clear"
  | get => "get"
  | items => "items"
  | keys => "keys"
  | pop => "pop"
  | setdefault => "setdefault"
  | update => "update"
  | values => "values"

/-- All methods of dicts, in the order of their names. -/
def members : List DictMethod :=
  [clear, get, items, keys, pop, setdefault, update, values]

end DictMethod

end PixelApplet
