import PixelApplet.Number.Decimal
import PixelApplet.Text.Quoted

/-!
# Documents

JSON documents as trees.  Objects keep the order in which their keys were first written.  Integers
from the least signed to the greatest unsigned word are kept exactly, all other numbers are doubles.
-/

namespace PixelApplet

/-- A JSON document. -/
inductive Json where
  | null
  | bool (value : Bool)
  | int (value : Int)
  | float (value : Float)
  | string (text : String)
  | array (items : List Json)
  | object (fields : List (String × Json))

instance : Inhabited Json :=
  ⟨.null⟩

namespace Json

/-- Puts a value under a key: a new key goes to the end, a known key keeps its place. -/
def putField (key : String) (value : Json) : List (String × Json) → List (String × Json)
  | [] => [(key, value)]
  | (k, v) :: rest => if k = key then (k, value) :: rest else (k, v) :: putField key value rest

/-- The value under a key. -/
def field? (key : String) : Json → Option Json
  | object fields => fields.lookup key
  | _ => none

/-- The characters that stand for one character inside a document's string. -/
def escapeChar (c : Char) : List Char :=
  if c = '"' then ['\\', '"']
  else if c = '\\' then ['\\', '\\']
  else if c = '\x08' then ['\\', 'b']
  else if c = '\t' then ['\\', 't']
  else if c = '\n' then ['\\', 'n']
  else if c = '\x0c' then ['\\', 'f']
  else if c = '\r' then ['\\', 'r']
  else if c.toNat < 32 then
    ['\\', 'u', '0', '0', Text.hexDigit (c.toNat / 16), Text.hexDigit (c.toNat % 16)]
  else [c]

/-- A string as it is written in a document. -/
def quote (s : String) : String :=
  String.ofList ('"' :: (s.toList.flatMap escapeChar ++ ['"']))

mutual

/-- A document without white space. -/
def compact : Json → String
  | null => "null"
  | bool true => "true"
  | bool false => "false"
  | int value => toString value
  | float value => Decimal.documentText value
  | string text => quote text
  | array items => "[" ++ compactItems items ++ "]"
  | object fields => "\x7b" ++ compactFields fields ++ "\x7d"

/-- Items separated by commas. -/
def compactItems : List Json → String
  | [] => ""
  | [item] => item.compact
  | item :: rest => item.compact ++ "," ++ compactItems rest

/-- Fields separated by commas. -/
def compactFields : List (String × Json) → String
  | [] => ""
  | [(key, value)] => quote key ++ ":" ++ value.compact
  | (key, value) :: rest => quote key ++ ":" ++ value.compact ++ "," ++ compactFields rest

end

/-- A line end and `level` repetitions of the indentation. -/
def lineBreak (indent : String) (level : Nat) : String :=
  "\n" ++ String.join (List.replicate level indent)

mutual

/-- A document with one item or field a line, nested `level` deep. -/
def indented (indent : String) (level : Nat) : Json → String
  | array [] => "[]"
  | array (item :: rest) =>
    "[" ++ indentedItems indent (level + 1) (item :: rest) ++ lineBreak indent level ++ "]"
  | object [] => "\x7b\x7d"
  | object (field :: rest) =>
    "\x7b" ++ indentedFields indent (level + 1) (field :: rest) ++ lineBreak indent level ++ "\x7d"
  | null => "null"
  | bool true => "true"
  | bool false => "false"
  | int value => toString value
  | float value => Decimal.documentText value
  | string text => quote text

/-- Items on lines of their own. -/
def indentedItems (indent : String) (level : Nat) : List Json → String
  | [] => ""
  | [item] => lineBreak indent level ++ item.indented indent level
  | item :: rest =>
    lineBreak indent level ++ item.indented indent level ++ "," ++ indentedItems indent level rest

/-- Fields on lines of their own. -/
def indentedFields (indent : String) (level : Nat) : List (String × Json) → String
  | [] => ""
  | [(key, value)] =>
    lineBreak indent level ++ quote key ++ ": " ++ value.indented indent level
  | (key, value) :: rest =>
    lineBreak indent level ++ quote key ++ ": " ++ value.indented indent level ++ ","
      ++ indentedFields indent level rest

end

/-- A document with an indentation of two blanks. -/
def pretty (document : Json) : String :=
  document.indented "  " 0

end Json

end PixelApplet
