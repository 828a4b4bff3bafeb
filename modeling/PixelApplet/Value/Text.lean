import PixelApplet.Number.Numeral
import PixelApplet.Text.Quoted
import PixelApplet.Value.Heap

/-!
# The text of values

The form in which values are printed.  Strings are quoted inside other values; nesting beyond
`Value.deepestText` levels is shown as three dots, so the text of a cyclic structure is finite.  A
message shows its fields from the first level on again, so nothing bounds the text of a message that
contains itself, and that text is left unfinished.
-/

namespace PixelApplet.Value

/-- The deepest level of nesting that is shown. -/
def deepestText : Nat :=
  64

/-- Pieces joined by a comma and a blank. -/
def commaJoined (pieces : List String) : String :=
  ", ".intercalate pieces

mutual

/-- The text of a value at a level of nesting, given the text of the values that cells hold. -/
def textWith (h : Heap) (inner : Nat → Value → String) : Nat → Value → String
  | level, value =>
    if level > deepestText then "..."
    else match value with
      | none => "None"
      | bool true => "True"
      | bool false => "False"
      | int i => Word.text i
      | float x => Decimal.scriptText x
      | str s => Text.quote s
      | list ref =>
        "[" ++ commaJoined ((h.list ref).items.toList.map (inner (level + 1))) ++ "]"
      | tuple items =>
        "(" ++ commaJoined (textsWith h inner (level + 1) items)
          ++ (if items.length = 1 then ",)" else ")")
      | dict ref =>
        "\x7b" ++ commaJoined ((h.dict ref).pairs.map fun (key, value) =>
          inner (level + 1) key ++ ": " ++ inner (level + 1) value) ++ "\x7d"
      | function _ f => s!"<function {f.decl.name}>"
      | builtin _ b => s!"<built-in function {b.name}>"
      | struct fields => "struct(" ++ commaJoined (fieldTextsWith h inner (level + 1) fields) ++ ")"
      | module _ name _ => s!"<module \"{name}\">"
      | native _ (.message name fields) =>
        name ++ "(" ++ commaJoined (fieldTextsWith h inner 0 fields) ++ ")"
      | native _ (.file path _) => s!"<File {Text.quote path}>"
      | native _ n => s!"<{n.typeName}>"

/-- The texts of several values. -/
def textsWith (h : Heap) (inner : Nat → Value → String) (level : Nat) : List Value → List String
  | [] => []
  | item :: rest => textWith h inner level item :: textsWith h inner level rest

/-- The texts of fields. -/
def fieldTextsWith (h : Heap) (inner : Nat → Value → String) (level : Nat) :
    List (String × Value) → List String
  | [] => []
  | (name, value) :: rest =>
    (name ++ " = " ++ textWith h inner level value) :: fieldTextsWith h inner level rest

end

/-- The text of a value when at most `cells` cells are entered on one path. -/
def textTo (h : Heap) : (cells : Nat) → Nat → Value → String
  | 0, _, _ => "..."
  | cells + 1, level, value => textWith h (textTo h cells) level value

/-- The cells that are entered on one path, if no message contains itself: between a message and the
next the levels bound them, and a cell in front of a message is not entered behind it. -/
def cellsEntered (h : Heap) : Nat :=
  (h.cellCount + 1) * (deepestText + 2)

/-- The text of a value as an expression would write it. -/
def repr (h : Heap) (value : Value) : String :=
  textTo h (cellsEntered h) 0 value

/-- The text of a value as it is printed: a string without quotes, any other value as an expression.
-/
def text (h : Heap) : Value → String
  | str s => s
  | value => repr h value

end PixelApplet.Value
