import PixelApplet.Json.Basic
import PixelApplet.Library.Received
import PixelApplet.Number.Decimal

/-!
# Documents as values

A document becomes fresh script values: an integer within the words an int, every other number a
float, an array a list and an object a dict in its order.  The way back refuses what no document can
show.
-/

namespace PixelApplet

/-- The value of a whole number of a document. -/
def Json.wordOrFloat (n : Int) : Value :=
  match Word.ofInt? n with
  | some i => .int i
  | none => .float (Decimal.ofInt n)

mutual

/-- Fresh values that show a document. -/
def Json.toValue : Json → Eval Value
  | .null => pure .none
  | .bool b => pure (.bool b)
  | .int n => pure (Json.wordOrFloat n)
  | .float x => pure (.float x)
  | .string s => pure (.str s)
  | .array items => do
    Eval.newList (← Json.toValues items)
  | .object fields => do
    Eval.newDict (DictCell.ofBindings (← Json.toBindings fields))

/-- Fresh values that show the elements of an array. -/
def Json.toValues : List Json → Eval (List Value)
  | [] => pure []
  | item :: rest => do
    let value ← item.toValue
    return value :: (← Json.toValues rest)

/-- Fresh values that show the fields of an object. -/
def Json.toBindings : List (String × Json) → Eval (List (String × Value))
  | [] => pure []
  | (name, item) :: rest => do
    let value ← item.toValue
    return (name, value) :: (← Json.toBindings rest)

end

/-- Why a value cannot be shown as a document. -/
inductive EncodingFault where
  | notFinite (x : Float)
  | keyType (found : String)
  | notEncodable (found : String)

/-- The wording of a refusal. -/
def EncodingFault.text : EncodingFault → String
  | notFinite x => s!"cannot encode non-finite float {Decimal.plain x}"
  | keyType found => s!"dict has {found} key, want string"
  | notEncodable found => s!"cannot encode {found} as JSON"

namespace Value

/-- Documents of several values, given the document of one. -/
def encodeItems (encode : Value → Except EncodingFault Json) :
    List Value → Except EncodingFault (List Json)
  | [] => .ok []
  | item :: rest => do
    let document ← encode item
    return document :: (← encodeItems encode rest)

/-- Fields of an object with the entries of a dict, given the document of one value. -/
def encodeEntries (encode : Value → Except EncodingFault Json) :
    List (Value × Value) → Except EncodingFault (List (String × Json))
  | [] => .ok []
  | (.str name, value) :: rest => do
    let document ← encode value
    return (name, document) :: (← encodeEntries encode rest)
  | (key, _) :: _ => .error (.keyType key.typeName)

mutual

/-- The document of a value, given the documents of the values that cells hold. -/
def encodeWith (h : Heap) (inner : Value → Except EncodingFault Json) :
    Value → Except EncodingFault Json
  | none => .ok .null
  | bool b => .ok (.bool b)
  | int i => .ok (.int i.toInt)
  | float x => if x.isFinite then .ok (.float x) else .error (.notFinite x)
  | str s => .ok (.string s)
  | list ref => (encodeItems inner (h.list ref).items.toList).map .array
  | tuple items => (encodeAllWith h inner items).map .array
  | dict ref => (encodeEntries inner (h.dict ref).pairs).map .object
  | struct fields => (encodeFieldsWith h inner fields).map .object
  | other => .error (.notEncodable other.typeName)

/-- The documents of the elements of a tuple. -/
def encodeAllWith (h : Heap) (inner : Value → Except EncodingFault Json) :
    List Value → Except EncodingFault (List Json)
  | [] => .ok []
  | item :: rest => do
    let document ← encodeWith h inner item
    return document :: (← encodeAllWith h inner rest)

/-- The documents of the fields of a struct. -/
def encodeFieldsWith (h : Heap) (inner : Value → Except EncodingFault Json) :
    List (String × Value) → Except EncodingFault (List (String × Json))
  | [] => .ok []
  | (name, item) :: rest => do
    let document ← encodeWith h inner item
    return (name, document) :: (← encodeFieldsWith h inner rest)

end

/-- The document of a value when at most `cells` cells are entered on one path. -/
def encodeTo (h : Heap) : (cells : Nat) → Value → Except EncodingFault Json
  | 0, value => .error (.notEncodable value.typeName)
  | cells + 1, value => encodeWith h (encodeTo h cells) value

/-- The document of a value. -/
def toJson (h : Heap) (value : Value) : Except EncodingFault Json :=
  encodeTo h (h.cellCount + 1) value

end Value

end PixelApplet
