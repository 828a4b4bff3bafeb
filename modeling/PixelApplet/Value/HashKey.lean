import PixelApplet.Value.Basic

/-!
# Dict keys

The part of a value that decides under which key a dict stores it.  An int and a float of the same
integral value share a key; functions are keys by their identity; lists, dicts and host values are
no keys.
-/

namespace PixelApplet

/-- What identifies a key of a dict. -/
inductive HashKey where
  | none
  | bool (value : Bool)
  | int (value : Int64)
  | float (bits : UInt64)
  | str (text : String)
  | tuple (items : List HashKey)
  | object (identity : Identity)

namespace HashKey

mutual

/-- Whether two keys are the same. -/
def same : HashKey → HashKey → Bool
  | none, none => true
  | bool a, bool b => a == b
  | int a, int b => a == b
  | float a, float b => a == b
  | str a, str b => a == b
  | tuple a, tuple b => sameAll a b
  | object a, object b => a == b
  | _, _ => false

/-- Whether two sequences of keys are the same. -/
def sameAll : List HashKey → List HashKey → Bool
  | [], [] => true
  | a :: as, b :: bs => same a b && sameAll as bs
  | _, _ => false

end

/-- The key of a double: that of an int where the value is integral and within the words. -/
def ofFloat (x : Float) : HashKey :=
  if x.isFinite && Decimal.isIntegral x && x.abs < 9223372036854775808.0 then
    int (Int64.ofInt (Decimal.truncate x))
  else float x.toBits

end HashKey

namespace Value

mutual

/-- The key of a value, or the name of the type that cannot be a key. -/
def hashKey : Value → Except String HashKey
  | none => .ok .none
  | bool b => .ok (.bool b)
  | int i => .ok (.int i)
  | float x => .ok (HashKey.ofFloat x)
  | str s => .ok (.str s)
  | tuple items =>
    match hashKeys items with
    | .ok keys => .ok (.tuple keys)
    | .error name => .error name
  | function identity _ => .ok (.object identity)
  | builtin identity _ => .ok (.object identity)
  | list _ => .error "list"
  | dict _ => .error "dict"
  | struct _ => .error "struct"
  | module .. => .error "module"
  | native _ n => .error n.typeName

/-- The keys of several values. -/
def hashKeys : List Value → Except String (List HashKey)
  | [] => .ok []
  | item :: rest =>
    match hashKey item with
    | .error name => .error name
    | .ok key =>
      match hashKeys rest with
      | .error name => .error name
      | .ok keys => .ok (key :: keys)

end

end Value

end PixelApplet
