import PixelApplet.Value.HashKey

/-!
# The heap

The contents of lists and dicts, and the variables of modules.  A cell is reached by its reference;
it is never removed, and a frozen cell never changes again.
-/

namespace PixelApplet

/-- The contents of a list. -/
structure ListCell where
  items : Array Value
  frozen : Bool
  deriving Inhabited

/-- An entry of a dict: what it is found by, the key as it was first written, and the value. -/
structure DictEntry where
  hash : HashKey
  key : Value
  value : Value

/-- The contents of a dict in the order of first insertion. -/
structure DictCell where
  entries : Array DictEntry
  frozen : Bool
  deriving Inhabited

/-- The variables of a module. -/
structure ModuleCell where
  /-- The name of the file. -/
  name : String
  /-- The exported variables. -/
  vars : Bindings Value
  /-- Names taken from other modules, which are seen but not exported. -/
  loaded : Bindings Value
  /-- Names the host provides. -/
  predeclared : Bindings Value
  /-- Whether the variables can no longer be bound. -/
  frozen : Bool
  /-- Whether somebody still holds the module. -/
  held : Bool
  deriving Inhabited

/-- All cells, and the number of the next fresh object. -/
structure Heap where
  lists : Array ListCell
  dicts : Array DictCell
  modules : Array ModuleCell
  nextIdentity : Nat
  deriving Inhabited

namespace DictCell

/-- The dict without entries. -/
def empty : DictCell :=
  ⟨#[], false⟩

/-- The place of the entry with a given key. -/
def position? (cell : DictCell) (hash : HashKey) : Option Nat :=
  cell.entries.findIdx? fun entry => entry.hash.same hash

/-- The entry with a given key. -/
def find? (cell : DictCell) (hash : HashKey) : Option DictEntry :=
  cell.entries.find? fun entry => entry.hash.same hash

/-- Stores a value: a known key keeps its place and its first writing. -/
def insert (cell : DictCell) (hash : HashKey) (key value : Value) : DictCell :=
  match cell.position? hash with
  | some i =>
    { cell with entries := cell.entries.modify i fun entry => { entry with value := value } }
  | none => { cell with entries := cell.entries.push ⟨hash, key, value⟩ }

/-- Leaves out the entry at a place. -/
def eraseAt (cell : DictCell) (i : Nat) : DictCell :=
  { cell with entries := cell.entries.eraseIdxIfInBounds i }

/-- Keys and values in order. -/
def pairs (cell : DictCell) : List (Value × Value) :=
  cell.entries.toList.map fun entry => (entry.key, entry.value)

/-- Keys in order. -/
def keys (cell : DictCell) : List Value :=
  cell.entries.toList.map DictEntry.key

/-- Values in order. -/
def values (cell : DictCell) : List Value :=
  cell.entries.toList.map DictEntry.value

/-- A dict with text keys. -/
def ofBindings (bindings : Bindings Value) : DictCell :=
  bindings.foldl (fun cell (name, value) => cell.insert (.str name) (.str name) value) empty

end DictCell

namespace ModuleCell

/-- A module whose file is about to be executed. -/
def ofFile (name : String) (predeclared : Bindings Value) : ModuleCell :=
  ⟨name, [], [], predeclared, false, true⟩

/-- What a name means in the file of a module. -/
def lookup? (cell : ModuleCell) (name : String) : Option Value :=
  match cell.vars.get? name with
  | some value => some value
  | none =>
    match cell.loaded.get? name with
    | some value => some value
    | none => cell.predeclared.get? name

end ModuleCell

namespace Heap

/-- The heap without cells. -/
def empty : Heap :=
  ⟨#[], #[], #[], 0⟩

/-- The contents of a list. -/
def list (h : Heap) (ref : ListRef) : ListCell :=
  h.lists.getD ref.index default

/-- The contents of a dict. -/
def dict (h : Heap) (ref : DictRef) : DictCell :=
  h.dicts.getD ref.index default

/-- The variables of a module. -/
def module (h : Heap) (ref : ModuleRef) : ModuleCell :=
  h.modules.getD ref.index default

/-- Changes the contents of a list. -/
def modifyList (h : Heap) (ref : ListRef) (f : ListCell → ListCell) : Heap :=
  { h with lists := h.lists.modify ref.index f }

/-- Changes the contents of a dict. -/
def modifyDict (h : Heap) (ref : DictRef) (f : DictCell → DictCell) : Heap :=
  { h with dicts := h.dicts.modify ref.index f }

/-- Changes the variables of a module. -/
def modifyModule (h : Heap) (ref : ModuleRef) (f : ModuleCell → ModuleCell) : Heap :=
  { h with modules := h.modules.modify ref.index f }

/-- The reference the next list will have. -/
def nextList (h : Heap) : ListRef :=
  ⟨h.lists.size⟩

/-- The reference the next dict will have. -/
def nextDict (h : Heap) : DictRef :=
  ⟨h.dicts.size⟩

/-- The reference the next module will have. -/
def nextModule (h : Heap) : ModuleRef :=
  ⟨h.modules.size⟩

/-- Adds a list. -/
def addList (h : Heap) (cell : ListCell) : Heap :=
  { h with lists := h.lists.push cell }

/-- Adds a dict. -/
def addDict (h : Heap) (cell : DictCell) : Heap :=
  { h with dicts := h.dicts.push cell }

/-- Adds a module. -/
def addModule (h : Heap) (cell : ModuleCell) : Heap :=
  { h with modules := h.modules.push cell }

/-- The number of lists and dicts: no path through distinct cells is longer. -/
def cellCount (h : Heap) : Nat :=
  h.lists.size + h.dicts.size

end Heap

namespace Value

/-- The truth of a value: nothing, zero and empty texts and collections are false. -/
def truth (h : Heap) : Value → Bool
  | none => false
  | bool b => b
  | int i => i != 0
  | float x => x != 0.0
  | str s => !s.isEmpty
  | list ref => !(h.list ref).items.isEmpty
  | tuple items => !items.isEmpty
  | dict ref => !(h.dict ref).entries.isEmpty
  | _ => true

/-- The elements of a list or a tuple. -/
def sequence? (h : Heap) : Value → Option (List Value)
  | list ref => some (h.list ref).items.toList
  | tuple items => some items
  | _ => Option.none

end Value

end PixelApplet

/-! ## Freezing

When a file has been executed, everything its variables reach through elements, entries and fields
becomes immutable.  A cell is marked before what it holds is visited, so shared and cyclic
structures are visited once.
-/

namespace PixelApplet

namespace Heap

mutual

/-- Freezes a value, given how to freeze the contents of a cell. -/
def freezeWith (contents : List Value → Heap → Heap) : Value → Heap → Heap
  | .list ref, h =>
    if (h.list ref).frozen then h
    else
      contents (h.list ref).items.toList (h.modifyList ref fun cell => { cell with frozen := true })
  | .dict ref, h =>
    if (h.dict ref).frozen then h
    else
      contents ((h.dict ref).entries.toList.flatMap fun entry => [entry.key, entry.value])
        (h.modifyDict ref fun cell => { cell with frozen := true })
  | .tuple items, h => freezeAllWith contents items h
  | .struct fields, h => freezeFieldsWith contents fields h
  | _, h => h

/-- Freezes several values. -/
def freezeAllWith (contents : List Value → Heap → Heap) : List Value → Heap → Heap
  | [], h => h
  | item :: rest, h => freezeAllWith contents rest (freezeWith contents item h)

/-- Freezes the values of fields. -/
def freezeFieldsWith (contents : List Value → Heap → Heap) : List (String × Value) → Heap → Heap
  | [], h => h
  | (_, item) :: rest, h => freezeFieldsWith contents rest (freezeWith contents item h)

end

/-- Freezes values whose cells are nested at most `depth` deep. -/
def freezeTo : (depth : Nat) → List Value → Heap → Heap
  | 0, _, h => h
  | depth + 1, values, h => freezeAllWith (freezeTo depth) values h

/-- Freezes values and everything they reach.  Each step into a cell marks one more cell, so the
number of cells bounds the depth. -/
def freezeAll (values : List Value) (h : Heap) : Heap :=
  freezeTo (h.cellCount + 1) values h

/-- Freezes a module: its names, and everything their values reach. -/
def freezeModule (ref : ModuleRef) (h : Heap) : Heap :=
  if (h.module ref).frozen then h
  else
    freezeAll ((h.module ref).vars.map Prod.snd)
      (h.modifyModule ref fun cell => { cell with frozen := true })

end Heap

end PixelApplet
