import PixelApplet.Value.Basic

/-!
# Arguments of calls

What a call passes, and how it is matched with the parameters of a function: with the parameter list
of a builtin function, whose answer is one slot for each parameter, and with the parameters of a
function written in a script.
-/

namespace PixelApplet

/-- The arguments of a call, with all spread arguments already listed. -/
structure Arguments where
  positional : List Value
  named : List (String × Value)

/-- The name of a parameter of a builtin function, and whether it must be given. -/
structure Parameter where
  name : String
  required : Bool
  deriving DecidableEq

/-- A parameter that must be given. -/
def Parameter.needed (name : String) : Parameter :=
  ⟨name, true⟩

/-- A parameter that may be left out. -/
def Parameter.optional (name : String) : Parameter :=
  ⟨name, false⟩

/-- Why a builtin function refuses its arguments. -/
inductive ArgumentFault where
  | tooMany (given limit : Nat)
  | wrongCount (given low high : Nat)
  | unexpectedKeyword (name : String)
  | repeated (name : String)
  | missing (name : String)
  | wrongType (parameter found wanted : String)
  deriving DecidableEq

/-- The wording of a refusal by a function. -/
def ArgumentFault.text (function : String) : ArgumentFault → String
  | tooMany given limit => s!"{function}: got {given} arguments, want at most {limit}"
  | wrongCount given low high =>
    let wanted := if low = high then toString low else s!"between {low} and {high}"
    s!"{function}: got {given} arguments, want {wanted}"
  | unexpectedKeyword name => s!"{function}: unexpected keyword argument {name}"
  | repeated name => s!"{function}: got multiple values for keyword argument {name}"
  | missing name => s!"{function}: missing argument for {name}"
  | wrongType parameter found wanted =>
    s!"{function}: for parameter {parameter}: got {found}, want {wanted}"

/-- What is passed for one parameter, if anything. -/
abbrev Slot :=
  Option Value

namespace Arguments

/-- The call without arguments. -/
def empty : Arguments :=
  ⟨[], []⟩

/-- The call with positional arguments only. -/
def ofList (positional : List Value) : Arguments :=
  ⟨positional, []⟩

/-- One slot for each parameter, the first ones filled with positional arguments. -/
def positionalSlots : List Parameter → List Value → List Slot
  | [], _ => []
  | _ :: parameters, [] => none :: positionalSlots parameters []
  | _ :: parameters, value :: values => some value :: positionalSlots parameters values

/-- Fills the slot of a named parameter. -/
def fillNamed (name : String) (value : Value) :
    List Parameter → List Slot → Except ArgumentFault (List Slot)
  | parameter :: parameters, slot :: slots =>
    if parameter.name = name then
      match slot with
      | some _ => .error (.repeated name)
      | none => .ok (some value :: slots)
    else
      match fillNamed name value parameters slots with
      | .ok filled => .ok (slot :: filled)
      | .error fault => .error fault
  | _, _ => .error (.unexpectedKeyword name)

/-- Fills the slots of named arguments one after the other. -/
def fillAllNamed (parameters : List Parameter) :
    List (String × Value) → List Slot → Except ArgumentFault (List Slot)
  | [], slots => .ok slots
  | (name, value) :: rest, slots =>
    match fillNamed name value parameters slots with
    | .ok filled => fillAllNamed parameters rest filled
    | .error fault => .error fault

/-- Checks that every required parameter has its argument. -/
def checkRequired : List Parameter → List Slot → Except ArgumentFault Unit
  | parameter :: parameters, slot :: slots =>
    if parameter.required && slot.isNone then .error (.missing parameter.name)
    else checkRequired parameters slots
  | _, _ => .ok ()

/-- Matches arguments with the parameters of a builtin function. -/
def unpack (arguments : Arguments) (parameters : List Parameter) :
    Except ArgumentFault (List Slot) :=
  if arguments.positional.length > parameters.length then
    .error (.tooMany arguments.positional.length parameters.length)
  else
    match fillAllNamed parameters arguments.named
      (positionalSlots parameters arguments.positional) with
    | .error fault => .error fault
    | .ok slots =>
      match checkRequired parameters slots with
      | .error fault => .error fault
      | .ok () => .ok slots

/-- The positional arguments of a function that takes no named ones and at least `low` and at most
`high` positional ones. -/
def positionalBetween (arguments : Arguments) (low high : Nat) :
    Except ArgumentFault (List Value) :=
  match arguments.named with
  | (name, _) :: _ => .error (.unexpectedKeyword name)
  | [] =>
    let given := arguments.positional.length
    if given < low ∨ given > high then .error (.wrongCount given low high)
    else .ok arguments.positional

/-- The arguments of a function that takes any number of positional ones and no named ones. -/
def positionalOnly (arguments : Arguments) : Except ArgumentFault (List Value) :=
  match arguments.named with
  | (name, _) :: _ => .error (.unexpectedKeyword name)
  | [] => .ok arguments.positional

end Arguments

namespace Slot

/-- The text in a slot; `None` counts as left out. -/
def text (parameter : String) : Slot → Except ArgumentFault (Option String)
  | none | some .none => .ok none
  | some (.str s) => .ok (some s)
  | some other => .error (.wrongType parameter other.typeName "string")

/-- The int in a slot; `None` counts as left out. -/
def int (parameter : String) : Slot → Except ArgumentFault (Option Int64)
  | none | some .none => .ok none
  | some (.int i) => .ok (some i)
  | some other => .error (.wrongType parameter other.typeName "int")

/-- The number in a slot as a double; `None` counts as left out. -/
def float (parameter : String) : Slot → Except ArgumentFault (Option Float)
  | none | some .none => .ok none
  | some (.int i) => .ok (some i.toFloat)
  | some (.float x) => .ok (some x)
  | some other => .error (.wrongType parameter other.typeName "float")

/-- The truth value in a slot; `None` counts as left out. -/
def bool (parameter : String) : Slot → Except ArgumentFault (Option Bool)
  | none | some .none => .ok none
  | some (.bool b) => .ok (some b)
  | some other => .error (.wrongType parameter other.typeName "bool")

end Slot

/-- Why a function written in a script refuses its arguments. -/
inductive BindingFault where
  | tooMany (function : String) (accepted given : Nat)
  | repeated (function parameter : String)
  | unexpectedKeyword (function name : String)
  | missing (function parameter : String)
  deriving DecidableEq

/-- The wording of a refusal. -/
def BindingFault.text : BindingFault → String
  | tooMany function accepted given =>
    s!"function {function} accepts at most {accepted} positional arguments ({given} given)"
  | repeated function parameter =>
    s!"function {function} got multiple values for parameter {parameter}"
  | unexpectedKeyword function name =>
    s!"function {function} got an unexpected keyword argument {name}"
  | missing function parameter => s!"function {function} missing argument for {parameter}"

/-- What a parameter is bound to. -/
inductive Bound where
  | value (value : Value)
  /-- A new dict of the remaining named arguments. -/
  | remaining (named : List (String × Value))

namespace Binding

/-- One slot for each parameter: positional arguments fill the parameters before the first
collecting one.  Gives the arguments that are left, too. -/
def positionalSlots : List Param → List Value → List Slot × List Value
  | [], values => ([], values)
  | param :: params, values =>
    if param.isOwn then
      match values with
      | value :: rest =>
        let (slots, left) := positionalSlots params rest
        (some value :: slots, left)
      | [] => (none :: params.map fun _ => none, [])
    else (none :: params.map fun _ => none, values)

/-- The slots after one named argument, if some parameter has its name. -/
def fillNamed (function name : String) (value : Value) :
    List Param → List Slot → Except BindingFault (Option (List Slot))
  | param :: params, slot :: slots =>
    if param.isOwn && param.name = name then
      match slot with
      | some _ => .error (.repeated function name)
      | none => .ok (some (some value :: slots))
    else
      match fillNamed function name value params slots with
      | .ok filled => .ok (filled.map (slot :: ·))
      | .error fault => .error fault
  | _, _ => .ok none

/-- The slots after all named arguments, and the arguments for which there is no parameter. -/
def fillAllNamed (function : String) (collects : Bool) (params : List Param) :
    List (String × Value) → List Slot → Except BindingFault (List Slot × List (String × Value))
  | [], slots => .ok (slots, [])
  | (name, value) :: rest, slots =>
    match fillNamed function name value params slots with
    | .error fault => .error fault
    | .ok (some filled) => fillAllNamed function collects params rest filled
    | .ok none =>
      if collects then
        match fillAllNamed function collects params rest slots with
        | .ok (slots, left) => .ok (slots, (name, value) :: left)
        | .error fault => .error fault
      else .error (.unexpectedKeyword function name)

/-- What a parameter for the remaining named arguments is bound to: a new dict of them, and `None`
where an earlier parameter has taken them. -/
def collected : (left : Option (List (String × Value))) → Bound
  | some named => .remaining named
  | none => .value .none

/-- What each parameter is bound to in the end.  The first collecting parameter of a kind takes the
arguments that are left for it. -/
def bindSlots (function : String) : (extra : List Value) → (left : Option (List (String × Value))) →
    List Param → List Slot → List (Option Value) → Except BindingFault (List (String × Bound))
  | extra, left, param :: params, slot :: slots, default :: defaults =>
    match slot with
    | some value =>
      (bindSlots function extra left params slots defaults).map ((param.name, .value value) :: ·)
    | none =>
      match param.kind with
      | .required => .error (.missing function param.name)
      | .optional _ =>
        (bindSlots function extra left params slots defaults).map
          ((param.name, .value (default.getD .none)) :: ·)
      | .rest =>
        (bindSlots function [] left params slots defaults).map
          ((param.name, .value (.tuple extra)) :: ·)
      | .restNamed =>
        (bindSlots function extra none params slots defaults).map
          ((param.name, collected left) :: ·)
  | _, _, _, _, _ => .ok []

end Binding

/-- Matches arguments with the parameters of a function written in a script. -/
def Function.bind (f : Function Value) (arguments : Arguments) :
    Except BindingFault (List (String × Bound)) :=
  let params := f.decl.params
  let (slots, extra) := Binding.positionalSlots params arguments.positional
  if ¬ extra.isEmpty ∧ ¬ params.any Param.isRest then
    let accepted := (params.takeWhile Param.isOwn).length
    .error (.tooMany f.decl.name accepted (accepted + extra.length))
  else
    match Binding.fillAllNamed f.decl.name (params.any Param.isRestNamed) params arguments.named
      slots with
    | .error fault => .error fault
    | .ok (slots, left) => Binding.bindSlots f.decl.name extra (some left) params slots f.defaults

end PixelApplet
