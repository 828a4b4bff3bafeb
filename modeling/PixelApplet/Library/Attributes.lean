import PixelApplet.Json.Value

/-!
# Attributes

What a value shows behind a dot: the fields of structs, the members of modules, what host values
expose, and the methods of strings, lists and dicts.
-/

namespace PixelApplet

namespace Native

/-- The attribute of a host value. -/
def attribute? (native : Native Value) (name : String) : Eval (Option Value) := do
  match native with
  | .widget w =>
    match w.fields.lookup name with
    | some document => return some (← document.toValue)
    | none => return none
  | .root r =>
    if name = "delay" then return some (.int r.delay)
    else if name = "max_age" then return some (.int r.maxAge)
    else if name = "show_full_animation" then return some (.bool r.showFullAnimation)
    else if name = "child" then return some (← Eval.newNative (.widget r.child))
    else return none
  | .schema version fields handlers =>
    if name = "version" then return some (.str version)
    else if name = "fields" then return some (← Eval.newList fields)
    else if name = "handlers" then return some (← Eval.newList handlers)
    else return none
  | .field _ f backing =>
    if name = "id" then return some (.str f.id)
    else if name = "name" then return some (.str f.name)
    else if name = "desc" then return some (.str f.description)
    else if name = "icon" then return some (.str f.icon)
    else if name = "default" then return some ((f.default.map Value.str).getD .none)
    else if name = "handler" then return backing.map Prod.fst
    else return none
  | .option o =>
    if name = "display" then return some (.str o.display)
    else if name = "value" then return some (.str o.value)
    else return none
  | .handler function kind =>
    if name = "handler" then return some function
    else if name = "type" then return some (.int kind.number)
    else return none
  | .file path source =>
    if name = "path" then return some (.str path)
    else if name = "readall" then
      let file ← Eval.newNative (.file path source)
      return some (.builtin (← Eval.newIdentity) ⟨"readall", some file, .readFile path source⟩)
    else return none
  | .message _ fields => return fields.lookup name

/-- The names of the attributes that a host value lists. -/
def attributeNames : Native Value → List String
  | .widget w => w.fields.map Prod.fst
  | .root _ => ["child", "delay", "max_age", "show_full_animation"]
  | .schema .. => ["fields", "handlers", "version"]
  | .field .. => ["default", "desc", "handler", "icon", "id", "name"]
  | .option _ => ["display", "value"]
  | .handler .. => []
  | .file .. => ["path", "readall"]
  | .message _ fields => fields.map Prod.fst

end Native

namespace Value

/-- The method of a value with a given name. -/
def method? (value : Value) (name : String) : Option Action :=
  match value with
  | str _ => (StringMethod.members.find? (·.name = name)).map .stringMethod
  | list _ => (ListMethod.members.find? (·.name = name)).map .listMethod
  | dict _ => (DictMethod.members.find? (·.name = name)).map .dictMethod
  | _ => Option.none

/-- The names of a value's methods. -/
def methodNames : Value → List String
  | str _ => StringMethod.members.map StringMethod.name
  | list _ => ListMethod.members.map ListMethod.name
  | dict _ => DictMethod.members.map DictMethod.name
  | _ => []

/-- The attribute of a value, if it has one with the name. -/
def attribute? (object : Value) (name : String) : Eval (Option Value) := do
  match object with
  | struct fields => return fields.lookup name
  | module _ _ members => return members.lookup name
  | native _ n => n.attribute? name
  | other =>
    match other.method? name with
    | some action => return some (.builtin (← Eval.newIdentity) ⟨name, some other, action⟩)
    | Option.none => return Option.none

/-- Reports that a value lacks an attribute. -/
def refuseAttribute {α : Type} (object : Value) (name : String) : Eval α :=
  Eval.fail s!"{object.typeName} has no .{name} field or method"

/-- What stands behind a dot. -/
def member (object : Value) (name : String) : Eval Value := do
  match ← object.attribute? name with
  | some value => return value
  | Option.none => object.refuseAttribute name

/-- The names that a value lists, in ascending order. -/
def attributeNames (object : Value) : List String :=
  let names := match object with
    | struct fields => fields.map Prod.fst
    | module _ _ members => members.map Prod.fst
    | native _ n => n.attributeNames
    | other => other.methodNames
  names.mergeSort fun a b => decide (a ≤ b)

end Value

end PixelApplet
