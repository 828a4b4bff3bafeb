import PixelApplet.Library.Assertions
import PixelApplet.Library.CollectionMethods
import PixelApplet.Library.Encodings
import PixelApplet.Library.Messages
import PixelApplet.Library.Numbers
import PixelApplet.Library.Schemas
import PixelApplet.Library.Storage
import PixelApplet.Library.TextMethods
import PixelApplet.Library.Universe
import PixelApplet.Library.Widgets

/-!
# Running builtin functions
-/

namespace PixelApplet

/-- What a function of the host does with its arguments. -/
def HostFunction.run (f : HostFunction) (arguments : Arguments) : Eval Value := do
  match f with
  | .cancel => do
    let reason ← receiveOne "cancel" arguments
    let reason ← Eval.readHeap reason.text
    modify fun m =>
      match m.hostToken with
      | some token => m.cancelToken token reason
      | none => m
    return .none
  | .panic => do
    let message ← receiveOne "boom" arguments
    throw (.panic (← Eval.readHeap message.text))

/-- What a builtin function does with its arguments; `call` calls a value. -/
def Builtin.run (call : Value → Arguments → Eval Value) (b : Builtin Value)
    (arguments : Arguments) : Eval Value :=
  match b.action with
  | .universal f => Universe.run call f arguments
  | .stringMethod m =>
    match b.receiver with
    | some (.str text) => TextMethods.run m text arguments
    | _ => pure .none
  | .listMethod m =>
    match b.receiver with
    | some (.list ref) => ListMethods.run m ref arguments
    | _ => pure .none
  | .dictMethod m =>
    match b.receiver with
    | some (.dict ref) => DictMethods.run m ref arguments
    | _ => pure .none
  | .render f => Widgets.run f arguments
  | .schema f => Schemas.run f arguments
  | .assert f => Assertions.run call f arguments
  | .cache f => Caching.run f arguments
  | .decrypt => Secrets.decrypt arguments
  | .json f => Documents.run f arguments
  | .base64 f => Base64.run f arguments
  | .proto f => Messages.run f arguments
  | .buildMessage typeName fields => Messages.build typeName fields arguments
  | .math f => Mathematics.run f arguments
  | .random f => Chance.run f arguments
  | .pattern f => Patterns.run f arguments
  | .readFile path source => Native.readAll path source arguments
  | .host f => f.run arguments

end PixelApplet
