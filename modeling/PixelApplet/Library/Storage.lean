import PixelApplet.Library.Received
import PixelApplet.Text.Utf8

/-!
# The cache, secrets and files for scripts
-/

namespace PixelApplet

namespace Caching

/-- The number of seconds for which an entry is kept unless a script says otherwise. -/
def defaultSeconds : Int64 :=
  60

/-- The last second that the clock can show. -/
def lastSecond : Nat :=
  9223372036854775807

/-- What a function does with its arguments. -/
def run (f : CacheFunction) (arguments : Arguments) : Eval Value := do
  match f with
  | .set => do
    let r ← receive "set" [.needed "key", .needed "value", .optional "ttl_seconds"] arguments
    let key ← r.text "key"
    let value ← r.text "value"
    let seconds := ((← r.int? "ttl_seconds").getD defaultSeconds).toInt
    if seconds < 0 then Eval.fail "set: ttl_seconds must not be negative"
    let expires := (← Eval.read Machine.clock) + seconds.toNat
    if expires > lastSecond then throw (.panic "overflow when adding duration to instant")
    modify fun m => { m with cache := m.cache.set m.thread.name key value expires }
    return .none
  | .get => do
    let r ← receive "get" [.needed "key"] arguments
    let key ← r.text "key"
    match ← Eval.read fun m => m.cache.get? m.thread.name key m.clock with
    | some value => return .str value
    | none => do
      modify fun m => { m with cache := m.cache.erase m.thread.name key }
      return .none

end Caching

namespace Secrets

/-- The key under which a thread keeps its decrypter. -/
def key : String :=
  "secret.decrypter"

/-- Opens a sealed text for the running thread; without a decrypter the result is `None`. -/
def decrypt (arguments : Arguments) : Eval Value := do
  let r ← receive "decrypt" [.needed "value"] arguments
  let sealedText ← r.text "value"
  match ← Eval.read fun m => m.thread.attached? key with
  | some (.decrypter opener) => do
    let name ← Eval.read fun m => m.thread.name
    return .str (← Eval.accept (fun reason => s!"decrypt: {reason}") (opener name sealedText))
  | _ => return .none

end Secrets

namespace Native

/-- The text of an applet's file, malformed pieces replaced. -/
def readAll (path : String) (source : FileSource) (arguments : Arguments) : Eval Value := do
  receiveNothing "readall" arguments
  let contents ← Eval.accept (fun fault => s!"readall: reading {path}: {FileFault.text fault}")
    (← Eval.read fun m => source.read m.disk path)
  return .str (Text.decodeLenient contents)

end Native

end PixelApplet
