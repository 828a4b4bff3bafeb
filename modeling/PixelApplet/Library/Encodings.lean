import PixelApplet.Json.Reader
import PixelApplet.Json.Value
import PixelApplet.Text.Base64
import PixelApplet.Text.Search
import PixelApplet.Text.Utf8

/-!
# Encodings for scripts

Documents as JSON, and texts in base 64.
-/

namespace PixelApplet

namespace Documents

/-- A document with every line but the first behind a text. -/
def indented (document : Json) (before indentation : String) : String :=
  match Text.lines (document.indented indentation 0).toList with
  | [] => ""
  | first :: rest =>
    "\n".intercalate (String.ofList first :: rest.map fun line => before ++ String.ofList line)

/-- The document that a script passes to a function. -/
def readDocument (function text : String) : Eval Json :=
  Eval.accept (fun e => s!"json.{function}: {Json.ReadError.text e}") (Json.parse text)

/-- What a function does with its arguments. -/
def run (f : JsonFunction) (arguments : Arguments) : Eval Value := do
  match f with
  | .encode => do
    let r ← receive "encode" [.needed "x"] arguments
    let document ← Eval.accept EncodingFault.text (← Eval.readHeap fun h => (r.value "x").toJson h)
    return .str document.compact
  | .decode => do
    let r ← receive "decode" [.needed "x"] arguments
    (← readDocument "decode" (← r.text "x")).toValue
  | .indent => do
    let r ← receive "indent"
      [.needed "str", .optional "prefix", .optional "indent"] arguments
    let text ← r.text "str"
    let before ← r.text "prefix"
    let indentation := (← r.text? "indent").getD "\t"
    let document ← readDocument "indent" text
    return .str (indented document before indentation)

end Documents

namespace Base64

/-- The encoding that a script passes to a function. -/
def receiveEncoding (function : String) (name : Option String) : Eval Encoding :=
  let name := name.getD "standard"
  Eval.require s!"{function}: unsupported encoding: {name}" (Encoding.named? name)

/-- What a function does with its arguments. -/
def run (f : Base64Function) (arguments : Arguments) : Eval Value := do
  match f with
  | .encode => do
    let r ← receive "encode" [.needed "input", .optional "encoding"] arguments
    let input ← r.text "input"
    let encoding ← receiveEncoding "encode" (← r.text? "encoding")
    return .str (encode encoding input)
  | .decode => do
    let r ← receive "decode" [.needed "input", .optional "encoding"] arguments
    let input ← r.text "input"
    let encoding ← receiveEncoding "decode" (← r.text? "encoding")
    let symbols := (Text.trimString input).toUTF8.toList
    let bytes ← Eval.accept (fun fault => s!"decode: {Fault.text fault}") (decode encoding symbols)
    return .str (← Eval.require "decode: decoded data is not valid UTF-8"
      (Text.decodeStrict? ⟨bytes.toArray⟩))

end Base64

end PixelApplet
