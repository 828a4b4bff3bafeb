import PixelApplet.Library.Received
import PixelApplet.Pattern.Replacement

/-!
# Regular expressions for scripts
-/

namespace PixelApplet

/-- The matcher of a pattern that a script passes to a function. -/
def Eval.matcher (function pattern : String) : Eval Matcher :=
  Eval.accept (fun fault => s!"{function}: invalid pattern: {Pattern.Fault.text fault}")
    (Matcher.ofText pattern)

namespace Patterns

/-- The arguments that most functions take: the matcher and the text. -/
def receivePattern (function : String) (more : List Parameter) (arguments : Arguments) :
    Eval (Received × Matcher × String) := do
  let r ← receive function (.needed "pattern" :: .needed "text" :: more) arguments
  let pattern ← r.text "pattern"
  let text ← r.text "text"
  return (r, ← Eval.matcher function pattern, text)

/-- What a function does with its arguments. -/
def run (f : PatternFunction) (arguments : Arguments) : Eval Value := do
  match f with
  | .findall => do
    let (_, matcher, text) ← receivePattern "findall" [] arguments
    Eval.newList ((matcher.findAll text).map .str)
  | .match_ => do
    let (_, matcher, text) ← receivePattern "match" [] arguments
    Eval.newList ((matcher.groups text).map fun groups => .tuple (groups.map .str))
  | .sub => do
    let r ← receive "sub"
      [.needed "pattern", .needed "repl", .needed "text", .optional "count"] arguments
    let pattern ← r.text "pattern"
    let replacement ← r.text "repl"
    let text ← r.text "text"
    let count := ((← r.int? "count").getD 0).toInt.toNat
    let matcher ← Eval.matcher "sub" pattern
    return .str (matcher.replace replacement text (if count = 0 then none else some count))
  | .split => do
    let (r, matcher, text) ← receivePattern "split" [.optional "max_split"] arguments
    let limit := ((← r.int? "max_split").getD (-1)).toInt
    let pieces := matcher.split text (if limit < 0 then none else some limit.toNat)
    Eval.newList (pieces.map .str)

end Patterns

end PixelApplet
