import PixelApplet.Library.Received
import PixelApplet.Render.Widget

/-!
# Constructors of widgets
-/

namespace PixelApplet.Widgets

/-- Refuses the argument for a parameter that should be a widget. -/
def refuseWidget {α : Type} (function parameter : String) (value : Value) : Eval α :=
  Eval.fail ((ArgumentFault.wrongType parameter value.typeName "Widget").text function)

/-- The widget that is passed for a parameter. -/
def widget (function parameter : String) (value : Value) : Eval Widget :=
  match value with
  | .native _ (.widget w) => pure w
  | other => refuseWidget function parameter other

/-- The widgets among children, counted from an index. -/
def widgets (function : String) : (index : Nat) → List Value → Eval (List Widget)
  | _, [] => pure []
  | index, item :: rest => do
    let first ← widget function s!"children[{index}]" item
    return first :: (← widgets function (index + 1) rest)

/-- The children passed to a constructor. -/
def children (r : Received) : Eval (List Widget) := do
  widgets r.function 0 (← r.items "children")

/-- A color passed to a constructor. -/
def color? (r : Received) : Eval (Option String) := do
  match ← r.text? "color" with
  | some color =>
    if Color.isValid color then return some color
    else Eval.fail s!"{r.function}: color: invalid color {Text.quote color}"
  | none => return none

/-- An alignment passed to a constructor. -/
def alignment (r : Received) (parameter : String) : Eval String := do
  let align := (← r.text? parameter).getD "start"
  if Alignment.names.contains align then return align
  else Eval.fail s!"{r.function}: {parameter}: invalid alignment {Text.quote align}"

/-- An int passed to a constructor, zero if there is none. -/
def int (r : Received) (parameter : String) : Eval Int64 := do
  return (← r.int? parameter).getD 0

/-- A truth value passed to a constructor, false if there is none. -/
def flag (r : Received) (parameter : String) : Eval Bool := do
  return (← r.bool? parameter).getD false

/-- Puts a finished widget into a value. -/
def wrap (w : Widget) : Eval Value :=
  Eval.newNative (.widget w)

/-- A root. -/
def newRoot (arguments : Arguments) : Eval Value := do
  let r ← receive "Root"
    [.needed "child", .optional "delay", .optional "max_age", .optional "show_full_animation"]
    arguments
  let child ← widget "Root" "child" (r.value "child")
  let delay ← int r "delay"
  let maxAge ← int r "max_age"
  if delay < 0 || maxAge < 0 then Eval.fail "Root: delay and max_age must not be negative"
  Eval.newNative (.root ⟨child, delay, maxAge, ← flag r "show_full_animation"⟩)

/-- A box, perhaps around a child. -/
def newBox (arguments : Arguments) : Eval Value := do
  let r ← receive "Box"
    [.optional "child", .optional "width", .optional "height", .optional "padding",
      .optional "color"]
    arguments
  let child ← match r.value "child" with
    | .none => pure none
    | value => do
      pure (some (← widget "Box" "child" value))
  let width ← r.int? "width"
  let height ← r.int? "height"
  let padding ← int r "padding"
  wrap (.box width height padding (← color? r) child)

/-- A line of text. -/
def newText (arguments : Arguments) : Eval Value := do
  let r ← receive "Text"
    [.needed "content", .optional "font", .optional "color", .optional "offset"] arguments
  let content ← r.text "content"
  let font := (← r.text? "font").getD Font.default
  if ¬ Font.names.contains font then Eval.fail s!"Text: unknown font: {font}"
  let color := (← color? r).getD "#fff"
  wrap (.text content font color (← int r "offset"))

/-- Widgets in a line. -/
def newLine (function : String) (make : List Widget → String → String → Bool → Widget)
    (arguments : Arguments) : Eval Value := do
  let r ← receive function
    [.needed "children", .optional "main_align", .optional "cross_align", .optional "expanded"]
    arguments
  let items ← children r
  let mainAlign ← alignment r "main_align"
  let crossAlign ← alignment r "cross_align"
  wrap (make items mainAlign crossAlign (← flag r "expanded"))

/-- Four words: those of a list or tuple of four ints. -/
def fourInts? : List Value → Option (Int64 × Int64 × Int64 × Int64)
  | [.int left, .int top, .int right, .int bottom] => some (left, top, right, bottom)
  | _ => none

/-- The widths of a padding on four sides. -/
def sides (value : Value) : Eval (Int64 × Int64 × Int64 × Int64) := do
  match value with
  | .none => return (0, 0, 0, 0)
  | .int n => return (n, n, n, n)
  | other =>
    Eval.require "Padding: pad must be an int or a 4-tuple of ints"
      ((← Eval.readHeap other.sequence?).bind fourInts?)

/-- Space around a widget. -/
def newPadding (arguments : Arguments) : Eval Value := do
  let r ← receive "Padding"
    [.needed "child", .optional "pad", .optional "expanded", .optional "color"] arguments
  let child ← widget "Padding" "child" (r.value "child")
  let (left, top, right, bottom) ← sides (r.value "pad")
  let expanded ← flag r "expanded"
  wrap (.padding child left top right bottom expanded (← color? r))

/-- A widget that scrolls. -/
def newMarquee (arguments : Arguments) : Eval Value := do
  let r ← receive "Marquee"
    [.needed "child", .optional "width", .optional "height", .optional "offset_start",
      .optional "offset_end", .optional "scroll_direction"] arguments
  let child ← widget "Marquee" "child" (r.value "child")
  let direction := (← r.text? "scroll_direction").getD "horizontal"
  if direction ≠ "horizontal" ∧ direction ≠ "vertical" then
    let wanted := "horizontal or vertical"
    Eval.fail s!"Marquee: scroll_direction must be {wanted}, got {Text.quote direction}"
  let width ← int r "width"
  let height ← int r "height"
  let offsetStart ← int r "offset_start"
  let offsetEnd ← int r "offset_end"
  wrap (.marquee child width height offsetStart offsetEnd direction)

/-- What a constructor makes of its arguments. -/
def run (f : RenderFunction) (arguments : Arguments) : Eval Value := do
  match f with
  | .root => newRoot arguments
  | .box => newBox arguments
  | .text => newText arguments
  | .row => newLine "Row" .row arguments
  | .column => newLine "Column" .column arguments
  | .stack => do
    let r ← receive "Stack" [.needed "children"] arguments
    wrap (.stack (← children r))
  | .padding => newPadding arguments
  | .marquee => newMarquee arguments

end PixelApplet.Widgets
