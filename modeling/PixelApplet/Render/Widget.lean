import PixelApplet.Json.Basic
import PixelApplet.Text.Character

/-!
# Widgets

The tree of widgets that a frame shows, with their colors, fonts and alignments, and the root that
an applet's entry point returns.
-/

/-! ## Colors, fonts and alignments -/

namespace PixelApplet

/-- Whether a text is a color: three, four, six or eight hexadecimal digits, perhaps behind a number
sign. -/
def Color.isValid (color : String) : Bool :=
  let digits := match color.toList with
    | '#' :: rest => rest
    | all => all
  [3, 4, 6, 8].contains digits.length && digits.all Text.isHexDigit

/-- The fonts that text can be written in. -/
def Font.names : List String :=
  ["tb-8", "tom-thumb", "5x8", "6x10", "6x10-rounded", "6x13", "10x20", "CG-pixel-3x5-mono",
    "CG-pixel-4x5-mono", "Dina_r400-6"]

/-- The font of text that asks for none. -/
def Font.default : String :=
  "tb-8"

/-- How the widgets of a line can be aligned. -/
def Alignment.names : List String :=
  ["start", "end", "center", "space_between", "space_around", "space_evenly"]

end PixelApplet

/-! ## Widgets and roots -/

namespace PixelApplet

/-- A widget. -/
inductive Widget where
  | box (width height : Option Int64) (padding : Int64) (color : Option String)
      (child : Option Widget)
  | text (content font color : String) (offset : Int64)
  | row (children : List Widget) (mainAlign crossAlign : String) (expanded : Bool)
  | column (children : List Widget) (mainAlign crossAlign : String) (expanded : Bool)
  | stack (children : List Widget)
  | padding (child : Widget) (left top right bottom : Int64) (expanded : Bool)
      (color : Option String)
  | marquee (child : Widget) (width height offsetStart offsetEnd : Int64) (direction : String)

namespace Widget

/-- The name of a widget's constructor. -/
def kind : Widget → String
  | box .. => "Box"
  | text .. => "Text"
  | row .. => "Row"
  | column .. => "Column"
  | stack .. => "Stack"
  | padding .. => "Padding"
  | marquee .. => "Marquee"

/-- A word as a document. -/
def int (n : Int64) : Json :=
  .int n.toInt

/-- A field that is left out when it has no value. -/
def optionalField {α : Type} (name : String) (encode : α → Json) : Option α → List (String × Json)
  | some value => [(name, encode value)]
  | none => []

mutual

/-- A widget as a document. -/
def toJson : Widget → Json
  | box width height pad color child =>
    .object (("type", .string "Box")
      :: (optionalField "width" int width ++ optionalField "height" int height
        ++ ("padding", int pad) :: (optionalField "color" .string color ++ childField child)))
  | text content font color offset =>
    .object [("type", .string "Text"), ("content", .string content), ("font", .string font),
      ("color", .string color), ("offset", int offset)]
  | row children mainAlign crossAlign expanded =>
    .object [("type", .string "Row"), ("children", .array (toJsonAll children)),
      ("main_align", .string mainAlign), ("cross_align", .string crossAlign),
      ("expanded", .bool expanded)]
  | column children mainAlign crossAlign expanded =>
    .object [("type", .string "Column"), ("children", .array (toJsonAll children)),
      ("main_align", .string mainAlign), ("cross_align", .string crossAlign),
      ("expanded", .bool expanded)]
  | stack children => .object [("type", .string "Stack"), ("children", .array (toJsonAll children))]
  | padding child left top right bottom expanded color =>
    .object (("type", .string "Padding") :: ("child", child.toJson)
      :: ("pad", .array [int left, int top, int right, int bottom]) :: ("expanded", .bool expanded)
      :: optionalField "color" .string color)
  | marquee child width height offsetStart offsetEnd direction =>
    .object [("type", .string "Marquee"), ("child", child.toJson), ("width", int width),
      ("height", int height), ("offset_start", int offsetStart), ("offset_end", int offsetEnd),
      ("scroll_direction", .string direction)]

/-- Widgets as documents. -/
def toJsonAll : List Widget → List Json
  | [] => []
  | widget :: rest => widget.toJson :: toJsonAll rest

/-- The child of a widget as a field that may be left out. -/
def childField : Option Widget → List (String × Json)
  | some child => [("child", child.toJson)]
  | none => []

end

/-- The fields of a widget's document other than its type. -/
def fields (widget : Widget) : List (String × Json) :=
  match widget.toJson with
  | .object fields => fields.filter fun field => field.1 ≠ "type"
  | _ => []

end Widget

/-- What an applet's entry point returns: a widget, how long a frame is shown and for how long the
output may be kept. -/
structure RenderRoot where
  child : Widget
  delay : Int64
  maxAge : Int64
  showFullAnimation : Bool

/-- A root as a document. -/
def RenderRoot.toJson (root : RenderRoot) : Json :=
  .object [("child", root.child.toJson), ("delay", Widget.int root.delay),
    ("max_age", Widget.int root.maxAge), ("show_full_animation", .bool root.showFullAnimation)]

end PixelApplet
