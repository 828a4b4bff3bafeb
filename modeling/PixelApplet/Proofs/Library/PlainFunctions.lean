import PixelApplet.Library.Encodings
import PixelApplet.Library.Numbers
import PixelApplet.Library.Patterns
import PixelApplet.Library.Storage
import PixelApplet.Library.TextMethods
import PixelApplet.Library.Widgets
import PixelApplet.Proofs.Library.Collections

/-!
# Functions on texts, numbers and widgets are safe

These functions only read their arguments; what they make refers to nothing that was there before.
-/

namespace PixelApplet.Eval.Safe

variable {E : Effect} {extent : Extent} {arguments : Arguments}

theorem yieldsBool (b : Bool) : Yields E (Pure.pure (.bool b)) extent :=
  yields (Value.live_bool b)

theorem yieldsInt (i : Int64) : Yields E (Pure.pure (.int i)) extent :=
  yields (Value.live_int i)

theorem yieldsFloat (x : Float) : Yields E (Pure.pure (.float x)) extent :=
  yields (Value.live_float x)

theorem yieldsText (s : String) : Yields E (Pure.pure (.str s)) extent :=
  yields (Value.live_str s)

theorem yieldsNone : Yields E (Pure.pure .none) extent :=
  yields Value.live_none

/-- A list of new texts. -/
theorem newTextList {α : Type} (texts : List α) (text : α → String) :
    Yields .data (Eval.newList (texts.map fun t => .str (text t))) extent := by
  refine newList fun v member => ?_
  obtain ⟨t, _, rfl⟩ := List.mem_map.mp member
  exact Value.live_str _

section Texts

variable {function : String}

theorem textArgument {value : Value} :
    Runs E (TextMethods.textArgument function value) extent := by
  unfold TextMethods.textArgument
  split
  · exact returns
  · exact fail _

theorem affixes {value : Value} : Runs E (TextMethods.affixes function value) extent := by
  unfold TextMethods.affixes
  split
  · exact returns
  · refine (mapM (fun _ _ => trivial) fun item _ => ?_).runs
    split
    · exact returns
    · exact fail _
  · exact fail _

theorem strippedClass {given : List Value} :
    Runs E (TextMethods.strippedClass function given) extent := by
  unfold TextMethods.strippedClass
  split
  · exact returns
  · exact returns
  · exact andThen textArgument fun _ => returns

theorem hasAffix {holds : List Char → List Char → Bool} {text : String} :
    Yields E (TextMethods.hasAffix function holds text arguments) extent :=
  andThen receivesOne fun _ => andThen affixes fun _ => yieldsBool _

theorem split {fromRight : Bool} {text : String} :
    Yields .data (TextMethods.split function fromRight text arguments) extent :=
  andThen receives fun r => andThen (text? r _) fun _ => andThen (int? r _) fun _ =>
    guarded (newTextList _ _)

theorem join {separator : String} :
    Yields E (TextMethods.join separator arguments) extent := by
  refine andThen receivesOne fun value => andThen operates fun items => ?_
  refine andThen (mapM (fun _ _ => trivial) fun item _ => ?_).runs fun parts => yieldsText _
  split
  · exact returns
  · exact fail _

theorem replace {text : String} : Yields E (TextMethods.replace text arguments) extent := by
  refine andThen receivesBetween fun given => ?_
  split
  · exact andThen textArgument fun _ => andThen textArgument fun _ => yieldsText _
  · exact yieldsNone

theorem live_positionOrMinusOne (found : Option Nat) :
    (TextMethods.positionOrMinusOne found).Live extent := by
  cases found with
  | none => exact Value.live_int _
  | some i => exact Value.live_int _

theorem stringMethod (m : StringMethod) (text : String) :
    Yields .data (TextMethods.run m text arguments) extent := by
  cases m with
  | capitalize => exact andThen receiveNothing fun _ => yieldsText _
  | count => exact andThen receivesOne fun _ => andThen textArgument fun _ => yieldsInt _
  | endswith => exact hasAffix
  | find =>
    exact andThen receivesOne fun _ => andThen textArgument fun _ =>
      yields (live_positionOrMinusOne _)
  | format => exact andThen readsHeap fun _ => andThen accepts fun _ => yieldsText _
  | index =>
    refine andThen receivesOne fun _ => andThen textArgument fun piece => ?_
    split
    · exact yieldsInt _
    · exact fail _
  | isalnum => exact andThen receiveNothing fun _ => yieldsBool _
  | isalpha => exact andThen receiveNothing fun _ => yieldsBool _
  | isdigit => exact andThen receiveNothing fun _ => yieldsBool _
  | islower => exact andThen receiveNothing fun _ => yieldsBool _
  | isspace => exact andThen receiveNothing fun _ => yieldsBool _
  | isupper => exact andThen receiveNothing fun _ => yieldsBool _
  | join => exact join
  | lower => exact andThen receiveNothing fun _ => yieldsText _
  | lstrip => exact andThen receivesBetween fun _ => andThen strippedClass fun _ => yieldsText _
  | removeStart => exact andThen receivesOne fun _ => andThen textArgument fun _ => yieldsText _
  | removeEnd => exact andThen receivesOne fun _ => andThen textArgument fun _ => yieldsText _
  | replace => exact replace
  | rfind =>
    exact andThen receivesOne fun _ => andThen textArgument fun _ =>
      yields (live_positionOrMinusOne _)
  | rsplit => exact split
  | rstrip => exact andThen receivesBetween fun _ => andThen strippedClass fun _ => yieldsText _
  | split => exact split
  | splitlines => exact andThen receivesBetween fun _ => newTextList _ _
  | startswith => exact hasAffix
  | strip => exact andThen receivesBetween fun _ => andThen strippedClass fun _ => yieldsText _
  | title => exact andThen receiveNothing fun _ => yieldsText _
  | upper => exact andThen receiveNothing fun _ => yieldsText _

end Texts

section Numbers

variable {function : String}

theorem number {value : Value} : Runs E (Mathematics.number function value) extent :=
  requires

theorem unary {f : Float → Float} :
    Yields E (Mathematics.unary function f arguments) extent :=
  andThen receivesOne fun _ => andThen number fun _ => yieldsFloat _

theorem rounding {f : Float → Float} :
    Yields E (Mathematics.rounding function f arguments) extent := by
  refine andThen receivesOne fun value => ?_
  split
  · exact yieldsInt _
  · refine andThen number fun x => ?_
    dsimp only
    split
    · exact fail _
    · exact yieldsInt _

theorem logarithm : Yields E (Mathematics.logarithm arguments) extent := by
  refine andThen receivesBetween fun given => andThen number fun x => guarded ?_
  split
  · exact andThen number fun _ => yieldsFloat _
  · exact yieldsFloat _

theorem mathFunction (f : MathFunction) : Yields E (Mathematics.run f arguments) extent := by
  cases f with
  | ceil => exact rounding
  | floor => exact rounding
  | round => exact rounding
  | fabs => exact unary
  | exp => exact unary
  | sin => exact unary
  | cos => exact unary
  | tan => exact unary
  | atan => exact unary
  | degrees => exact unary
  | radians => exact unary
  | log => exact logarithm
  | pow =>
    refine andThen receivesBetween fun given => ?_
    split
    · exact andThen number fun _ => andThen number fun _ => yieldsFloat _
    · exact yieldsNone
  | sqrt => exact andThen receivesOne fun _ => andThen number fun _ => guarded (yieldsFloat _)

theorem chanceState : Runs E Chance.state extent := by
  refine andThen reads fun attached => ?_
  split
  · exact returns
  · exact reads

theorem randomFunction (f : RandomFunction) : Yields E (Chance.run f arguments) extent := by
  cases f with
  | number =>
    refine andThen receivesBetween fun given => ?_
    split
    · split
      · exact fail _
      · refine andThen chanceState fun state => ?_
        exact andThen (changeThread _) fun _ => yieldsInt _
    · exact fail _
  | seed =>
    refine andThen receivesOne fun value => ?_
    split
    · exact andThen (changeThread _) fun _ => yieldsNone
    · exact fail _

end Numbers

section Encodings

theorem matcher {function pattern : String} : Runs E (Eval.matcher function pattern) extent :=
  accepts

theorem receivePattern {function : String} {more : List Parameter} :
    Runs E (Patterns.receivePattern function more arguments) extent :=
  andThen receives fun r => andThen (text r _) fun _ => andThen (text r _) fun _ =>
    andThen matcher fun _ => returns

theorem patternFunction (f : PatternFunction) :
    Yields .data (Patterns.run f arguments) extent := by
  cases f with
  | findall => exact andThen receivePattern fun _ => newTextList _ id
  | match_ =>
    refine andThen receivePattern fun received => newList fun v member => ?_
    obtain ⟨groups, _, rfl⟩ := List.mem_map.mp member
    refine Value.live_tuple.mpr fun part inside => ?_
    obtain ⟨text, _, rfl⟩ := List.mem_map.mp inside
    exact Value.live_str text
  | sub =>
    exact andThen receives fun r => andThen (text r _) fun _ => andThen (text r _) fun _ =>
      andThen (text r _) fun _ => andThen (int? r _) fun _ => andThen matcher fun _ =>
        yieldsText _
  | split =>
    exact andThen receivePattern fun received => andThen (int? received.1 _) fun _ =>
      newTextList _ id

theorem jsonFunction (f : JsonFunction) : Yields .data (Documents.run f arguments) extent := by
  cases f with
  | encode =>
    exact andThen receives fun r => andThen readsHeap fun _ => andThen accepts fun _ =>
      yieldsText _
  | decode =>
    exact andThen receives fun r => andThen (text r _) fun _ => andThen accepts fun _ =>
      toValue _
  | indent =>
    exact andThen receives fun r => andThen (text r _) fun _ => andThen (text r _) fun _ =>
      andThen (text? r _) fun _ => andThen accepts fun _ => yieldsText _

theorem base64Function (f : Base64Function) : Yields E (Base64.run f arguments) extent := by
  cases f with
  | encode =>
    exact andThen receives fun r => andThen (text r _) fun _ => andThen (text? r _) fun _ =>
      andThen requires fun _ => yieldsText _
  | decode =>
    exact andThen receives fun r => andThen (text r _) fun _ => andThen (text? r _) fun _ =>
      andThen requires fun _ => andThen accepts fun _ => andThen requires fun _ => yieldsText _

theorem cacheFunction (f : CacheFunction) : Yields E (Caching.run f arguments) extent := by
  cases f with
  | set =>
    refine andThen receives fun r => andThen (text r _) fun key => andThen (text r _) fun value =>
      andThen (int? r _) fun seconds => guarded (andThen reads fun clock => ?_)
    dsimp only
    split
    · exact andThen (throw _) fun _ =>
        andThen (modify fun _ => ⟨rfl, rfl, rfl, rfl⟩) fun _ => yieldsNone
    · exact andThen (modify fun _ => ⟨rfl, rfl, rfl, rfl⟩) fun _ => yieldsNone
  | get =>
    refine andThen receives fun r => andThen (text r _) fun key => andThen reads fun found => ?_
    split
    · exact yieldsText _
    · exact andThen (modify fun _ => ⟨rfl, rfl, rfl, rfl⟩) fun _ => yieldsNone

theorem decrypt : Yields E (Secrets.decrypt arguments) extent := by
  refine andThen receives fun r => andThen (text r _) fun _ => andThen reads fun attached => ?_
  split
  · exact andThen reads fun _ => andThen accepts fun _ => yieldsText _
  · exact yieldsNone

theorem readAll {path : String} {source : FileSource} :
    Yields E (Native.readAll path source arguments) extent :=
  andThen receiveNothing fun _ => andThen reads fun _ => andThen accepts fun _ => yieldsText _

end Encodings

section Widgets

variable {function parameter : String} (r : Received)

theorem widget {value : Value} : Runs E (Widgets.widget function parameter value) extent := by
  unfold Widgets.widget
  split
  · exact returns
  · exact fail _

theorem widgets (index : Nat) (children : List Value) :
    Runs E (Widgets.widgets function index children) extent := by
  induction children generalizing index with
  | nil => exact returns
  | cons child rest ih => exact andThen widget fun _ => andThen (ih _) fun _ => returns

theorem itemsRun : Runs E (r.items parameter) extent := by
  unfold Received.items
  split
  · exact returns
  · exact returns
  · refine andThen readsHeap fun found => ?_
    split
    · exact returns
    · exact fail _

theorem children : Runs E (Widgets.children r) extent :=
  andThen (itemsRun r) fun _ => widgets _ _

theorem color? : Runs E (Widgets.color? r) extent := by
  refine andThen (text? r _) fun text => ?_
  split
  · split
    · exact returns
    · exact fail _
  · exact returns

theorem alignment : Runs E (Widgets.alignment r parameter) extent := by
  refine andThen (text? r _) fun text => ?_
  dsimp only
  split
  · exact returns
  · exact fail _

theorem int : Runs E (Widgets.int r parameter) extent :=
  andThen (int? r _) fun _ => returns

theorem flag : Runs E (Widgets.flag r parameter) extent :=
  andThen (bool? r _) fun _ => returns

theorem wrapWidget (w : Widget) : Yields .data (Widgets.wrap w) extent :=
  newNative nofun

theorem newRoot : Yields .data (Widgets.newRoot arguments) extent :=
  andThen receives fun r => andThen widget fun _ => andThen (int r) fun _ =>
    andThen (int r) fun _ => guarded (andThen (flag r) fun _ => newNative nofun)

theorem newBox : Yields .data (Widgets.newBox arguments) extent := by
  refine andThen receives fun r => ?_
  have rest (child : Option Widget) : Yields .data (do
      let width ← r.int? "width"
      let height ← r.int? "height"
      let padding ← Widgets.int r "padding"
      Widgets.wrap (.box width height padding (← Widgets.color? r) child)) extent :=
    andThen (int? r _) fun _ => andThen (int? r _) fun _ => andThen (int r) fun _ =>
      andThen (color? r) fun _ => wrapWidget _
  split
  · exact rest none
  · exact andThen widget fun child => rest (some child)

theorem newText : Yields .data (Widgets.newText arguments) extent :=
  andThen receives fun r => andThen (text r _) fun _ => andThen (text? r _) fun _ =>
    guarded (andThen (color? r) fun _ => andThen (int r) fun _ => wrapWidget _)

theorem newLine {make : List Widget → String → String → Bool → Widget} :
    Yields .data (Widgets.newLine function make arguments) extent :=
  andThen receives fun r => andThen (children r) fun _ => andThen (alignment r) fun _ =>
    andThen (alignment r) fun _ => andThen (flag r) fun _ => wrapWidget _

theorem sides {value : Value} : Runs E (Widgets.sides value) extent := by
  unfold Widgets.sides
  split
  · exact returns
  · exact returns
  · exact andThen readsHeap fun _ => requires

theorem newPadding : Yields .data (Widgets.newPadding arguments) extent :=
  andThen receives fun r => andThen widget fun _ => andThen sides fun _ =>
    andThen (flag r) fun _ => andThen (color? r) fun _ => wrapWidget _

theorem newMarquee : Yields .data (Widgets.newMarquee arguments) extent :=
  andThen receives fun r => andThen widget fun _ => andThen (text? r _) fun _ =>
    guarded (andThen (int r) fun _ => andThen (int r) fun _ => andThen (int r) fun _ =>
      andThen (int r) fun _ => wrapWidget _)

theorem renderFunction (f : RenderFunction) : Yields .data (Widgets.run f arguments) extent := by
  cases f with
  | root => exact newRoot
  | box => exact newBox
  | text => exact newText
  | row => exact newLine
  | column => exact newLine
  | stack => exact andThen receives fun r => andThen (children r) fun _ => wrapWidget _
  | padding => exact newPadding
  | marquee => exact newMarquee

end Widgets

end PixelApplet.Eval.Safe
