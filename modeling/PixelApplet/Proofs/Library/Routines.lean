import PixelApplet.Proofs.Evaluation.Routine

/-!
# Builtin functions are routine

Builtin functions work on the heap and on what is attached to the thread.  They neither open a call
nor nest an expression, they load nothing, and they cancel nothing.
-/

namespace PixelApplet.Eval

variable {α : Type} {function : String} {arguments : Arguments}

namespace Routine

section Receiving

variable {r : Received} {parameter : String}

@[grind ←]
theorem newNative (native : Native Value) : Routine (Eval.newNative native) := by
  unfold Eval.newNative
  grind

@[grind ←]
theorem receive {parameters : List Parameter} :
    Routine (PixelApplet.receive function parameters arguments) := by
  unfold PixelApplet.receive
  grind

@[grind ←]
theorem receiveBetween {low high : Nat} :
    Routine (PixelApplet.receiveBetween function low high arguments) := by
  unfold PixelApplet.receiveBetween
  grind

@[grind ←]
theorem receiveOne : Routine (PixelApplet.receiveOne function arguments) := by
  unfold PixelApplet.receiveOne
  grind

@[grind ←]
theorem receiveNothing : Routine (PixelApplet.receiveNothing function arguments) := by
  unfold PixelApplet.receiveNothing
  grind

@[grind ←]
theorem text? : Routine (r.text? parameter) := by
  unfold Received.text?
  grind

@[grind ←]
theorem text : Routine (r.text parameter) := by
  unfold Received.text
  grind

@[grind ←]
theorem int? : Routine (r.int? parameter) := by
  unfold Received.int?
  grind

@[grind ←]
theorem bool? : Routine (r.bool? parameter) := by
  unfold Received.bool?
  grind

@[grind ←]
theorem items : Routine (r.items parameter) := by
  unfold Received.items
  grind

end Receiving

section Heap

@[grind ←]
theorem operate {f : Heap → Value.Outcome α} : Routine (Eval.operate f) := by
  unfold Eval.operate
  grind

@[grind ←]
theorem produce {f : Heap → Value.Outcome Made} : Routine (Eval.produce f) := by
  unfold Eval.produce Eval.make
  grind

@[grind ←]
theorem iterate {value : Value} : Routine (Eval.iterate value) :=
  operate

@[grind ←]
theorem keyFor {value : Value} : Routine (Eval.keyFor value) := by
  unfold Eval.keyFor
  grind

@[grind ←]
theorem storeInDict {ref : DictRef} {key value : Value} :
    Routine (Eval.storeInDict ref key value) := by
  unfold Eval.storeInDict
  grind

@[grind ←]
theorem assignIndex {object key value : Value} :
    Routine (Eval.assignIndex object key value) := by
  unfold Eval.assignIndex
  grind

end Heap

section Attributes

mutual

@[grind ←]
theorem toValue : (document : Json) → Routine document.toValue
  | .null | .bool _ | .int _ | .float _ | .string _ => by
    unfold Json.toValue
    grind
  | .array items => by
    unfold Json.toValue
    exact (toValues items).bind newList
  | .object fields => by
    unfold Json.toValue
    exact (toBindings fields).bind fun _ => newDict _

theorem toValues : (items : List Json) → Routine (Json.toValues items)
  | [] => pure []
  | item :: rest => by
    unfold Json.toValues
    exact (toValue item).bind fun _ => (toValues rest).bind fun _ => pure _

theorem toBindings : (fields : List (String × Json)) → Routine (Json.toBindings fields)
  | [] => pure []
  | (_, item) :: rest => by
    unfold Json.toBindings
    exact (toValue item).bind fun _ => (toBindings rest).bind fun _ => pure _

end

@[grind ←]
theorem attribute? {object : Value} {name : String} : Routine (object.attribute? name) := by
  unfold Value.attribute? Native.attribute?
  grind

@[grind ←]
theorem refuseAttribute {object : Value} {name : String} :
    Routine (object.refuseAttribute name : Eval α) :=
  fail _

@[grind ←]
theorem member {object : Value} {name : String} : Routine (object.member name) := by
  unfold Value.member
  grind

end Attributes

section TextMethods

variable {value : Value} {text : String}

@[grind ←]
theorem textArgument : Routine (TextMethods.textArgument function value) := by
  unfold TextMethods.textArgument
  grind

@[grind ←]
theorem affixes : Routine (TextMethods.affixes function value) := by
  unfold TextMethods.affixes
  grind

@[grind ←]
theorem strippedClass {given : List Value} :
    Routine (TextMethods.strippedClass function given) := by
  unfold TextMethods.strippedClass
  grind

@[grind ←]
theorem newTexts {texts : List (List Char)} : Routine (TextMethods.newTexts texts) :=
  newList _

@[grind ←]
theorem split {fromRight : Bool} :
    Routine (TextMethods.split function fromRight text arguments) := by
  unfold TextMethods.split
  grind

@[grind ←]
theorem join : Routine (TextMethods.join text arguments) := by
  unfold TextMethods.join
  grind

@[grind ←]
theorem hasAffix {matches_ : (affix text : List Char) → Bool} :
    Routine (TextMethods.hasAffix function matches_ text arguments) := by
  unfold TextMethods.hasAffix
  grind

@[grind ←]
theorem replace : Routine (TextMethods.replace text arguments) := by
  unfold TextMethods.replace
  grind

theorem stringMethod (m : StringMethod) (text : String) (arguments : Arguments) :
    Routine (TextMethods.run m text arguments) := by
  unfold TextMethods.run
  cases m <;> grind

end TextMethods

section Collections

@[grind ←]
theorem intArgument {value : Value} : Routine (ListMethods.intArgument function value) := by
  unfold ListMethods.intArgument
  grind

@[grind ←]
theorem pop {ref : ListRef} {given : List Value} : Routine (ListMethods.pop ref given) := by
  refine bind (readHeap _) fun items => ?_
  cases given with
  | nil =>
    refine bind (pure _) fun position => ?_
    exact guarded ((changeList _ _).bind fun _ => pure _)
  | cons value rest =>
    refine bind intArgument fun position => ?_
    exact guarded ((changeList _ _).bind fun _ => pure _)

theorem listMethod (m : ListMethod) (ref : ListRef) (arguments : Arguments) :
    Routine (ListMethods.run m ref arguments) := by
  unfold ListMethods.run
  cases m <;> grind

@[grind ←]
theorem storePairs {ref : DictRef} {refusal : Value → Eval String}
    (modest : ∀ pair, Routine (refusal pair)) (pairs : List Value) :
    Routine (Universe.storePairs ref refusal pairs) := by
  induction pairs with
  | nil => exact pure ()
  | cons pair rest ih =>
    unfold Universe.storePairs
    grind

@[grind ←]
theorem storeAll {ref : DictRef} (entries : List (Value × Value)) :
    Routine (Universe.storeAll ref entries) := by
  induction entries with
  | nil => exact pure ()
  | cons entry rest ih => exact storeInDict.bind fun _ => ih

@[grind ←]
theorem storeSources {ref : DictRef} {refusal : Value → Eval String}
    (modest : ∀ pair, Routine (refusal pair)) {source : Option Value}
    {named : List (String × Value)} :
    Routine (Universe.storeSources ref refusal source named) := by
  unfold Universe.storeSources
  grind

@[grind ←]
theorem stored? {ref : DictRef} {key : Value} : Routine (DictMethods.stored? ref key) := by
  unfold DictMethods.stored?
  grind

@[grind ←]
theorem remove? {ref : DictRef} {key : Value} : Routine (DictMethods.remove? ref key) := by
  unfold DictMethods.remove?
  grind

theorem dictMethod (m : DictMethod) (ref : DictRef) (arguments : Arguments) :
    Routine (DictMethods.run m ref arguments) := by
  cases m with
  | update => exact guarded ((storeSources fun _ => pure _).bind fun _ => pure _)
  | _ =>
    unfold DictMethods.run
    grind

end Collections

section Universe

@[grind ←]
theorem joined : Routine (Universe.joined function arguments) := by
  unfold Universe.joined
  grind

@[grind ←]
theorem optionalItems {given : List Value} : Routine (Universe.optionalItems given) := by
  unfold Universe.optionalItems
  grind

@[grind ←]
theorem makeDict : Routine (Universe.newDict arguments) := by
  unfold Universe.newDict
  grind

@[grind ←]
theorem range : Routine (Universe.range arguments) := by
  unfold Universe.range
  grind

@[grind ←]
theorem attributeName {value : Value} : Routine (Universe.attributeName function value) := by
  unfold Universe.attributeName
  grind

@[grind ←]
theorem toInt : Routine (Universe.toInt arguments) := by
  unfold Universe.toInt
  grind

@[grind ←]
theorem getAttribute : Routine (Universe.getAttribute arguments) := by
  unfold Universe.getAttribute
  grind

/-- The functions that do not call back. -/
theorem universal {call : Value → Arguments → Eval Value} (f : Universal)
    (returns : f ≠ .sorted ∧ f ≠ .max ∧ f ≠ .min) :
    Routine (Universe.run call f arguments) := by
  unfold Universe.run Universe.absolute Universe.enumerate Universe.toFloat Universe.hasAttribute
    Universe.length Universe.newStruct Universe.zip
  cases f <;> grind

end Universe

section Services

@[grind ←]
theorem matcher {pattern : String} : Routine (Eval.matcher function pattern) :=
  accept _ _

@[grind ←]
theorem receivePattern {more : List Parameter} :
    Routine (Patterns.receivePattern function more arguments) := by
  unfold Patterns.receivePattern
  grind

theorem patternFunction (f : PatternFunction) : Routine (Patterns.run f arguments) := by
  unfold Patterns.run
  cases f <;> grind

@[grind ←]
theorem attachGenerator {state : UInt64} : Routine (Chance.attach state) :=
  attach _ _ (by decide)

@[grind ←]
theorem generatorState : Routine Chance.state := by
  refine bind (lookAttached (by decide)) fun attached => ?_
  split
  · exact pure _
  · exact look _ (fun _ _ => rfl) (fun _ => rfl) fun _ => rfl

theorem randomFunction (f : RandomFunction) : Routine (Chance.run f arguments) := by
  unfold Chance.run
  cases f <;> grind

@[grind ←]
theorem readDocument {text : String} : Routine (Documents.readDocument function text) :=
  accept _ _

theorem jsonFunction (f : JsonFunction) : Routine (Documents.run f arguments) := by
  unfold Documents.run
  cases f <;> grind

@[grind ←]
theorem receiveEncoding {name : Option String} :
    Routine (Base64.receiveEncoding function name) :=
  require _ _

theorem base64Function (f : Base64Function) : Routine (Base64.run f arguments) := by
  unfold Base64.run
  cases f <;> grind

@[grind ←]
theorem number {value : Value} : Routine (Mathematics.number function value) :=
  require _ _

@[grind ←]
theorem unary {f : Float → Float} : Routine (Mathematics.unary function f arguments) := by
  unfold Mathematics.unary
  grind

@[grind ←]
theorem rounding {f : Float → Float} :
    Routine (Mathematics.rounding function f arguments) := by
  unfold Mathematics.rounding
  grind

@[grind ←]
theorem logarithm : Routine (Mathematics.logarithm arguments) := by
  unfold Mathematics.logarithm
  grind

theorem mathFunction (f : MathFunction) : Routine (Mathematics.run f arguments) := by
  unfold Mathematics.run
  cases f <;> grind

theorem decrypt : Routine (Secrets.decrypt arguments) := by
  refine bind receive fun r => bind text fun sealedText => ?_
  refine bind (lookAttached (by decide)) fun attached => ?_
  split
  · refine bind (look _ (fun _ _ => rfl) (fun _ => rfl) fun _ => rfl) fun name => ?_
    exact bind (accept _ _) fun _ => pure _
  · exact pure _

theorem readAll {path : String} {source : FileSource} :
    Routine (Native.readAll path source arguments) :=
  bind receiveNothing fun _ => bind (look _ (fun _ _ => rfl) (fun _ => rfl) fun _ => rfl) fun _ =>
    bind (accept _ _) fun _ => pure _

theorem cached : Routine (Caching.run .get arguments) := by
  refine bind receive fun r => bind text fun key => bind (remember _) fun found => ?_
  split
  · exact pure _
  · exact bind (forget _) fun _ => pure _

end Services

section Messages

@[grind ←]
theorem unset {field : Descriptor.Field} : Routine (Messages.unset field) := by
  unfold Messages.unset
  grind

@[grind ←]
theorem unsetAll (fields : List Descriptor.Field) (values : Bindings Value) :
    Routine (Messages.unsetAll fields values) := by
  induction fields generalizing values with
  | nil => exact pure values
  | cons field rest ih => exact unset.bind fun _ => ih _

@[grind ←]
theorem fieldValue? {field : Descriptor.Field} {value : Value} :
    Routine (Messages.fieldValue? field value) := by
  unfold Messages.fieldValue?
  grind

@[grind ←]
theorem setFields {typeName : String} {fields : List Descriptor.Field}
    (chosen : List (String × String)) (named : List (String × Value)) (values : Bindings Value) :
    Routine (Messages.setFields typeName fields chosen named values) := by
  induction named generalizing chosen values with
  | nil => exact pure values
  | cons entry rest ih =>
    unfold Messages.setFields
    dsimp only
    split
    · exact fail _
    · split
      · grind
      · split <;> grind

theorem buildMessage {typeName : String} {fields : List Descriptor.Field} :
    Routine (Messages.build typeName fields arguments) := by
  unfold Messages.build
  grind

/-- Reading the disk and the registry is all that registering files does with the machine. -/
theorem registerFiles : Routine (Messages.run .registerFiles arguments) := by
  have registering (names : List String) : Routine (do
      let registry ← Eval.accept Descriptor.Fault.text
        (← Eval.read fun m => Messages.register m.disk names m.registry)
      MonadState.modifyGet fun m => ((), { m with registry := registry })
      return Value.none) :=
    bind (look _ (fun _ _ => rfl) (fun _ => rfl) fun _ => rfl) fun _ =>
      bind (accept _ _) fun _ => bind (register _) fun _ => pure _
  exact bind (accept _ _) registering

theorem protoFunction (f : ProtoFunction) : Routine (Messages.run f arguments) := by
  cases f with
  | registerFiles => exact registerFiles
  | hasMessage =>
    exact bind receive fun r => bind text fun name =>
      look _ (fun _ _ => rfl) (fun _ => rfl) fun _ => rfl
  | new =>
    refine bind receive fun r => bind text fun name =>
      bind (look _ (fun _ _ => rfl) (fun _ => rfl) fun _ => rfl) fun fields => ?_
    grind

end Messages

section Widgets

variable {r : Received}

@[grind ←]
theorem widget {parameter : String} {value : Value} :
    Routine (Widgets.widget function parameter value) := by
  unfold Widgets.widget Widgets.refuseWidget
  grind

@[grind ←]
theorem widgets (index : Nat) (items : List Value) :
    Routine (Widgets.widgets function index items) := by
  induction items generalizing index with
  | nil => exact pure []
  | cons item rest ih => exact widget.bind fun _ => (ih _).bind fun _ => pure _

@[grind ←]
theorem children : Routine (Widgets.children r) := by
  unfold Widgets.children
  grind

@[grind ←]
theorem color? : Routine (Widgets.color? r) := by
  unfold Widgets.color?
  grind

@[grind ←]
theorem alignment {parameter : String} : Routine (Widgets.alignment r parameter) := by
  unfold Widgets.alignment
  grind

@[grind ←]
theorem wordArgument {parameter : String} : Routine (Widgets.int r parameter) := by
  unfold Widgets.int
  grind

@[grind ←]
theorem flag {parameter : String} : Routine (Widgets.flag r parameter) := by
  unfold Widgets.flag
  grind

@[grind ←]
theorem wrapWidget {w : Widget} : Routine (Widgets.wrap w) :=
  newNative _

@[grind ←]
theorem sides {value : Value} : Routine (Widgets.sides value) := by
  unfold Widgets.sides
  grind

@[grind ←]
theorem newBox : Routine (Widgets.newBox arguments) := by
  refine bind receive fun r => ?_
  have finish (child : Option Widget) : Routine (do
      let width ← r.int? "width"
      let height ← r.int? "height"
      let padding ← Widgets.int r "padding"
      Widgets.wrap (.box width height padding (← Widgets.color? r) child)) := by
    grind
  dsimp only
  split
  · exact bind (pure _) finish
  · exact bind widget fun w => finish (some w)

@[grind ←]
theorem newMarquee : Routine (Widgets.newMarquee arguments) := by
  refine bind receive fun r => bind widget fun child => bind text? fun direction => ?_
  refine guarded ?_
  grind

theorem renderFunction (f : RenderFunction) : Routine (Widgets.run f arguments) := by
  unfold Widgets.run Widgets.newRoot Widgets.newText Widgets.newLine Widgets.newPadding
  cases f <;> grind

end Widgets

section Schemas

@[grind ←]
theorem handlerFunction {slot : Slot} :
    Routine (Schemas.handlerFunction function slot) := by
  unfold Schemas.handlerFunction
  grind

@[grind ←]
theorem receiveField {kind : String} {more : List Parameter} :
    Routine (Schemas.receiveField function kind more arguments) := by
  unfold Schemas.receiveField
  grind

@[grind ←]
theorem wrapField {maker : String} {field : SchemaField}
    {handler : Option (Value × HandlerKind)} : Routine (Schemas.wrap maker field handler) :=
  newNative _

@[grind ←]
theorem newHandlerField {kind : String} {returns : HandlerKind} :
    Routine (Schemas.newHandlerField function kind returns arguments) := by
  unfold Schemas.newHandlerField
  grind

@[grind ←]
theorem choices (index : Nat) (options : List Value) :
    Routine (Schemas.choices index options) := by
  induction options generalizing index with
  | nil => exact pure []
  | cons option rest ih =>
    unfold Schemas.choices
    grind

@[grind ←]
theorem palette (colors : List Value) : Routine (Schemas.palette colors) := by
  induction colors with
  | nil => exact pure []
  | cons color rest ih =>
    unfold Schemas.palette
    grind

theorem schemaFunction (f : SchemaFunction) : Routine (Schemas.run f arguments) := by
  unfold Schemas.run Schemas.newSchema Schemas.newDropdown Schemas.newColor Schemas.newGenerated
    Schemas.newAccount Schemas.newHandler
  cases f <;> grind

end Schemas

section Assertions

@[grind ←]
theorem reportWith {custom : Slot} {message : String} :
    Routine (Assertions.reportWith custom message) := by
  unfold Assertions.reportWith
  grind

@[grind ←]
theorem compareTwo {first second between : String} {holds : Value → Value → Eval Bool}
    (modest : ∀ a b, Routine (holds a b)) :
    Routine (Assertions.compareTwo function first second between arguments holds) := by
  unfold Assertions.compareTwo
  grind

end Assertions

end Routine

end PixelApplet.Eval
