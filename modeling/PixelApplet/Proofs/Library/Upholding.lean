import PixelApplet.Library.Dispatch
import PixelApplet.Proofs.Evaluation.Upholding
import PixelApplet.Proofs.Library.Attributes
import PixelApplet.Proofs.Library.Collections
import PixelApplet.Proofs.Library.Dispatch
import PixelApplet.Proofs.Library.Routines

/-!
# Builtin functions uphold realms

What builtin functions hand out they were given, took out of cells of the realm, or made themselves;
what they make is made as it should be: the keys of dicts and the names in structs are different,
and a field of a schema names the function behind it.
-/

namespace PixelApplet.Eval.Upholds

open PixelApplet.Realm

variable {α : Type} {R : Realm} {sparing : Prop} {function : String} {arguments : Arguments}

section Reading

variable {r : Received} {parameter : String}

@[grind ←]
theorem text? : Keeps R (r.text? parameter) sparing := by
  unfold Received.text?
  grind

@[grind ←]
theorem text : Keeps R (r.text parameter) sparing := by
  unfold Received.text
  grind

@[grind ←]
theorem int? : Keeps R (r.int? parameter) sparing := by
  unfold Received.int?
  grind

@[grind ←]
theorem bool? : Keeps R (r.bool? parameter) sparing := by
  unfold Received.bool?
  grind

@[grind ←]
theorem receiveNothing (belong : arguments.All (Value.Belongs R)) :
    Keeps R (PixelApplet.receiveNothing function arguments) sparing := by
  unfold PixelApplet.receiveNothing
  grind

end Reading

section TextMethods

variable {value : Value} {text : String}

@[grind ←]
theorem textArgument : Keeps R (TextMethods.textArgument function value) sparing := by
  unfold TextMethods.textArgument
  grind

@[grind ←]
theorem affixes : Keeps R (TextMethods.affixes function value) sparing := by
  unfold TextMethods.affixes
  grind

@[grind ←]
theorem strippedClass {given : List Value} :
    Keeps R (TextMethods.strippedClass function given) sparing := by
  unfold TextMethods.strippedClass
  grind

@[grind ←]
theorem newTexts {texts : List (List Char)} : Keeps R (TextMethods.newTexts texts) sparing := by
  unfold TextMethods.newTexts
  grind

@[grind ←]
theorem split {fromRight : Bool} (belong : arguments.All (Value.Belongs R)) :
    Keeps R (TextMethods.split function fromRight text arguments) sparing := by
  unfold TextMethods.split
  grind

@[grind ←]
theorem join (belong : arguments.All (Value.Belongs R)) :
    Keeps R (TextMethods.join text arguments) sparing := by
  refine (receiveOne belong).bind fun value has => (iterate has).bind fun items _ => ?_
  exact bind (mapM fun item _ => by grind) fun parts _ => pure (Value.belongs_str _)

@[grind ←]
theorem hasAffix {matches_ : (affix text : List Char) → Bool}
    (belong : arguments.All (Value.Belongs R)) :
    Keeps R (TextMethods.hasAffix function matches_ text arguments) sparing := by
  unfold TextMethods.hasAffix
  grind

@[grind ←]
theorem replace (belong : arguments.All (Value.Belongs R)) :
    Keeps R (TextMethods.replace text arguments) sparing := by
  unfold TextMethods.replace
  grind

theorem stringMethod (m : StringMethod) (text : String) (belong : arguments.All (Value.Belongs R)) :
    Keeps R (TextMethods.run m text arguments) sparing := by
  unfold TextMethods.run TextMethods.positionOrMinusOne
  cases m <;> grind

end TextMethods

section Services

@[grind ←]
theorem number {value : Value} : Keeps R (Mathematics.number function value) sparing := by
  unfold Mathematics.number
  grind

@[grind ←]
theorem unary {f : Float → Float} (belong : arguments.All (Value.Belongs R)) :
    Keeps R (Mathematics.unary function f arguments) sparing := by
  unfold Mathematics.unary
  grind

@[grind ←]
theorem rounding {f : Float → Float} (belong : arguments.All (Value.Belongs R)) :
    Keeps R (Mathematics.rounding function f arguments) sparing := by
  unfold Mathematics.rounding
  grind

@[grind ←]
theorem logarithm (belong : arguments.All (Value.Belongs R)) :
    Keeps R (Mathematics.logarithm arguments) sparing := by
  unfold Mathematics.logarithm
  refine (receiveBetween belong).bind fun given _ => number.bind fun x _ => guarded ?_
  split <;> grind

theorem mathFunction (f : MathFunction) (belong : arguments.All (Value.Belongs R)) :
    Keeps R (Mathematics.run f arguments) sparing := by
  unfold Mathematics.run
  cases f <;> grind

@[grind ←]
theorem attachGenerator {state : UInt64} : Keeps R (Chance.attach state) sparing :=
  changeThread _

@[grind ←]
theorem generatorState : Keeps R Chance.state sparing := by
  unfold Chance.state
  grind

theorem randomFunction (f : RandomFunction) (belong : arguments.All (Value.Belongs R)) :
    Keeps R (Chance.run f arguments) sparing := by
  unfold Chance.run
  cases f <;> grind

@[grind ←]
theorem matcher {pattern : String} : Keeps R (Eval.matcher function pattern) sparing := by
  unfold Eval.matcher
  grind

@[grind ←]
theorem receivePattern {more : List Parameter} (belong : arguments.All (Value.Belongs R)) :
    Keeps R (Patterns.receivePattern function more arguments) sparing := by
  unfold Patterns.receivePattern
  grind

theorem patternFunction (f : PatternFunction) (belong : arguments.All (Value.Belongs R)) :
    Keeps R (Patterns.run f arguments) sparing := by
  cases f with
  | match_ =>
    refine (receivePattern belong).bind fun received _ => newList fun v member => ?_
    obtain ⟨groups, _, rfl⟩ := List.mem_map.mp member
    refine Value.belongs_tuple.mpr fun part inside => ?_
    obtain ⟨text, _, rfl⟩ := List.mem_map.mp inside
    exact Value.belongs_str text
  | findall =>
    refine (receivePattern belong).bind fun received _ => newList fun v member => ?_
    obtain ⟨text, _, rfl⟩ := List.mem_map.mp member
    exact Value.belongs_str text
  | sub =>
    exact (receive belong).bind fun r _ => text.bind fun _ _ => text.bind fun _ _ =>
      text.bind fun _ _ => int?.bind fun _ _ => matcher.bind fun _ _ => pure (Value.belongs_str _)
  | split =>
    refine (receivePattern belong).bind fun received _ => int?.bind fun limit _ => newList ?_
    intro v member
    obtain ⟨piece, _, rfl⟩ := List.mem_map.mp member
    exact Value.belongs_str piece

@[grind ←]
theorem receiveEncoding {name : Option String} :
    Keeps R (Base64.receiveEncoding function name) sparing := by
  unfold Base64.receiveEncoding
  grind

theorem base64Function (f : Base64Function) (belong : arguments.All (Value.Belongs R)) :
    Keeps R (Base64.run f arguments) sparing := by
  cases f with
  | encode =>
    unfold Base64.run
    grind
  | decode =>
    refine (receive belong).bind fun r _ => text.bind fun _ _ => text?.bind fun _ _ => ?_
    exact receiveEncoding.bind fun _ _ => andThen accepts fun _ => andThen requires fun _ =>
      pure (Value.belongs_str _)

theorem cacheFunction (f : CacheFunction) (belong : arguments.All (Value.Belongs R)) :
    Keeps R (Caching.run f arguments) sparing := by
  have changes {change : Machine → CacheStore} :
      Keeps R ((MonadState.modifyGet fun m => ((), { m with cache := change m }) : Eval Unit)
        >>= fun _ => Pure.pure Value.none) sparing := by
    refine Upholds.bind (modify fun m => ?_) fun _ _ => pure Value.belongs_none
    exact ⟨rfl, rfl⟩
  cases f with
  | set =>
    refine (receive belong).bind fun r _ => text.bind fun key _ => text.bind fun value _ =>
      int?.bind fun seconds _ => guarded (reading fun m _ => ?_)
    dsimp only
    split
    · exact andThen (throw _) fun _ => changes
    · exact changes
  | get =>
    refine (receive belong).bind fun r _ => text.bind fun key _ => reading fun m _ => ?_
    split
    · exact pure (Value.belongs_str _)
    · exact changes

theorem decrypt (belong : arguments.All (Value.Belongs R)) :
    Keeps R (Secrets.decrypt arguments) sparing := by
  refine (receive belong).bind fun r _ => text.bind fun sealedText _ => reading fun m _ => ?_
  split
  · exact reading fun _ _ => andThen accepts fun _ => pure (Value.belongs_str _)
  · exact pure Value.belongs_none

theorem readAll {path : String} {source : FileSource} (belong : arguments.All (Value.Belongs R)) :
    Keeps R (Native.readAll path source arguments) sparing := by
  unfold Native.readAll
  grind

end Services

section Widgets

variable {r : Received}

@[grind ←]
theorem widget {parameter : String} {value : Value} :
    Keeps R (Widgets.widget function parameter value) sparing := by
  unfold Widgets.widget Widgets.refuseWidget
  grind

@[grind ←]
theorem widgets (index : Nat) (items : List Value) :
    Keeps R (Widgets.widgets function index items) sparing := by
  induction items generalizing index with
  | nil => exact pure nofun
  | cons item rest ih => exact widget.bind fun _ _ => (ih _).bind fun _ _ => pure (by simp)

@[grind ←]
theorem children : R.Has r → Keeps R (Widgets.children r) sparing := by
  unfold Widgets.children
  grind [items]

@[grind ←]
theorem color? : Keeps R (Widgets.color? r) sparing := by
  unfold Widgets.color?
  grind

@[grind ←]
theorem alignment {parameter : String} : Keeps R (Widgets.alignment r parameter) sparing := by
  unfold Widgets.alignment
  grind

@[grind ←]
theorem wordArgument {parameter : String} : Keeps R (Widgets.int r parameter) sparing := by
  unfold Widgets.int
  grind

@[grind ←]
theorem flag {parameter : String} : Keeps R (Widgets.flag r parameter) sparing := by
  unfold Widgets.flag
  grind

@[grind ←]
theorem wrapWidget {w : Widget} : Keeps R (Widgets.wrap w) sparing :=
  newNative trivial nofun

@[grind ←]
theorem sides {value : Value} : Keeps R (Widgets.sides value) sparing := by
  unfold Widgets.sides
  split
  · exact pure (by simp)
  · exact pure (by simp)
  · exact readingHeap fun _ _ => requireWith fun _ _ => by simp

theorem newBox (belong : arguments.All (Value.Belongs R)) :
    Keeps R (Widgets.newBox arguments) sparing := by
  refine (receive belong).bind fun r _ => ?_
  have finish (child : Option Widget) : Keeps R (do
      let width ← r.int? "width"
      let height ← r.int? "height"
      let padding ← Widgets.int r "padding"
      Widgets.wrap (.box width height padding (← Widgets.color? r) child)) sparing := by
    grind
  split
  · exact finish none
  · exact widget.bind fun child _ => finish (some child)

theorem newRoot (belong : arguments.All (Value.Belongs R)) :
    Keeps R (Widgets.newRoot arguments) sparing :=
  (receive belong).bind fun _ _ => widget.bind fun _ _ => wordArgument.bind fun _ _ =>
    wordArgument.bind fun _ _ => guarded (flag.bind fun _ _ => newNative trivial nofun)

theorem newMarquee (belong : arguments.All (Value.Belongs R)) :
    Keeps R (Widgets.newMarquee arguments) sparing :=
  (receive belong).bind fun _ _ => widget.bind fun _ _ => text?.bind fun _ _ =>
    guarded (wordArgument.bind fun _ _ => wordArgument.bind fun _ _ => wordArgument.bind fun _ _ =>
      wordArgument.bind fun _ _ => wrapWidget)

theorem renderFunction (f : RenderFunction) (belong : arguments.All (Value.Belongs R)) :
    Keeps R (Widgets.run f arguments) sparing := by
  cases f with
  | root => exact newRoot belong
  | box => exact newBox belong
  | marquee => exact newMarquee belong
  | _ =>
    unfold Widgets.run Widgets.newText Widgets.newLine Widgets.newPadding
    grind

end Widgets

section Collections

@[grind ←]
theorem intArgument {value : Value} : Keeps R (ListMethods.intArgument function value) sparing := by
  unfold ListMethods.intArgument
  grind

theorem erased {ref : ListRef} {i : Nat} (inside : R.lists ref) :
    Keeps R (Eval.changeList ref fun items => items.eraseIdxIfInBounds i) sparing := by
  refine changeList inside fun items belong v member => ?_
  rw [Array.toList_eraseIdxIfInBounds] at member
  exact belong v (List.mem_of_mem_eraseIdx member)

theorem listPop {ref : ListRef} (inside : R.lists ref) (given : List Value) :
    Keeps R (ListMethods.pop ref given) sparing := by
  refine readingHeap fun h guards => ?_
  have rest (position : Int) : Keeps R (do
      let length : Int := (h.list ref).items.size
      let place := if position < 0 then position + length else position
      if place < 0 ∨ place ≥ length then
        Eval.fail s!"pop: index {position} out of range: length {length}"
      Eval.changeList ref fun items => items.eraseIdxIfInBounds place.toNat
      return (h.list ref).items.getD place.toNat .none) sparing :=
    guarded ((erased inside).bind fun _ _ =>
      pure (guards.spreads.listGetD (Value.belongs_list.mpr inside) _))
  split
  · exact rest _
  · exact intArgument.bind fun position _ => rest position

theorem listMethod (m : ListMethod) {ref : ListRef} (inside : R.lists ref)
    (belong : arguments.All (Value.Belongs R)) :
    Keeps R (ListMethods.run m ref arguments) sparing := by
  cases m with
  | append =>
    refine (receiveOne belong).bind fun item belongs => ?_
    refine (changeList inside fun items old => ?_).bind fun _ _ => pure Value.belongs_none
    rw [Array.toList_push]
    exact List.forall_mem_append.mpr ⟨old, List.forall_mem_singleton.mpr belongs⟩
  | clear =>
    refine (receiveNothing belong).bind fun _ _ => ?_
    exact (changeList inside fun _ _ => List.forall_mem_nil _).bind fun _ _ =>
      pure Value.belongs_none
  | extend =>
    refine (receiveOne belong).bind fun given belongs => (iterate belongs).bind fun more new => ?_
    refine (changeList inside fun items old => ?_).bind fun _ _ => pure Value.belongs_none
    rw [Array.toList_append]
    exact List.forall_mem_append.mpr ⟨old, new⟩
  | index =>
    refine (receiveOne belong).bind fun wanted _ => readingHeap fun h _ => ?_
    split
    · exact pure (Value.belongs_int _)
    · exact readingHeap fun _ _ => fail _
  | insert =>
    refine (receiveBetween belong).bind fun given belongs => ?_
    split
    · refine intArgument.bind fun place _ => ?_
      refine (changeList inside fun items old v member => ?_).bind fun _ _ =>
        pure Value.belongs_none
      rcases Safe.mem_insertedAt member with rfl | stays
      · exact belongs v (.tail _ (.head _))
      · exact old v stays
    · exact pure Value.belongs_none
  | pop => exact (receiveBetween belong).bind fun given _ => listPop inside given
  | remove =>
    refine (receiveOne belong).bind fun target _ => readingHeap fun h _ => ?_
    split
    · exact (erased inside).bind fun _ _ => pure Value.belongs_none
    · exact readingHeap fun _ _ => fail _

variable {ref : DictRef}

theorem storeAll (inside : R.dicts ref) {pairs : List (Value × Value)}
    (belong : ∀ pair ∈ pairs, pair.1.Belongs R ∧ pair.2.Belongs R) :
    Keeps R (Universe.storeAll ref pairs) sparing := by
  induction pairs with
  | nil => exact pure trivial
  | cons pair rest ih =>
    have here := belong pair (.head _)
    exact (storeInDict inside here.1 here.2).bind fun _ _ => ih fun other member =>
      belong other (.tail _ member)

theorem storePairs (inside : R.dicts ref) {refusal : Value → Eval String}
    (refuses : ∀ pair, Keeps R (refusal pair) sparing) {pairs : List Value}
    (belong : ∀ v ∈ pairs, v.Belongs R) :
    Keeps R (Universe.storePairs ref refusal pairs) sparing := by
  induction pairs with
  | nil => exact pure trivial
  | cons pair rest ih =>
    refine readingHeap fun h guards => ?_
    split
    · rename_i key value found
      have here := guards.spreads.sequence (belong pair (.head _)) found
      exact (storeInDict inside (here key (.head _)) (here value (.tail _ (.head _)))).bind
        fun _ _ => ih fun other member => belong other (.tail _ member)
    · exact (refuses pair).bind fun _ _ => fail _

theorem storeSources (inside : R.dicts ref) {refusal : Value → Eval String}
    (refuses : ∀ pair, Keeps R (refusal pair) sparing)
    {source : Option Value} {named : List (String × Value)}
    (belongs : Slot.All (Value.Belongs R) source) (belong : ∀ entry ∈ named, entry.2.Belongs R) :
    Keeps R (Universe.storeSources ref refusal source named) sparing := by
  have storesNamed :
      Keeps R (Universe.storeAll ref (named.map fun entry => (.str entry.1, entry.2))) sparing := by
    refine storeAll inside fun pair member => ?_
    obtain ⟨entry, present, rfl⟩ := List.mem_map.mp member
    exact ⟨Value.belongs_str _, belong entry present⟩
  unfold Universe.storeSources
  split
  · exact storesNamed
  · rename_i other
    refine readingHeap fun h guards => ?_
    have present : R.dicts other := Value.belongs_dict.mp (belongs _ rfl)
    exact (storeAll inside (guards.dicts other present).all.pairs).bind fun _ _ => storesNamed
  · exact (iterate (belongs _ rfl)).bind fun _ items =>
      (storePairs inside refuses items).bind fun _ _ => storesNamed

theorem head?_belongs {values : List Value} (belong : ∀ v ∈ values, v.Belongs R) :
    Slot.All (Value.Belongs R) values.head? :=
  fun v first => belong v (List.mem_of_mem_head? (Option.mem_def.mpr first))

theorem headD_belongs {values : List Value} (belong : ∀ v ∈ values, v.Belongs R) :
    (values.headD .none).Belongs R := by
  cases values with
  | nil => exact Value.belongs_none
  | cons v _ => exact belong v (.head _)

@[grind ←]
theorem stored? {key : Value} (inside : R.dicts ref) :
    Keeps R (DictMethods.stored? ref key) sparing := by
  refine keyFor.bindWith fun hash _ => readHeapWith fun h guards => ?_
  rintro v found
  obtain ⟨entry, finds, rfl⟩ := Option.map_eq_some_iff.mp found
  exact (guards.dicts ref inside).all.find? finds

@[grind ←]
theorem remove? {key : Value} (inside : R.dicts ref) :
    Keeps R (DictMethods.remove? ref key) sparing := by
  refine (stored? inside).bind fun found belongs => keyFor.bindWith fun hash _ => ?_
  refine (changeDict inside fun cell keeps => ?_).bind fun _ _ => pure belongs
  split
  · exact keeps.eraseAt _
  · exact keeps

theorem dictMethod (m : DictMethod) (inside : R.dicts ref)
    (belong : arguments.All (Value.Belongs R)) :
    Keeps R (DictMethods.run m ref arguments) sparing := by
  cases m with
  | clear =>
    refine (receiveNothing belong).bind fun _ _ => ?_
    refine (changeDict inside fun _ _ => ?_).bind fun _ _ => pure Value.belongs_none
    exact ⟨List.forall_mem_nil _, nofun, List.Pairwise.nil⟩
  | items =>
    refine (receiveNothing belong).bind fun _ _ => readingHeap fun h guards => ?_
    refine newList fun v member => ?_
    obtain ⟨pair, present, rfl⟩ := List.mem_map.mp member
    have here := (guards.dicts ref inside).all.pairs pair present
    simp [here]
  | keys =>
    exact (receiveNothing belong).bind fun _ _ => readingHeap fun h guards =>
      newList (guards.dicts ref inside).all.keys
  | values =>
    exact (receiveNothing belong).bind fun _ _ => readingHeap fun h guards =>
      newList (guards.dicts ref inside).all.values
  | update =>
    refine guarded (Upholds.bind ?_ fun _ _ => pure Value.belongs_none)
    exact storeSources inside (fun _ => pure trivial) (head?_belongs belong.positional) belong.named
  | get =>
    refine (receiveBetween belong).bind fun given has => ?_
    split
    · refine (stored? inside).bind fun found belongs => pure ?_
      cases found with
      | some v => exact belongs v rfl
      | none => exact headD_belongs fun v member => has v (.tail _ member)
    · exact pure Value.belongs_none
  | pop =>
    refine (receiveBetween belong).bind fun given has => ?_
    split
    · refine (remove? inside).bind fun found belongs => ?_
      split
      · exact pure (belongs _ rfl)
      · exact pure (has _ (.tail _ (.head _)))
      · exact readingHeap fun _ _ => fail _
    · exact pure Value.belongs_none
  | setdefault =>
    refine (receiveBetween belong).bind fun given has => ?_
    split
    · rename_i key rest
      refine (stored? inside).bind fun found belongs => ?_
      split
      · exact pure (belongs _ rfl)
      · have default := headD_belongs fun v member => has v (.tail _ member)
        exact (storeInDict inside (has key (.head _)) default).bind fun _ _ => pure default
    · exact pure Value.belongs_none

end Collections

section Documents

theorem belongs_wordOrFloat (n : Int) : (Json.wordOrFloat n).Belongs R := by
  unfold Json.wordOrFloat
  split
  · exact Value.belongs_int _
  · exact Value.belongs_float _

mutual

theorem toValue : (document : Json) → Keeps R document.toValue sparing
  | .null => pure Value.belongs_none
  | .bool b => pure (Value.belongs_bool b)
  | .int n => pure (belongs_wordOrFloat n)
  | .float x => pure (Value.belongs_float x)
  | .string s => pure (Value.belongs_str s)
  | .array items => by
    rw [Json.toValue]
    exact (toValues items).bind fun _ belong => newList belong
  | .object fields => by
    rw [Json.toValue]
    exact (toBindings fields).bind fun _ belong =>
      newDict (DictCell.belongs_ofBindings fun binding member => (belong binding member).2)

theorem toValues : (items : List Json) → Keeps R (Json.toValues items) sparing
  | [] => pure nofun
  | item :: rest => by
    rw [Json.toValues]
    exact (toValue item).bind fun _ belongs => (toValues rest).bind fun _ belong =>
      pure (List.forall_mem_cons.mpr ⟨belongs, belong⟩)

theorem toBindings : (fields : List (String × Json)) → Keeps R (Json.toBindings fields) sparing
  | [] => pure nofun
  | (_, item) :: rest => by
    rw [Json.toBindings]
    exact (toValue item).bind fun _ belongs => (toBindings rest).bind fun _ belong =>
      pure (List.forall_mem_cons.mpr ⟨⟨trivial, belongs⟩, belong⟩)

end

theorem jsonFunction (f : JsonFunction) (belong : arguments.All (Value.Belongs R)) :
    Keeps R (Documents.run f arguments) sparing := by
  cases f with
  | encode =>
    exact (receive belong).bind fun _ _ => readingHeap fun _ _ => andThen accepts fun _ =>
      pure (Value.belongs_str _)
  | decode =>
    exact (receive belong).bind fun _ _ => text.bind fun _ _ => andThen accepts fun _ => toValue _
  | indent =>
    exact (receive belong).bind fun _ _ => text.bind fun _ _ => text.bind fun _ _ =>
      text?.bind fun _ _ => andThen accepts fun _ => pure (Value.belongs_str _)

end Documents

section Attributes

theorem given {v : Value} (belongs : v.Belongs R) :
    Keeps R (Pure.pure (some v) : Eval (Option Value)) sparing :=
  pure (has_some.mpr belongs)

theorem nothing : Keeps R (Pure.pure none : Eval (Option Value)) sparing :=
  pure has_none

theorem nativeAttribute? {n : Native Value} (name : String) (made : n.WellMade)
    (belong : ∀ v ∈ n.values, v.Belongs R) : Keeps R (n.attribute? name) sparing := by
  unfold Native.attribute?
  split
  · split
    · exact (toValue _).bind fun _ belongs => given belongs
    · exact nothing
  · repeat' split
    · exact given (Value.belongs_int _)
    · exact given (Value.belongs_int _)
    · exact given (Value.belongs_bool _)
    · refine Upholds.bind (newNative ?_ ?_) fun _ belongs => given belongs
      · trivial
      · exact nofun
    · exact nothing
  · repeat' split
    · exact given (Value.belongs_str _)
    · exact (newList fun v member => belong v (List.mem_append_left _ member)).bind
        fun _ belongs => given belongs
    · exact (newList fun v member => belong v (List.mem_append_right _ member)).bind
        fun _ belongs => given belongs
    · exact nothing
  · rename_i f backing
    repeat' split
    · exact given (Value.belongs_str _)
    · exact given (Value.belongs_str _)
    · exact given (Value.belongs_str _)
    · exact given (Value.belongs_str _)
    · refine given ?_
      cases f.default with
      | none => exact Value.belongs_none
      | some text => exact Value.belongs_str text
    · exact pure fun v shown => belong v (Option.mem_toList.mpr shown)
    · exact nothing
  · repeat' split
    · exact given (Value.belongs_str _)
    · exact given (Value.belongs_str _)
    · exact nothing
  · repeat' split
    · exact given (belong _ (.head _))
    · exact given (Value.belongs_int _)
    · exact nothing
  · repeat' split
    · exact given (Value.belongs_str _)
    · refine Upholds.bind (newNative ?_ ?_) fun file belongs => newIdentity.bind fun _ _ => ?_
      · trivial
      · exact nofun
      · refine given (Value.belongs_builtin.mpr ?_)
        rintro _ ⟨⟩
        exact belongs
    · exact nothing
  · exact pure fun v found => belong v (List.mem_map_of_mem (Bindings.mem_of_lookup found))

theorem attribute? {object : Value} (belongs : object.Belongs R) (name : String) :
    Keeps R (object.attribute? name) sparing := by
  unfold Value.attribute?
  split
  · rename_i fields
    exact pure fun v found => belongs.inside v (List.mem_map_of_mem (Bindings.mem_of_lookup found))
  · exact pure fun v found => belongs.inside v (List.mem_map_of_mem (Bindings.mem_of_lookup found))
  · have parts := Value.belongs_native.mp belongs
    exact nativeAttribute? name parts.1 parts.2
  · split
    · refine newIdentity.bind fun _ _ => given (Value.belongs_builtin.mpr ?_)
      rintro _ ⟨⟩
      exact belongs
    · exact nothing

theorem member {object : Value} (belongs : object.Belongs R) (name : String) :
    Keeps R (object.member name) sparing := by
  refine (attribute? belongs name).bind fun found has => ?_
  split
  · exact pure (has _ rfl)
  · exact fail _

end Attributes

section Universe

theorem joined : Keeps R (Universe.joined function arguments) sparing := by
  unfold Universe.joined
  dsimp only
  cases arguments.named.find? fun entry => entry.1 ≠ "sep" with
  | some unexpected =>
    split
    · exact fail _
    · exact fail _
    · exact andThen (fail _) fun _ => fail _
  | none =>
    have joins (separator : String) : Keeps R (Eval.readHeap fun h =>
        separator.intercalate (arguments.positional.map (Value.text h))) sparing :=
      readHeapWith fun _ _ => trivial
    split
    · exact joins _
    · exact joins _
    · exact andThen (fail _) fun _ => joins _

theorem length (value : Value) : Keeps R (Universe.length value) sparing := by
  unfold Universe.length
  grind

theorem toInt (belong : arguments.All (Value.Belongs R)) :
    Keeps R (Universe.toInt arguments) sparing := by
  refine (receive belong).bind fun r _ => int?.bind fun base _ => ?_
  split
  · exact pure (Value.belongs_int _)
  · split <;> grind
  · split
    · exact fail _
    · split <;> grind

theorem toFloat (belong : arguments.All (Value.Belongs R)) :
    Keeps R (Universe.toFloat arguments) sparing := by
  refine (receiveBetween belong).bind fun given _ => ?_
  split <;> grind

theorem optionalItems {given : List Value} (belong : ∀ v ∈ given, v.Belongs R) :
    Keeps R (Universe.optionalItems given) sparing := by
  cases given with
  | nil => exact pure nofun
  | cons v _ => exact iterate (belong v (.head _))

theorem universalDict (belong : arguments.All (Value.Belongs R)) :
    Keeps R (Universe.newDict arguments) sparing := by
  refine guarded (readingHeap fun h guards => ?_)
  refine (newDict DictCell.belongs_empty).bind fun dict belongs => ?_
  have inside : R.dicts h.nextDict := guards.newDicts _ (Nat.le_refl _)
  exact (storeSources inside (fun _ => readHeapWith fun _ _ => trivial)
    (head?_belongs belong.positional) belong.named).bind fun _ _ => pure belongs

theorem range (belong : arguments.All (Value.Belongs R)) :
    Keeps R (Universe.range arguments) sparing := by
  refine (receiveBetween belong).bind fun given _ => ?_
  refine bind (mapM fun v _ => by grind) fun ints _ => ?_
  refine guarded (guarded (newList fun v member => ?_))
  obtain ⟨k, _, rfl⟩ := List.mem_map.mp member
  exact Value.belongs_int _

theorem newStruct (belong : arguments.All (Value.Belongs R)) :
    Keeps R (Universe.newStruct arguments) sparing := by
  have all : Bindings.Belong R (Bindings.insertAll arguments.named []) :=
    Bindings.Belong.insertAll belong.named nofun
  exact guarded (pure (Value.belongs_struct.mpr ⟨Bindings.nodup_insertAll List.nodup_nil, all⟩))

theorem belong_numbered (start : Int) {items : List Value} (belong : ∀ v ∈ items, v.Belongs R) :
    ∀ v ∈ Universe.numbered start items, v.Belongs R := by
  induction items generalizing start with
  | nil => exact nofun
  | cons item rest ih =>
    obtain ⟨belongs, later⟩ := List.forall_mem_cons.mp belong
    exact List.forall_mem_cons.mpr ⟨by simp [belongs], ih _ later⟩

theorem enumerate (belong : arguments.All (Value.Belongs R)) :
    Keeps R (Universe.enumerate arguments) sparing :=
  (receive belong).bind fun _ has => int?.bind fun _ _ =>
    (iterate (value_belongs has _)).bind fun _ items => newList (belong_numbered _ items)

theorem belong_rows (count : Nat) {columns : List (List Value)}
    (belong : ∀ column ∈ columns, ∀ v ∈ column, v.Belongs R) :
    ∀ v ∈ Universe.rows count columns, v.Belongs R := by
  induction count generalizing columns with
  | zero => exact nofun
  | succ count ih =>
    refine List.forall_mem_cons.mpr ⟨Value.belongs_tuple.mpr ?_, ih ?_⟩
    · intro v inside
      obtain ⟨column, present, rfl⟩ := List.mem_map.mp inside
      exact headD_belongs (belong column present)
    · intro tail present
      obtain ⟨column, inside, rfl⟩ := List.mem_map.mp present
      exact fun v below => belong column inside v (List.mem_of_mem_tail below)

theorem zip (belong : arguments.All (Value.Belongs R)) :
    Keeps R (Universe.zip arguments) sparing := by
  have receives :
      Keeps R (Eval.accept (ArgumentFault.text "zip") arguments.positionalOnly) sparing :=
    acceptWith fun _ made => belong.positionalOnly made
  refine receives.bind fun given has => ?_
  exact (mapM fun v member => iterate (has v member)).bind fun _ columns =>
    newList (belong_rows _ columns)

theorem absolute (value : Value) : Keeps R (Universe.absolute value) sparing := by
  unfold Universe.absolute
  grind

theorem attributeName {value : Value} :
    Keeps R (Universe.attributeName function value) sparing := by
  unfold Universe.attributeName
  grind

theorem hasAttribute (belong : arguments.All (Value.Belongs R)) :
    Keeps R (Universe.hasAttribute arguments) sparing := by
  refine (receiveBetween belong).bind fun given has => ?_
  split
  · exact attributeName.bind fun name _ => (attribute? (has _ (.head _)) name).bind fun _ _ =>
      pure (Value.belongs_bool _)
  · exact pure Value.belongs_none

theorem getAttribute (belong : arguments.All (Value.Belongs R)) :
    Keeps R (Universe.getAttribute arguments) sparing := by
  refine (receiveBetween belong).bind fun given has => ?_
  split
  · refine attributeName.bind fun name _ => ?_
    refine (attribute? (has _ (.head _)) name).bind fun found finds => ?_
    split
    · exact pure (finds _ rfl)
    · exact fail _
    · exact pure (has _ (.tail _ (.tail _ (.head _))))
  · exact pure Value.belongs_none

end Universe

section Calling

/-- Two ways of calling values of the realm uphold it alike. -/
def Calls (R : Realm) (call other : Value → Arguments → Eval Value) (sparing : Prop := False) :
    Prop :=
  ∀ {callee : Value} {arguments : Arguments}, callee.Belongs R → arguments.All (Value.Belongs R) →
    Upholds R (call callee arguments) (other callee arguments) R.Has sparing

variable {call other : Value → Arguments → Eval Value}

theorem keyed (calls :
    Calls R call other sparing) {key : Slot} (belongs : Slot.All (Value.Belongs R) key)
    {items : List Value} (belong : ∀ v ∈ items, v.Belongs R) :
    Upholds R (Universe.keyed call key items) (Universe.keyed other key items) R.Has sparing := by
  induction items with
  | nil => exact pure nofun
  | cons item rest ih =>
    obtain ⟨here, later⟩ := List.forall_mem_cons.mp belong
    have going (k : Value) : Upholds R (do return ⟨k, item⟩ :: (← Universe.keyed call key rest))
        (do return ⟨k, item⟩ :: (← Universe.keyed other key rest)) R.Has sparing :=
      (ih later).bind fun entries has => pure (List.forall_mem_cons.mpr ⟨here, has⟩)
    unfold Universe.keyed
    split
    · exact going _
    · exact going _
    · refine (calls (belongs _ rfl) (Arguments.all_ofList ?_)).bind fun k _ => going k
      exact List.forall_mem_singleton.mpr here

theorem sorted (calls : Calls R call other sparing) (belong : arguments.All (Value.Belongs R)) :
    Upholds R (Universe.sorted call arguments) (Universe.sorted other arguments) R.Has sparing := by
  refine (receive belong).bind fun r has => ?_
  refine (iterate (value_belongs has _)).bind fun items belong => ?_
  refine readingHeap fun h _ => (keyed calls (slot_belongs has _) belong).bind fun entries keep => ?_
  refine readingHeap fun h' _ => ?_
  have orders : Keeps R (Eval.accept Value.Incomparable.text (Sorting.sort h' entries)) sparing :=
    acceptWith fun ordered made entry member => keep entry (Sorting.mem_of_mem_sort made member)
  refine orders.bind fun ordered keep' => newList fun v member => ?_
  have back : v ∈ ordered.map Sorting.Keyed.item := by
    split at member
    · exact List.mem_reverse.mp member
    · exact member
  obtain ⟨entry, present, rfl⟩ := List.mem_map.mp back
  exact keep' entry present

/-- The choice among elements. -/
theorem extremeOf (function : String) (wanted : Ordering) (calls :
    Calls R call other sparing) {key : Slot}
    (belongs : Slot.All (Value.Belongs R) key) {items : List Value}
    (belong : ∀ v ∈ items, v.Belongs R) :
    Upholds R
      (do
        let entries ← Universe.keyed call key items
        let found ← Eval.accept Value.Incomparable.text
          (← Eval.readHeap fun h => Sorting.extreme h wanted entries)
        match found with
        | some item => return item
        | none => Eval.fail s!"{function}: empty sequence")
      (do
        let entries ← Universe.keyed other key items
        let found ← Eval.accept Value.Incomparable.text
          (← Eval.readHeap fun h => Sorting.extreme h wanted entries)
        match found with
        | some item => return item
        | none => Eval.fail s!"{function}: empty sequence") R.Has sparing := by
  refine (keyed calls belongs belong).bind fun entries keep => readingHeap fun h _ => ?_
  have finds : Keeps R
      (Eval.accept Value.Incomparable.text (Sorting.extreme h wanted entries)) sparing := by
    refine acceptWith ?_
    rintro _ made v rfl
    obtain ⟨entry, present, rfl⟩ := Sorting.mem_of_extreme made
    exact keep entry present
  refine finds.bind fun found has => ?_
  split
  · exact pure (has _ rfl)
  · exact fail _

theorem extreme (calls : Calls R call other sparing) {wanted : Ordering}
    (belong : arguments.All (Value.Belongs R)) :
    Upholds R (Universe.extreme call function wanted arguments)
      (Universe.extreme other function wanted arguments) R.Has sparing := by
  have key : Slot.All (Value.Belongs R) (arguments.named.lookup "key") :=
    fun v passed => belong.named _ (Bindings.mem_of_lookup passed)
  have positional := belong.positional
  unfold Universe.extreme
  dsimp only
  generalize arguments.positional = given at positional ⊢
  rcases given with _ | ⟨single, _ | ⟨second, rest⟩⟩
  · have refuses : Upholds R (Eval.fail s!"{function}: need at least one argument" : Eval (List Value))
        (Eval.fail s!"{function}: need at least one argument") R.Has sparing := fail _
    have among := refuses.bind fun _ items => extremeOf function wanted calls key items
    split
    · exact andThen (fail _) fun _ => among
    · exact among
  · have among := (iterate (positional single (.head _))).bind fun _ items =>
      extremeOf function wanted calls key items
    split
    · exact andThen (fail _) fun _ => among
    · exact among
  · have among := extremeOf function wanted calls key positional
    split
    · exact andThen (fail _) fun _ => among
    · exact among

theorem universal (calls : Calls R call other sparing) (f : Universal)
    (belong : arguments.All (Value.Belongs R)) :
    Upholds R (Universe.run call f arguments) (Universe.run other f arguments) R.Has sparing := by
  cases f with
  | abs => exact (receiveOne belong).bind fun _ _ => absolute _
  | all =>
    exact (receiveOne belong).bind fun _ has => (iterate has).bind fun _ _ =>
      readHeapWith fun _ _ => Value.belongs_bool _
  | any =>
    exact (receiveOne belong).bind fun _ has => (iterate has).bind fun _ _ =>
      readHeapWith fun _ _ => Value.belongs_bool _
  | bool => exact (receiveBetween belong).bind fun _ _ => readHeapWith fun _ _ => Value.belongs_bool _
  | dict => exact universalDict belong
  | dir =>
    refine (receiveOne belong).bind fun object _ => newList fun v member => ?_
    obtain ⟨name, _, rfl⟩ := List.mem_map.mp member
    exact Value.belongs_str name
  | enumerate => exact enumerate belong
  | fail => exact joined.bind fun _ _ => fail _
  | float => exact toFloat belong
  | getattr => exact getAttribute belong
  | hasattr => exact hasAttribute belong
  | int => exact toInt belong
  | len => exact (receiveOne belong).bind fun _ _ => length _
  | list =>
    exact (receiveBetween belong).bind fun _ has => (optionalItems has).bind fun _ items =>
      newList items
  | max => exact extreme calls belong
  | min => exact extreme calls belong
  | print => exact joined.bind fun _ _ => (print _).bind fun _ _ => pure Value.belongs_none
  | range => exact range belong
  | repr => exact (receiveOne belong).bind fun _ _ => readHeapWith fun _ _ => Value.belongs_str _
  | reversed =>
    exact (receiveOne belong).bind fun _ has => (iterate has).bind fun _ items =>
      newList fun v member => items v (List.mem_reverse.mp member)
  | sorted => exact sorted calls belong
  | str => exact (receiveOne belong).bind fun _ _ => readHeapWith fun _ _ => Value.belongs_str _
  | struct => exact newStruct belong
  | tuple =>
    exact (receiveBetween belong).bind fun _ has => (optionalItems has).bind fun _ items =>
      pure (Value.belongs_tuple.mpr items)
  | type => exact (receiveOne belong).bind fun _ _ => pure (Value.belongs_str _)
  | zip => exact zip belong

end Calling

section Messages

theorem unset (field : Descriptor.Field) : Keeps R (Messages.unset field) sparing := by
  unfold Messages.unset
  split
  · exact newList nofun
  · split <;> first | exact newDict DictCell.belongs_empty | grind

theorem unsetAll (fields : List Descriptor.Field) {values : Bindings Value}
    (belong : values.Belong R) :
    Upholds R (Messages.unsetAll fields values) (Messages.unsetAll fields values)
      (Bindings.Belong R) sparing := by
  induction fields generalizing values with
  | nil => exact pure belong
  | cons field rest ih => exact (unset field).bind fun value belongs => ih (belong.insert belongs)

theorem fieldValue? {field : Descriptor.Field} {value : Value} (belongs : value.Belongs R) :
    Keeps R (Messages.fieldValue? field value) sparing := by
  unfold Messages.fieldValue?
  split
  · refine readingHeap fun h guards => ?_
    split
    · rename_i found
      split
      · exact (newList (guards.spreads.sequence belongs found)).bind fun _ has => given has
      · exact nothing
    · exact nothing
  · split
    · exact nothing
    · split
      · refine given ?_
        cases value.asFloat? with
        | none => exact belongs
        | some x => exact Value.belongs_float x
      · exact given belongs

/-- Setting a field to what it takes of a value, before other fields are set. -/
theorem settingField {field : Descriptor.Field} {value : Value} {values : Bindings Value}
    {refusal name : String} {next : Bindings Value → Eval (Bindings Value)}
    (belongs : value.Belongs R) (belong : values.Belong R)
    (rest : ∀ values : Bindings Value, values.Belong R →
      Upholds R (next values) (next values) (Bindings.Belong R) sparing) :
    let act := do
      match ← Messages.fieldValue? field value with
      | some value => next (values.insert name value)
      | none => Eval.fail refusal
    Upholds R act act (Bindings.Belong R) sparing := by
  refine (fieldValue? belongs).bind fun found has => ?_
  split
  · exact rest _ (belong.insert (has _ rfl))
  · exact fail _

theorem setFields {typeName : String} {fields : List Descriptor.Field}
    (chosen : List (String × String)) {named : List (String × Value)} {values : Bindings Value}
    (belongNamed : ∀ entry ∈ named, entry.2.Belongs R) (belong : values.Belong R) :
    Upholds R (Messages.setFields typeName fields chosen named values)
      (Messages.setFields typeName fields chosen named values) (Bindings.Belong R) sparing := by
  induction named generalizing chosen values with
  | nil => exact pure belong
  | cons entry rest ih =>
    obtain ⟨name, value⟩ := entry
    obtain ⟨belongs, later⟩ := List.forall_mem_cons.mp belongNamed
    have others (chosen : List (String × String)) (values : Bindings Value)
        (belong : values.Belong R) :=
      ih chosen later belong
    unfold Messages.setFields
    split
    · exact fail _
    · dsimp only
      split
      · exact settingField belongs belong (others _)
      · split
        · exact andThen (fail _) fun _ => settingField belongs belong (others _)
        · exact settingField belongs belong (others _)

theorem buildMessage {typeName : String} {fields : List Descriptor.Field}
    (belong : arguments.All (Value.Belongs R)) :
    Keeps R (Messages.build typeName fields arguments) sparing := by
  have empty : Bindings.Belong R [] := nofun
  refine guarded ((unsetAll fields empty).bindWith fun unset belongUnset => ?_)
  refine (setFields [] belong.named belongUnset).bindWith fun values belongValues => ?_
  refine newNative ?_ ?_
  · trivial
  · intro v member
    obtain ⟨field, present, rfl⟩ := List.mem_map.mp member
    exact belongValues field present

theorem protoFunction (f : ProtoFunction) (belong : arguments.All (Value.Belongs R)) :
    Keeps R (Messages.run f arguments) sparing := by
  cases f with
  | registerFiles =>
    refine andThen accepts fun names => ?_
    have registers (m : Machine) : Keeps R (do
        let registry ← Eval.accept Descriptor.Fault.text
          (Messages.register m.disk names m.registry)
        modifyGet fun m => ((), { m with registry := registry })
        return Value.none) sparing := by
      refine andThen accepts fun registry => ?_
      exact bind (modify fun _ => ⟨rfl, rfl⟩) fun _ _ => pure Value.belongs_none
    exact reading fun m _ => registers m
  | hasMessage =>
    exact (receive belong).bind fun _ _ => text.bind fun _ _ =>
      readWith fun _ _ => Value.belongs_bool _
  | new =>
    exact (receive belong).bind fun _ _ => text.bind fun _ _ => reading fun _ _ =>
      andThen accepts fun _ => newBuiltin nofun

end Messages

section Schemas

/-- A handler is a function. -/
theorem handlerFunction {slot : Slot} (belongs : Slot.All (Value.Belongs R) slot) :
    Keeps R (Schemas.handlerFunction function slot) sparing := by
  unfold Schemas.handlerFunction
  split
  · exact pure (belongs _ rfl)
  · exact fail _
  · exact fail _

/-- A field begins without a handler. -/
theorem receiveField {kind : String} {more : List Parameter}
    (belong : arguments.All (Value.Belongs R)) :
    Upholds R (Schemas.receiveField function kind more arguments)
      (Schemas.receiveField function kind more arguments)
      (fun received =>
        received.1.kind = kind ∧ received.1.handler = none ∧ R.Has received.2) sparing :=
  (receive belong).bind fun _ has => text.bind fun _ _ => text.bind fun _ _ => text.bind fun _ _ =>
    text.bind fun _ _ => guarded (pure ⟨rfl, rfl, has⟩)

/-- A field without a handler. -/
theorem wrapPlain {maker : String} {field : SchemaField} (none_ : field.handler = none)
    (kind : HandlerKind.ofFieldType? field.kind = none) :
    Keeps R (Schemas.wrap maker field none) sparing :=
  newNative ⟨none_, kind.symm⟩ nofun

/-- A field with a handler. -/
theorem wrapHandler {maker : String} {field : SchemaField} {handler : Value} {kind : HandlerKind}
    (names : field.handler = some handler.callableName)
    (implies : HandlerKind.ofFieldType? field.kind = some kind) (belongs : handler.Belongs R) :
    Keeps R (Schemas.wrap maker field (some (handler, kind))) sparing :=
  newNative ⟨names, implies.symm⟩ (List.forall_mem_singleton.mpr belongs)

theorem newHandlerField {kind : String} {returned : HandlerKind}
    (implies : HandlerKind.ofFieldType? kind = some returned)
    (belong : arguments.All (Value.Belongs R)) :
    Keeps R (Schemas.newHandlerField function kind returned arguments) sparing :=
  (receiveField belong).bindWith fun _ ⟨kinds, _, has⟩ =>
    (handlerFunction (slot_belongs has _)).bind fun _ belongs =>
      wrapHandler rfl (kinds ▸ implies) belongs

@[grind ←]
theorem choices (index : Nat) (options : List Value) :
    Keeps R (Schemas.choices index options) sparing := by
  induction options generalizing index with
  | nil => exact pure nofun
  | cons option rest ih =>
    unfold Schemas.choices
    split
    · exact pure nofun
    · rename_i same
      cases same
      exact (ih _).bind fun _ _ => pure (by simp)
    · exact fail _

@[grind ←]
theorem palette (colors : List Value) : Keeps R (Schemas.palette colors) sparing := by
  induction colors with
  | nil => exact pure nofun
  | cons color rest ih =>
    unfold Schemas.palette
    split
    · exact pure nofun
    · rename_i same
      cases same
      exact ih.bind fun _ _ => pure (by simp)
    · exact fail _

theorem newDropdown (belong : arguments.All (Value.Belongs R)) :
    Keeps R (Schemas.newDropdown arguments) sparing :=
  (receiveField belong).bindWith fun _ ⟨kinds, unhandled, has⟩ => text.bind fun _ _ =>
    (items has).bind fun _ _ => (choices _ _).bind fun _ _ =>
      guarded (guarded (wrapPlain unhandled (kinds ▸ rfl)))

theorem newColor (belong : arguments.All (Value.Belongs R)) :
    Keeps R (Schemas.newColor arguments) sparing := by
  refine (receiveField belong).bindWith fun _ ⟨kinds, unhandled, has⟩ => text.bind fun _ _ =>
    (items has).bind fun _ _ => (palette _).bind fun _ _ => ?_
  split
  · exact fail _
  · exact wrapPlain unhandled (kinds ▸ rfl)

theorem newGenerated (belong : arguments.All (Value.Belongs R)) :
    Keeps R (Schemas.newGenerated arguments) sparing :=
  (receive belong).bind fun _ has => (handlerFunction (slot_belongs has _)).bind fun _ belongs =>
    text.bind fun _ _ => text?.bind fun _ _ => wrapHandler rfl rfl belongs

theorem newAccount (belong : arguments.All (Value.Belongs R)) :
    Keeps R (Schemas.newAccount arguments) sparing :=
  (receiveField belong).bindWith fun _ ⟨kinds, _, has⟩ =>
    (handlerFunction (slot_belongs has _)).bind fun _ belongs => text?.bind fun _ _ =>
      text?.bind fun _ _ => (items has).bind fun _ _ => readingHeap fun _ _ =>
        wrapHandler rfl (kinds ▸ rfl) belongs

theorem newSchema (belong : arguments.All (Value.Belongs R)) :
    Keeps R (Schemas.newSchema arguments) sparing :=
  (receive belong).bind fun _ has => text.bind fun _ _ => (items has).bind fun _ fields =>
    (items has).bind fun _ handlers => newNative trivial (List.forall_mem_append.mpr ⟨fields, handlers⟩)

theorem newHandler (belong : arguments.All (Value.Belongs R)) :
    Keeps R (Schemas.newHandler arguments) sparing :=
  (receive belong).bind fun _ has => (handlerFunction (slot_belongs has _)).bind fun _ belongs =>
    int?.bind fun _ _ => andThen requires fun _ =>
      newNative trivial (List.forall_mem_singleton.mpr belongs)

theorem schemaFunction (f : SchemaFunction) (belong : arguments.All (Value.Belongs R)) :
    Keeps R (Schemas.run f arguments) sparing := by
  cases f with
  | schema => exact newSchema belong
  | text =>
    exact (receiveField belong).bindWith fun _ ⟨kinds, unhandled, _⟩ => text.bind fun _ _ =>
      wrapPlain unhandled (kinds ▸ rfl)
  | toggle =>
    exact (receiveField belong).bindWith fun _ ⟨kinds, unhandled, _⟩ => bool?.bind fun _ _ =>
      wrapPlain unhandled (kinds ▸ rfl)
  | dropdown => exact newDropdown belong
  | option =>
    exact (receive belong).bind fun _ _ => text.bind fun _ _ => text.bind fun _ _ =>
      newNative trivial nofun
  | color => exact newColor belong
  | location =>
    exact (receiveField belong).bindWith fun _ ⟨kinds, unhandled, _⟩ =>
      wrapPlain unhandled (kinds ▸ rfl)
  | locationBased => exact newHandlerField rfl belong
  | typeahead => exact newHandlerField rfl belong
  | generated => exact newGenerated belong
  | oauth2 => exact newAccount belong
  | handler => exact newHandler belong

end Schemas

section Assertions

theorem report (message : String) : Keeps R (Assertions.report message) sparing := by
  refine reading fun m _ => ?_
  split
  · exact (changeThread _).bind fun _ _ => pure Value.belongs_none
  · exact fail _

theorem reportWith (custom : Slot) (message : String) :
    Keeps R (Assertions.reportWith custom message) sparing := by
  unfold Assertions.reportWith
  split
  · exact report _
  · exact report _
  · exact readingHeap fun _ _ => report _

theorem compareTwo {first second between : String} {holds : Value → Value → Eval Bool}
    (belong : arguments.All (Value.Belongs R))
    (keeps : ∀ {a b}, a.Belongs R → b.Belongs R → Keeps R (holds a b) sparing) :
    Keeps R (Assertions.compareTwo function first second between arguments holds) sparing := by
  refine (receive belong).bind fun r has => ?_
  refine (keeps (value_belongs has _) (value_belongs has _)).bind fun held _ => ?_
  split
  · exact pure Value.belongs_none
  · exact readingHeap fun _ _ => reportWith _ _

variable {call other : Value → Arguments → Eval Value}

theorem fails (calls : Calls R call other sparing) (belong : arguments.All (Value.Belongs R)) :
    Upholds R (Assertions.fails call arguments)
      (Assertions.fails other arguments) R.Has sparing := by
  refine (receive belong).bind fun r has => ?_
  split
  · refine matcher.bind fun found _ => ?_
    refine andThen (attempt (calls (value_belongs has _) Arguments.all_empty)).runs fun outcome => ?_
    split
    · exact report _
    · split
      · exact pure (Value.belongs_str _)
      · exact report _
  · exact fail _

theorem assertFunction (calls : Calls R call other sparing) (f : AssertFunction)
    (belong : arguments.All (Value.Belongs R)) :
    Upholds R (Assertions.run call f arguments)
      (Assertions.run other f arguments) R.Has sparing := by
  cases f with
  | eq =>
    unfold Assertions.run
    exact compareTwo belong fun _ _ => readHeapWith fun _ _ => trivial
  | ne =>
    unfold Assertions.run
    exact compareTwo belong fun _ _ => readHeapWith fun _ _ => trivial
  | lt =>
    unfold Assertions.run
    exact compareTwo belong fun _ _ => readingHeap fun _ _ => andThen accepts fun _ => pure trivial
  | contains =>
    unfold Assertions.run
    exact compareTwo belong fun _ _ => operateWith fun _ _ _ _ => trivial
  | true_ =>
    refine (receive belong).bind fun r _ => readingHeap fun _ _ => ?_
    split
    · exact pure Value.belongs_none
    · exact readingHeap fun _ _ => reportWith _ _
  | fails => exact fails calls belong

end Assertions

theorem hostFunction (f : HostFunction) (belong : arguments.All (Value.Belongs R)) :
    Keeps R (f.run arguments) sparing := by
  cases f with
  | cancel =>
    refine (receiveOne belong).bind fun _ _ => readingHeap fun h _ => ?_
    refine (modify fun m => ?_).bind fun _ _ => pure Value.belongs_none
    split
    · have alike := Safe.alike_cancelToken m
      exact ⟨(alike _ _).heap, (alike _ _).loading⟩
    · exact ⟨rfl, rfl⟩
  | panic => exact (receiveOne belong).bind fun _ _ => readingHeap fun _ _ => throw _

/-- Builtin functions that belong to a realm uphold it, if what they call does. -/
theorem builtin {call other : Value → Arguments → Eval Value} (calls : Calls R call other sparing)
    {b : Builtin Value} (belongs : ∀ v, b.receiver = some v → v.Belongs R)
    (belong : arguments.All (Value.Belongs R)) :
    Upholds R (b.run call arguments) (b.run other arguments) R.Has sparing := by
  unfold Builtin.run
  split
  · exact universal calls _ belong
  · split
    · exact stringMethod _ _ belong
    · exact pure Value.belongs_none
  · split
    · rename_i received
      exact listMethod _ (Value.belongs_list.mp (belongs _ received)) belong
    · exact pure Value.belongs_none
  · split
    · rename_i received
      exact dictMethod _ (Value.belongs_dict.mp (belongs _ received)) belong
    · exact pure Value.belongs_none
  · exact renderFunction _ belong
  · exact schemaFunction _ belong
  · exact assertFunction calls _ belong
  · exact cacheFunction _ belong
  · exact decrypt belong
  · exact jsonFunction _ belong
  · exact base64Function _ belong
  · exact protoFunction _ belong
  · exact buildMessage belong
  · exact mathFunction _ belong
  · exact randomFunction _ belong
  · exact patternFunction _ belong
  · exact readAll belong
  · exact hostFunction _ belong

end PixelApplet.Eval.Upholds
