import Mathlib.Data.List.Forall2
import PixelApplet.Evaluation.Call
import PixelApplet.Proofs.Evaluation.Binding

/-!
# Builtin functions and scripts bind parameters alike

A builtin function and a function written in a script can have the same parameters: required ones,
and optional ones that have a default in the script.  Arguments that fit the one fit the other, and
what is put into the slot of a parameter is what the parameter is bound to; where the slot stays
empty the parameter is bound to its default.

The two check their arguments in different orders, so of several faults they report different ones.
-/

namespace PixelApplet

/-- A parameter of a script is the one of a builtin function: it takes an argument of its own, and
has a default if it need not be given. -/
structure Parameter.Like (parameter : Parameter) (param : Param) : Prop where
  name : param.name = parameter.name
  own : param.isOwn = true
  optional : param.isOptional = !parameter.required

/-- A function written in a script has the parameters of a builtin function. -/
structure Function.Shares (f : Function Value) (parameters : List Parameter) : Prop where
  params : List.Forall₂ Parameter.Like parameters f.decl.params
  /-- The default of an optional parameter is evaluated when the function is defined. -/
  defaults : List.Forall₂ (fun param default => default.isSome = param.isOptional)
    f.decl.params f.defaults

namespace Parameter

variable {parameters : List Parameter} {params : List Param}
  (alike : List.Forall₂ Like parameters params)
include alike

theorem names_of_like : params.map Param.name = parameters.map Parameter.name := by
  induction alike with
  | nil => rfl
  | cons like _ ih => rw [List.map_cons, List.map_cons, like.name, ih]

theorem own_of_like {param : Param} (member : param ∈ params) : param.isOwn = true := by
  induction alike with
  | nil => cases member
  | cons like _ ih =>
    cases member with
    | head => exact like.own
    | tail _ later => exact ih later

theorem none_rest_of_like : params.any Param.isRest = false := by
  refine List.any_eq_false.mpr fun param member => ?_
  have own := own_of_like alike member
  obtain ⟨name, pos, kind⟩ := param
  cases kind <;> first | exact Bool.false_ne_true | cases own

theorem none_restNamed_of_like : params.any Param.isRestNamed = false := by
  refine List.any_eq_false.mpr fun param member => ?_
  have own := own_of_like alike member
  obtain ⟨name, pos, kind⟩ := param
  cases kind <;> first | exact Bool.false_ne_true | cases own

theorem leading_of_like : Param.leading params = parameters.length := by
  rw [alike.length_eq, Param.leading, List.takeWhile_eq_self_iff.mpr fun _ => own_of_like alike]

/-! ## Slots -/

omit alike in
theorem positionalSlots_nil (parameters : List Parameter) :
    Arguments.positionalSlots parameters [] = parameters.map fun _ => none := by
  induction parameters with
  | nil => rfl
  | cons parameter parameters ih => exact congrArg (none :: ·) ih

theorem positionalSlots_of_like (values : List Value) :
    (Binding.positionalSlots params values).1 = Arguments.positionalSlots parameters values := by
  induction alike generalizing values with
  | nil => rfl
  | @cons parameter param parameters params like alike ih =>
    unfold Binding.positionalSlots
    rw [if_pos like.own]
    cases values with
    | nil =>
      rw [positionalSlots_nil, List.map_cons, List.map_const', List.map_const', alike.length_eq]
    | cons value values => exact congrArg (some value :: ·) (ih values)

variable {function name : String} {value : Value} {slots filled : List Slot}

/-- A named argument finds the same slot. -/
theorem fillNamed_of_like :
    Binding.fillNamed function name value params slots = .ok (some filled) ↔
      Arguments.fillNamed name value parameters slots = .ok filled := by
  induction alike generalizing slots filled with
  | nil => simp [Binding.fillNamed, Arguments.fillNamed]
  | @cons parameter param parameters params like _ ih =>
    cases slots with
    | nil => simp [Binding.fillNamed, Arguments.fillNamed]
    | cons slot slots =>
      unfold Binding.fillNamed Arguments.fillNamed
      rw [like.own, like.name, Bool.true_and]
      by_cases here : parameter.name = name
      · rw [if_pos (decide_eq_true here), if_pos here]
        cases slot with
        | some taken => simp
        | none =>
          constructor
          · rintro ⟨⟩
            rfl
          · rintro ⟨⟩
            rfl
      · rw [if_neg (by simpa using here), if_neg here]
        constructor
        · intro ran
          cases found : Binding.fillNamed function name value params slots with
          | error fault => simp [found] at ran
          | ok outcome =>
            cases outcome with
            | none => simp [found] at ran
            | some others =>
              rw [found] at ran
              cases ran
              rw [ih.mp found]
        · intro ran
          cases found : Arguments.fillNamed name value parameters slots with
          | error fault => simp [found] at ran
          | ok others =>
            rw [found] at ran
            cases ran
            rw [ih.mpr found]
            rfl

/-- All named arguments find the same slots, and none is left over. -/
theorem fillAllNamed_of_like {left : List (String × Value)} (named : List (String × Value)) :
    Binding.fillAllNamed function false params named slots = .ok (filled, left) ↔
      Arguments.fillAllNamed parameters named slots = .ok filled ∧ left = [] := by
  induction named generalizing slots with
  | nil =>
    unfold Binding.fillAllNamed Arguments.fillAllNamed
    simp [eq_comm]
  | cons entry named ih =>
    obtain ⟨name, value⟩ := entry
    unfold Binding.fillAllNamed Arguments.fillAllNamed
    have same (filled : List Slot) := @fillNamed_of_like _ _ alike function name value slots filled
    cases found : Arguments.fillNamed name value parameters slots with
    | ok others =>
      rw [(same others).mpr found]
      exact ih
    | error fault =>
      rcases ran : Binding.fillNamed function name value params slots with fault' | _ | others
      · simp
      · simp
      · rw [(same others).mp ran] at found
        cases found

/-! ## What is bound in the end -/

/-- The variable of a parameter has what its slot holds, or else its default. -/
def binding (parameter : Parameter) : Slot × Option Value → String × Value
  | (slot, default) => (parameter.name, slot.getD (default.getD .none))

omit alike in
theorem names_of_bindings {parameters : List Parameter} {passed : List (Slot × Option Value)}
    (counted : passed.length = parameters.length) :
    (List.zipWith binding parameters passed).map Prod.fst = parameters.map Parameter.name := by
  induction parameters generalizing passed with
  | nil => rfl
  | cons parameter parameters ih =>
    cases passed with
    | nil => cases counted
    | cons first passed => exact congrArg (parameter.name :: ·) (ih (Nat.succ.inj counted))

/-- A variable as a call binds it. -/
def bound (variable_ : String × Value) : String × Bound :=
  (variable_.1, .value variable_.2)

omit alike in
/-- A required parameter is bound if its slot is filled, an optional one is always bound. -/
theorem bindSlots_cons_of_like {parameter : Parameter} {param : Param} {params : List Param}
    (like : Like parameter param) {slot default : Option Value} {defaults : List (Option Value)}
    {left : Option (List (String × Value))} :
    Binding.bindSlots function [] left (param :: params) (slot :: slots) (default :: defaults)
      = if parameter.required && slot.isNone then .error (.missing function param.name)
        else (Binding.bindSlots function [] left params slots defaults).map
          (bound (parameter.binding (slot, default)) :: ·) := by
  obtain ⟨name, own, optional⟩ := like
  obtain ⟨_, pos, kind⟩ := param
  obtain ⟨_, required⟩ := parameter
  cases name
  cases slot with
  | some value =>
    rw [Option.isNone_some, Bool.and_false]
    rfl
  | none =>
    cases kind with
    | required =>
      have needed : true = required := Bool.not_inj optional
      rw [← needed]
      rfl
    | optional e =>
      have free : false = required := Bool.not_inj optional
      rw [← free]
      rfl
    | rest | restNamed => cases own

/-- Everything is bound if no required argument is missing. -/
theorem bindSlots_of_like {defaults : List (Option Value)} {bound : List (String × Bound)}
    (counted : slots.length = params.length) (defaulted : defaults.length = params.length)
    {left : Option (List (String × Value))} :
    Binding.bindSlots function [] left params slots defaults = .ok bound ↔
      Arguments.checkRequired parameters slots = .ok () ∧
        bound = (List.zipWith binding parameters (slots.zip defaults)).map Parameter.bound := by
  induction alike generalizing slots defaults bound with
  | nil => exact ⟨fun ran => ⟨rfl, by cases ran; rfl⟩, fun ⟨_, same⟩ => same ▸ rfl⟩
  | @cons parameter param parameters params like _ ih =>
    cases slots with
    | nil => cases counted
    | cons slot slots =>
      cases defaults with
      | nil => cases defaulted
      | cons default defaults =>
        have rest {bound} := @ih slots defaults bound (Nat.succ.inj counted)
          (Nat.succ.inj defaulted)
        rw [bindSlots_cons_of_like like, Arguments.checkRequired, List.zip_cons_cons,
          List.zipWith_cons_cons, List.map_cons]
        split
        · exact ⟨nofun, nofun⟩
        · constructor
          · intro ran
            obtain ⟨others, ranRest, rfl⟩ := Except.exists_of_map_ok ran
            obtain ⟨given, rfl⟩ := rest.mp ranRest
            exact ⟨given, rfl⟩
          · rintro ⟨given, rfl⟩
            rw [rest.mpr ⟨given, rfl⟩]
            rfl

end Parameter

namespace Arguments

/-- A call is accepted if there are not too many arguments, all named ones find an empty slot, and
no required one is missing. -/
theorem unpack_eq_ok_iff {arguments : Arguments} {parameters : List Parameter}
    {slots : List Slot} : arguments.unpack parameters = .ok slots ↔
      arguments.positional.length ≤ parameters.length ∧
        fillAllNamed parameters arguments.named (positionalSlots parameters arguments.positional)
          = .ok slots ∧
        checkRequired parameters slots = .ok () := by
  unfold unpack
  split
  · rename_i many
    exact ⟨nofun, fun fits => absurd many (Nat.not_lt.mpr fits.1)⟩
  · rename_i few
    cases ran : fillAllNamed parameters arguments.named
      (positionalSlots parameters arguments.positional) with
    | error fault => exact ⟨nofun, fun ⟨_, filled, _⟩ => nomatch filled⟩
    | ok filled =>
      dsimp only
      constructor
      · intro made
        split at made
        · cases made
        · rename_i given
          cases made
          exact ⟨Nat.not_lt.mp few, rfl, given⟩
      · rintro ⟨-, ⟨⟩, given⟩
        rw [given]

/-- After the check only slots of optional parameters are empty. -/
theorem optional_of_empty {parameters : List Parameter} {slots : List Slot}
    (given : checkRequired parameters slots = .ok ()) {i : Nat} {parameter : Parameter}
    (at_ : parameters[i]? = some parameter) (empty : slots[i]? = some none) :
    parameter.required = false := by
  induction parameters generalizing slots i with
  | nil => cases at_
  | cons first parameters ih =>
    cases slots with
    | nil => cases empty
    | cons slot slots =>
      unfold checkRequired at given
      split at given
      · cases given
      · rename_i present
        cases i with
        | succ i => exact ih given at_ empty
        | zero =>
          cases at_
          cases empty
          rw [Option.isNone_none, Bool.and_true] at present
          exact Bool.eq_false_iff.mpr present

end Arguments

namespace Function

variable {f : Function Value} {parameters : List Parameter} {arguments : Arguments}
  {slots : List Slot} {bound : List (String × Bound)}

/-- The slots of a builtin function are filled with what a script function of the same parameters is
offered. -/
theorem offers_of_fillAllNamed (shares : f.Shares parameters)
    (distinct : (parameters.map Parameter.name).Nodup)
    (filled : Arguments.fillAllNamed parameters arguments.named
      (Arguments.positionalSlots parameters arguments.positional) = .ok slots) :
    slots.map Option.toList = Binding.offers arguments.named f.decl.params
      (Binding.positionalSlots f.decl.params arguments.positional).1 := by
  rw [← Parameter.positionalSlots_of_like shares.params] at filled
  have fills : Binding.fillAllNamed f.decl.name false f.decl.params arguments.named
      (Binding.positionalSlots f.decl.params arguments.positional).1 = .ok (slots, []) :=
    (Parameter.fillAllNamed_of_like shares.params _).mpr ⟨filled, rfl⟩
  rw [← Parameter.names_of_like shares.params] at distinct
  exact ((Binding.fillAllNamed_iff distinct Binding.length_positionalSlots).mp fills).1

theorem length_of_fillAllNamed (shares : f.Shares parameters)
    (distinct : (parameters.map Parameter.name).Nodup)
    (filled : Arguments.fillAllNamed parameters arguments.named
      (Arguments.positionalSlots parameters arguments.positional) = .ok slots) :
    slots.length = f.decl.params.length := by
  rw [← List.length_map Option.toList, offers_of_fillAllNamed shares distinct filled,
    Binding.offers, List.length_zipWith, Binding.length_positionalSlots, Nat.min_self]

/-- A script function without collecting parameters accepts a call if there are not too many
arguments, all named ones find an empty slot, and no required one is missing. -/
theorem bind_eq_ok_iff (shares : f.Shares parameters) :
    f.bind arguments = .ok bound ↔ arguments.positional.length ≤ parameters.length ∧
      ∃ slots, Arguments.fillAllNamed parameters arguments.named
          (Arguments.positionalSlots parameters arguments.positional) = .ok slots ∧
        Binding.bindSlots f.decl.name [] (some []) f.decl.params slots f.defaults = .ok bound := by
  have alike := shares.params
  have fills (slots : List Slot) (left : List (String × Value)) :=
    @Parameter.fillAllNamed_of_like parameters f.decl.params alike f.decl.name
      (Arguments.positionalSlots parameters arguments.positional) slots left arguments.named
  unfold Function.bind
  dsimp only
  rw [Binding.left_positionalSlots, Parameter.positionalSlots_of_like alike,
    Parameter.none_rest_of_like alike, Parameter.none_restNamed_of_like alike,
    Parameter.leading_of_like alike]
  have surplus : (arguments.positional.drop parameters.length).isEmpty = true ↔
      arguments.positional.length ≤ parameters.length :=
    List.isEmpty_iff.trans List.drop_eq_nil_iff
  split
  · rename_i many
    exact ⟨nofun, fun fits => absurd (surplus.mpr fits.1) many.1⟩
  · rename_i few
    have none := not_not.mp fun many => few ⟨many, Bool.false_ne_true⟩
    have few := surplus.mp none
    rw [List.isEmpty_iff.mp none]
    rcases ran : Binding.fillAllNamed f.decl.name false f.decl.params arguments.named
      (Arguments.positionalSlots parameters arguments.positional) with fault | ⟨slots, left⟩
    · refine ⟨nofun, fun ⟨_, slots, filled, _⟩ => ?_⟩
      rw [(fills slots []).mpr ⟨filled, rfl⟩] at ran
      cases ran
    · obtain ⟨filled, rfl⟩ := (fills slots left).mp ran
      constructor
      · exact fun bound => ⟨few, slots, filled, bound⟩
      · rintro ⟨-, _, filled', bound⟩
        rw [filled] at filled'
        cases filled'
        exact bound

/-- What a call puts into the slots of a builtin function, a script function of the same parameters
is bound to, or else to its defaults. -/
theorem bind_of_shares (shares : f.Shares parameters)
    (distinct : (parameters.map Parameter.name).Nodup) :
    f.bind arguments = .ok bound ↔ ∃ slots, arguments.unpack parameters = .ok slots ∧
      bound = (List.zipWith Parameter.binding parameters (slots.zip f.defaults)).map
        Parameter.bound := by
  have binds {slots : List Slot} (filled : Arguments.fillAllNamed parameters arguments.named
      (Arguments.positionalSlots parameters arguments.positional) = .ok slots) :=
    @Parameter.bindSlots_of_like parameters f.decl.params shares.params f.decl.name slots f.defaults
      bound (length_of_fillAllNamed shares distinct filled) shares.defaults.length_eq.symm (some [])
  rw [bind_eq_ok_iff shares]
  constructor
  · rintro ⟨few, slots, filled, ran⟩
    obtain ⟨given, same⟩ := (binds filled).mp ran
    exact ⟨slots, Arguments.unpack_eq_ok_iff.mpr ⟨few, filled, given⟩, same⟩
  · rintro ⟨slots, unpacked, same⟩
    obtain ⟨few, filled, given⟩ := Arguments.unpack_eq_ok_iff.mp unpacked
    exact ⟨few, slots, filled, (binds filled).mpr ⟨given, same⟩⟩

/-! ## Variables -/

/-- Values are bound to names without a change of the machine. -/
theorem bindLocals_of_values (entries : List (String × Value))
    (distinct : (entries.map Prod.fst).Nodup) (locals : Bindings Value) (m : Machine) :
    ∃ locals' : Bindings Value,
      bindLocals (entries.map Parameter.bound) locals m = .ok locals' m ∧
        (∀ entry ∈ entries, locals'.get? entry.1 = some entry.2) ∧
        ∀ name ∉ entries.map Prod.fst, locals'.get? name = locals.get? name := by
  induction entries generalizing locals with
  | nil => exact ⟨locals, rfl, by simp, fun _ _ => rfl⟩
  | cons entry entries ih =>
    obtain ⟨name, value⟩ := entry
    rw [List.map_cons, List.nodup_cons] at distinct
    obtain ⟨locals', ran, bound, others⟩ := ih distinct.2 (locals.insert name value)
    refine ⟨locals', ran, fun entry member => ?_, fun other absent => ?_⟩
    · cases member with
      | head => rw [others name distinct.1, Bindings.get?_insert_self]
      | tail _ later => exact bound entry later
    · rw [List.map_cons, List.mem_cons, not_or] at absent
      rw [others other absent.2, Bindings.get?_insert_of_ne _ _ absent.1]

/-- What a call passes for a parameter is in its slot and in its variable.  If nothing is passed the
slot is empty, and the variable has the default. -/
inductive Receives (f : Function Value) (arguments : Arguments) (i : Nat) (param : Param) :
    Slot → Value → Prop where
  | passed (value : Value) (offered : f.offered arguments i param = [value]) :
    Receives f arguments i param (some value) value
  | default (value : Value) (offered : f.offered arguments i param = [])
    (default : f.defaults[i]? = some (some value)) : Receives f arguments i param none value

theorem Shares.parameter_at (shares : f.Shares parameters) {i : Nat} {param : Param}
    (at_ : f.decl.params[i]? = some param) :
    ∃ parameter, parameters[i]? = some parameter ∧ parameter.Like param := by
  obtain ⟨inside, rfl⟩ := List.getElem?_eq_some_iff.mp at_
  have inside' : i < parameters.length := shares.params.length_eq ▸ inside
  exact ⟨parameters[i], List.getElem?_eq_getElem inside', shares.params.get inside' inside⟩

theorem Shares.default_at (shares : f.Shares parameters) {i : Nat} {param : Param}
    (at_ : f.decl.params[i]? = some param) :
    ∃ default, f.defaults[i]? = some default ∧ default.isSome = param.isOptional := by
  obtain ⟨inside, rfl⟩ := List.getElem?_eq_some_iff.mp at_
  have inside' : i < f.defaults.length := shares.defaults.length_eq ▸ inside
  exact ⟨f.defaults[i], List.getElem?_eq_getElem inside', shares.defaults.get inside inside'⟩

/-- In a call that is accepted every parameter receives what is passed for it. -/
theorem receives_of_unpack (shares : f.Shares parameters)
    (distinct : (parameters.map Parameter.name).Nodup)
    (unpacked : arguments.unpack parameters = .ok slots) {i : Nat} {param : Param}
    (at_ : f.decl.params[i]? = some param) :
    ∃ slot default, slots[i]? = some slot ∧ f.defaults[i]? = some default ∧
      f.Receives arguments i param slot (slot.getD (default.getD .none)) := by
  obtain ⟨-, filled, given⟩ := Arguments.unpack_eq_ok_iff.mp unpacked
  obtain ⟨parameter, parameterAt, like⟩ := shares.parameter_at at_
  obtain ⟨default, defaultAt, standing⟩ := shares.default_at at_
  have inside : i < slots.length := length_of_fillAllNamed shares distinct filled ▸
    (List.getElem?_eq_some_iff.mp at_).1
  obtain ⟨slot, slotAt⟩ : ∃ slot, slots[i]? = some slot := ⟨_, List.getElem?_eq_getElem inside⟩
  have holds := toList_filled (offers_of_fillAllNamed shares distinct filled) at_
  rw [slotAt] at holds
  refine ⟨slot, default, slotAt, defaultAt, ?_⟩
  cases slot with
  | some value => exact .passed value holds.symm
  | none =>
    have optional := Arguments.optional_of_empty given parameterAt slotAt
    rw [like.optional, optional] at standing
    obtain ⟨value, rfl⟩ := Option.isSome_iff_exists.mp standing
    exact .default value holds.symm defaultAt

/-- What a call of a script function binds is what a builtin function of the same parameters finds
in its slots. -/
structure BindsSlots (f : Function Value) (arguments : Arguments) (slots : List Slot)
    (bound : List (String × Bound)) : Prop where
  counted : slots.length = f.decl.params.length
  /-- The body of the function starts with these variables. -/
  locals : ∀ m, ∃ locals : Bindings Value, bindLocals bound [] m = .ok locals m ∧
    ∀ i param, f.decl.params[i]? = some param → ∃ slot value, slots[i]? = some slot ∧
      locals.get? param.name = some value ∧ f.Receives arguments i param slot value

/-- A builtin function and a script function of the same parameters accept the same calls, and
receive the same. -/
theorem unpack_agrees_with_bind (shares : f.Shares parameters)
    (distinct : (parameters.map Parameter.name).Nodup) (arguments : Arguments) :
    ((∃ slots, arguments.unpack parameters = .ok slots) ↔ ∃ bound, f.bind arguments = .ok bound) ∧
      ∀ slots bound, arguments.unpack parameters = .ok slots → f.bind arguments = .ok bound →
        f.BindsSlots arguments slots bound := by
  constructor
  · constructor
    · rintro ⟨slots, unpacked⟩
      exact ⟨_, (bind_of_shares shares distinct).mpr ⟨slots, unpacked, rfl⟩⟩
    · rintro ⟨bound, bind⟩
      obtain ⟨slots, unpacked, -⟩ := (bind_of_shares shares distinct).mp bind
      exact ⟨slots, unpacked⟩
  · intro slots bound unpacked bind
    obtain ⟨_, unpacked', rfl⟩ := (bind_of_shares shares distinct).mp bind
    cases unpacked.symm.trans unpacked'
    have counted := length_of_fillAllNamed shares distinct
      (Arguments.unpack_eq_ok_iff.mp unpacked).2.1
    have names : (List.zipWith Parameter.binding parameters (slots.zip f.defaults)).map Prod.fst
        = parameters.map Parameter.name := by
      refine Parameter.names_of_bindings ?_
      rw [List.length_zip, counted, ← shares.defaults.length_eq, Nat.min_self,
        shares.params.length_eq]
    refine ⟨counted, fun m => ?_⟩
    obtain ⟨locals, ran, bound, -⟩ := bindLocals_of_values
      (List.zipWith Parameter.binding parameters (slots.zip f.defaults)) (names ▸ distinct) [] m
    refine ⟨locals, ran, fun i param at_ => ?_⟩
    obtain ⟨slot, default, slotAt, defaultAt, receives⟩ :=
      receives_of_unpack shares distinct unpacked at_
    refine ⟨slot, _, slotAt, ?_, receives⟩
    obtain ⟨parameter, parameterAt, like⟩ := shares.parameter_at at_
    rw [like.name]
    refine bound (parameter.binding (slot, default)) (List.mem_of_getElem? (i := i) ?_)
    have passedAt : (slots.zip f.defaults)[i]? = some (slot, default) :=
      List.getElem?_zip_eq_some.mpr ⟨slotAt, defaultAt⟩
    rw [List.getElem?_zipWith, parameterAt, passedAt]

/-- A function that a script defines with the parameters of a builtin function shares them. -/
theorem shares_of_evalFunction {call : Caller} {scope : Scope} {decl : FunctionDecl}
    {m m' : Machine} {identity : Identity}
    (alike : List.Forall₂ Parameter.Like parameters decl.params)
    (ran : evalFunction call scope decl m = .ok (.function identity f) m') :
    f.Shares parameters := by
  obtain ⟨name, pos, params, body⟩ := decl
  rw [evalFunction] at ran
  obtain ⟨defaults, between, evaluated, ran⟩ := Eval.exists_of_bind ran
  obtain ⟨_, _, -, ran⟩ := Eval.exists_of_bind ran
  cases ran
  exact ⟨alike, defaults_of_evalDefaults params evaluated⟩

/-- The parameters of a caption. -/
def captionParameters : List Parameter :=
  [.needed "content", .optional "font", .optional "color"]

/-- A function of a script with the parameters of a caption. -/
def captionFunction : Function Value where
  decl := .mk "caption" .nowhere
    [.mk "content" .nowhere .required,
      .mk "font" .nowhere (.optional (.literal .nowhere (.string "tb-8"))),
      .mk "color" .nowhere (.optional (.literal .nowhere (.string "white")))] []
  home := ⟨0⟩
  defaults := [none, some (.str "tb-8"), some (.str "white")]
  captured := none
  file := "caption.star"

/-- The content by its place and the color by its name. -/
def captionArguments : Arguments :=
  ⟨[.str "hello"], [("color", .str "red")]⟩

theorem captionFunction_receives : captionFunction.Shares captionParameters ∧
    (captionParameters.map Parameter.name).Nodup ∧
    captionArguments.unpack captionParameters = .ok [some (.str "hello"), none, some (.str "red")] ∧
    captionFunction.bind captionArguments = .ok [("content", .value (.str "hello")),
      ("font", .value (.str "tb-8")), ("color", .value (.str "red"))] ∧
    captionFunction.BindsSlots captionArguments [some (.str "hello"), none, some (.str "red")]
      [("content", .value (.str "hello")), ("font", .value (.str "tb-8")),
        ("color", .value (.str "red"))] := by
  have shares : captionFunction.Shares captionParameters := by
    refine ⟨.cons ⟨rfl, rfl, rfl⟩ (.cons ⟨rfl, rfl, rfl⟩ (.cons ⟨rfl, rfl, rfl⟩ .nil)), ?_⟩
    exact .cons rfl (.cons rfl (.cons rfl .nil))
  have distinct : (captionParameters.map Parameter.name).Nodup := by decide
  exact ⟨shares, distinct, rfl, rfl,
    (unpack_agrees_with_bind shares distinct captionArguments).2 _ _ rfl rfl⟩

end Function

end PixelApplet
