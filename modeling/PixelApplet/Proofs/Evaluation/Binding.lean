import Mathlib.Data.List.Induction
import Mathlib.Data.List.TakeWhile
import PixelApplet.Evaluation.Expression
import PixelApplet.Proofs.Evaluation.Posture
import PixelApplet.Proofs.Value.OrderedMaps

/-!
# Binding parameters

What is offered to a parameter of a function is the positional argument in its place, if there is
one, and all named arguments of its name.  A call is accepted if each parameter is offered one value
at most, each required parameter is offered one, and there are parameters for what is left over.
Then what each parameter is bound to is determined by what it is offered and by what is left over.

Nothing that is passed gets lost until a dict of the remaining named arguments is made: of several
arguments of one name it keeps the last.
-/

namespace PixelApplet

/-- The values of the named arguments of a name. -/
def Arguments.valuesOf (name : String) (named : List (String × Value)) : List Value :=
  (named.filter fun entry => entry.1 = name).map Prod.snd

/-- The values of the named arguments that belong to a parameter. -/
def Param.valuesIn (named : List (String × Value)) (param : Param) : List Value :=
  if param.isOwn then Arguments.valuesOf param.name named else []

/-- Whether a name is that of a parameter with an argument of its own. -/
def Param.areNamed (params : List Param) (name : String) : Bool :=
  params.any fun param => param.isOwn && param.name = name

/-- How many parameters come before the first collecting one. -/
def Param.leading (params : List Param) : Nat :=
  (params.takeWhile Param.isOwn).length

namespace Function

variable (f : Function Value) (arguments : Arguments)

/-- The values offered to the parameter at a place. -/
def offered (i : Nat) (param : Param) : List Value :=
  (if i < Param.leading f.decl.params then arguments.positional[i]? else none).toList
    ++ param.valuesIn arguments.named

/-- The positional arguments behind those that are offered to parameters. -/
def surplus : List Value :=
  arguments.positional.drop (Param.leading f.decl.params)

/-- The named arguments that belong to no parameter. -/
def unknown : List (String × Value) :=
  arguments.named.filter fun entry => !Param.areNamed f.decl.params entry.1

/-- What the parameter at a place is bound to.  Of several collecting parameters of one kind the
first one takes all that is left over. -/
def BindsAt (i : Nat) (param : Param) (bound : Bound) : Prop :=
  match param.kind with
  | .required => ∃ value, f.offered arguments i param = [value] ∧ bound = .value value
  | .optional _ =>
    (∃ value, f.offered arguments i param = [value] ∧ bound = .value value) ∨
      f.offered arguments i param = [] ∧ bound = .value (f.defaults[i]?.join.getD .none)
  | .rest =>
    bound = .value (.tuple (if (f.decl.params.take i).any Param.isRest then []
      else f.surplus arguments))
  | .restNamed =>
    bound = if (f.decl.params.take i).any Param.isRestNamed then .value .none
      else .remaining (f.unknown arguments)

/-- What the parameters of a function are bound to in a call that is accepted. -/
structure Binds (bound : List (String × Bound)) : Prop where
  surplus : f.surplus arguments = [] ∨ f.decl.params.any Param.isRest = true
  unknown : f.unknown arguments = [] ∨ f.decl.params.any Param.isRestNamed = true
  length : bound.length = f.decl.params.length
  each : ∀ i param, f.decl.params[i]? = some param →
    ∃ b, bound[i]? = some (param.name, b) ∧ f.BindsAt arguments i param b

end Function

namespace Binding

/-! ## Slots -/

theorem toList_inj {slot slot' : Option Value} (same : slot.toList = slot'.toList) :
    slot = slot' := by
  cases slot <;> cases slot' <;> simp_all

theorem slots_inj {slots slots' : List Slot}
    (same : slots.map Option.toList = slots'.map Option.toList) : slots = slots' :=
  (List.map_inj_right fun _ _ => toList_inj).mp same

/-- One value at most goes into a slot. -/
theorem toList_head? {offer : List Value} (few : offer.length ≤ 1) :
    offer.head?.toList = offer := by
  match offer, few with
  | [], _ | [_], _ => rfl

/-! ## Positional arguments -/

section Positional

variable {param : Param} {params : List Param} {values : List Value}

theorem leading_of_own (own : param.isOwn = true) :
    Param.leading (param :: params) = Param.leading params + 1 := by
  simp [Param.leading, own]

theorem leading_of_collecting (collecting : param.isOwn = false) :
    Param.leading (param :: params) = 0 := by
  simp [Param.leading, collecting]

theorem length_positionalSlots :
    (positionalSlots params values).1.length = params.length := by
  induction params generalizing values with
  | nil => rfl
  | cons param params ih =>
    unfold positionalSlots
    split
    · cases values with
      | nil => simp
      | cons value values => simp [ih]
    · simp

theorem left_positionalSlots :
    (positionalSlots params values).2 = values.drop (Param.leading params) := by
  induction params generalizing values with
  | nil => rfl
  | cons param params ih =>
    unfold positionalSlots
    cases own : param.isOwn with
    | false =>
      rw [leading_of_collecting own]
      rfl
    | true =>
      rw [leading_of_own own]
      cases values with
      | nil => rfl
      | cons value values => exact ih

theorem getElem?_empty {i : Nat} (inside : i < params.length) :
    (params.map fun _ => (none : Slot))[i]? = some none := by
  rw [List.getElem?_map, List.getElem?_eq_getElem inside]
  rfl

/-- The parameters before the first collecting one take the positional arguments in order. -/
theorem getElem?_positionalSlots {i : Nat} (inside : i < params.length) :
    (positionalSlots params values).1[i]?
      = some (if i < Param.leading params then values[i]? else none) := by
  induction params generalizing values i with
  | nil => cases inside
  | cons param params ih =>
    unfold positionalSlots
    cases own : param.isOwn with
    | false =>
      rw [leading_of_collecting own]
      exact @getElem?_empty (param :: params) i inside
    | true =>
      rw [leading_of_own own]
      cases values with
      | nil =>
        refine (@getElem?_empty (param :: params) i inside).trans ?_
        simp
      | cons value values =>
        cases i with
        | zero => rfl
        | succ i =>
          have rest := @ih values i (Nat.lt_of_succ_lt_succ inside)
          simp only [Nat.add_lt_add_iff_right, List.getElem?_cons_succ]
          exact rest

end Positional

/-! ## Named arguments -/

section Named

variable {function name : String} {value : Value} {params : List Param} {slots : List Slot}

/-- What is in the slots, with the named arguments that belong to the parameters behind it. -/
def offers (named : List (String × Value)) (params : List Param) (slots : List Slot) :
    List (List Value) :=
  List.zipWith (fun param slot => slot.toList ++ param.valuesIn named) params slots

theorem offers_cons (named : List (String × Value)) (param : Param) (slot : Slot) :
    offers named (param :: params) (slot :: slots)
      = (slot.toList ++ param.valuesIn named) :: offers named params slots :=
  rfl

theorem valuesIn_nil (param : Param) : param.valuesIn [] = [] := by
  unfold Param.valuesIn
  split <;> rfl

theorem valuesIn_cons (param : Param) (named : List (String × Value)) :
    param.valuesIn ((name, value) :: named)
      = (if param.isOwn && param.name = name then [value] else []) ++ param.valuesIn named := by
  unfold Param.valuesIn Arguments.valuesOf
  cases param.isOwn with
  | false => rfl
  | true =>
    by_cases same : param.name = name
    · simp [same]
    · simp [same, Ne.symm same]

theorem valuesIn_append (param : Param) (named : List (String × Value)) :
    param.valuesIn ((name, value) :: named)
      = param.valuesIn [(name, value)] ++ param.valuesIn named := by
  rw [valuesIn_cons, valuesIn_cons, valuesIn_nil, List.append_nil]

theorem valuesIn_of_unknown {param : Param} {named : List (String × Value)}
    (member : param ∈ params) (unknown : Param.areNamed params name = false) :
    param.valuesIn ((name, value) :: named) = param.valuesIn named := by
  have other := List.any_eq_false.mp unknown param member
  rw [valuesIn_cons, if_neg other]
  rfl

theorem offers_of_unknown {named : List (String × Value)}
    (unknown : Param.areNamed params name = false) (slots : List Slot) :
    offers ((name, value) :: named) params slots = offers named params slots := by
  induction params generalizing slots with
  | nil => rfl
  | cons param params ih =>
    cases slots with
    | nil => rfl
    | cons slot slots =>
      have rest : Param.areNamed params name = false := by
        rw [Param.areNamed, List.any_cons, Bool.or_eq_false_iff] at unknown
        exact unknown.2
      rw [offers_cons, offers_cons, valuesIn_of_unknown (.head _) unknown, ih rest]

theorem offers_nil (counted : slots.length = params.length) :
    offers [] params slots = slots.map Option.toList := by
  induction params generalizing slots with
  | nil =>
    rw [List.eq_nil_of_length_eq_zero counted]
    rfl
  | cons param params ih =>
    cases slots with
    | nil => cases counted
    | cons slot slots =>
      rw [offers_cons, valuesIn_nil, List.append_nil, ih (Nat.succ.inj counted)]
      rfl

theorem fillNamed_of_unknown (unknown : Param.areNamed params name = false) (slots : List Slot) :
    fillNamed function name value params slots = .ok none := by
  induction params generalizing slots with
  | nil => rfl
  | cons param params ih =>
    cases slots with
    | nil => rfl
    | cons slot slots =>
      rw [Param.areNamed, List.any_cons, Bool.or_eq_false_iff] at unknown
      unfold fillNamed
      rw [if_neg (by rw [unknown.1]; exact Bool.false_ne_true), ih unknown.2]
      rfl

theorem not_areNamed {params : List Param} (absent : name ∉ params.map Param.name) :
    Param.areNamed params name = false := by
  refine List.any_eq_false.mpr fun param member here => absent ?_
  obtain ⟨-, same⟩ := Bool.and_eq_true_iff.mp here
  exact of_decide_eq_true same ▸ List.mem_map_of_mem member

/-- Some slots are filled as a named argument is offered. -/
def Fills (name : String) (value : Value) (params : List Param) (slots : List Slot)
    (outcome : Option (List Slot)) : Prop :=
  ∃ filled, outcome = some filled ∧
    filled.map Option.toList = offers [(name, value)] params slots

section First

variable {param : Param} {slot : Slot} {outcome : Option (List Slot)}

theorem fillNamed_here_iff (here : (param.isOwn && param.name = name) = true)
    (unknown : Param.areNamed params name = false) (counted : slots.length = params.length) :
    fillNamed function name value (param :: params) (slot :: slots) = .ok outcome ↔
      Fills name value (param :: params) (slot :: slots) outcome := by
  unfold Fills fillNamed
  rw [offers_cons, valuesIn_cons, valuesIn_nil, List.append_nil, if_pos here, if_pos here,
    offers_of_unknown unknown, offers_nil counted]
  cases slot with
  | some taken =>
    refine ⟨nofun, ?_⟩
    rintro ⟨filled, -, filling⟩
    obtain ⟨first, others, rfl, two, -⟩ := List.map_eq_cons_iff.mp filling
    cases first <;> cases two
  | none =>
    constructor
    · rintro ⟨⟩
      exact ⟨_, rfl, rfl⟩
    · rintro ⟨filled, rfl, filling⟩
      have same : filled = some value :: slots := slots_inj filling
      rw [same]

theorem fillNamed_behind_iff (other : ¬ (param.isOwn && param.name = name) = true)
    (behind : ∀ outcome, fillNamed function name value params slots = .ok outcome ↔
      Fills name value params slots outcome) :
    fillNamed function name value (param :: params) (slot :: slots) = .ok outcome ↔
      Fills name value (param :: params) (slot :: slots) outcome := by
  unfold Fills fillNamed
  rw [offers_cons, valuesIn_cons, valuesIn_nil, List.append_nil, if_neg other, if_neg other,
    List.append_nil]
  cases found : fillNamed function name value params slots with
  | error fault =>
    refine ⟨nofun, ?_⟩
    rintro ⟨filled, -, filling⟩
    obtain ⟨first, others, rfl, -, filling'⟩ := List.map_eq_cons_iff.mp filling
    have fits := (behind (some others)).mpr ⟨others, rfl, filling'⟩
    rw [found] at fits
    cases fits
  | ok outcome' =>
    obtain ⟨others, rfl, filling'⟩ := (behind outcome').mp found
    constructor
    · rintro ⟨⟩
      exact ⟨_, rfl, congrArg (slot.toList :: ·) filling'⟩
    · rintro ⟨filled, rfl, filling⟩
      have same : filled = slot :: others :=
        slots_inj (filling.trans (congrArg (slot.toList :: ·) filling'.symm))
      rw [same]
      rfl

end First

/-- A named argument that belongs to a parameter is added to what is offered to it, if there is
nothing yet. -/
theorem fillNamed_iff (distinct : (params.map Param.name).Nodup)
    (counted : slots.length = params.length) (known : Param.areNamed params name = true)
    (outcome : Option (List Slot)) :
    fillNamed function name value params slots = .ok outcome ↔
      Fills name value params slots outcome := by
  induction params generalizing slots outcome with
  | nil => cases known
  | cons param params ih =>
    cases slots with
    | nil => cases counted
    | cons slot slots =>
      have counted' := Nat.succ.inj counted
      rw [List.map_cons, List.nodup_cons] at distinct
      by_cases here : (param.isOwn && param.name = name) = true
      · obtain ⟨-, same⟩ := Bool.and_eq_true_iff.mp here
        have absent := of_decide_eq_true same ▸ distinct.1
        exact fillNamed_here_iff here (not_areNamed absent) counted'
      · rw [Param.areNamed, List.any_cons, Bool.or_eq_true_iff] at known
        exact fillNamed_behind_iff here (ih distinct.2 counted' (known.resolve_left here))

/-- What is offered may be put into the slots bit by bit. -/
theorem offers_of_filled {named : List (String × Value)} {filled : List Slot}
    (filling : filled.map Option.toList = offers [(name, value)] params slots) :
    offers named params filled = offers ((name, value) :: named) params slots := by
  induction params generalizing slots filled with
  | nil => rfl
  | cons param params ih =>
    cases slots with
    | nil =>
      rw [List.map_eq_nil_iff.mp filling]
      rfl
    | cons slot slots =>
      obtain ⟨first, others, rfl, here, there⟩ := List.map_eq_cons_iff.mp filling
      rw [offers_cons, offers_cons, ih there, here, List.append_assoc, ← valuesIn_append]

/-- Where all that is offered fits, so does a part of it. -/
theorem exists_filled {named : List (String × Value)} {filled : List Slot}
    (filling : filled.map Option.toList = offers ((name, value) :: named) params slots) :
    ∃ filled : List Slot, filled.map Option.toList = offers [(name, value)] params slots := by
  induction params generalizing slots filled with
  | nil => exact ⟨[], rfl⟩
  | cons param params ih =>
    cases slots with
    | nil => exact ⟨[], rfl⟩
    | cons slot slots =>
      rw [offers_cons, valuesIn_append, ← List.append_assoc] at filling
      obtain ⟨first, others, rfl, here, there⟩ := List.map_eq_cons_iff.mp filling
      obtain ⟨others', filling'⟩ := ih there
      have few : (slot.toList ++ param.valuesIn [(name, value)]).length ≤ 1 := by
        have all : first.toList.length ≤ 1 := Option.length_toList_le
        rw [here, List.length_append] at all
        exact Nat.le_of_add_right_le all
      exact ⟨_ :: others', congrArg₂ List.cons (toList_head? few) filling'⟩

section All

variable {collects : Bool} {named left : List (String × Value)} {filled : List Slot}

theorem fillAllNamed_of_unknown (unknown : Param.areNamed params name = false) :
    fillAllNamed function collects params ((name, value) :: named) slots = .ok (filled, left) ↔
      collects = true ∧ ∃ others, left = (name, value) :: others ∧
        fillAllNamed function collects params named slots = .ok (filled, others) := by
  rw [fillAllNamed, fillNamed_of_unknown unknown]
  cases collects with
  | false => exact ⟨nofun, nofun⟩
  | true =>
    dsimp only
    rw [if_pos rfl]
    cases fillAllNamed function true params named slots with
    | error fault => exact ⟨nofun, nofun⟩
    | ok outcome =>
      constructor
      · rintro ⟨⟩
        exact ⟨rfl, _, rfl, rfl⟩
      · rintro ⟨-, _, rfl, ⟨⟩⟩
        rfl

/-- All named arguments are added to what is offered to the parameters, or are left over. -/
theorem fillAllNamed_iff (distinct : (params.map Param.name).Nodup)
    (counted : slots.length = params.length) :
    fillAllNamed function collects params named slots = .ok (filled, left) ↔
      filled.map Option.toList = offers named params slots ∧
        left = named.filter (fun entry => !Param.areNamed params entry.1) ∧
        (left = [] ∨ collects = true) := by
  induction named generalizing slots filled left with
  | nil =>
    rw [offers_nil counted, fillAllNamed]
    constructor
    · rintro ⟨⟩
      exact ⟨rfl, rfl, .inl rfl⟩
    · rintro ⟨filling, rfl, -⟩
      rw [slots_inj filling]
      rfl
  | cons entry named ih =>
    obtain ⟨name, value⟩ := entry
    cases known : Param.areNamed params name with
    | false =>
      rw [fillAllNamed_of_unknown known, offers_of_unknown known,
        List.filter_cons_of_pos (by simp [known])]
      constructor
      · rintro ⟨collects, others, rfl, ran⟩
        obtain ⟨filling, rfl, -⟩ := (ih counted).mp ran
        exact ⟨filling, rfl, .inr collects⟩
      · rintro ⟨filling, rfl, none | collects⟩
        · cases none
        · exact ⟨collects, _, rfl, (ih counted).mpr ⟨filling, rfl, .inr collects⟩⟩
    | true =>
      rw [List.filter_cons_of_neg (by simp [known]), fillAllNamed]
      have fills := @fillNamed_iff function name value params slots distinct counted known
      cases first : fillNamed function name value params slots with
      | error fault =>
        refine ⟨nofun, ?_⟩
        rintro ⟨filling, -, -⟩
        obtain ⟨filled', filling'⟩ := exists_filled filling
        have fits := (fills _).mpr ⟨filled', rfl, filling'⟩
        rw [first] at fits
        cases fits
      | ok outcome =>
        obtain ⟨filled', rfl, filling'⟩ := (fills outcome).mp first
        have counted' : filled'.length = params.length := by
          rw [← List.length_map Option.toList, filling', offers, List.length_zipWith, counted,
            Nat.min_self]
        dsimp only
        rw [ih counted', offers_of_filled filling']

end All

end Named

/-! ## What parameters are bound to -/

section Final

variable {function : String} {extra : List Value} {left : Option (List (String × Value))}
  {param : Param} {params : List Param} {slot default : Option Value} {slots : List Slot}
  {defaults : List (Option Value)} {bound : List (String × Bound)}

/-- What a parameter is bound to in the end, if it is not left without a value. -/
def final? (extra : List Value) (left : Option (List (String × Value))) (param : Param)
    (slot default : Option Value) : Option Bound :=
  match param.kind with
  | .required => slot.map .value
  | .optional _ => some (.value (slot.getD (default.getD .none)))
  | .rest => some (.value (.tuple extra))
  | .restNamed => some (collected left)

theorem bindSlots_cons (empty : param.isOwn = false → slot = none) :
    bindSlots function extra left (param :: params) (slot :: slots) (default :: defaults)
      = match final? extra left param slot default with
        | none => .error (.missing function param.name)
        | some first =>
          (bindSlots function (if param.isRest then [] else extra)
            (if param.isRestNamed then none else left) params slots defaults).map
              ((param.name, first) :: ·) := by
  obtain ⟨name, pos, kind⟩ := param
  cases kind with
  | required | optional => cases slot <;> rfl
  | rest | restNamed =>
    cases empty rfl
    rfl

theorem bindSlots_cons_iff (empty : param.isOwn = false → slot = none) :
    bindSlots function extra left (param :: params) (slot :: slots) (default :: defaults)
        = .ok bound ↔
      ∃ first rest, final? extra left param slot default = some first ∧
        bindSlots function (if param.isRest then [] else extra)
          (if param.isRestNamed then none else left) params slots defaults = .ok rest ∧
        bound = (param.name, first) :: rest := by
  rw [bindSlots_cons empty]
  cases final? extra left param slot default with
  | none => exact ⟨nofun, fun ⟨_, _, absent, _⟩ => nomatch absent⟩
  | some first =>
    dsimp only
    cases bindSlots function (if param.isRest then [] else extra)
      (if param.isRestNamed then none else left) params slots defaults with
    | error fault => exact ⟨nofun, fun ⟨_, _, _, ran, _⟩ => nomatch ran⟩
    | ok rest =>
      constructor
      · rintro ⟨⟩
        exact ⟨first, rest, rfl, rfl, rfl⟩
      · rintro ⟨_, _, ⟨⟩, ⟨⟩, rfl⟩
        rfl

/-- What is left over for a collecting parameter behind another parameter. -/
theorem left_cons {α : Type} (collects : Param → Bool) (nothing all : α) (i : Nat) :
    (if ((param :: params).take (i + 1)).any collects then nothing else all)
      = if (params.take i).any collects then nothing
        else if collects param then nothing else all := by
  rw [List.take_succ_cons, List.any_cons]
  cases collects param <;> cases (params.take i).any collects <;> rfl

theorem bindSlots_iff (counted : slots.length = params.length)
    (counted' : defaults.length = params.length)
    (empty : ∀ (i : Nat) (param : Param), params[i]? = some param → param.isOwn = false →
      slots[i]?.join = none) :
    bindSlots function extra left params slots defaults = .ok bound ↔
      bound.length = params.length ∧ ∀ i param, params[i]? = some param →
        ∃ b, bound[i]? = some (param.name, b) ∧
          final? (if (params.take i).any Param.isRest then [] else extra)
            (if (params.take i).any Param.isRestNamed then none else left) param slots[i]?.join
            defaults[i]?.join = some b := by
  induction params generalizing extra left slots defaults bound with
  | nil =>
    unfold bindSlots
    constructor
    · rintro ⟨⟩
      exact ⟨rfl, fun i param at_ => by cases at_⟩
    · rintro ⟨none, -⟩
      rw [List.eq_nil_of_length_eq_zero none]
  | cons param params ih =>
    cases slots with
    | nil => cases counted
    | cons slot slots =>
      cases defaults with
      | nil => cases counted'
      | cons default defaults =>
        have rest {extra : List Value} {left : Option (List (String × Value))}
            {bound : List (String × Bound)} := @ih extra left slots defaults bound
          (Nat.succ.inj counted) (Nat.succ.inj counted') fun i param at_ => empty (i + 1) param at_
        have here : param.isOwn = false → slot = none := empty 0 param rfl
        rw [bindSlots_cons_iff here]
        constructor
        · rintro ⟨first, others, final, ran, rfl⟩
          obtain ⟨length, each⟩ := rest.mp ran
          refine ⟨congrArg Nat.succ length, fun i other at_ => ?_⟩
          cases i with
          | zero =>
            cases at_
            exact ⟨first, rfl, final⟩
          | succ i =>
            rw [left_cons, left_cons]
            exact each i other at_
        · rintro ⟨length, each⟩
          cases bound with
          | nil => cases length
          | cons entry others =>
            obtain ⟨first, here, final⟩ := each 0 param rfl
            cases here
            refine ⟨first, others, final, rest.mpr ⟨Nat.succ.inj length, ?_⟩, rfl⟩
            intro i other at_
            have there := each (i + 1) other at_
            rw [left_cons, left_cons] at there
            exact there

end Final

end Binding

namespace Function

open Binding

variable {f : Function Value} {arguments : Arguments} {bound : List (String × Bound)} {i : Nat}
  {param : Param}

/-- The parameters before the first collecting one have an argument of their own. -/
theorem own_of_lt_leading {params : List Param} (at_ : params[i]? = some param)
    (leads : i < Param.leading params) : param.isOwn = true := by
  have inside : i < (params.takeWhile Param.isOwn).length := leads
  have same := (List.takeWhile_prefix Param.isOwn).getElem inside
  rw [(List.getElem?_eq_some_iff.mp at_).2] at same
  exact List.mem_takeWhile_imp (same ▸ List.getElem_mem inside)

theorem offered_of_collecting (at_ : f.decl.params[i]? = some param)
    (collecting : param.isOwn = false) : f.offered arguments i param = [] := by
  have behind : ¬ i < Param.leading f.decl.params := fun leads => by
    rw [own_of_lt_leading at_ leads] at collecting
    cases collecting
  rw [offered, if_neg behind, Param.valuesIn, collecting]
  rfl

/-- The offers are what is put into the slots of the parameters. -/
theorem getElem?_offers (at_ : f.decl.params[i]? = some param) :
    (offers arguments.named f.decl.params
      (positionalSlots f.decl.params arguments.positional).1)[i]?
        = some (f.offered arguments i param) := by
  have inside := (List.getElem?_eq_some_iff.mp at_).1
  rw [offers, List.getElem?_zipWith, at_, getElem?_positionalSlots inside]
  rfl

theorem toList_filled {filled : List Slot} (filling : filled.map Option.toList
      = offers arguments.named f.decl.params
        (positionalSlots f.decl.params arguments.positional).1)
    (at_ : f.decl.params[i]? = some param) :
    filled[i]?.join.toList = f.offered arguments i param := by
  have here := @getElem?_offers f arguments i param at_
  rw [← filling, List.getElem?_map] at here
  obtain ⟨slot, there, same⟩ := Option.map_eq_some_iff.mp here
  rw [there, ← same]
  rfl

/-- What a parameter is bound to is determined by what it is offered and by what is left over. -/
theorem final?_iff {slot : Slot} (holds : slot.toList = f.offered arguments i param) {b : Bound} :
    final? (if (f.decl.params.take i).any Param.isRest then [] else f.surplus arguments)
        (if (f.decl.params.take i).any Param.isRestNamed then none
          else some (f.unknown arguments)) param slot f.defaults[i]?.join = some b ↔
      f.BindsAt arguments i param b := by
  unfold final? BindsAt
  rw [← holds]
  cases param.kind with
  | required => cases slot <;> simp [eq_comm]
  | optional => cases slot <;> simp [eq_comm]
  | rest => exact Option.some_inj.trans eq_comm
  | restNamed =>
    refine Option.some_inj.trans (eq_comm.trans ?_)
    split <;> rfl

/-- With the offers in the slots, the parameters are bound as the offers say. -/
theorem bindSlots_filled_iff (counted : f.defaults.length = f.decl.params.length)
    {filled : List Slot} (filling : filled.map Option.toList
      = offers arguments.named f.decl.params
        (positionalSlots f.decl.params arguments.positional).1) :
    bindSlots f.decl.name (f.surplus arguments) (some (f.unknown arguments)) f.decl.params filled
        f.defaults = .ok bound ↔
      bound.length = f.decl.params.length ∧ ∀ i param, f.decl.params[i]? = some param →
        ∃ b, bound[i]? = some (param.name, b) ∧ f.BindsAt arguments i param b := by
  have counted' : filled.length = f.decl.params.length := by
    rw [← List.length_map Option.toList, filling, offers, List.length_zipWith,
      length_positionalSlots, Nat.min_self]
  rw [bindSlots_iff counted' counted fun i param at_ collecting => ?_]
  · refine and_congr_right fun _ => forall₃_congr fun i param at_ => ?_
    refine exists_congr fun b => and_congr_right fun _ => ?_
    exact final?_iff (toList_filled filling at_)
  · have none := toList_filled filling at_
    rw [offered_of_collecting at_ collecting] at none
    exact Option.toList_eq_nil_iff.mp none

/-- A parameter that is bound is offered one value at most. -/
theorem length_offered_le (at_ : f.decl.params[i]? = some param) {b : Bound}
    (binds : f.BindsAt arguments i param b) : (f.offered arguments i param).length ≤ 1 := by
  unfold BindsAt at binds
  have collecting (none : param.isOwn = false) : (f.offered arguments i param).length ≤ 1 := by
    rw [offered_of_collecting at_ none]
    exact Nat.zero_le _
  obtain ⟨name, pos, kind⟩ := param
  cases kind with
  | required =>
    obtain ⟨value, one, -⟩ := binds
    rw [one]
    exact Nat.le_refl _
  | optional =>
    rcases binds with ⟨value, one, -⟩ | ⟨none, -⟩
    · rw [one]
      exact Nat.le_refl _
    · rw [none]
      exact Nat.zero_le _
  | rest | restNamed => exact collecting rfl

theorem Binds.exists_filled (binds : f.Binds arguments bound) :
    ∃ filled : List Slot, filled.map Option.toList = offers arguments.named f.decl.params
      (positionalSlots f.decl.params arguments.positional).1 := by
  refine ⟨(offers arguments.named f.decl.params
    (positionalSlots f.decl.params arguments.positional).1).map List.head?, ?_⟩
  rw [List.map_map]
  refine (List.map_congr_left fun offer member => ?_).trans (List.map_id _)
  obtain ⟨i, there⟩ := List.mem_iff_getElem?.mp member
  have inside : i < f.decl.params.length := by
    have inside := (List.getElem?_eq_some_iff.mp there).1
    rw [offers, List.length_zipWith] at inside
    exact Nat.lt_of_lt_of_le inside (Nat.min_le_left _ _)
  have at_ := List.getElem?_eq_getElem inside
  obtain ⟨b, -, bindsHere⟩ := binds.each i _ at_
  rw [getElem?_offers at_] at there
  cases there
  exact toList_head? (length_offered_le at_ bindsHere)

/-- A call is accepted, and binds the parameters, as the offers say. -/
theorem bind_iff (distinct : (f.decl.params.map Param.name).Nodup)
    (counted : f.defaults.length = f.decl.params.length) :
    f.bind arguments = .ok bound ↔ f.Binds arguments bound := by
  have fills {filled : List Slot} {left : List (String × Value)} :=
    @fillAllNamed_iff f.decl.name f.decl.params
      (positionalSlots f.decl.params arguments.positional).1 (f.decl.params.any Param.isRestNamed)
      arguments.named left filled distinct length_positionalSlots
  unfold Function.bind
  dsimp only
  rw [left_positionalSlots]
  split
  · rename_i refused
    obtain ⟨some, noRest⟩ := refused
    refine ⟨nofun, fun binds => ?_⟩
    rcases binds.surplus with none | rest
    · exact absurd (List.isEmpty_iff.mpr none) some
    · exact absurd rest noRest
  · rename_i accepted
    have surplus : f.surplus arguments = [] ∨ f.decl.params.any Param.isRest = true := by
      by_contra neither
      obtain ⟨some, noRest⟩ := not_or.mp neither
      exact accepted ⟨fun none => some (List.isEmpty_iff.mp none), noRest⟩
    constructor
    · intro ran
      split at ran
      · cases ran
      · rename_i ranFill
        obtain ⟨filling, rfl, unknown⟩ := fills.mp ranFill
        obtain ⟨length, each⟩ := (bindSlots_filled_iff counted filling).mp ran
        exact ⟨surplus, unknown, length, each⟩
    · intro binds
      obtain ⟨filled, filling⟩ := binds.exists_filled
      rw [fills.mpr ⟨filling, rfl, binds.unknown⟩]
      exact (bindSlots_filled_iff counted filling).mpr ⟨binds.length, binds.each⟩

/-- In an accepted call a parameter is bound to what it is offered. -/
theorem Binds.keeps_offered (binds : f.Binds arguments bound)
    (at_ : f.decl.params[i]? = some param) {value : Value}
    (offered : value ∈ f.offered arguments i param) :
    bound[i]? = some (param.name, .value value) := by
  obtain ⟨b, there, bindsHere⟩ := binds.each i param at_
  have own : param.isOwn = true := by
    by_contra collecting
    rw [offered_of_collecting at_ (Bool.eq_false_iff.mpr collecting)] at offered
    cases offered
  rw [there]
  unfold BindsAt at bindsHere
  obtain ⟨name, pos, kind⟩ := param
  cases kind with
  | required =>
    obtain ⟨only, one, rfl⟩ := bindsHere
    rw [one] at offered
    rw [List.mem_singleton.mp offered]
  | optional =>
    rcases bindsHere with ⟨only, one, rfl⟩ | ⟨none, -⟩
    · rw [one] at offered
      rw [List.mem_singleton.mp offered]
    · rw [none] at offered
      cases offered
  | rest | restNamed => cases own

/-- The first parameter of a kind. -/
theorem exists_first {params : List Param} {collects : Param → Bool}
    (some_ : params.any collects = true) :
    ∃ i param, params[i]? = some param ∧ collects param = true ∧
      (params.take i).any collects = false := by
  induction params with
  | nil => cases some_
  | cons first params ih =>
    cases here : collects first with
    | true => exact ⟨0, first, rfl, here, rfl⟩
    | false =>
      rw [List.any_cons, here, Bool.false_or] at some_
      obtain ⟨i, param, at_, holds, none⟩ := ih some_
      refine ⟨i + 1, param, at_, holds, ?_⟩
      rw [List.take_succ_cons, List.any_cons, here, none]
      rfl

/-- In an accepted call the first collecting parameter takes the positional arguments left over. -/
theorem Binds.exists_surplus (binds : f.Binds arguments bound)
    (rest : f.decl.params.any Param.isRest = true) :
    ∃ name, (name, .value (.tuple (f.surplus arguments))) ∈ bound := by
  obtain ⟨i, param, at_, collects, first⟩ := exists_first rest
  obtain ⟨b, there, bindsHere⟩ := binds.each i param at_
  obtain ⟨name, pos, kind⟩ := param
  cases kind with
  | rest =>
    rw [BindsAt, Param.kind, first] at bindsHere
    rw [bindsHere] at there
    exact ⟨name, List.mem_of_getElem? there⟩
  | required | optional | restNamed => cases collects

/-- In an accepted call the first collecting parameter takes the named arguments left over. -/
theorem Binds.exists_unknown (binds : f.Binds arguments bound)
    (restNamed : f.decl.params.any Param.isRestNamed = true) :
    ∃ name, (name, .remaining (f.unknown arguments)) ∈ bound := by
  obtain ⟨i, param, at_, collects, first⟩ := exists_first restNamed
  obtain ⟨b, there, bindsHere⟩ := binds.each i param at_
  obtain ⟨name, pos, kind⟩ := param
  cases kind with
  | restNamed =>
    rw [BindsAt, Param.kind, first] at bindsHere
    rw [bindsHere] at there
    exact ⟨name, List.mem_of_getElem? there⟩
  | required | optional | rest => cases collects

/-- In an accepted call each positional argument is bound to the parameter in its place, or has its
place in the tuple of a collecting parameter. -/
theorem Binds.keeps_positional (binds : f.Binds arguments bound) {value : Value}
    (passed : arguments.positional[i]? = some value) :
    (∃ param, f.decl.params[i]? = some param ∧ bound[i]? = some (param.name, .value value)) ∨
      (f.surplus arguments)[i - Param.leading f.decl.params]? = some value ∧
        ∃ name, (name, .value (.tuple (f.surplus arguments))) ∈ bound := by
  by_cases leads : i < Param.leading f.decl.params
  · have inside : i < f.decl.params.length :=
      Nat.lt_of_lt_of_le leads (List.takeWhile_sublist _).length_le
    have at_ := List.getElem?_eq_getElem inside
    refine .inl ⟨_, at_, binds.keeps_offered at_ ?_⟩
    rw [offered, if_pos leads, passed]
    exact .head _
  · have there : (f.surplus arguments)[i - Param.leading f.decl.params]? = some value := by
      rw [Function.surplus, List.getElem?_drop, Nat.add_sub_cancel' (Nat.le_of_not_lt leads),
        passed]
    refine .inr ⟨there, binds.exists_surplus (binds.surplus.resolve_left fun none => ?_)⟩
    rw [none] at there
    cases there

/-- In an accepted call each named argument is bound to the parameter of its name, or is one of the
remaining ones of a collecting parameter. -/
theorem Binds.keeps_named (binds : f.Binds arguments bound) {name : String} {value : Value}
    (passed : (name, value) ∈ arguments.named) :
    (name, .value value) ∈ bound ∨
      (name, value) ∈ f.unknown arguments ∧
        ∃ collecting, (collecting, .remaining (f.unknown arguments)) ∈ bound := by
  cases known : Param.areNamed f.decl.params name with
  | true =>
    obtain ⟨param, member, here⟩ := List.any_eq_true.mp known
    obtain ⟨own, same⟩ := Bool.and_eq_true_iff.mp here
    obtain ⟨i, at_⟩ := List.mem_iff_getElem?.mp member
    have offered : value ∈ f.offered arguments i param := by
      refine List.mem_append_right _ ?_
      rw [Param.valuesIn, if_pos own]
      exact List.mem_map.mpr ⟨(name, value), List.mem_filter.mpr ⟨passed, by simpa using
        (of_decide_eq_true same).symm⟩, rfl⟩
    have there := binds.keeps_offered at_ offered
    rw [of_decide_eq_true same] at there
    exact .inl (List.mem_of_getElem? there)
  | false =>
    have unknown : (name, value) ∈ f.unknown arguments :=
      List.mem_filter.mpr ⟨passed, by simp [known]⟩
    refine .inr ⟨unknown, binds.exists_unknown (binds.unknown.resolve_left fun none => ?_)⟩
    rw [none] at unknown
    cases unknown

end Function

/-! ## Defaults -/

namespace Eval

theorem exists_of_bind {α β : Type} {act : Eval α} {next : α → Eval β} {m m' : Machine} {value : β}
    (ran : (act >>= next) m = .ok value m') :
    ∃ first between, act m = .ok first between ∧ next first between = .ok value m' := by
  cases first : act m with
  | ok value between => exact ⟨value, between, rfl, (bind_ok first).symm.trans ran⟩
  | error abort between =>
    rw [bind_error first] at ran
    cases ran

end Eval

section Defaults

variable {call : Caller} {scope : Scope}

theorem isSome_of_evalDefault {name : String} {pos : Position} {kind : ParamKind}
    {m m' : Machine} {default : Option Value}
    (ran : evalDefault call scope kind m = .ok default m') :
    default.isSome = (Param.mk name pos kind).isOptional := by
  rw [evalDefault.eq_def] at ran
  cases kind with
  | optional e =>
    obtain ⟨value, between, -, ran⟩ := Eval.exists_of_bind ran
    cases ran
    rfl
  | required | rest | restNamed =>
    cases ran
    rfl

/-- A function has a place for a default for each of its parameters, and a default for those that
are optional. -/
theorem defaults_of_evalDefaults (params : List Param) {m m' : Machine}
    {defaults : List (Option Value)} (ran : evalDefaults call scope params m = .ok defaults m') :
    List.Forall₂ (fun param default => default.isSome = param.isOptional) params defaults := by
  induction params generalizing m defaults with
  | nil =>
    rw [evalDefaults] at ran
    cases ran
    exact .nil
  | cons param params ih =>
    obtain ⟨name, pos, kind⟩ := param
    rw [evalDefaults] at ran
    obtain ⟨default, _, first, ran⟩ := Eval.exists_of_bind ran
    obtain ⟨others, _, later, ran⟩ := Eval.exists_of_bind ran
    cases ran
    exact .cons (isSome_of_evalDefault first) (ih later)

end Defaults

/-! ## Remaining named arguments -/

theorem Arguments.valuesOf_append_singleton (name other : String) (value : Value)
    (named : List (String × Value)) :
    valuesOf name (named ++ [(other, value)])
      = valuesOf name named ++ if other = name then [value] else [] := by
  unfold valuesOf
  by_cases same : other = name <;> simp [List.filter_append, same]

/-- A dict of named arguments keeps the last of several values of a name. -/
theorem DictCell.get?_ofBindings (named : Bindings Value) (name : String) :
    ((DictCell.ofBindings named).find? (.str name)).map DictEntry.value
      = (Arguments.valuesOf name named).getLast? := by
  suffices shows : ∃ map, (DictCell.ofBindings named).Shows map ∧
      ∀ name, map.get? (.str name) = (Arguments.valuesOf name named).getLast? by
    obtain ⟨map, shows_, stored⟩ := shows
    rw [shows_.get?, stored]
  induction named using List.reverseRecOn with
  | nil => exact ⟨.empty, shows_empty false, fun _ => rfl⟩
  | append_singleton named entry ih =>
    obtain ⟨other, value⟩ := entry
    obtain ⟨map, shows_, stored⟩ := ih
    have step : DictCell.ofBindings (named ++ [(other, value)])
        = (DictCell.ofBindings named).insert (.str other) (.str other) value := by
      unfold DictCell.ofBindings
      rw [List.foldl_append]
      rfl
    have hashes : (Value.str other).hashKey = .ok (.str other) := rfl
    rw [step]
    refine ⟨_, shows_.insert hashes value, fun name => ?_⟩
    rw [Arguments.valuesOf_append_singleton, OrderedMap.get?, OrderedMap.set_stored]
    by_cases same : other = name
    · subst same
      simp
    · rw [if_neg (by simpa using Ne.symm same), if_neg same, List.append_nil]
      exact stored name

/-- A function whose only parameter takes the remaining named arguments accepts a name twice. -/
example :
    (Function.mk (.mk "f" .nowhere [.mk "rest" .nowhere .restNamed] []) ⟨0⟩ [none] none "a").bind
        ⟨[], [("a", .int 1), ("a", .int 2)]⟩
      = .ok [("rest", .remaining [("a", .int 1), ("a", .int 2)])] :=
  rfl

end PixelApplet
