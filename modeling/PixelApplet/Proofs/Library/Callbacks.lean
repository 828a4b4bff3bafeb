import PixelApplet.Proofs.Evaluation.Routine
import PixelApplet.Proofs.Library.Routines

/-!
# Functions that call back, and functions of the host

Sorting, choosing an extreme and asserting a failure call what they were given.  They pass at most
one argument on, and with so few arguments no builtin function calls back again.  So of a call that
is open, at most two builtin functions are part.
-/

namespace PixelApplet

/-- At most one argument, without a name: so builtin functions call back. -/
def Arguments.IsPlain (arguments : Arguments) : Prop :=
  arguments.named = [] ∧ arguments.positional.length ≤ 1

theorem Arguments.isPlain_ofList (item : Value) : (Arguments.ofList [item]).IsPlain :=
  ⟨rfl, Nat.le_refl 1⟩

theorem Arguments.isPlain_empty : Arguments.empty.IsPlain :=
  ⟨rfl, Nat.zero_le 1⟩

theorem Arguments.IsPlain.cases {arguments : Arguments} (plain : arguments.IsPlain) :
    arguments = .empty ∨ ∃ item, arguments = .ofList [item] := by
  obtain ⟨positional, named⟩ := arguments
  obtain ⟨rfl, few⟩ := plain
  rcases positional with _ | ⟨item, _ | ⟨second, rest⟩⟩
  · exact .inl rfl
  · exact .inr ⟨item, rfl⟩
  · simp at few

section Plain

variable {arguments : Arguments} (call other : Value → Arguments → Eval Value)

/-- Without a key function nothing is called. -/
theorem Universe.keyed_none (items : List Value) :
    Universe.keyed call none items = Universe.keyed other none items := by
  induction items with
  | nil => rfl
  | cons item rest ih =>
    unfold Universe.keyed
    rw [ih]

theorem Universe.sorted_plain (plain : arguments.IsPlain) :
    Universe.sorted call arguments = Universe.sorted other arguments := by
  rcases plain.cases with rfl | ⟨item, rfl⟩
  · rfl
  · let r : Received := ⟨"sorted", [("iterable", some item), ("key", none), ("reverse", none)]⟩
    have received : receive "sorted" [.needed "iterable", .optional "key", .optional "reverse"]
        (.ofList [item]) = pure r := rfl
    have noKey : r.slot "key" = none := rfl
    unfold Universe.sorted
    rw [received, pure_bind, pure_bind, noKey]
    simp only [keyed_none call other]

theorem Universe.extreme_plain {function : String} {wanted : Ordering}
    (plain : arguments.IsPlain) :
    Universe.extreme call function wanted arguments
      = Universe.extreme other function wanted arguments := by
  have noKey : arguments.named.lookup "key" = none := by
    rw [plain.1]
    rfl
  unfold Universe.extreme
  simp only [noKey, keyed_none call other]

/-- Two arguments are needed. -/
theorem Assertions.fails_plain (plain : arguments.IsPlain) :
    Assertions.fails call arguments = Assertions.fails other arguments := by
  rcases plain.cases with rfl | ⟨item, rfl⟩ <;> rfl

/-- With so few arguments no builtin function calls back. -/
theorem Builtin.run_plain (b : Builtin Value) (plain : arguments.IsPlain) :
    b.run call arguments = b.run other arguments := by
  unfold Builtin.run
  cases b.action with
  | universal f =>
    cases f with
    | sorted => exact Universe.sorted_plain call other plain
    | max => exact Universe.extreme_plain call other plain
    | min => exact Universe.extreme_plain call other plain
    | _ => rfl
  | assert f =>
    cases f with
    | fails => exact Assertions.fails_plain call other plain
    | _ => rfl
  | _ => rfl

end Plain

/-- A function that the host provides: one by which it takes part in a run, or the one that keeps
something for later by the host's clock. -/
def Action.isHosted : Action → Bool
  | .host _ | .cache .set => true
  | _ => false

namespace Eval

variable {panics : Prop} {C : Conduct panics} {related : Relation} {function : String}
  {arguments : Arguments}

/-- Two callers concur in the calls that builtin functions make. -/
def ConcurOnCallbacks (C : Conduct panics) (call other : Value → Arguments → Eval Value) : Prop :=
  ∀ callee arguments, arguments.IsPlain →
    Concurs C (call callee arguments) (other callee arguments)

/-- Two callers make related calls where builtin functions call back. -/
def CallbacksWoven (related : Relation) (call other : Value → Arguments → Eval Value) : Prop :=
  ∀ callee arguments, arguments.IsPlain →
    Woven related (call callee arguments) (other callee arguments)

namespace Woven

variable {call other : Value → Arguments → Eval Value}

theorem keyed (woven : CallbacksWoven related call other) {key : Slot}
    (items : List Value) :
    Woven related (Universe.keyed call key items) (Universe.keyed other key items) := by
  induction items with
  | nil => exact (Routine.pure []).woven
  | cons item rest ih =>
    have more (k : Value) : Woven related
        (do return ⟨k, item⟩ :: (← Universe.keyed call key rest))
        (do return ⟨k, item⟩ :: (← Universe.keyed other key rest)) :=
      ih.bind fun _ => (Routine.pure _).woven
    unfold Universe.keyed
    dsimp only
    split
    · exact (Routine.pure item).woven.bind more
    · exact (Routine.pure item).woven.bind more
    · exact (woven _ _ (Arguments.isPlain_ofList item)).bind more

theorem sorted (woven : CallbacksWoven related call other) :
    Woven related (Universe.sorted call arguments) (Universe.sorted other arguments) := by
  refine Routine.receive.woven.bind fun r => Routine.iterate.woven.bind fun items => ?_
  refine (Routine.readHeap _).woven.bind fun backwards => ?_
  refine (keyed woven items).bind fun entries => ?_
  refine Routine.woven ?_
  grind

theorem extreme (woven : CallbacksWoven related call other) {wanted : Ordering} :
    Woven related (Universe.extreme call function wanted arguments)
      (Universe.extreme other function wanted arguments) := by
  -- Both sides choose the same items, without calling; only the keys of the items are called for.
  unfold Universe.extreme
  dsimp only
  split
  · refine (Routine.fail _).woven.bind fun _ : PUnit => ?_
    split
    all_goals
      refine Woven.bind (Routine.woven (by grind)) fun items => ?_
      exact (keyed woven items).bind fun entries => Routine.woven (by grind)
  · split
    all_goals
      refine Woven.bind (Routine.woven (by grind)) fun items => ?_
      exact (keyed woven items).bind fun entries => Routine.woven (by grind)

theorem fails (woven : CallbacksWoven related call other) :
    Woven related (Assertions.fails call arguments) (Assertions.fails other arguments) := by
  refine Routine.receive.woven.bind fun r => ?_
  split
  · refine Routine.matcher.woven.bind fun matcher => ?_
    refine (woven _ _ Arguments.isPlain_empty).attemptThen (fun _ => rfl) (fun _ => rfl)
      fun outcome => Routine.woven ?_
    grind
  · exact (Routine.fail _).woven

theorem universal (woven : CallbacksWoven related call other) (f : Universal) :
    Woven related (Universe.run call f arguments) (Universe.run other f arguments) := by
  by_cases callsBack : f = .sorted ∨ f = .max ∨ f = .min
  · rcases callsBack with rfl | rfl | rfl
    · exact sorted woven
    · exact extreme woven
    · exact extreme woven
  · rw [not_or, not_or] at callsBack
    have same : Universe.run call f arguments = Universe.run other f arguments := by
      cases f <;> first | rfl | simp at callsBack
    rw [same]
    exact (Routine.universal f callsBack).woven

theorem assertFunction (woven : CallbacksWoven related call other) (f : AssertFunction) :
    Woven related (Assertions.run call f arguments) (Assertions.run other f arguments) := by
  cases f with
  | fails => exact fails woven
  | _ =>
    refine Routine.woven ?_
    unfold Assertions.run
    grind

/-- A function that the host does not provide is woven from the calls that it makes. -/
theorem builtin (woven : CallbacksWoven related call other) (b : Builtin Value)
    (guest : b.action.isHosted = false) :
    Woven related (b.run call arguments) (b.run other arguments) := by
  unfold Builtin.run
  cases action : b.action with
  | universal f => exact universal woven f
  | assert f => exact assertFunction woven f
  | stringMethod m =>
    refine Routine.woven ?_
    dsimp only
    split
    · exact Routine.stringMethod m _ _
    · exact Routine.pure _
  | listMethod m =>
    refine Routine.woven ?_
    dsimp only
    split
    · exact Routine.listMethod m _ _
    · exact Routine.pure _
  | dictMethod m =>
    refine Routine.woven ?_
    dsimp only
    split
    · exact Routine.dictMethod m _ _
    · exact Routine.pure _
  | render f => exact (Routine.renderFunction f).woven
  | schema f => exact (Routine.schemaFunction f).woven
  | cache f =>
    cases f with
    | set => simp [action, Action.isHosted] at guest
    | get => exact Routine.cached.woven
  | decrypt => exact Routine.decrypt.woven
  | json f => exact (Routine.jsonFunction f).woven
  | base64 f => exact (Routine.base64Function f).woven
  | proto f => exact (Routine.protoFunction f).woven
  | buildMessage typeName fields => exact Routine.buildMessage.woven
  | math f => exact (Routine.mathFunction f).woven
  | random f => exact (Routine.randomFunction f).woven
  | pattern f => exact (Routine.patternFunction f).woven
  | readFile path source => exact Routine.readAll.woven
  | host f => simp [action, Action.isHosted] at guest

end Woven

/-- A function that the host does not provide concurs with itself when its callers do. -/
theorem Concurs.builtin {call other : Value → Arguments → Eval Value}
    (concur : ConcurOnCallbacks C call other) (b : Builtin Value)
    (guest : b.action.isHosted = false) :
    Concurs C (b.run call arguments) (b.run other arguments) :=
  (Woven.builtin (fun callee arguments plain => .of_related (concur callee arguments plain)) b
    guest).concurs

/-! ## Functions of the host -/

theorem told_cancelCell {m : Machine} {cell ref : CellRef} {reason first : String}
    (told : m.Told ref first) : (m.cancelCell cell reason).Told ref first := by
  unfold Machine.Told Machine.cancelCell at *
  dsimp only
  rw [Array.getD_eq_getD_getElem?, Array.getElem?_modify]
  rw [Array.getD_eq_getD_getElem?] at told
  split
  · cases stored : m.cells[ref.index]? with
    | none =>
      rw [stored] at told
      exact told
    | some old =>
      rw [stored] at told
      show (old.cancel reason).reason = some first
      have isTold : old.reason = some first := told
      rw [CancelCell.cancel, isTold]
  · exact told

theorem thread_cancelToken (m : Machine) (ref : TokenRef) (reason : String) :
    (m.cancelToken ref reason).thread = m.thread := by
  rw [Machine.cancelToken]
  generalize (m.token ref).cancel reason = cancelled
  obtain ⟨token, told⟩ := cancelled
  have telling (told : List CellRef) (m' : Machine) :
      (told.foldl (fun m cell => m.cancelCell cell reason) m').thread = m'.thread := by
    induction told generalizing m' with
    | nil => rfl
    | cons cell told ih => exact ih _
  exact telling told _

theorem untouched_cancelToken (m : Machine) (ref : TokenRef) (reason : String) :
    m.Untouched (m.cancelToken ref reason) := by
  rw [Machine.cancelToken]
  generalize (m.token ref).cancel reason = cancelled
  obtain ⟨token, told⟩ := cancelled
  have telling (told : List CellRef) (m' : Machine) (untouched : m.Untouched m') :
      m.Untouched (told.foldl (fun m cell => m.cancelCell cell reason) m') := by
    induction told generalizing m' with
    | nil => exact untouched
    | cons cell told ih =>
      exact ih _ (untouched.trans ⟨rfl, rfl, told_cancelCell, rfl⟩)
  exact telling told _ ⟨rfl, rfl, id, rfl⟩

namespace Modest

/-- What the host provides may fail. -/
theorem hosted {call : Value → Arguments → Eval Value} (b : Builtin Value)
    (hosted : b.action.isHosted = true) (allowed : panics) :
    Modest panics (b.run call arguments) := by
  unfold Builtin.run
  cases action : b.action with
  | host f =>
    cases f with
    | cancel =>
      refine bind Routine.receiveOne.modest fun _ => bind (readHeap _) fun reason => ?_
      refine bind (modify fun m => ?_) fun _ => pure _
      split
      · exact untouched_cancelToken _ _ _
      · exact .refl m
    | panic =>
      refine bind Routine.receiveOne.modest fun _ => bind (readHeap _) fun _ => ?_
      exact throw_panic allowed _
  | cache f =>
    cases f with
    | set =>
      refine bind Routine.receive.modest fun r => bind Routine.text.modest fun _ =>
        bind Routine.text.modest fun _ => bind Routine.int?.modest fun _ => ?_
      refine guarded (bind (read _) fun now => ?_)
      dsimp only
      split
      · exact bind (throw_panic allowed _) fun _ =>
          bind (modify fun _ => ⟨rfl, rfl, id, rfl⟩) fun _ => pure _
      · exact bind (modify fun _ => ⟨rfl, rfl, id, rfl⟩) fun _ => pure _
    | get => exact Routine.cached.modest
  | _ => simp [action, Action.isHosted] at hosted

end Modest

end Eval

end PixelApplet
