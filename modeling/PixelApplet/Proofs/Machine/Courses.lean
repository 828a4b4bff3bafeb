import Mathlib.Data.List.Forall2
import PixelApplet.Proofs.Evaluation.Posture
import PixelApplet.Proofs.Evaluation.Routine

/-!
# Courses of operations

An object of the machine is worked on by one operation after the other.  Between two operations
other things may happen, as long as they leave the object alone; an operation that fails ends with
an error, and the object is worked on further.

If every operation does to the object what a step of a pure model does to the state of the model,
and gives the answer of the model, then so does a course of any length.
-/

namespace PixelApplet

namespace Eval

variable {α β : Type} {m : Machine}

/-! ## What actions do on a given machine -/

theorem bind_run (act : Eval α) (next : α → Eval β) (m : Machine) :
    (act >>= next) m = match act m with
      | .ok value m' => next value m'
      | .error abort m' => .error abort m' := by
  cases ran : act m with
  | ok value m' => exact bind_ok ran
  | error abort m' => exact bind_error ran

/-- A result that may be refused with a message. -/
def answering (outcome : Except String α) (m : Machine) : EStateM.Result Abort Machine α :=
  match outcome with
  | .ok value => .ok value m
  | .error message => .error (.error (.ofMessage message)) m

theorem accept_run {ε : Type} (wording : ε → String) (result : Except ε α) (m : Machine) :
    Eval.accept wording result m = answering (result.mapError wording) m := by
  cases result <;> rfl

theorem operate_run (f : Heap → Value.Outcome α) (m : Machine) :
    Eval.operate f m = answering ((f m.heap).mapError OperatorFault.text) m :=
  accept_run _ _ _

theorem produce_value {f : Heap → Value.Outcome Made} {v : Value}
    (made : f m.heap = .ok (.value v)) : Eval.produce f m = .ok v m := by
  rw [Eval.produce, bind_run, operate_run, made]
  rfl

theorem produce_refused {f : Heap → Value.Outcome Made} {fault : OperatorFault}
    (refused : f m.heap = .error fault) : Eval.produce f m = Eval.fail fault.text m := by
  rw [Eval.produce, bind_run, operate_run, refused]
  rfl

theorem bind_of_ok {act : Eval α} {outcome : Except String α} {value : α}
    (ran : act m = answering outcome m) (accepted : outcome = .ok value) (next : α → Eval β) :
    (act >>= next) m = next value m := by
  rw [accepted] at ran
  exact bind_ok ran

theorem bind_of_error {act : Eval α} {outcome : Except String α} {message : String}
    (ran : act m = answering outcome m) (refused : outcome = .error message) (next : α → Eval β) :
    (act >>= next) m = .error (.error (.ofMessage message)) m := by
  rw [refused] at ran
  exact bind_error ran

theorem attempt_of_answering {act : Eval α} (outcome : Except String α) {m m' : Machine}
    (ran : act m = answering outcome m') :
    Eval.attempt act m = .ok (outcome.mapError EvalError.ofMessage) m' := by
  unfold attempt
  rw [ran]
  cases outcome <;> rfl

/-! ## What builtin functions receive on a given machine -/

theorem receive_of_unpack {function : String} {parameters : List Parameter} {arguments : Arguments}
    {slots : List Slot} (unpacked : arguments.unpack parameters = .ok slots) (m : Machine) :
    receive function parameters arguments m
      = .ok ⟨function, (parameters.map Parameter.name).zip slots⟩ m := by
  unfold receive
  rw [unpacked]
  rfl

theorem text?_of_slot {r : Received} {parameter : String} {text : Option String}
    (passed : (r.slot parameter).text parameter = .ok text) (m : Machine) :
    r.text? parameter m = .ok text m := by
  rw [Received.text?, passed]
  rfl

theorem int?_of_slot {r : Received} {parameter : String} {word : Option Int64}
    (passed : (r.slot parameter).int parameter = .ok word) (m : Machine) :
    r.int? parameter m = .ok word m := by
  rw [Received.int?, passed]
  rfl

end Eval

/-- An operation that was carried out. -/
structure Moment (ω : Type) where
  before : Machine
  operation : ω
  answer : Except EvalError Value
  after : Machine

/-- Operations one after the other, and between them what leaves their object alone. -/
inductive Course {ω : Type} (run : ω → Eval Value) (apart : Machine → Machine → Prop) :
    Machine → List (Moment ω) → Machine → Prop where
  | done (m : Machine) : Course run apart m [] m
  | operate {m m' m'' : Machine} {operation : ω} {answer : Except EvalError Value}
    {rest : List (Moment ω)} (ran : Eval.attempt (run operation) m = .ok answer m')
    (after : Course run apart m' rest m'') :
    Course run apart m (⟨m, operation, answer, m'⟩ :: rest) m''
  | meanwhile {m m' m'' : Machine} {moments : List (Moment ω)} (aside : apart m m')
    (after : Course run apart m' moments m'') : Course run apart m moments m''

namespace Course

variable {ω σ τ : Type} {run : ω → Eval Value} {apart : Machine → Machine → Prop}

/-- The answers of a pure model to operations one after the other, each read on its own machine, and
the state of the model in the end. -/
def replay (step : Machine → ω → σ → τ × σ) : List (Moment ω) → σ → List τ × σ
  | [], state => ([], state)
  | moment :: rest, state =>
    let (answer, next) := step moment.before moment.operation state
    let (answers, last) := replay step rest next
    (answer :: answers, last)

/-- Operations on an object that shows the state of a model can be carried out one after the other;
and in every course of operations, they answer as the model does, and the object shows the state
that the model has in the end. -/
structure Refines (run : ω → Eval Value) (apart : Machine → Machine → Prop)
    (shows : Machine → σ → Prop) (step : Machine → ω → σ → τ × σ) (agrees : Moment ω → τ → Prop) :
    Prop where
  exists_course : ∀ {m : Machine} {state : σ}, shows m state → ∀ operations : List ω,
    ∃ moments m', Course run apart m moments m' ∧ moments.map Moment.operation = operations
  replays : ∀ {m m' : Machine} {state : σ} {moments : List (Moment ω)}, shows m state →
    Course run apart m moments m' →
      shows m' (replay step moments state).2
        ∧ List.Forall₂ agrees moments (replay step moments state).1

/-- It is enough that every operation ends with the answer and in the state of the model. -/
theorem refines {shows : Machine → σ → Prop} {step : Machine → ω → σ → τ × σ}
    {agrees : Moment ω → τ → Prop}
    (operates : ∀ {m : Machine} {state : σ} (operation : ω), shows m state →
      ∃ answer m', Eval.attempt (run operation) m = .ok answer m'
        ∧ shows m' (step m operation state).2
        ∧ agrees ⟨m, operation, answer, m'⟩ (step m operation state).1)
    (stays : ∀ {m m' : Machine} {state : σ}, shows m state → apart m m' → shows m' state) :
    Refines run apart shows step agrees where
  exists_course {m state} shown operations := by
    induction operations generalizing m state with
    | nil => exact ⟨[], m, .done m, rfl⟩
    | cons operation rest ih =>
      obtain ⟨answer, m', ran, shown', _⟩ := operates operation shown
      obtain ⟨moments, last, course, same⟩ := ih shown'
      exact ⟨_, last, .operate ran course, congrArg (operation :: ·) same⟩
  replays {m m' state moments} shown course := by
    induction course generalizing state with
    | done m => exact ⟨shown, .nil⟩
    | @operate m m' _ operation answer rest ran after ih =>
      obtain ⟨answered, reached, ran', shown', agrees'⟩ := operates operation shown
      rw [ran'] at ran
      cases ran
      obtain ⟨last, answers⟩ := ih shown'
      exact ⟨last, .cons agrees' answers⟩
    | meanwhile aside after ih => exact ih (stays shown aside)

end Course

end PixelApplet
