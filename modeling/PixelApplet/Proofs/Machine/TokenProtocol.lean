import PixelApplet.Machine.Cancellation
import Mathlib.Data.List.Induction
import Mathlib.Data.List.Nodup

/-!
# The protocol of cancellation tokens

What can be done with a token is to give it a callback, to cancel it, and to drop the registration
that a callback got; whose copy of the token is used makes no difference.  A callback that uses the
token itself does so after the cancellation that runs it, so what it does is one more operation of
the sequence.

The callbacks are numbered in the order in which they were given to the token.  Which of them run,
when, and with which reason, can be read off the sequence of operations alone: it depends on the
first cancellation, and on which registrations are held at that moment.
-/

namespace PixelApplet.CancellationToken

/-- What is done with a token. -/
inductive Operation where
  /-- The next callback is given to the token. -/
  | watch
  | cancel (reason : String)
  /-- The registration that a callback got is dropped. -/
  | drop (callback : Nat)
  deriving DecidableEq

/-- A token, and the registrations that callbacks got from it, in the order of the callbacks. -/
structure Usage where
  token : CancellationToken Nat
  registrations : List Registered

/-- A callback that runs, and the reason that it is given. -/
structure Told where
  callback : Nat
  reason : String
  deriving DecidableEq

namespace Usage

/-- A token that was not used so far. -/
def fresh : Usage :=
  ⟨.fresh, []⟩

/-- What an operation does, and which callbacks it runs, in their order. -/
def step (usage : Usage) : Operation → Usage × List Told
  | .watch =>
    let callback := usage.registrations.length
    let (token, registered) := usage.token.watch callback
    (⟨token, usage.registrations ++ [registered]⟩,
      match registered with
      | .told reason => [⟨callback, reason⟩]
      | .kept _ => [])
  | .cancel reason =>
    let (token, told) := usage.token.cancel reason
    (⟨token, usage.registrations⟩, told.map fun callback => ⟨callback, reason⟩)
  | .drop callback =>
    match usage.registrations[callback]? with
    | some registered => (⟨usage.token.unwatch registered, usage.registrations⟩, [])
    | none => (usage, [])

/-- The token after a sequence of operations, and all callbacks that they run, in their order. -/
def play (history : List Operation) : Usage × List Told :=
  history.foldl
    (fun (usage, told) operation =>
      let (usage, more) := usage.step operation
      (usage, told ++ more))
    (fresh, [])

/-- The token after a sequence of operations. -/
def after (history : List Operation) : Usage :=
  (play history).1

/-- All callbacks that a sequence of operations runs. -/
def log (history : List Operation) : List Told :=
  (play history).2

/-- The callbacks that an operation runs behind a sequence of operations. -/
def runs (history : List Operation) (operation : Operation) : List Told :=
  ((after history).step operation).2

theorem after_concat (history : List Operation) (operation : Operation) :
    after (history ++ [operation]) = ((after history).step operation).1 := by
  simp [after, play]

theorem log_concat (history : List Operation) (operation : Operation) :
    log (history ++ [operation]) = log history ++ runs history operation := by
  simp [log, runs, after, play]

end Usage

/-! ## What the sequence of operations says -/

/-- The number of callbacks that were given to the token. -/
def given (history : List Operation) : Nat :=
  history.count .watch

/-- The reason of the first cancellation. -/
def firstReason (history : List Operation) : Option String :=
  history.findSome? fun
    | .cancel reason => some reason
    | _ => none

/-- A callback was given to the token, and its registration was not dropped since. -/
def Held (history : List Operation) (callback : Nat) : Prop :=
  ∃ before later, history = before ++ .watch :: later ∧ given before = callback
    ∧ .drop callback ∉ later

section Histories

variable {history : List Operation} {callback other : Nat} {reason : String}

theorem given_concat (operation : Operation) :
    given (history ++ [operation]) = given history + if operation = .watch then 1 else 0 := by
  simp only [given, List.count_append, List.count_singleton, beq_iff_eq]

theorem firstReason_concat (operation : Operation) :
    firstReason (history ++ [operation])
      = (firstReason history).or (firstReason [operation]) := by
  simp [firstReason, List.findSome?_append]

theorem Held.lt (held : Held history callback) : callback < given history := by
  obtain ⟨before, later, rfl, rfl, -⟩ := held
  simp only [given, List.count_append, List.count_cons_self]
  omega

/-- Behind one more operation, a callback is held that was held and is not dropped, or that is
given to the token. -/
theorem held_concat {operation : Operation} : Held (history ++ [operation]) callback ↔
    Held history callback ∧ operation ≠ .drop callback
      ∨ operation = .watch ∧ given history = callback := by
  constructor
  · rintro ⟨before, later, split, number, undropped⟩
    rcases later.eq_nil_or_concat with rfl | ⟨later, last, rfl⟩
    · obtain ⟨rfl, last⟩ := List.append_inj' split rfl
      cases last
      exact .inr ⟨rfl, number⟩
    · have split : history ++ [operation] = (before ++ .watch :: later) ++ [last] := by
        simpa using split
      obtain ⟨rfl, same⟩ := List.append_inj' split rfl
      cases same
      simp only [List.concat_eq_append, List.mem_append, List.mem_singleton, not_or] at undropped
      exact .inl ⟨⟨before, later, rfl, number, undropped.1⟩, fun drops => undropped.2 drops.symm⟩
  · rintro (⟨⟨before, later, rfl, number, undropped⟩, spared⟩ | ⟨rfl, number⟩)
    · refine ⟨before, later ++ [operation], by simp, number, ?_⟩
      simp only [List.mem_append, List.mem_singleton, not_or]
      exact ⟨undropped, fun drops => spared drops.symm⟩
    · exact ⟨history, [], rfl, number, nofun⟩

theorem not_held_nil : ¬Held [] callback := by
  rintro ⟨before, later, split, -, -⟩
  simp at split

end Histories

/-! ## The token agrees with the sequence -/

/-- The registrations and the watchers of a token that nobody has cancelled: each callback got the
registration of its own number, and those that are held watch. -/
structure Waiting (history : List Operation) (usage : Usage) : Prop where
  next : usage.token.nextRegistration = given history
  registrations : usage.registrations = (List.range (given history)).map .kept
  own : ∀ entry ∈ usage.token.watchers, entry.1 = entry.2
  held : ∀ callback, callback ∈ usage.token.watchers.map Prod.snd ↔ Held history callback
  distinct : (usage.token.watchers.map Prod.snd).Nodup

/-- A token and the sequence of operations that it went through. -/
structure Follows (history : List Operation) (usage : Usage) : Prop where
  reason : usage.token.reason = firstReason history
  count : usage.registrations.length = given history
  waiting : firstReason history = none → Waiting history usage
  silent : firstReason history ≠ none → usage.token.watchers = []

theorem follows_fresh : Follows [] Usage.fresh where
  reason := rfl
  count := rfl
  waiting _ := ⟨rfl, rfl, nofun, fun _ => ⟨nofun, fun held => (not_held_nil held).elim⟩, .nil⟩
  silent cancelled := absurd rfl cancelled

namespace Follows

variable {history : List Operation} {usage : Usage}

theorem watch (follows : Follows history usage) :
    Follows (history ++ [.watch]) (usage.step .watch).1 := by
  have sameReason : firstReason (history ++ [.watch]) = firstReason history := by
    rw [firstReason_concat]
    exact Option.or_none
  have count : given (history ++ [.watch]) = given history + 1 := given_concat _
  cases reason : firstReason history with
  | some first =>
    have cancelled : usage.token.reason = some first := follows.reason.trans reason
    have taken : (usage.step .watch).1 = ⟨usage.token, usage.registrations ++ [.told first]⟩ := by
      simp only [Usage.step, CancellationToken.watch, cancelled]
    rw [taken]
    refine ⟨follows.reason.trans sameReason.symm, ?_, fun none_ => ?_, fun _ => ?_⟩
    · simp [follows.count, count]
    · rw [sameReason, reason] at none_
      cases none_
    · exact follows.silent (by simp [reason])
  | none =>
    obtain ⟨next, registrations, own, held, distinct⟩ := follows.waiting reason
    have uncancelled : usage.token.reason = none := follows.reason.trans reason
    have taken : (usage.step .watch).1
        = ⟨⟨none, given history + 1, usage.token.watchers ++ [(given history, given history)]⟩,
            usage.registrations ++ [.kept (given history)]⟩ := by
      simp only [Usage.step, CancellationToken.watch, uncancelled, next, follows.count]
    have new : given history ∉ usage.token.watchers.map Prod.snd :=
      fun among => Nat.lt_irrefl _ ((held _).mp among).lt
    rw [taken]
    refine ⟨(sameReason.trans reason).symm, ?_, fun _ => ⟨count.symm, ?_, ?_, ?_, ?_⟩,
      fun some_ => absurd (sameReason.trans reason) some_⟩
    · simp [follows.count, count]
    · rw [registrations, count, List.range_succ, List.map_append]
      rfl
    · intro entry among
      rcases List.mem_append.mp among with before | last
      · exact own entry before
      · rw [List.mem_singleton.mp last]
    · intro callback
      rw [held_concat, List.map_append, List.mem_append, held]
      simp [eq_comm]
    · rw [List.map_append, List.nodup_append_comm]
      exact List.nodup_cons.mpr ⟨new, distinct⟩

theorem cancel (follows : Follows history usage) (reason : String) :
    Follows (history ++ [.cancel reason]) (usage.step (.cancel reason)).1 := by
  have count : given (history ++ [.cancel reason]) = given history := given_concat _
  have reasons : firstReason (history ++ [.cancel reason])
      = (firstReason history).or (some reason) := firstReason_concat _
  cases first : firstReason history with
  | some earlier =>
    have cancelled : usage.token.reason = some earlier := follows.reason.trans first
    have taken : (usage.step (.cancel reason)).1 = usage := by
      simp only [Usage.step, CancellationToken.cancel, cancelled]
    rw [first, Option.some_or] at reasons
    rw [taken]
    refine ⟨cancelled.trans reasons.symm, follows.count.trans count.symm, fun none_ => ?_,
      fun _ => follows.silent (by simp [first])⟩
    rw [reasons] at none_
    cases none_
  | none =>
    have uncancelled : usage.token.reason = none := follows.reason.trans first
    have taken : (usage.step (.cancel reason)).1
        = ⟨⟨some reason, usage.token.nextRegistration, []⟩, usage.registrations⟩ := by
      simp only [Usage.step, CancellationToken.cancel, uncancelled]
    rw [first, Option.none_or] at reasons
    rw [taken]
    refine ⟨reasons.symm, follows.count.trans count.symm, fun none_ => ?_, fun _ => rfl⟩
    rw [reasons] at none_
    cases none_

/-- A dropped registration takes its own callback away from the token, and nothing else. -/
theorem step_drop (follows : Follows history usage) (callback : Nat) :
    usage.step (.drop callback)
      = (⟨{ usage.token with
            watchers := usage.token.watchers.filter fun entry => entry.2 ≠ callback },
          usage.registrations⟩, []) := by
  obtain ⟨⟨reason, next, watchers⟩, registrations⟩ := usage
  cases first : firstReason history with
  | some earlier =>
    -- A cancelled token has no watchers, whichever number the registration has.
    cases follows.silent (by simp [first])
    unfold Usage.step
    dsimp only
    split
    · rename_i registered _
      cases registered <;> rfl
    · rfl
  | none =>
    obtain ⟨-, rfl, own, held, -⟩ := follows.waiting first
    by_cases present : callback < given history
    · have got : ((List.range (given history)).map Registered.kept)[callback]?
          = some (.kept callback) := by
        simp [present]
      have same : watchers.filter (fun entry => entry.1 ≠ callback)
          = watchers.filter fun entry => entry.2 ≠ callback :=
        List.filter_congr fun entry among => by rw [own entry among]
      simp only [Usage.step, got, unwatch, same]
    · have got : ((List.range (given history)).map Registered.kept)[callback]? = none := by
        simp [Nat.le_of_not_lt present]
      have all : watchers.filter (fun entry => entry.2 ≠ callback) = watchers := by
        refine List.filter_eq_self.mpr fun entry among => decide_eq_true fun same => present ?_
        rw [← same]
        exact ((held _).mp (List.mem_map_of_mem among)).lt
      simp only [Usage.step, got, all]

theorem drop (follows : Follows history usage) (callback : Nat) :
    Follows (history ++ [.drop callback]) (usage.step (.drop callback)).1 := by
  have sameReason : firstReason (history ++ [.drop callback]) = firstReason history := by
    rw [firstReason_concat]
    exact Option.or_none
  have count : given (history ++ [.drop callback]) = given history := given_concat _
  rw [step_drop follows]
  refine ⟨follows.reason.trans sameReason.symm, follows.count.trans count.symm, fun none_ => ?_,
    fun some_ => ?_⟩
  · obtain ⟨next, registrations, own, held, distinct⟩ := follows.waiting (sameReason ▸ none_)
    refine ⟨next.trans count.symm, by rw [count]; exact registrations, ?_, ?_, ?_⟩
    · exact fun entry among => own entry (List.mem_filter.mp among).1
    · intro other
      have kept : other ∈ (usage.token.watchers.filter fun entry => entry.2 ≠ callback).map Prod.snd
          ↔ other ∈ usage.token.watchers.map Prod.snd ∧ other ≠ callback := by
        simp only [List.mem_map, List.mem_filter, decide_eq_true_eq]
        grind
      rw [held_concat, ← held, kept]
      grind
    · exact distinct.sublist (List.filter_sublist.map _)
  · rw [follows.silent (sameReason ▸ some_)]
    rfl

theorem step (follows : Follows history usage) (operation : Operation) :
    Follows (history ++ [operation]) (usage.step operation).1 := by
  cases operation with
  | watch => exact follows.watch
  | cancel reason => exact follows.cancel reason
  | drop callback => exact follows.drop callback

end Follows

namespace Usage

variable {history : List Operation}

theorem follows_after (history : List Operation) : Follows history (after history) := by
  induction history using List.reverseRecOn with
  | nil => exact follows_fresh
  | append_singleton history operation ih =>
    rw [after_concat]
    exact ih.step operation

/-! ## Which callbacks run -/

theorem runs_of_cancelled {first reason : String} (cancelled : firstReason history = some first) :
    runs history (.cancel reason) = [] := by
  have token : (after history).token.reason = some first :=
    (follows_after history).reason.trans cancelled
  simp [runs, step, CancellationToken.cancel, token]

theorem runs_of_uncancelled {reason : String} (uncancelled : firstReason history = none) :
    runs history (.cancel reason)
      = ((after history).token.watchers.map Prod.snd).map fun callback => ⟨callback, reason⟩ := by
  have token : (after history).token.reason = none :=
    (follows_after history).reason.trans uncancelled
  simp [runs, step, CancellationToken.cancel, token]

/-- Callbacks run when the token is cancelled for the first time while they are held, or at once if
it was cancelled before. -/
theorem mem_runs_iff (operation : Operation) (told : Told) : told ∈ runs history operation ↔
    firstReason history = none ∧ operation = .cancel told.reason ∧ Held history told.callback
      ∨ firstReason history = some told.reason ∧ operation = .watch
        ∧ told.callback = given history := by
  have follows := follows_after history
  obtain ⟨callback, reason⟩ := told
  cases operation with
  | watch =>
    have token := follows.reason
    cases first : firstReason history with
    | some earlier =>
      rw [first] at token
      simp [runs, step, CancellationToken.watch, token, follows.count, and_comm, eq_comm]
    | none =>
      rw [first] at token
      simp [runs, step, CancellationToken.watch, token]
  | cancel said =>
    cases first : firstReason history with
    | some earlier => simp [runs_of_cancelled first]
    | none =>
      rw [runs_of_uncancelled first, List.mem_map]
      simp [← (follows.waiting first).held, and_comm, eq_comm]
  | drop dropped => simp [runs, follows.step_drop]

theorem nodup_runs (operation : Operation) :
    ((runs history operation).map Told.callback).Nodup := by
  cases operation with
  | watch =>
    unfold runs step
    dsimp only
    split <;> simp
  | cancel reason =>
    cases first : firstReason history with
    | some earlier => simp [runs_of_cancelled first]
    | none =>
      rw [runs_of_uncancelled first, List.map_map]
      exact (List.map_id _).symm ▸ ((follows_after history).waiting first).distinct
  | drop dropped => simp [runs, (follows_after history).step_drop]

/-- Whatever has run was given to the token before, and was told the first reason. -/
theorem of_mem_log {told : Told} (ran : told ∈ log history) :
    firstReason history = some told.reason ∧ told.callback < given history := by
  induction history using List.reverseRecOn with
  | nil => cases ran
  | append_singleton history operation ih =>
    rw [log_concat, List.mem_append, mem_runs_iff] at ran
    rw [firstReason_concat, given_concat]
    rcases ran with before | ⟨uncancelled, rfl, held⟩ | ⟨cancelled, rfl, last⟩
    · obtain ⟨reason, earlier⟩ := ih before
      exact ⟨by rw [reason]; rfl, Nat.lt_add_right _ earlier⟩
    · exact ⟨by rw [uncancelled]; rfl, held.lt⟩
    · exact ⟨by rw [cancelled]; rfl, by simp [last]⟩

theorem nodup_log (history : List Operation) : ((log history).map Told.callback).Nodup := by
  induction history using List.reverseRecOn with
  | nil => exact .nil
  | append_singleton history operation ih =>
    rw [log_concat, List.map_append]
    refine List.nodup_append.mpr ⟨ih, nodup_runs operation, ?_⟩
    intro callback before other now same
    obtain ⟨early, ranBefore, rfl⟩ := List.mem_map.mp before
    obtain ⟨late, runsNow, rfl⟩ := List.mem_map.mp now
    obtain ⟨reason, earlier⟩ := of_mem_log ranBefore
    rcases (mem_runs_iff operation late).mp runsNow with ⟨uncancelled, -⟩ | ⟨-, -, last⟩
    · rw [uncancelled] at reason
      cases reason
    · omega

/-- Each callback runs at most once, with the reason of the first cancellation: when that happens
while its registration is held, or as soon as it is given to a token that was cancelled.  To drop a
registration runs nothing and takes no other callback away, and a reason once set stays. -/
theorem callbacks_run_while_held (history : List Operation) :
    (∀ operation told, told ∈ runs history operation ↔
      firstReason history = none ∧ operation = .cancel told.reason ∧ Held history told.callback
        ∨ firstReason history = some told.reason ∧ operation = .watch
          ∧ told.callback = given history)
    ∧ ((log history).map Told.callback).Nodup
    ∧ (∀ told ∈ log history, firstReason history = some told.reason)
    ∧ (∀ callback, runs history (.drop callback) = []
      ∧ (after (history ++ [.drop callback])).token.watchers
        = (after history).token.watchers.filter fun entry => entry.2 ≠ callback)
    ∧ (after history).token.reason = firstReason history
    ∧ ∀ reason later, (after history).token.reason = some reason →
      (after (history ++ later)).token.reason = some reason := by
  have follows := follows_after history
  refine ⟨mem_runs_iff, nodup_log history, fun told ran => (of_mem_log ran).1, fun callback => ?_,
    follows.reason, fun reason later set_ => ?_⟩
  · rw [after_concat, runs, follows.step_drop]
    exact ⟨rfl, rfl⟩
  · rw [follows.reason] at set_
    rw [(follows_after _).reason, firstReason, List.findSome?_append, ← firstReason, set_]
    rfl

/-- A token that is cancelled twice; the first of its callbacks has no registration by then, and the
third is given to it in between. -/
def busyHistory : List Operation :=
  [.watch, .watch, .drop 0, .cancel "stop", .watch, .cancel "again"]

theorem callbacks_of_busyHistory : log busyHistory = [⟨1, "stop"⟩, ⟨2, "stop"⟩]
    ∧ ((log busyHistory).map Told.callback).Nodup
    ∧ firstReason busyHistory = some (Told.mk 1 "stop").reason
    ∧ ∀ later, (after (busyHistory ++ later)).token.reason = some "stop" := by
  have ran : log busyHistory = [⟨1, "stop"⟩, ⟨2, "stop"⟩] := by decide
  obtain ⟨-, once, reasons, -, -, stays⟩ := callbacks_run_while_held busyHistory
  exact ⟨ran, once, reasons ⟨1, "stop"⟩ (ran ▸ .head _),
    fun later => stays "stop" later (by decide)⟩

end Usage

end PixelApplet.CancellationToken
