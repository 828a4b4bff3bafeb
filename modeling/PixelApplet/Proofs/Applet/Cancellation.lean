import PixelApplet.Proofs.Applet.Obedience
import PixelApplet.Proofs.Applet.Requests
import PixelApplet.Proofs.Evaluation.StoppedThreads
import PixelApplet.Proofs.Text.Splitting

/-!
# Cancelled invocations

No load statement of an applet takes back what a thread was told.  A host tells from the wording of
a fault whether its invocation was cancelled.  Whatever is called under a token that was cancelled
before fails with such a fault.  The converse does not hold: the message of a script is part of the
wording, so a script that fails with the words of a cancellation is taken for cancelled, although
nobody cancelled anything.
-/

namespace PixelApplet

/-! ## What was told stays told -/

theorem Conduct.lasting_loads : Conduct.lasting.Loads where
  everywhere _ := trivial
  closes := id
  ends := by
    rintro m m' name ending ⟨_, lasts⟩
    exact ⟨rfl, fun ref reason told => lasts ref reason (told.started name)⟩
  settles := fun ⟨cell, lasts⟩ untouched =>
    ⟨untouched.cell.trans cell, fun ref reason told => untouched.told (lasts ref reason told)⟩
  notes _ := ⟨rfl, fun _ _ told => told⟩

theorem Conduct.lasting_relays : Conduct.lasting.Relays :=
  id

/-- Nothing that a load statement does takes back what a thread was told, neither when an applet
runs nor when it is being loaded. -/
theorem Context.loaders_lasting {context : Context} (hooks : context.HooksObey .lasting)
    (source : FileSource) (depth : Nat) (path : String) (chain : List String) :
    context.loader.Obeys .lasting
      ∧ Loader.Obeys .lasting (some (context.siblings source depth path chain)) :=
  have ensures (module : String) :=
    ensureLoaded_obeys Conduct.lasting_loads hooks source depth module chain
  ⟨loader_obeys_loose Conduct.lasting_loads hooks,
    loaderBy_obeys Conduct.lasting_loads hooks ensures Conduct.lasting_relays⟩

/-! ## Whether an invocation was cancelled -/

/-- The words by which a host tells that an invocation was cancelled. -/
def cancellationWords : String :=
  "computation cancelled"

theorem contains_cancellation (reason : String) :
    Text.contains (cancellation reason).message cancellationWords := by
  have begins : (cancellation reason).message = cancellationWords ++ ": " ++ reason := rfl
  rw [begins, String.append_assoc, Text.contains_iff, String.toList_append]
  exact (List.prefix_append _ _).isInfix

/-- The traceback of an error contains its message. -/
theorem EvalError.contains_traceback {e : EvalError} {piece : String}
    (within : Text.contains e.message piece) : Text.contains e.traceback piece := by
  have ends : ∃ before, e.traceback = before ++ e.message := by
    unfold traceback
    cases e.callee with
    | none => exact ⟨_, (String.append_assoc ..).symm⟩
    | some callee => exact ⟨_, (String.append_assoc ..).symm⟩
  obtain ⟨before, split⟩ := ends
  rw [Text.contains_iff] at *
  rw [split, String.toList_append]
  exact within.trans (List.suffix_append _ _).isInfix

namespace Context

variable {context : Context} {callable : Value} {arguments : Arguments} {token : TokenRef}
  {m ready : Machine}

theorem isCancellation_faultOf {e : EvalError}
    (words : Text.contains e.message cancellationWords) :
    (context.faultOf callable (.error e)).isCancellation := by
  rw [faultOf]
  split
  · exact words
  · exact EvalError.contains_traceback words

/-- What stops the call of an invocation becomes its fault. -/
theorem invoke_stopped {abort : Abort} {m' : Machine}
    (prepared : context.setUp (m.started context.id) = .ok () ready)
    (stops : context.callUnder token callable arguments ready = .error abort m') :
    context.invoke callable arguments token m
      = .ok (.error (context.faultOf callable abort)) (Eval.endThread m.thread m') := by
  have nothing : (pure () : Eval Unit) ready = .ok () ready := rfl
  have call : (context.setUp >>= fun _ => (pure () : Eval Unit) >>= fun _ =>
      context.callUnder token callable arguments) (m.started context.id) = .error abort m' := by
    rw [Eval.bind_ok prepared, Eval.bind_ok nothing, stops]
  have recovered := Eval.recover_error call
  have ran : context.invokeWith (pure ()) callable arguments token m
      = .ok (.error (context.faultOf callable abort),
          (Assertions.failures? m'.thread).getD []) (Eval.endThread m.thread m') := by
    rw [invokeWith, Eval.onThread_eq, Eval.followedBy, Eval.bind_ok recovered]
    rfl
  exact Eval.bind_ok ran

/-- The machine whose thread was told what a cancelled token tells. -/
def toldBy (m : Machine) (token : TokenRef) (reason : String) : Machine :=
  (m.setToken token (m.token token)).cancelCell m.thread.cell reason

theorem watch_told {reason : String} (cancelled : (m.token token).reason = some reason) :
    watch token m = .ok (.told reason) (toldBy m token reason) := by
  have told : (m.token token).watch m.thread.cell = (m.token token, .told reason) := by
    rw [CancellationToken.watch, cancelled]
  have looks : (get : Eval Machine) m = .ok m m := rfl
  rw [watch, Eval.bind_ok looks, told]
  rfl

theorem watch_kept (uncancelled : (m.token token).reason = none) :
    ∃ number token', watch token m = .ok (.kept number) (m.setToken token token')
      ∧ token'.reason = none := by
  have kept : (m.token token).watch m.thread.cell
      = (((m.token token).watch m.thread.cell).1, .kept (m.token token).nextRegistration) := by
    rw [CancellationToken.watch, uncancelled]
  have looks : (get : Eval Machine) m = .ok m m := rfl
  refine ⟨(m.token token).nextRegistration, ((m.token token).watch m.thread.cell).1, ?_, ?_⟩
  · rw [watch, Eval.bind_ok looks, kept]
    rfl
  · rw [CancellationToken.watch, uncancelled]

/-- A thread that a token tells to stop is stopped, if it was not before. -/
theorem stopped_toldBy (reason : String) (present : m.thread.cell.index < m.cells.size) :
    ∃ first, (toldBy m token reason).Stopped first := by
  have cell : (toldBy m token reason).cell = m.cells[m.thread.cell.index].cancel reason := by
    simp [toldBy, Machine.cell, Machine.cancelCell, Machine.setToken, Array.getElem_modify, present]
  unfold Machine.Stopped
  rw [cell, CancelCell.cancel]
  cases m.cells[m.thread.cell.index].reason with
  | none => exact ⟨reason, rfl⟩
  | some first => exact ⟨first, rfl⟩

/-- Whatever is called under a token that was cancelled before fails as cancelled. -/
theorem invoke_cancelled {reason : String}
    (prepared : context.setUp (m.started context.id) = .ok () ready)
    (present : ready.thread.cell.index < ready.cells.size)
    (cancelled : (ready.token token).reason = some reason) :
    ∃ fault m', context.invoke callable arguments token m = .ok (.error fault) m'
      ∧ fault.isCancellation := by
  obtain ⟨first, told⟩ := @stopped_toldBy token ready reason present
  have refused := callTo_polls context.loader (deepestCalls + 1) callable arguments _ first told
  have stops : context.callUnder token callable arguments ready
      = .error (.error (cancellation first))
          (unwatch token (.told reason) (toldBy ready token reason)) := by
    rw [callUnder, Eval.bind_ok (watch_told cancelled), Eval.followedBy, callValue, refused]
  exact ⟨_, _, invoke_stopped prepared stops, isCancellation_faultOf (contains_cancellation first)⟩

theorem uncancelled_setToken {given : CancellationToken CellRef}
    (uncancelled : given.reason = none) : ((m.setToken token given).token token).reason = none := by
  unfold Machine.token Machine.setToken
  rw [Array.getD_eq_getD_getElem?, Array.getElem?_modify, if_pos rfl]
  cases m.tokens[token.index]? with
  | none => rfl
  | some _ => exact uncancelled

/-- The builtin function `fail`. -/
def failFunction (identity : Identity) : Value :=
  .builtin identity ⟨"fail", none, .universal .fail⟩

/-- Calling `fail` with a text stops with the text. -/
theorem callValue_fail {load : Loader} (running : m.cell.reason = none) (identity : Identity)
    (text : String) :
    callValue load (failFunction identity) (.ofList [.str text]) m
      = .error (.error ⟨text, some "fail", [], none⟩) m :=
  (Eval.checked_unstopped running).trans rfl

/-- A function that fails with the words of a cancellation is taken for cancelled, although its
token is not cancelled when the invocation ends. -/
theorem invoke_fail_taken_for_cancelled {text : String} (identity : Identity)
    (prepared : context.setUp (m.started context.id) = .ok () ready)
    (running : ready.cell.reason = none) (uncancelled : (ready.token token).reason = none)
    (words : Text.contains text cancellationWords) :
    ∃ fault m', context.invoke (failFunction identity) (.ofList [.str text]) token m
        = .ok (.error fault) m'
      ∧ (m'.token token).reason = none ∧ fault.isCancellation := by
  obtain ⟨number, watched, watches, keeps⟩ := watch_kept uncancelled
  have fails := @callValue_fail (ready.setToken token watched) context.loader running identity text
  have stops : context.callUnder token (failFunction identity) (.ofList [.str text]) ready
      = .error (.error ⟨text, some "fail", [], none⟩)
          (unwatch token (.kept number) (ready.setToken token watched)) := by
    rw [callUnder, Eval.bind_ok watches, Eval.followedBy, fails]
  refine ⟨_, _, invoke_stopped prepared stops, ?_, isCancellation_faultOf words⟩
  exact uncancelled_setToken (uncancelled_setToken keeps)

end Context

namespace Applet

/-- An applet whose entry point fails with the words of a cancellation. -/
def wordyFiles : MemoryFiles :=
  MemoryFiles.empty.insert "main.star"
    "def main():\n    fail(\"computation cancelled: by the script\")\n".toUTF8

/-- Runs an applet under a token of its own.  Gives whether the fault is taken for a cancellation,
and whether the token was cancelled. -/
def cancellationSeen (files : MemoryFiles) : Eval (Option (Bool × Bool)) := do
  let token ← Eval.newToken
  match ← load ⟨"app", .none⟩ (.memory files) with
  | .error _ => return none
  | .ok applet =>
    match ← applet.run [] token with
    | .ok _ => return none
    | .error fault =>
      return some (fault.isCancellation, ← Eval.read fun m => (m.token token).isCancelled)

/-- The run fails and is taken for cancelled, although the token is not cancelled. -/
theorem wordyFiles_taken_for_cancelled :
    (match cancellationSeen wordyFiles (.initial (.under [])) with
      | .ok seen _ => seen
      | .error _ _ => none) = some (true, false) := by
  decide +kernel

end Applet

end PixelApplet
