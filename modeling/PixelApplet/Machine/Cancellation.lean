import PixelApplet.Text.Quoted

/-!
# Cancellation

A cell that tells a thread to stop, and the token by which a host stops whatever it has invoked.
Both are one-shot: the first reason stays.  A token keeps the watchers that are still registered, in
the order of their registration; cancelling hands them out, so each is run at most once.
-/

namespace PixelApplet

/-- Whether a thread was told to stop, and why: the first reason is kept. -/
structure CancelCell where
  reason : Option String
  deriving DecidableEq, Inhabited

namespace CancelCell

/-- The cell of a thread that runs. -/
def fresh : CancelCell :=
  ⟨none⟩

/-- Whether the thread was told to stop. -/
def isCancelled (cell : CancelCell) : Bool :=
  cell.reason.isSome

/-- Tells the thread to stop. -/
def cancel (cell : CancelCell) (reason : String) : CancelCell :=
  match cell.reason with
  | some first => ⟨some first⟩
  | none => ⟨some reason⟩

end CancelCell

/-- A signal shared between a host and its invocations; `W` is what watches for it. -/
structure CancellationToken (W : Type) where
  reason : Option String
  nextRegistration : Nat
  watchers : List (Nat × W)
  deriving Inhabited

namespace CancellationToken

variable {W : Type}

/-- A token that nobody has cancelled or watches. -/
def fresh : CancellationToken W :=
  ⟨none, 0, []⟩

/-- Whether the token was cancelled. -/
def isCancelled (token : CancellationToken W) : Bool :=
  token.reason.isSome

/-- Cancels a token, and gives the watchers that are to be told now. -/
def cancel (token : CancellationToken W) (reason : String) : CancellationToken W × List W :=
  match token.reason with
  | some _ => (token, [])
  | none => (⟨some reason, token.nextRegistration, []⟩, token.watchers.map Prod.snd)

/-- What became of a watcher that asked to be registered. -/
inductive Registered where
  /-- It is to be told at once, for the token was already cancelled. -/
  | told (reason : String)
  /-- It is kept under a number. -/
  | kept (registration : Nat)

/-- Registers a watcher. -/
def watch (token : CancellationToken W) (watcher : W) : CancellationToken W × Registered :=
  match token.reason with
  | some reason => (token, .told reason)
  | none =>
    (⟨none, token.nextRegistration + 1, token.watchers ++ [(token.nextRegistration, watcher)]⟩,
      .kept token.nextRegistration)

/-- Drops a registration. -/
def unwatch (token : CancellationToken W) : Registered → CancellationToken W
  | .told _ => token
  | .kept registration =>
    { token with watchers := token.watchers.filter fun entry => entry.1 ≠ registration }

/-- The token as diagnostics show it. -/
def describe (token : CancellationToken W) : String :=
  let reason := match token.reason with
    | some reason => "Some(" ++ Text.quote reason ++ ")"
    | none => "None"
  "CancellationToken \x7b reason: " ++ reason ++ " \x7d"

end CancellationToken

end PixelApplet
