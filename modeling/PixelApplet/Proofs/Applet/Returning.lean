import PixelApplet.Applet.Basic
import PixelApplet.Proofs.Evaluation.Posture
import PixelApplet.Proofs.Evaluation.Tracebacks

/-!
# Loading runs apart from the thread that waits

All that is executed while an applet is loaded runs on threads of its own, and whatever stops it is
taken as a result.  The thread that waits only looks at the machine, makes values and notes what has
happened.  What all these actions have in common holds of loading; in particular, loading an applet
returns an applet or a fault, whatever stops a script or a function that is called meanwhile.
-/

namespace PixelApplet

namespace Eval

variable {α β : Type}

/-- An action returns a result wherever it starts. -/
def Returns (act : Eval α) : Prop :=
  ∀ m, ∃ value m', act m = .ok value m'

namespace Returns

theorem pure (value : α) : Returns (Pure.pure value : Eval α) :=
  fun m => ⟨value, m, rfl⟩

theorem bind {act : Eval α} {next : α → Eval β} (returns : Returns act)
    (returnsNext : ∀ value, Returns (next value)) : Returns (act >>= next) := by
  intro m
  obtain ⟨value, between, ran⟩ := returns m
  obtain ⟨value', m', ran'⟩ := returnsNext value between
  exact ⟨value', m', (bind_ok ran).trans ran'⟩

theorem read (f : Machine → α) : Returns (Eval.read f) :=
  fun m => ⟨f m, m, rfl⟩

theorem recover (act : Eval α) : Returns (Eval.recover act) := by
  intro m
  unfold Eval.recover
  cases act m with
  | ok value m' => exact ⟨_, m', rfl⟩
  | error abort m' => exact ⟨_, m', rfl⟩

theorem onThread {act : Eval α} (returns : Returns act) (name : String) :
    Returns (Eval.onThread name act) := by
  intro m
  obtain ⟨value, m', ran⟩ := returns (m.started name)
  refine ⟨value, endThread m.thread m', ?_⟩
  rw [onThread_eq, followedBy, ran]

end Returns

/-- A property of what a thread does while others execute: it looks at the machine, makes values,
notes what has happened, and takes the results of threads that return. -/
structure Attending (P : {α : Type} → Eval α → Prop) : Prop where
  pure : ∀ {α : Type} (value : α), P (Pure.pure value : Eval α)
  bind : ∀ {α β : Type} {act : Eval α} {next : α → Eval β}, P act → (∀ value, P (next value)) →
    P (act >>= next)
  read : ∀ {α : Type} (f : Machine → α), P (Eval.read f)
  make : ∀ {α : Type} (f : Heap → α × Heap),
    P fun m => .ok (f m.heap).1 { m with heap := (f m.heap).2 }
  note : ∀ f : LoadProgress → LoadProgress, P (Context.note f)
  newToken : P Eval.newToken
  onThread : ∀ {α : Type} {act : Eval α} (name : String), Returns act → P (Eval.onThread name act)

theorem Returns.attending : Attending fun act => Returns act where
  pure := pure
  bind := bind
  read := read
  make _ _ := ⟨_, _, rfl⟩
  note _ _ := ⟨_, _, rfl⟩
  newToken _ := ⟨_, _, rfl⟩
  onThread name returns := returns.onThread name

namespace Attending

open Context

variable {P : {α : Type} → Eval α → Prop} (attending : Attending P) {context : Context}
  {path : String}
include attending

/-- The frozen module of some bindings is made from the heap alone. -/
theorem bindingsModule (name : String) (bindings : Bindings Value) :
    P (Eval.bindingsModule name bindings) :=
  attending.make fun h =>
    (h.nextModule, (h.addModule { ModuleCell.ofFile name [] with vars := bindings }).freezeModule
      h.nextModule)

theorem invoke (callable : Value) (arguments : Arguments) (token : TokenRef) :
    P (context.invoke callable arguments token) := by
  refine attending.bind (attending.onThread _ (.bind (.recover _) fun outcome =>
    .bind (.read _) fun _ => ?_)) fun _ => attending.pure _
  cases outcome <;> exact .pure _

theorem execute (load : Loader) (contents : ByteArray) :
    P (context.execute load path contents) := by
  refine attending.bind (attending.onThread _ (.recover _)) fun outcome => ?_
  rcases outcome with ⟨e | message⟩ | ⟨e | ref⟩
  · dsimp only
    split <;> exact attending.pure _
  · exact attending.pure _
  · exact attending.pure _
  · exact attending.bind (attending.note _) fun _ => attending.pure _

theorem recordEntry (ref : ModuleRef) : P (Context.recordEntry path ref) := by
  refine attending.bind (attending.read _) fun found => ?_
  split
  · exact attending.pure _
  · refine attending.bind (attending.read _) fun progress => ?_
    split
    · exact attending.pure _
    · exact attending.bind (attending.note _) fun _ => attending.pure _

theorem recordSchema (ref : ModuleRef) : P (context.recordSchema path ref) := by
  refine attending.bind (attending.read _) fun found => ?_
  split
  · exact attending.pure _
  · refine attending.bind (attending.read _) fun progress => ?_
    split
    · exact attending.pure _
    · refine attending.bind attending.newToken fun token =>
        attending.bind (attending.invoke _ _ token) fun outcome => ?_
      cases outcome with
      | error fault => exact attending.pure _
      | ok value =>
        refine attending.bind (attending.read _) fun exported => ?_
        split
        · exact attending.pure _
        · exact attending.bind (attending.note _) fun _ => attending.pure _

theorem addScript (load : Loader) (contents : ByteArray) :
    P (context.addScript load path contents) := by
  refine attending.bind (attending.execute load contents) fun outcome => ?_
  rcases outcome with fault | ref
  · exact attending.pure _
  · refine attending.bind (attending.note _) fun _ =>
      attending.bind (attending.recordEntry ref) fun entered => ?_
    rcases entered with fault | ⟨⟩
    · exact attending.pure _
    · refine attending.bind (attending.recordSchema ref) fun entered => ?_
      rcases entered with fault | ⟨⟩ <;> exact attending.pure _

theorem addFile (source : FileSource) : P (Context.addFile source path) := by
  have numbers : P Eval.newIdentity := attending.make fun h =>
    (Identity.fresh h.nextIdentity, { h with nextIdentity := h.nextIdentity + 1 })
  have makes : P (Eval.newNative (.file path source)) :=
    attending.bind numbers fun _ => attending.pure _
  refine attending.bind makes fun _ => attending.bind (attending.bindingsModule _ _) fun _ => ?_
  exact attending.bind (attending.note _) fun _ => attending.pure _

theorem ensureLoaded (source : FileSource) (depth : Nat) (chain : List String) :
    P (context.ensureLoaded source depth path chain) := by
  cases depth with
  | zero => exact attending.pure _
  | succ depth =>
    refine attending.bind (attending.read _) fun progress => ?_
    split
    · exact attending.pure _
    · dsimp only
      split
      · exact attending.pure _
      · refine attending.bind (attending.note _) fun _ =>
          attending.bind (attending.read _) fun contents => ?_
        split
        · exact attending.pure _
        · split
          · exact attending.addScript _ _
          · exact attending.bind (attending.addFile source) fun _ => attending.pure _

theorem ensureAllLoaded (source : FileSource) (depth : Nat) (names : List String) :
    P (context.ensureAllLoaded source depth names) := by
  induction names with
  | nil => exact attending.pure _
  | cons name rest ih =>
    refine attending.bind (attending.ensureLoaded source depth []) fun outcome => ?_
    cases outcome with
    | error fault => exact attending.pure _
    | ok ref => exact ih

theorem loadAll (source : FileSource) : P (context.loadAll source) := by
  refine attending.bind (attending.read _) fun disk => ?_
  split
  · exact attending.pure _
  · refine attending.bind (attending.read _) fun outer => ?_
    refine attending.bind (attending.note _) fun _ => ?_
    refine attending.bind (attending.ensureAllLoaded source _ _) fun outcome => ?_
    refine attending.bind (attending.read _) fun loaded => ?_
    refine attending.bind (attending.note _) fun _ => ?_
    cases outcome <;> exact attending.pure _

/-! ## Load statements -/

section Loaders

variable (supplies : ∀ supply ∈ context.options.moduleLoader, ∀ name, P (supply name))
include supplies

theorem loadModule (name : String) : P (context.loadModule name) := by
  have given (bindings : Bindings Value) :
      P (do return (.ok (← Eval.bindingsModule name bindings) : Except LoadFault ModuleRef)) :=
    attending.bind (attending.bindingsModule _ _) fun _ => attending.pure _
  have fromLibrary : P (loadLibraryModule name) := by
    unfold loadLibraryModule
    split
    · exact given _
    · exact attending.pure _
  unfold Context.loadModule
  dsimp only
  split
  · refine attending.bind (supplies _ ‹_› name) fun supplied => ?_
    cases supplied with
    | ok bindings => exact given bindings
    | error _ => exact fromLibrary
  · refine attending.bind (attending.pure _) fun supplied => ?_
    cases supplied with
    | ok bindings => exact given bindings
    | error _ => exact fromLibrary

theorem loadBy (source : FileSource) (depth : Nat) (chain : List String) (module : String) :
    P (context.loadBy source path (fun module => context.ensureLoaded source depth module chain)
      module) := by
  refine attending.bind (attending.note _) fun _ => attending.bind (attending.read _) fun own => ?_
  split
  · exact attending.bind (attending.ensureLoaded source depth chain) fun _ => attending.pure _
  · exact attending.loadModule supplies module

end Loaders

end Attending

end Eval

/-- To call a function of an applet returns its value or a fault. -/
theorem Context.invoke_returns (context : Context) (callable : Value) (arguments : Arguments)
    (token : TokenRef) : Eval.Returns (context.invoke callable arguments token) :=
  Eval.Returns.attending.invoke callable arguments token

end PixelApplet

/-!
## Loaders of applets leave the waiting thread alone

The files of an applet are executed, and its schema is made, on threads of their own.  So neither
what load statements do while an applet is loaded nor what they do in a running one touches the
thread that waits, if the modules that the host supplies do not either; and the errors of a file
that is loaded do not become errors of the load statement, which only says that it failed.
-/

namespace PixelApplet

variable {panics : Prop}

namespace Eval

variable {α β : Type}

theorem Returns.not_panics {act : Eval α} (returns : Returns act) (m : Machine) :
    ¬act.Panics m := by
  obtain ⟨value, m', ran⟩ := returns m
  exact not_panics_ok ran

theorem Steady.attending : Attending fun act => Steady panics act where
  pure := .pure
  bind := .bind
  read f := .of_modest (.read f)
  make _ _ := ⟨rfl, fun failed => absurd failed (not_panics_ok rfl)⟩
  note _ := .modify fun _ => rfl
  newToken := .of_modest .newToken
  onThread name returns := .onThread name fun m failed => absurd failed (returns.not_panics m)

theorem Settled.of_ok {act : Eval α} (settles : ∀ m : Machine, ∃ value m', act m = .ok value m'
    ∧ m'.thread.stack = m.thread.stack) : Settled act := by
  intro m
  obtain ⟨value, m', ran, same⟩ := settles m
  refine ⟨after_ok ran ▸ same, fun e m' stops => ?_⟩
  rw [ran] at stops
  cases stops

theorem Settled.bind {act : Eval α} {next : α → Eval β} (settled : Settled act)
    (settledNext : ∀ value, Settled (next value)) : Settled (act >>= next) := by
  intro m
  obtain ⟨same, unerring⟩ := settled m
  cases ran : act m with
  | ok value between =>
    obtain ⟨same', unerring'⟩ := settledNext value between
    have goes : (act >>= next) m = next value between := bind_ok ran
    rw [after_ok ran] at same
    refine ⟨?_, fun e m' stops => unerring' e m' (goes ▸ stops)⟩
    rw [after, goes]
    exact same'.trans same
  | error abort between =>
    rw [after_error ran] at same
    have stopped : (act >>= next) m = .error abort between := bind_error ran
    refine ⟨after_error stopped ▸ same, fun e m' stops => ?_⟩
    rw [stopped] at stops
    cases stops
    exact unerring e _ ran

theorem Settled.attending : Attending fun act => Settled act where
  pure _ := .of_ok fun _ => ⟨_, _, rfl, rfl⟩
  bind := .bind
  read _ := .of_ok fun _ => ⟨_, _, rfl, rfl⟩
  make _ := .of_ok fun _ => ⟨_, _, rfl, rfl⟩
  note _ := .of_ok fun _ => ⟨_, _, rfl, rfl⟩
  newToken := .of_ok fun _ => ⟨_, _, rfl, rfl⟩
  onThread name returns := by
    refine .of_ok fun m => ?_
    obtain ⟨value, m', ran⟩ := returns (m.started name)
    refine ⟨value, endThread m.thread m', ?_, rfl⟩
    rw [onThread_eq, followedBy, ran]

end Eval

namespace Context

open Eval

variable {context : Context} {path : String}

/-- The loader of a running applet. -/
theorem loader_steady (supplies : ∀ supply ∈ context.options.moduleLoader, ∀ name,
    Steady panics (supply name)) : context.loader.Steady panics := by
  rintro find ⟨⟩ name
  exact Steady.attending.loadModule supplies name

/-- The loader of an applet that is being loaded. -/
theorem loadBy_steady (supplies : ∀ supply ∈ context.options.moduleLoader, ∀ name,
    Steady panics (supply name)) (source : FileSource) (depth : Nat) (chain : List String) :
    Loader.Steady panics (some (context.loadBy source path fun module =>
      context.ensureLoaded source depth module chain)) := by
  rintro find ⟨⟩ name
  exact Steady.attending.loadBy supplies source depth chain name

theorem loader_settles (supplies : ∀ supply ∈ context.options.moduleLoader, ∀ name,
    Settled (supply name)) : context.loader.Settles := by
  rintro find ⟨⟩ name
  exact Settled.attending.loadModule supplies name

theorem loadBy_settles (supplies : ∀ supply ∈ context.options.moduleLoader, ∀ name,
    Settled (supply name)) (source : FileSource) (depth : Nat) (chain : List String) :
    Loader.Settles (some (context.loadBy source path fun module =>
      context.ensureLoaded source depth module chain)) := by
  rintro find ⟨⟩ name
  exact Settled.attending.loadBy supplies source depth chain name

end Context

end PixelApplet
